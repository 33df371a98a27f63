import Breadboard.Course

/-!
The course that comes with the program: three levels of three exercises, on declaring a
variable, on using several, and on conditions.
-/

namespace Breadboard.Course

/-- A text given line by line. -/
def textOf (lines : List String) : Text :=
  Text.joinLines (lines.map String.toList)

def declarations : Level where
  number := 1
  title := "Déclaration de Variables (int)".toList
  subtitle := "Apprends à déclarer des variables avec leur type".toList
  popup :=
    { isShown := true
      title := "🎓 Nouvelle Règle !".toList
      content := textOf
        [ "<p>Maintenant, tu dois déclarer le <strong>TYPE</strong> de tes variables :</p>",
          "<ul>",
          "<li><code>int</code> pour les nombres entiers (0, 1, 5, 100)</li>",
          "<li><code>float</code> pour les nombres décimaux (1.5, 3.14)</li>",
          "<li><code>String</code> pour le texte (\"hello\", \"bonjour\")</li>",
          "</ul>",
          "<p><strong>Exemple :</strong> <code>int compteur = 0;</code></p>" ] }
  exercises := [
    { number := 1
      exampleCode := textOf
        [ "void setup()", "\x7b", "    pin1;", "    int compteur = 0;", "    pin1_allumé;",
          "\x7d", "", "void loop()", "\x7b", "    // Rien ici", "\x7d" ]
      challenge :=
        { title := "À Toi de Jouer".toList
          instructions :=
            [ "Déclare <strong>pin1</strong>".toList,
              "Crée une variable <strong>int vitesse = 5;</strong>".toList,
              "Allume <strong>pin1</strong>".toList ] }
      expectation :=
        { pins :=
            [ (.pin1, { declared := some true, on := some true }) ]
          bindings :=
            [ ("vitesse".toList, { value := "5".toList, type := some .int }) ] } },
    { number := 2
      exampleCode := textOf
        [ "void setup()", "\x7b", "    pin9;", "    int temperature = 20;", "    pin9_allumé;",
          "\x7d", "", "void loop()", "\x7b", "    // Rien ici", "\x7d" ]
      challenge :=
        { title := "À Toi de Jouer".toList
          instructions :=
            [ "Déclare <strong>pin9</strong>".toList,
              "Crée une variable <strong>int puissance = 10;</strong>".toList,
              "Allume <strong>pin9</strong>".toList ] }
      expectation :=
        { pins :=
            [ (.pin9, { declared := some true, on := some true }) ]
          bindings :=
            [ ("puissance".toList, { value := "10".toList, type := some .int }) ] } },
    { number := 3
      exampleCode := textOf
        [ "void setup()", "\x7b", "    pin1;", "    pin9;", "    int mode = 1;",
          "    pin1_allumé;", "    pin9_allumé;", "\x7d", "", "void loop()", "\x7b",
          "    // Rien ici", "\x7d" ]
      challenge :=
        { title := "À Toi de Jouer".toList
          instructions :=
            [ "Déclare <strong>pin1</strong> et <strong>pin9</strong>".toList,
              "Crée une variable <strong>int niveau = 3;</strong>".toList,
              "Allume <strong>pin1</strong> ET <strong>pin9</strong>".toList ] }
      expectation :=
        { pins :=
            [ (.pin1, { declared := some true, on := some true }),
              (.pin9, { declared := some true, on := some true }) ]
          bindings :=
            [ ("niveau".toList, { value := "3".toList, type := some .int }) ] } } ]

def severalVariables : Level where
  number := 2
  title := "Variables Multiples".toList
  subtitle := "Apprends à travailler avec plusieurs variables en même temps".toList
  popup :=
    { isShown := false
      title := "".toList
      content := textOf
        [ "" ] }
  exercises := [
    { number := 1
      exampleCode := textOf
        [ "void setup()", "\x7b", "    pin1;", "    pin9;", "    int vitesse = 5;",
          "    int puissance = 10;", "    pin1_allumé;", "    pin9_allumé;", "\x7d", "",
          "void loop()", "\x7b", "    // Rien ici", "\x7d" ]
      challenge :=
        { title := "À Toi de Jouer".toList
          instructions :=
            [ "Déclare <strong>pin1</strong> et <strong>pin2</strong>".toList,
              "Crée <strong>int temperature = 20;</strong>".toList,
              "Crée <strong>int humidite = 60;</strong>".toList,
              "Allume <strong>pin1</strong> et <strong>pin2</strong>".toList ] }
      expectation :=
        { pins :=
            [ (.pin1, { declared := some true, on := some true }),
              (.pin2, { declared := some true, on := some true }) ]
          bindings :=
            [ ("temperature".toList, { value := "20".toList, type := some .int }),
              ("humidite".toList, { value := "60".toList, type := some .int }) ] } },
    { number := 2
      exampleCode := textOf
        [ "void setup()", "\x7b", "    pin9;", "    pin10;", "    int mode = 1;",
          "    int niveau = 3;", "    pin9_allumé;", "    pin10_allumé;", "\x7d", "",
          "void loop()", "\x7b", "    // Rien ici", "\x7d" ]
      challenge :=
        { title := "À Toi de Jouer".toList
          instructions :=
            [ "Déclare <strong>pin9</strong> et <strong>pin10</strong>".toList,
              "Crée <strong>int capteur1 = 15;</strong>".toList,
              "Crée <strong>int capteur2 = 25;</strong>".toList,
              "Allume <strong>pin9</strong> et <strong>pin10</strong>".toList ] }
      expectation :=
        { pins :=
            [ (.pin9, { declared := some true, on := some true }),
              (.pin10, { declared := some true, on := some true }) ]
          bindings :=
            [ ("capteur1".toList, { value := "15".toList, type := some .int }),
              ("capteur2".toList, { value := "25".toList, type := some .int }) ] } },
    { number := 3
      exampleCode := textOf
        [ "void setup()", "\x7b", "    pin1;", "    pin2;", "    pin9;", "    int x = 1;",
          "    int y = 2;", "    int z = 3;", "    pin1_allumé;", "    pin9_allumé;", "\x7d",
          "", "void loop()", "\x7b", "    // Rien ici", "\x7d" ]
      challenge :=
        { title := "À Toi de Jouer".toList
          instructions :=
            [ "Déclare <strong>pin1</strong>, <strong>pin2</strong>, et <strong>pin10</strong>".toList,
              "Crée <strong>int rouge = 100;</strong>".toList,
              "Crée <strong>int vert = 200;</strong>".toList,
              "Crée <strong>int bleu = 50;</strong>".toList,
              "Allume seulement <strong>pin2</strong> et <strong>pin10</strong>".toList ] }
      expectation :=
        { pins :=
            [ (.pin1, { declared := some true, on := some false }),
              (.pin2, { declared := some true, on := some true }),
              (.pin10, { declared := some true, on := some true }) ]
          bindings :=
            [ ("rouge".toList, { value := "100".toList, type := some .int }),
              ("vert".toList, { value := "200".toList, type := some .int }),
              ("bleu".toList, { value := "50".toList, type := some .int }) ] } } ]

def conditions : Level where
  number := 3
  title := "Conditions Simples (si...alors)".toList
  subtitle := "Apprends à faire des choix dans ton code".toList
  popup :=
    { isShown := true
      title := "🎓 Nouvelle Règle : Les Conditions !".toList
      content := textOf
        [ "<p>Maintenant tu peux faire des <strong>choix</strong> dans ton code !</p>",
          "<ul>",
          "<li><code>si (condition) alors \x7b action; \x7d</code></li>",
          "<li>Si la condition est vraie, l'action est exécutée</li>",
          "<li>Si la condition est fausse, rien ne se passe</li>",
          "</ul>",
          "<p><strong>Exemple :</strong></p>",
          "<pre><code>int temperature = 25;",
          "si (temperature == 25) alors \x7b",
          "    pin1_allumé;",
          "\x7d</code></pre>" ] }
  exercises := [
    { number := 1
      exampleCode := textOf
        [ "void setup()", "\x7b", "    pin1;", "    int capteur = 0;", "    ",
          "    si (capteur == 0) alors \x7b", "        pin1_allumé;", "    \x7d", "\x7d", "",
          "void loop()", "\x7b", "    // Rien ici", "\x7d" ]
      challenge :=
        { title := "À Toi de Jouer".toList
          instructions :=
            [ "Déclare <strong>pin9</strong>".toList,
              "Crée <strong>int temperature = 20;</strong>".toList,
              "Si temperature == 20, allume <strong>pin9</strong>".toList ] }
      expectation :=
        { pins :=
            [ (.pin9, { declared := some true, on := some true }) ]
          bindings :=
            [ ("temperature".toList, { value := "20".toList, type := some .int }) ] } },
    { number := 2
      exampleCode := textOf
        [ "void setup()", "\x7b", "    pin1;", "    int mode = 5;", "    ",
          "    si (mode == 1) alors \x7b", "        pin1_allumé;", "    \x7d", "\x7d", "",
          "void loop()", "\x7b", "    // Rien ici", "\x7d" ]
      challenge :=
        { title := "À Toi de Jouer".toList
          instructions :=
            [ "Déclare <strong>pin2</strong>".toList,
              "Crée <strong>int niveau = 10;</strong>".toList,
              "Si niveau == 5, allume <strong>pin2</strong>".toList ] }
      expectation :=
        { pins :=
            [ (.pin2, { declared := some true, on := some false }) ]
          bindings :=
            [ ("niveau".toList, { value := "10".toList, type := some .int }) ] } },
    { number := 3
      exampleCode := textOf
        [ "void setup()", "\x7b", "    pin1;", "    pin9;", "    int etat = 1;", "    ",
          "    pin1_allumé;", "    ", "    si (etat == 1) alors \x7b", "        pin9_allumé;",
          "    \x7d", "\x7d", "", "void loop()", "\x7b", "    // Rien ici", "\x7d" ]
      challenge :=
        { title := "À Toi de Jouer".toList
          instructions :=
            [ "Déclare <strong>pin1</strong> et <strong>pin10</strong>".toList,
              "Crée <strong>int systeme = 1;</strong>".toList,
              "Allume <strong>pin1</strong> (toujours)".toList,
              "Si systeme == 1, allume aussi <strong>pin10</strong>".toList ] }
      expectation :=
        { pins :=
            [ (.pin1, { declared := some true, on := some true }),
              (.pin10, { declared := some true, on := some true }) ]
          bindings :=
            [ ("systeme".toList, { value := "1".toList, type := some .int }) ] } } ]

def standard : Course := ⟨[declarations, severalVariables, conditions]⟩

end Breadboard.Course
