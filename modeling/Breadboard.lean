import Breadboard.Text.Basic
import Breadboard.Text.Letter
import Breadboard.Text.LowerCase
import Breadboard.Text.Break
import Breadboard.Text.Cluster
import Breadboard.Text.Columns
import Breadboard.Text.Width
import Breadboard.Number
import Breadboard.Pin
import Breadboard.Register
import Breadboard.Variable
import Breadboard.Statement
import Breadboard.Fault
import Breadboard.Program
import Breadboard.Condition
import Breadboard.State
import Breadboard.Execute
import Breadboard.Event
import Breadboard.Walk
import Breadboard.Walk.Cues
import Breadboard.Board
import Breadboard.Runner
import Breadboard.Json.Basic
import Breadboard.Json.Reader
import Breadboard.Expectation
import Breadboard.Expectation.Document
import Breadboard.Grading
import Breadboard.Course
import Breadboard.Course.Document
import Breadboard.Course.Standard
import Breadboard.Settings
import Breadboard.Markup
import Breadboard.Arguments
import Breadboard.Screen.Basic
import Breadboard.Screen.Paragraph
import Breadboard.View.Highlight
import Breadboard.View.Listing
import Breadboard.View.Panes
import Breadboard.Session
import Breadboard.Session.Drawing
import Breadboard.Main
import Breadboard.Proofs.Text.Letters
import Breadboard.Proofs.Text.Lines
import Breadboard.Proofs.Program.Edit
import Breadboard.Proofs.Statement
import Breadboard.Proofs.Statement.Semicolon
import Breadboard.Proofs.Execute
import Breadboard.Proofs.Execute.InPlace
import Breadboard.Proofs.Walk.Queue
import Breadboard.Proofs.Walk.Change
import Breadboard.Proofs.Walk.Silent
import Breadboard.Proofs.Walk.Sections
import Breadboard.Proofs.Walk.Alike
import Breadboard.Proofs.Walk.Play
import Breadboard.Proofs.Walk.Visits
import Breadboard.Proofs.Walk.Cancellation
import Breadboard.Proofs.Walk.Invariant
import Breadboard.Proofs.Walk.Yield
import Breadboard.Proofs.Walk.Agreement
import Breadboard.Proofs.Sketch.Basic
import Breadboard.Proofs.Program.Nesting
import Breadboard.Proofs.Sketch.Refinement
import Breadboard.Proofs.Mirror
import Breadboard.Proofs.Walk.Stream
import Breadboard.Proofs.Walk.Timing
import Breadboard.Proofs.Walk.Trace
import Breadboard.Proofs.Walk.Replay
import Breadboard.Proofs.Walk.Semicolon
import Breadboard.Proofs.Walk.SkippedBlock
import Breadboard.Proofs.Program.Layout
import Breadboard.Proofs.Walk.Layout
import Breadboard.Proofs.Course.Order
import Breadboard.Proofs.Course.Traversal
import Breadboard.Proofs.Runner.Active
import Breadboard.Proofs.Runner.Isolation
import Breadboard.Proofs.Runner.Shown
import Breadboard.Proofs.Session.Gate
import Breadboard.Proofs.Session.Tick
import Breadboard.Proofs.Session.Boards
import Breadboard.Proofs.Statement.Grammar
import Breadboard.Proofs.Statement.Printing
import Breadboard.Proofs.Statement.LetterCase
import Breadboard.Proofs.Program.Matching
import Breadboard.Proofs.Walk.Skip
import Breadboard.Proofs.Walk.LoopChoice
import Breadboard.Proofs.Condition.Grammar
import Breadboard.Proofs.Condition.Parentheses
import Breadboard.Proofs.Number.Leading
import Breadboard.Proofs.Condition.Order
import Breadboard.Proofs.Latest
import Breadboard.Proofs.Execute.History
import Breadboard.Proofs.Grading
import Breadboard.Proofs.Program.Placement
import Breadboard.Proofs.Walk.Unclosed
import Breadboard.Proofs.Board
import Breadboard.Proofs.Markup.Escaping
import Breadboard.Proofs.Markup.Normal
import Breadboard.Proofs.Screen
import Breadboard.Proofs.View.Highlight
import Breadboard.Proofs.View.Listing
import Breadboard.Proofs.Json.Grammar
import Breadboard.Proofs.Expectation.Document
import Breadboard.Proofs.Arguments
