import DeskCalc.App
import DeskCalc.Binary64
import DeskCalc.Calculator.Engine
import DeskCalc.Calculator.Result
import DeskCalc.Calculator.State
import DeskCalc.Decimal.Notation
import DeskCalc.Decimal.Shortest
import DeskCalc.Expression.Error
import DeskCalc.Expression.Lexeme
import DeskCalc.Expression.Reading
import DeskCalc.Expression.Tree
import DeskCalc.Grid.Layout
import DeskCalc.Grid.Template
import DeskCalc.Grid.Tracks
import DeskCalc.Keypad
import DeskCalc.Main
import DeskCalc.Picture.Canvas
import DeskCalc.Picture.Fault
import DeskCalc.Picture.Fitting
import DeskCalc.Picture.Panel
import DeskCalc.Picture.Stroke
import DeskCalc.Picture.Typeface
import DeskCalc.Quantity
import DeskCalc.Session
import DeskCalc.Settings
import DeskCalc.Speech.Announcer
import DeskCalc.Speech.Phrases
import DeskCalc.Speech.Synthesizer
import DeskCalc.Text.Blank
import DeskCalc.Text.BreakTable
import DeskCalc.Text.Case
import DeskCalc.Text.CaseTable
import DeskCalc.Text.Cluster
import DeskCalc.Text.PrintTable
import DeskCalc.Text.Quoted
import DeskCalc.Proofs.Expression.Grammar
import DeskCalc.Proofs.Expression.Readers
import DeskCalc.Proofs.Expression.Parsing
import DeskCalc.Proofs.Expression.Diagnosis
import DeskCalc.Proofs.Expression.Spelling
import DeskCalc.Proofs.Decimal.Rounding
import DeskCalc.Proofs.Decimal.Shortest
import DeskCalc.Proofs.Binary64
import DeskCalc.Proofs.Calculator.Continuation
import DeskCalc.Proofs.Calculator.History
import DeskCalc.Proofs.Calculator.Moments
import DeskCalc.Proofs.Calculator.Depth
import DeskCalc.Proofs.Calculator.Notification
import DeskCalc.Proofs.Calculator.Subscriptions
import DeskCalc.Proofs.Speech.Interleaving
import DeskCalc.Proofs.Speech.Messages
import DeskCalc.Proofs.Picture.Panel
import DeskCalc.Proofs.App.Calls
import DeskCalc.Proofs.Grid.Calculator
import DeskCalc.Proofs.App.Pictures
import DeskCalc.Proofs.App.Highlight
import DeskCalc.Proofs.Magnitude
import DeskCalc.Proofs.Monotone
import DeskCalc.Proofs.Bounds
import DeskCalc.Proofs.Precision
import DeskCalc.Proofs.Grid.Edges
import DeskCalc.Proofs.Grid.Cells
import DeskCalc.Proofs.Grid.HitTest
import DeskCalc.Proofs.Grid.Tracks
import DeskCalc.Proofs.Grid.Halves
import DeskCalc.Proofs.Grid.Rectangles
import DeskCalc.Proofs.Calculator.Changes
import DeskCalc.Proofs.Calculator.LastCall
import DeskCalc.Proofs.App.Voice
import DeskCalc.Proofs.App.Hearing
import DeskCalc.Proofs.App.Announcements
import DeskCalc.Proofs.App.Presses
import DeskCalc.Proofs.App.FailedVoice
import DeskCalc.Proofs.Picture.Drawable
import DeskCalc.Proofs.Session.Passes
import DeskCalc.Proofs.Session.Frames
import DeskCalc.Proofs.Expression.Blanks
import DeskCalc.Proofs.Expression.Height
import DeskCalc.Proofs.Expression.Parentheses
import DeskCalc.Proofs.Text.Clusters
import DeskCalc.Proofs.Calculator.Backspace
import DeskCalc.Proofs.Picture.Lines
import DeskCalc.Proofs.Picture.Shrinking
import DeskCalc.Proofs.Picture.Measure
import DeskCalc.Proofs.Picture.Widths
import DeskCalc.Proofs.Picture.Display
import DeskCalc.Proofs.Picture.History
import DeskCalc.Proofs.Grid.Shares
import DeskCalc.Proofs.Picture.Margins
import DeskCalc.Proofs.Picture.Placed
import DeskCalc.Proofs.Picture.Geometry
import DeskCalc.Proofs.Picture.Highlight
import DeskCalc.Proofs.Infinity
import DeskCalc.Proofs.Picture.Stretches
import DeskCalc.Proofs.Picture.FewestLines
import DeskCalc.Proofs.Grid.Writing
