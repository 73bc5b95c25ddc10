import ChatConsole.Text.Blank
import ChatConsole.Text.Case
import ChatConsole.Text.Case.Table
import ChatConsole.Text.Cut
import ChatConsole.Text.Quoted
import ChatConsole.Text.Quoted.Table
import ChatConsole.Text.RangeTable
import ChatConsole.Text.Utf8
import ChatConsole.Text.Width
import ChatConsole.Text.Width.Table
import ChatConsole.Number.Binary
import ChatConsole.Markup.ColorCode
import ChatConsole.Markup.Mark
import ChatConsole.Markup.Pen
import ChatConsole.Markup.Token
import ChatConsole.Color.Chart
import ChatConsole.Color.Ink
import ChatConsole.Color.PairTable
import ChatConsole.Color.Palette
import ChatConsole.Grid.Basic
import ChatConsole.Grid.Signal
import ChatConsole.Flow
import ChatConsole.Backlog
import ChatConsole.Roster
import ChatConsole.Refusal
import ChatConsole.Window.Basic
import ChatConsole.Window.Label
import ChatConsole.Window.View
import ChatConsole.Desk
import ChatConsole.Toml.Document
import ChatConsole.Toml.Scan
import ChatConsole.Toml.Value
import ChatConsole.Settings
import ChatConsole.Calendar.Date
import ChatConsole.Calendar.Pattern
import ChatConsole.Message
import ChatConsole.Notice
import ChatConsole.Places
import ChatConsole.Transcript
import ChatConsole.FileTree
import ChatConsole.Key.Basic
import ChatConsole.Key.Decoder
import ChatConsole.Key.Press
import ChatConsole.Command.Catalog
import ChatConsole.Completion
import ChatConsole.LineEditor.Basic
import ChatConsole.LineEditor.Draft
import ChatConsole.LineEditor.Read
import ChatConsole.Display
import ChatConsole.Console.Basic
import ChatConsole.Console.Incoming
import ChatConsole.Console.Keyboard
import ChatConsole.Console.Seat
import ChatConsole.Console.Windows
import ChatConsole.Command.Basic
import ChatConsole.Command.Run
import ChatConsole.Main
import ChatConsole.Proofs.Text.Forms
import ChatConsole.Proofs.Key.Encoding
import ChatConsole.Proofs.Grid.Page
import ChatConsole.Proofs.Markup.Seam
import ChatConsole.Proofs.Flow.Rows
import ChatConsole.Proofs.Flow.Sheet
import ChatConsole.Proofs.Flow.Turns
import ChatConsole.Proofs.Color.Growth
import ChatConsole.Proofs.Color.Slots
import ChatConsole.Proofs.Color.Wishes
import ChatConsole.Proofs.Flow.Repaint
import ChatConsole.Proofs.Markup.Decoration
import ChatConsole.Proofs.Flow.Frame
import ChatConsole.Proofs.Flow.Again
import ChatConsole.Proofs.Flow.Glyphs
import ChatConsole.Proofs.Grid.Edits
import ChatConsole.Proofs.Grid.Terminal
import ChatConsole.Proofs.Grid.Rendering
import ChatConsole.Proofs.Window.Lines
import ChatConsole.Proofs.Window.Live
import ChatConsole.Proofs.Window.Card
import ChatConsole.Proofs.Window.Standing
import ChatConsole.Proofs.Window.Within
import ChatConsole.Proofs.Window.Width
import ChatConsole.Proofs.Backlog.Kept
import ChatConsole.Proofs.Window.Frozen
import ChatConsole.Proofs.Window.Changes
import ChatConsole.Proofs.Grid.Whole
import ChatConsole.Proofs.Window.Panel
import ChatConsole.Proofs.Window.Layout
import ChatConsole.Proofs.Window.Neat
import ChatConsole.Proofs.Desk.Windows
import ChatConsole.Proofs.Desk.WellFormed
import ChatConsole.Proofs.Desk.Requests
import ChatConsole.Proofs.Display.Bars
import ChatConsole.Proofs.Display.Changes
import ChatConsole.Proofs.Display.Segments
import ChatConsole.Proofs.Console.Attempts
import ChatConsole.Proofs.Console.Changes
import ChatConsole.Proofs.Console.Current
import ChatConsole.Proofs.Console.Requests
import ChatConsole.Proofs.Console.Printing
import ChatConsole.Proofs.Console.Layout
import ChatConsole.Proofs.Console.Refusals
import ChatConsole.Proofs.Console.Arrivals
import ChatConsole.Proofs.LineEditor.Content
import ChatConsole.Proofs.LineEditor.Plain
import ChatConsole.Proofs.LineEditor.Blind
import ChatConsole.Proofs.LineEditor.Edge
import ChatConsole.Proofs.LineEditor.Mirror
import ChatConsole.Proofs.LineEditor.Edits
import ChatConsole.Proofs.LineEditor.Unsubmitted
import ChatConsole.Proofs.Console.Edges
import ChatConsole.Proofs.Flow.Bare
import ChatConsole.Proofs.Flow.Words
import ChatConsole.Proofs.Window.Paging
import ChatConsole.Proofs.LineEditor.Typing
import ChatConsole.Proofs.Window.Ends
import ChatConsole.Proofs.Window.RoundTrip
import ChatConsole.Proofs.Roster.Members
import ChatConsole.Proofs.Roster.Order
import ChatConsole.Proofs.LineEditor.Rounds
import ChatConsole.Proofs.Console.Transcripts
import ChatConsole.Proofs.Flow.Indent
import ChatConsole.Proofs.Markup.CodeGrammar
import ChatConsole.Proofs.Flow.Unseen
import ChatConsole.Proofs.Text.Lowercase
import ChatConsole.Proofs.Completion.Beginnings
import ChatConsole.Proofs.Grid.FixedRow
import ChatConsole.Proofs.Roster.Rows
import ChatConsole.Proofs.LineEditor.Tails
import ChatConsole.Proofs.Display.Shortening
import ChatConsole.Proofs.Desk.Queries
import ChatConsole.Proofs.Console.Desks
import ChatConsole.Proofs.Roster.Scrolling
import ChatConsole.Proofs.Text.Ascii
import ChatConsole.Proofs.Notice.Addressing
import ChatConsole.Proofs.Transcript.Paths
import ChatConsole.Proofs.Settings.InForce
import ChatConsole.Proofs.LineEditor.OffScreen
import ChatConsole.Proofs.LineEditor.Reading
import ChatConsole.Proofs.Console.Backstage
import ChatConsole.Proofs.Grid.Halves
import ChatConsole.Proofs.Grid.Rectangle
import ChatConsole.Proofs.Grid.InRange
