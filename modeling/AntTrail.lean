import AntTrail.Action
import AntTrail.Board
import AntTrail.Board.SantaFe
import AntTrail.Board.Text
import AntTrail.Bytes.Decoder
import AntTrail.Bytes.LittleEndian
import AntTrail.Checked
import AntTrail.Course
import AntTrail.Decimal
import AntTrail.Draw
import AntTrail.Draw.Keystream
import AntTrail.Draw.Source
import AntTrail.Evolution.Checkpoint
import AntTrail.Evolution.Engine
import AntTrail.Evolution.Fitness
import AntTrail.Evolution.Ranking
import AntTrail.Evolution.Refill
import AntTrail.Evolution.Report
import AntTrail.Evolution.Tournament
import AntTrail.Evolution.Workers
import AntTrail.Fault
import AntTrail.Files
import AntTrail.Files.Path
import AntTrail.Files.Tree
import AntTrail.Heading
import AntTrail.Json.Number
import AntTrail.Json.Quotation
import AntTrail.Json.Reader
import AntTrail.Json.Skip
import AntTrail.Json.SyntaxError
import AntTrail.Json.Token
import AntTrail.Kind
import AntTrail.Main
import AntTrail.Position
import AntTrail.Program
import AntTrail.Program.Crossover
import AntTrail.Program.Growth
import AntTrail.Program.Notation
import AntTrail.Program.Parser
import AntTrail.Program.Run
import AntTrail.Program.Stored
import AntTrail.Program.Subtree
import AntTrail.Proofs.Board.Motion
import AntTrail.Proofs.Board.Redrawn
import AntTrail.Proofs.Board.Rows
import AntTrail.Proofs.Board.Store
import AntTrail.Proofs.Board.Text
import AntTrail.Proofs.Board.Torus
import AntTrail.Proofs.Bytes.Exact
import AntTrail.Proofs.Course.Budget
import AntTrail.Proofs.Course.Prolonged
import AntTrail.Proofs.Course.Symmetry
import AntTrail.Proofs.Course.Transcript
import AntTrail.Proofs.Draw.Rejection
import AntTrail.Proofs.Evolution.Atomic
import AntTrail.Proofs.Evolution.Decoding
import AntTrail.Proofs.Evolution.Generations
import AntTrail.Proofs.Evolution.Inheritance
import AntTrail.Proofs.Evolution.Layout
import AntTrail.Proofs.Evolution.Perfect
import AntTrail.Proofs.Evolution.Population
import AntTrail.Proofs.Evolution.Pressure
import AntTrail.Proofs.Evolution.Progress
import AntTrail.Proofs.Evolution.Provenance
import AntTrail.Proofs.Evolution.Record
import AntTrail.Proofs.Evolution.Refill
import AntTrail.Proofs.Evolution.Resumption
import AntTrail.Proofs.Evolution.Step
import AntTrail.Proofs.Evolution.Stored
import AntTrail.Proofs.Evolution.Tournament
import AntTrail.Proofs.Evolution.Winner
import AntTrail.Proofs.Json.Document
import AntTrail.Proofs.Json.Form
import AntTrail.Proofs.Json.Lexeme
import AntTrail.Proofs.Json.Numeral
import AntTrail.Proofs.Json.Quotation
import AntTrail.Proofs.Json.Record
import AntTrail.Proofs.Json.Whole
import AntTrail.Proofs.Program.Counter
import AntTrail.Proofs.Program.Crossover
import AntTrail.Proofs.Program.Depth
import AntTrail.Proofs.Program.Notation
import AntTrail.Proofs.Program.Numbering
import AntTrail.Proofs.Program.Passes
import AntTrail.Proofs.Program.PrefixCode
import AntTrail.Proofs.Program.Readable
import AntTrail.Proofs.Program.Reversal
import AntTrail.Proofs.Program.Simulation
import AntTrail.Proofs.Program.Splice
import AntTrail.Proofs.Program.Stored
import AntTrail.Proofs.Program.Surroundings
import AntTrail.Proofs.Program.Tree
import AntTrail.Proofs.Program.Walk
import AntTrail.Proofs.Reading
import AntTrail.Proofs.Settings.Partial
import AntTrail.Proofs.Settings.Reading
import AntTrail.Proofs.Timestamp.Bounds
import AntTrail.Proofs.Trial.Drawing
import AntTrail.Proofs.Trial.Food
import AntTrail.Proofs.Trial.Reckoning
import AntTrail.Proofs.Trial.Room
import AntTrail.Proofs.Trial.Step
import AntTrail.Regex.Bracket
import AntTrail.Regex.Cursor
import AntTrail.Regex.Depth
import AntTrail.Regex.Escape
import AntTrail.Regex.Group
import AntTrail.Regex.Meaning
import AntTrail.Regex.Parser
import AntTrail.Regex.Pattern
import AntTrail.Regex.Refusal
import AntTrail.Regex.Span
import AntTrail.Regex.Tree
import AntTrail.Session
import AntTrail.Session.LogFilter
import AntTrail.Settings
import AntTrail.Settings.Reader
import AntTrail.Text.Alphanumeric
import AntTrail.Text.Blank
import AntTrail.Text.Extending
import AntTrail.Text.Hexadecimal
import AntTrail.Text.Numeral
import AntTrail.Text.Quoted
import AntTrail.Text.Real
import AntTrail.Text.Split
import AntTrail.Text.Unprintable
import AntTrail.Text.Utf8
import AntTrail.Timestamp
import AntTrail.Timestamp.Text
import AntTrail.Transcript
import AntTrail.Trial
