import Gantry.Source
import Gantry.Log
import Gantry.Text.Blank
import Gantry.Text.CaseData
import Gantry.Text.Casing
import Gantry.Number.Numeral
import Gantry.Number.Finite
import Gantry.Number.Shortest
import Gantry.Number.Reading
import Gantry.Token
import Gantry.Fault
import Gantry.Token.Lexer
import Gantry.Script
import Gantry.Parser.Cursor
import Gantry.Parser.Expression
import Gantry.Parser.Statement
import Gantry.Shelf
import Gantry.World
import Gantry.Crane
import Gantry.Value
import Gantry.Value.Display
import Gantry.Value.Equality
import Gantry.RuntimeFault
import Gantry.Machine
import Gantry.Machine.Operator
import Gantry.Machine.Builtin
import Gantry.Machine.Evaluation
import Gantry.Replay
import Gantry.Json
import Gantry.Json.Reader
import Gantry.Json.Yard
import Gantry.Level
import Gantry.Config
import Gantry.Report
import Gantry.Session
import Gantry.Host
import Gantry.Cli
import Gantry.Cli.Arguments
import Gantry.Main
import Gantry.Proofs.Script.Words
import Gantry.Proofs.Script.Shape
import Gantry.Proofs.Script.Moved
import Gantry.Proofs.Script.Rendering
import Gantry.Proofs.Parser.Running
import Gantry.Proofs.Parser.Growth
import Gantry.Proofs.Parser.Faithful
import Gantry.Proofs.Parser.SimpleLines
import Gantry.Proofs.Parser.Soundness
import Gantry.Proofs.Parser.Reading
import Gantry.Proofs.Parser.ReadingOperators
import Gantry.Proofs.Parser.ReadingExpressions
import Gantry.Proofs.Parser.ReadingStatements
import Gantry.Proofs.Parser.Completeness
import Gantry.Proofs.Replay.Record
import Gantry.Proofs.Replay.History
import Gantry.Proofs.Replay.ExactlyOnce
import Gantry.Proofs.Replay.Settling
import Gantry.Proofs.Replay.Sequence
import Gantry.Proofs.Token.Layout
import Gantry.Proofs.Token.Spelling
import Gantry.Proofs.Token.Outline
import Gantry.Proofs.Parser.Abreast
import Gantry.Proofs.Parser.Acceptance
import Gantry.Proofs.Replay.LookAhead
import Gantry.Proofs.Replay.LifeCycle
import Gantry.Proofs.Session.Reports
import Gantry.Proofs.Session.Repetition
import Gantry.Proofs.Machine.Contents
import Gantry.Proofs.Machine.Comparison
import Gantry.Proofs.Machine.Walks
import Gantry.Proofs.Machine.Invariant
import Gantry.Proofs.Machine.Attempt
import Gantry.Proofs.Machine.Termination
import Gantry.Proofs.Machine.Agreement
import Gantry.Proofs.Machine.Scoping
import Gantry.Proofs.Machine.Sight
import Gantry.Proofs.Machine.Endurance
import Gantry.Proofs.Machine.Signals
import Gantry.Proofs.Machine.Limits
import Gantry.Proofs.Number.Figures
import Gantry.Proofs.Parser.LineByLine
import Gantry.Proofs.Parser.Nesting
import Gantry.Proofs.Value.Datum
import Gantry.Proofs.Value.Tokens
import Gantry.Proofs.Value.Literal
import Gantry.Proofs.Value.Difference
import Gantry.Proofs.Value.Unfolding
import Gantry.Proofs.Json.Writing
import Gantry.Proofs.Json.RoundTrip
import Gantry.Proofs.Replay.Expiry
import Gantry.Proofs.Replay.Frames
import Gantry.Proofs.Replay.Bookkeeping
import Gantry.Proofs.World.Columns
import Gantry.Proofs.Parser.Yield
import Gantry.Proofs.Parser.Height
import Gantry.Proofs.Machine.Blindness
import Gantry.Proofs.Machine.Located
import Gantry.Proofs.Machine.Location
import Gantry.Proofs.Parser.Tower
import Gantry.Proofs.Token.Levels
import Gantry.Proofs.Parser.Counting
import Gantry.Proofs.Parser.CountingExpressions
import Gantry.Proofs.Parser.Recovery
import Gantry.Proofs.Parser.CountingStatements
import Gantry.Proofs.Parser.CountingScripts
import Gantry.Proofs.Token.Passage
import Gantry.Proofs.Token.Partition
import Gantry.Proofs.Token.Balance
import Gantry.Proofs.Token.Silence
import Gantry.Proofs.Parser.Invariant
import Gantry.Proofs.Parser.Places
import Gantry.Proofs.Replay.Pace
import Gantry.Proofs.Token.Order
import Gantry.Proofs.Script.Nested
import Gantry.Proofs.Parser.Quiet
import Gantry.Proofs.Parser.Trail
import Gantry.Proofs.Parser.SourceOrder
import Gantry.Proofs.Number.Negation
import Gantry.Proofs.Machine.Meaning
import Gantry.Proofs.Parser.Unglued
import Gantry.Proofs.World.Loading
import Gantry.Proofs.Number.Order
import Gantry.Proofs.Machine.Ordering
import Gantry.Proofs.Machine.Extremes
import Gantry.Proofs.Replay.Clock
import Gantry.Proofs.Session.Clock
import Gantry.Proofs.Session.Overflow
import Gantry.Proofs.Session.Contract
