import WaypointMap.Call
import WaypointMap.Call.Lemmas
import WaypointMap.CommandLine.Arguments
import WaypointMap.CommandLine.FileTree
import WaypointMap.CommandLine.Options
import WaypointMap.CommandLine.Replay
import WaypointMap.CommandLine.Table
import WaypointMap.Compass
import WaypointMap.Config
import WaypointMap.Config.File
import WaypointMap.Console
import WaypointMap.Console.Cluster
import WaypointMap.Console.Color
import WaypointMap.Console.Emoji
import WaypointMap.Console.Emoji.Table
import WaypointMap.Console.Layout
import WaypointMap.Console.Markup
import WaypointMap.Console.Sequence
import WaypointMap.Console.Style
import WaypointMap.Console.Width
import WaypointMap.Console.Width.Table
import WaypointMap.Drawing
import WaypointMap.Drawing.Axis
import WaypointMap.Drawing.Picture
import WaypointMap.Error
import WaypointMap.Event
import WaypointMap.Graph
import WaypointMap.Graph.Replay
import WaypointMap.Graph.Request
import WaypointMap.Heading
import WaypointMap.Index
import WaypointMap.Json
import WaypointMap.Json.Display
import WaypointMap.Json.File
import WaypointMap.Json.Key
import WaypointMap.Json.Member
import WaypointMap.Json.Parser
import WaypointMap.Json.Printer
import WaypointMap.Link
import WaypointMap.Main
import WaypointMap.Number.Binary64
import WaypointMap.Number.Numeral
import WaypointMap.Number.Power
import WaypointMap.Number.Shortest
import WaypointMap.Number.Written
import WaypointMap.Placement
import WaypointMap.Record
import WaypointMap.Report
import WaypointMap.Report.File
import WaypointMap.Scalar
import WaypointMap.Search
import WaypointMap.Search.Path
import WaypointMap.Store
import WaypointMap.Store.Connect
import WaypointMap.Store.Edit
import WaypointMap.Store.Lemmas
import WaypointMap.Store.Proximity
import WaypointMap.Text
import WaypointMap.Text.Blank
import WaypointMap.Text.Bytes
import WaypointMap.Text.Case
import WaypointMap.Text.Case.Table
import WaypointMap.Text.Digit
import WaypointMap.Text.Line
import WaypointMap.Text.Newline
import WaypointMap.Text.Printable
import WaypointMap.Text.Quoted
import WaypointMap.Text.Run
import WaypointMap.Waypoint
import WaypointMap.Proofs.Store.Join
import WaypointMap.Proofs.Store.WellFormed
import WaypointMap.Proofs.Graph.Change
import WaypointMap.Proofs.Graph.History
import WaypointMap.Proofs.Double.Rounding
import WaypointMap.Proofs.Double.Unpacked
import WaypointMap.Proofs.Double.Place
import WaypointMap.Proofs.Double.Sum
import WaypointMap.Proofs.Double.Square
import WaypointMap.Proofs.Scalar
import WaypointMap.Proofs.Search.Step
import WaypointMap.Proofs.Search.Tree
import WaypointMap.Proofs.Search.Nearest
import WaypointMap.Proofs.Search.Discovery
import WaypointMap.Proofs.Search.ClosedForm
import WaypointMap.Proofs.Distance
import WaypointMap.Proofs.Store.Proximity
import WaypointMap.Proofs.Graph.Growth
import WaypointMap.Proofs.Graph.Separation
import WaypointMap.Proofs.Graph.Repetition
import WaypointMap.Proofs.Graph.Refusal
import WaypointMap.Proofs.Graph.Progress
import WaypointMap.Proofs.Search.Reach
import WaypointMap.Proofs.Search.Passage
import WaypointMap.Proofs.Graph.Passage
import WaypointMap.Proofs.Store.Symmetry
import WaypointMap.Proofs.Graph.Symmetry
import WaypointMap.Proofs.Graph.Origin
import WaypointMap.Proofs.Search.Overflow
import WaypointMap.Proofs.Search.Tie
import WaypointMap.Proofs.Graph.Frontier
import WaypointMap.Proofs.Search.Once
import WaypointMap.Proofs.Search.Walk
import WaypointMap.Proofs.Search.Bound
import WaypointMap.Proofs.Search.Acyclic
import WaypointMap.Proofs.Search.Level
import WaypointMap.Proofs.Search.Uniform
import WaypointMap.Proofs.Store.Relink
import WaypointMap.Proofs.Graph.Effect
import WaypointMap.Proofs.Graph.Explored
import WaypointMap.Proofs.Store.Blend
import WaypointMap.Proofs.Graph.Convergence
import WaypointMap.Proofs.Graph.Return
import WaypointMap.Proofs.Graph.Approach
import WaypointMap.Proofs.Store.Reversal
import WaypointMap.Proofs.Graph.Numbering
import WaypointMap.Proofs.Double.Integer
import WaypointMap.Proofs.Checked
import WaypointMap.Proofs.Store.Lead
import WaypointMap.Proofs.Drawing
import WaypointMap.Proofs.Report
import WaypointMap.Proofs.Json.Key
import WaypointMap.Proofs.Config
import WaypointMap.Proofs.CommandLine.Malformed
import WaypointMap.Proofs.Graph.Axes
import WaypointMap.Proofs.Search.Rounds
import WaypointMap.Proofs.Heading
import WaypointMap.Proofs.Heading.Ascii
import WaypointMap.Proofs.Blocked
import WaypointMap.Proofs.Config.Load
