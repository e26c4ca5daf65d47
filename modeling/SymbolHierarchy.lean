import SymbolHierarchy.Query.Decode
import SymbolHierarchy.Scenario.Basic
import SymbolHierarchy.Main
import SymbolHierarchy.Notifier.Board
import SymbolHierarchy.Controller.Clicks
import SymbolHierarchy.Number.Reading
import SymbolHierarchy.Paths
import SymbolHierarchy.Data.Reader
import SymbolHierarchy.Data.Printer
import SymbolHierarchy.Proofs.Node.Reads
import SymbolHierarchy.Proofs.Node.Tree
import SymbolHierarchy.Proofs.Node.Whole
import SymbolHierarchy.Proofs.Session.Moves
import SymbolHierarchy.Proofs.Session.Run
import SymbolHierarchy.Proofs.Session.Layout
import SymbolHierarchy.Proofs.Session.Whole
import SymbolHierarchy.Proofs.Node.Merge
import SymbolHierarchy.Proofs.Session.Places
import SymbolHierarchy.Proofs.Node.Facing
import SymbolHierarchy.Proofs.Session.Grounds
import SymbolHierarchy.Proofs.Session.Reading
import SymbolHierarchy.Proofs.Session.Direction
import SymbolHierarchy.Proofs.Session.Openings
import SymbolHierarchy.Proofs.Session.Replacement
import SymbolHierarchy.Proofs.Session.Growth
import SymbolHierarchy.Proofs.Session.Delivery
import SymbolHierarchy.Proofs.Session.Sight
import SymbolHierarchy.Proofs.Session.Notices
import SymbolHierarchy.Proofs.Session.Endings
import SymbolHierarchy.Proofs.Controller.Routes
import SymbolHierarchy.Proofs.Controller.Containment
import SymbolHierarchy.Proofs.Number.Overflow
import SymbolHierarchy.Proofs.Controller.Pairing
import SymbolHierarchy.Proofs.Controller.Apart
import SymbolHierarchy.Proofs.Node.Fields
import SymbolHierarchy.Proofs.Node.RoundTrip
import SymbolHierarchy.Proofs.Node.Payload
import SymbolHierarchy.Proofs.Node.Strangers
import SymbolHierarchy.Proofs.Node.Boundary
import SymbolHierarchy.Proofs.Controller.Inactive
import SymbolHierarchy.Proofs.Node.Origins
import SymbolHierarchy.Proofs.Session.Targets
import SymbolHierarchy.Proofs.Server.Calls
import SymbolHierarchy.Proofs.Server.Lifecycle
import SymbolHierarchy.Proofs.View.Serving
import SymbolHierarchy.Proofs.Cli.Closing
import SymbolHierarchy.Proofs.Session.Prompt
import SymbolHierarchy.Proofs.View.Graph
import SymbolHierarchy.Proofs.View.Answering
import SymbolHierarchy.Proofs.View.Sight
import SymbolHierarchy.Proofs.View.Unfolding
import SymbolHierarchy.Proofs.Node.Marks
import SymbolHierarchy.Proofs.Session.Fullness
import SymbolHierarchy.Proofs.View.Legible
import SymbolHierarchy.Proofs.Session.Kinship
import SymbolHierarchy.Proofs.Session.Asking
import SymbolHierarchy.Proofs.View.Walked
import SymbolHierarchy.Proofs.View.Contained
import SymbolHierarchy.Proofs.Paths.Firing
import SymbolHierarchy.Proofs.Paths.Return
import SymbolHierarchy.Proofs.Path.Spelling
import SymbolHierarchy.Proofs.Paths.Directories
import SymbolHierarchy.Proofs.Session.Groups
import SymbolHierarchy.Proofs.View.Drawn
import SymbolHierarchy.Proofs.Path.Recovery
import SymbolHierarchy.Proofs.Notifier.Disposal
import SymbolHierarchy.Proofs.Notifier.Snapshot
import SymbolHierarchy.Proofs.Text.Strict
import SymbolHierarchy.Proofs.Paths.Entries
import SymbolHierarchy.Proofs.Settings.Loading
import SymbolHierarchy.Proofs.Server.Plain
import SymbolHierarchy.Proofs.Settings.Substitution
import SymbolHierarchy.Proofs.Cli.Figures
