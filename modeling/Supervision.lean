import Supervision.Main
import Supervision.Session.Drain
import Supervision.Session.Single
import Supervision.Admin.Listener
import Supervision.Admin.Servers
import Supervision.Proofs.Assembly
import Supervision.Proofs.Process.Moves
import Supervision.Proofs.Process.Lifecycle
import Supervision.Proofs.Execution
import Supervision.Proofs.Shutdown.Calls
import Supervision.Proofs.Shutdown.Signals
import Supervision.Proofs.Shutdown.Escape
import Supervision.Proofs.Shutdown.Phases
import Supervision.Proofs.Restart.Loop
import Supervision.Proofs.Restart.Budget
import Supervision.Proofs.Return
import Supervision.Proofs.Command.Quoting
import Supervision.Proofs.Process.States
import Supervision.Proofs.Process.Lines
import Supervision.Proofs.Output.Ledger
import Supervision.Proofs.Output.Records
import Supervision.Proofs.Json.Scalars
import Supervision.Proofs.Json.Typed
import Supervision.Proofs.Admin.Messages
import Supervision.Proofs.Admin.Connections
import Supervision.Proofs.Config.Environments
import Supervision.Proofs.Config.Specs
import Supervision.Proofs.Json.Written
import Supervision.Proofs.Config.Saving
import Supervision.Proofs.Admin.Listening
import Supervision.Proofs.Admin.Interleaving
import Supervision.Proofs.Output.Attribution
import Supervision.Proofs.Process.Unbroken
import Supervision.Proofs.Attribution
import Supervision.Proofs.Process.Snapshots
import Supervision.Proofs.Process.OutputOrder
import Supervision.Proofs.Process.LiveChildren
import Supervision.Proofs.Config.Descriptions
import Supervision.Proofs.Config.References
import Supervision.Proofs.Registration
import Supervision.Proofs.Restart.Texts
import Supervision.Proofs.Output.Colours
import Supervision.Proofs.Alignment
import Supervision.Proofs.Admin.Servers
import Supervision.Proofs.Signal.Names
import Supervision.Proofs.Output.Extraction
