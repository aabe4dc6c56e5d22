import NeoInterop.Util
import NeoInterop.Core.Types
import NeoInterop.Core.Dao
import NeoInterop.Vm.StackItem
import NeoInterop.Vm.Map
import NeoInterop.Io.Binary
import NeoInterop.Transaction.NotValidBefore
import NeoInterop.Core.Store
import NeoInterop.Core.InteropSystem
import NeoInterop.Core.Execution
import NeoInterop.Core.InteropNeo
import NeoInterop.Core.InteropNeoContracts
import NeoInterop.Core.NeoExecution
import NeoInterop.Proofs.Handlers
import NeoInterop.Proofs.StagedStore
import NeoInterop.Proofs.Contexts
import NeoInterop.Proofs.Contracts
import NeoInterop.Proofs.Ledger
import NeoInterop.Proofs.Assets
import NeoInterop.Proofs.Accessors
import NeoInterop.Manifest.Parameter
import NeoInterop.Proofs.Find
import NeoInterop.Proofs.Lifecycle
import NeoInterop.Proofs.Runs
import NeoInterop.Proofs.DaoRuns
