import CacheTiers.Main
import CacheTiers.Files
import CacheTiers.Session.Basic
import CacheTiers.Proofs.Resolve.Agreement
import CacheTiers.Proofs.Memoised.Exact
import CacheTiers.Proofs.Manager.Restart
import CacheTiers.Proofs.Resolve.Unwritten
import CacheTiers.Proofs.Resolve.Counted
import CacheTiers.Proofs.Resolve.Schedules
import CacheTiers.Proofs.Resolve.Dropped
import CacheTiers.Proofs.World.TypedMap
import CacheTiers.Proofs.Json.Nesting
import CacheTiers.Proofs.Resolve.Backfills
import CacheTiers.Proofs.Resolve.Storing
import CacheTiers.Proofs.Resolve.Lone
import CacheTiers.Proofs.Resolve.Reported
import CacheTiers.Proofs.World.MemoryCalls
import CacheTiers.Proofs.World.Connection
import CacheTiers.Proofs.Manager.Expiry
import CacheTiers.Proofs.Config.Verdict
import CacheTiers.Proofs.Command.Readers
import CacheTiers.Proofs.Manager.Obstacles
import CacheTiers.Proofs.Operation.Gate
import CacheTiers.Proofs.Resolve.Dispatched
import CacheTiers.Proofs.Manager.CallSites
import CacheTiers.Proofs.Metrics.ReadBack
