import Sidecar.Verified.Resumption
import Sidecar.Verified.KeyedTable
import Sidecar.Ports.Mappings
import Sidecar.Ports.Redelivery
import Sidecar.Ports.Progress
import Sidecar.Ports.Agreement
import Sidecar.Ports.FailedAttempts
import Sidecar.Ports.Independence
import Sidecar.Ports.Payloads
import Sidecar.Ports.Undisturbed
import Sidecar.Ports.RateCard
import Sidecar.Ports.RetryBudget
import Sidecar.Ports.Names
import Sidecar.Ports.Waiting
import Sidecar.Ports.WorkerLoop
import Sidecar.Ports.ClaimOrder
import Sidecar.Ports.Ingest
import Sidecar.Ports.Confluence
import Sidecar.Ports.Serializability
