import Retention.Codec.Chain
import Retention.Codec.RootKey
import Retention.Codec.SettingsText
import Retention.Heap.Sample
import Retention.Json.Printer
import Retention.Paging.Order
import Retention.Proofs.Exhaustive
import Retention.Proofs.Expansion
import Retention.Proofs.HeapLog
import Retention.Proofs.History
import Retention.Proofs.Partition
import Retention.Proofs.Promptness
import Retention.Proofs.Rearranging
import Retention.Proofs.Tracking
import Retention.Proofs.Withholding
import Retention.Session
import Retention.Paging.Slots
import Retention.Proofs.Slots
import Retention.Proofs.Pages
import Retention.Proofs.Windows
import Retention.Proofs.Budget
import Retention.Proofs.Rounds
import Retention.Proofs.Visits
import Retention.Proofs.Work
import Retention.Proofs.Arrival
import Retention.Proofs.Growth
import Retention.Proofs.Encoding
import Retention.Proofs.Scanning
import Retention.Proofs.Fetching
import Retention.Proofs.Digits
import Retention.Proofs.Outlining
import Retention.Proofs.SettingsText
import Retention.Aggregation.Reserving
import Retention.Proofs.Refusals
import Retention.Proofs.Reserving
import Retention.Proofs.Announced
import Retention.Proofs.Reporting
