import HeapTables.Sweep
import HeapTables.Shipped.Tables
import HeapTables.Proofs.Reverse
import HeapTables.Proofs.Canonical
import HeapTables.Proofs.WithoutRepeats
import HeapTables.Proofs.Reordered
import HeapTables.Proofs.Appended
import HeapTables.Proofs.Live
import HeapTables.Proofs.Inverse
import HeapTables.Proofs.Labels
import HeapTables.Proofs.AddressMap
import HeapTables.Proofs.Counts
import HeapTables.Proofs.Dangling
import HeapTables.Proofs.Reports
import HeapTables.Proofs.Wording
