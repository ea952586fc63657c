import IncrementalMap.Arena.Keyed
import IncrementalMap.Hash.Coder
import IncrementalMap.Proofs.Rehash.Merge
import IncrementalMap.Proofs.Run.Accounts
import IncrementalMap.Proofs.Run.Amortized
import IncrementalMap.Proofs.Run.Frame
import IncrementalMap.Proofs.Run.Growth
import IncrementalMap.Proofs.Run.Inquiry
import IncrementalMap.Proofs.Run.Invariant
import IncrementalMap.Proofs.Run.Landing
import IncrementalMap.Proofs.Run.Ledger
import IncrementalMap.Proofs.Run.Load
import IncrementalMap.Proofs.Run.Loss
import IncrementalMap.Proofs.Run.Oblivious
import IncrementalMap.Proofs.Run.OneWay
import IncrementalMap.Proofs.Run.Progress
import IncrementalMap.Proofs.Run.Refinement
import IncrementalMap.Proofs.Run.Refusal
import IncrementalMap.Proofs.Run.Safety
import IncrementalMap.Proofs.Run.Session
import IncrementalMap.Proofs.Run.Settle
import IncrementalMap.Proofs.Run.Tour
import IncrementalMap.Proofs.Run.Transparency
import IncrementalMap.Proofs.Table.Addressing
import IncrementalMap.Proofs.Table.Refinement
