import SimIdentity.Log
import SimIdentity.Proofs.Footprint
import SimIdentity.Proofs.Reachable
import SimIdentity.Registry
import SimIdentity.Store.Recorded
import SimIdentity.Store.Unreliable
import SimIdentity.Tracker.Subscription
import SimIdentity.Proofs.Coherence
import SimIdentity.Proofs.Progress
import SimIdentity.Proofs.Delivery
import SimIdentity.Proofs.Ledger
import SimIdentity.Proofs.Restart
import SimIdentity.Proofs.Swap
import SimIdentity.Proofs.Work
import SimIdentity.Proofs.Repetition
import SimIdentity.Proofs.Alike
import SimIdentity.Proofs.Removal
import SimIdentity.Proofs.Failure
import SimIdentity.Proofs.Resync
import SimIdentity.Proofs.Pending
import SimIdentity.Proofs.Protocol
import SimIdentity.Proofs.Update
import SimIdentity.Proofs.Authority
import SimIdentity.Proofs.Lag
import SimIdentity.Proofs.Retry
import SimIdentity.Proofs.Pairing
import SimIdentity.Proofs.Order
import SimIdentity.Proofs.Persisted
import SimIdentity.Proofs.Handover
import SimIdentity.Proofs.Bystanders
import SimIdentity.Proofs.Unnoticed
import SimIdentity.Proofs.Registration
import SimIdentity.Proofs.Isolation
import SimIdentity.Proofs.Loss
import SimIdentity.Proofs.Agreement
import SimIdentity.Proofs.Candor
import SimIdentity.Proofs.HomeNetwork
import SimIdentity.Proofs.Recognition
import SimIdentity.Proofs.Adoption
import SimIdentity.Proofs.Retention
import SimIdentity.Proofs.SilentStart
import SimIdentity.Proofs.Chronicle
import SimIdentity.Proofs.Outline
import SimIdentity.Proofs.Detour
import SimIdentity.Proofs.LongestPart
