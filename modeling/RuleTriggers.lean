import RuleTriggers.Ledger.Listing
import RuleTriggers.Saved.Json
import RuleTriggers.Spec.Lead.Characters
import RuleTriggers.Table
import RuleTriggers.Trigger.Offer
import RuleTriggers.Proofs.FirstFault
import RuleTriggers.Proofs.Run
import RuleTriggers.Proofs.Trigger.Derived
import RuleTriggers.Proofs.Ledger.Buckets
import RuleTriggers.Proofs.Ledger.Coherent
import RuleTriggers.Proofs.Ledger.Listing
import RuleTriggers.Proofs.Ledger.Persistence
import RuleTriggers.Proofs.Ledger.Play
import RuleTriggers.Proofs.Ledger.Roll
import RuleTriggers.Proofs.Spec.Branches
import RuleTriggers.Proofs.Spec.Partition
import RuleTriggers.Proofs.Reward.RoundTrip
import RuleTriggers.Proofs.Spec.Rendering
import RuleTriggers.Proofs.Reward.Phrase
import RuleTriggers.Proofs.Spec.Reading
import RuleTriggers.Proofs.Trigger.WellFormed
import RuleTriggers.Proofs.Ledger.Representation
import RuleTriggers.Proofs.Trigger.Offer
import RuleTriggers.Proofs.Ledger.Unmarked
import RuleTriggers.Proofs.Ledger.Loading
import RuleTriggers.Proofs.Ledger.Retraction
import RuleTriggers.Proofs.Spec.Compact
import RuleTriggers.Proofs.Reward.Grammar
import RuleTriggers.Proofs.Spec.Counted
import RuleTriggers.Proofs.Spec.Bare
import RuleTriggers.Proofs.Trigger.Purchase
import RuleTriggers.Proofs.Source.Grammar
import RuleTriggers.Proofs.SeatMap
import RuleTriggers.Proofs.Table.Isolation
import RuleTriggers.Proofs.Spec.Encoding
