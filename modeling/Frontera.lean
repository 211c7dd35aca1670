import Frontera.ExerciseControl.TamperedAdmission
import Frontera.Execution.CommitBoundary
import Frontera.Grant.Provenance
import Frontera.Execution.CrossingSafety
import Frontera.Execution.SpendingCap
import Frontera.GrantStore.RevocationPermanence
import Frontera.GrantStore.InProcessRollback
import Frontera.Freshness.FalseAlarms
import Frontera.Payment.RefundBound
import Frontera.Xrpl.DefinitiveFailure
import Frontera.EmergencyControl.KillSwitch
import Frontera.Approval.Finality
import Frontera.HumanIdentity.AppendSafety
import Frontera.StatusHistory.Equivocation
import Frontera.StatusHistory.TimestampReaders
import Frontera.Reconciler.Pages
import Frontera.Reconciler.Inventory
import Frontera.Payment.ContentDigest
import Frontera.GovernanceStore.CanonicalJson
import Frontera.GovernanceStore.ReferenceIntegrity
import Frontera.GovernanceStore.Pagination
import Frontera.Lightning.SignedMessage
import Frontera.Freshness.ProtocolReading
import Frontera.Trade.Inventory
import Frontera.Trade.ProposalAssertions
import Frontera.AuthorityGraph.Selection
import Frontera.GovernedAction.ExecutionSummary
import Frontera.Lightning.BtcDecimal
import Frontera.Lightning.Bech32Checksum
import Frontera.Mpp.CanonicalJson
import Frontera.Mpp.ChallengeList
import Frontera.HumanIdentity.SettlementAgreement
import Frontera.Context.Answering
import Frontera.Monetary.DecimalArithmetic
import Frontera.Monetary.NumberLexeme
import Frontera.Grant.ValidityContainment
import Frontera.Obligation.Soundness
import Frontera.Context.TrustFlow
