import Frontera.Xrpl.Processes

/-! The facts every state of a run keeps while the ledger and its servers answer truthfully: a
transaction is submitted only by the execution that reserved it, a reservation stands alone for its
execution, a closed record rests on a ledger fact, and an earlier record of the same account and
sequence is closed before a later one is made. -/

namespace Frontera.Xrpl

open Frontera.Data Frontera.Text

/-- The transaction can never be included any more, or is included already. -/
def Final (D : Deployment) (ledger : Ledger) (hash : String) (lastLedgerSequence : Int) : Prop :=
  (∃ i ∈ ledger.inclusions, i.hash = hash) ∨ D.neverApplies hash = true ∨
    lastLedgerSequence ≤ ledger.validatedIndex

/-- The recorded transaction is final, or its one submission provably sent nothing. -/
def Closed (D : Deployment) (system : System) (record : XrplSubmissionRecordInput) : Prop :=
  Final D system.ledger record.transactionHash record.lastLedgerSequence ∨
    ∃ submission ∈ system.submissions,
      submission.executionId = record.executionId ∧ submission.attempted = false

/-- The transaction is in a validated ledger and moved exactly this amount. -/
def DeliveredIn (ledger : Ledger) (hash : String) (amount : IssuedAmount) : Prop :=
  ∃ i ∈ ledger.inclusions, i.hash = hash ∧ i.index ≤ ledger.validatedIndex ∧ Delivered i.details amount

/-- A lookup answer for the transaction an execution waits for. -/
def LookupTruthful (ledger : Ledger) (signed : Signed) (raw : Json String) : Prop :=
  (∀ details, SaysValidated raw signed.hash details →
    ∃ i ∈ ledger.inclusions, i.hash = signed.hash ∧ i.details = details ∧ i.index ≤ ledger.validatedIndex) ∧
  (SaysNotFound raw → ∀ i ∈ ledger.inclusions, i.hash = signed.hash →
    signed.minLedger ≤ i.index → i.index ≤ signed.prepared.lastLedgerSequence →
    ledger.validatedIndex < i.index)

def IndexTruthful (ledger : Ledger) (raw : Json String) : Prop :=
  ∀ index, readLedgerIndex raw = some index → index ≤ ledger.validatedIndex

/-- The ledger fact a settlement of the resolver rests on. -/
def SettlementHolds (ledger : Ledger) (record : XrplSubmissionRecordInput) : XrplInterlockSettlement → Prop
  | .validatedSuccess | .validatedFailure =>
      ∃ i ∈ ledger.inclusions, i.hash = record.transactionHash
  | .expired => record.lastLedgerSequence ≤ ledger.validatedIndex
  | .malformed | .notSubmitted => False

/-- What an execution in this phase is resumed with is the truth about the ledger: a reported
validated index is validated, a lookup says what the ledgers hold, and a submission is
answered malformed only when the network can never apply it. -/
def ResumptionTruthful (D : Deployment) (ledger : Ledger) : RailPhase → Resumption → Prop
  | .indexing _, .index (some raw) => IndexTruthful ledger raw
  | .polling _, .pollIndex (some raw) => IndexTruthful ledger raw
  | .submitted signed, .submitAnswer (some raw) =>
      ∀ engineResult, readSubmission raw signed.hash = .malformed engineResult →
        D.neverApplies signed.hash = true
  | .looking signed _, .pollLookup (some raw) => LookupTruthful ledger signed raw
  | _, _ => True

def Truthful (D : Deployment) (system : System) : Event → Prop
  | .readiness _ raw => IndexTruthful system.ledger raw
  | .resume c resumption => ∀ call, system.calls[c]? = some call →
      ResumptionTruthful D system.ledger call.phase resumption
  | .resolve executionId settlement _ => ∀ row ∈ system.store.rows, row.executionId = executionId →
        SettlementHolds system.ledger row.toXrplSubmissionRecordInput settlement
  | _ => True

section Phases

variable (D : Deployment) (system : System) (c : Nat) (call : RailCall)

def Built (transaction : XrplPaymentTransaction) : Prop :=
  buildXrplPayment D.sdk (D.options call.process).configuration call.request = .ok transaction

/-- The signed payment is the request's, prepared at a validated index. -/
structure SignedSound (signed : Signed) : Prop where
  built : Built D call signed.prepared.toXrplPaymentTransaction
  validated : signed.validated ≤ system.ledger.validatedIndex
  decoded : D.sdk.decodeSigned signed.signedTransaction = some signed.prepared
  hashed : D.sdk.blobHash signed.signedTransaction = signed.hash

/-- The execution reserved the payment and called `client.submit` with it. -/
structure Sent (signed : Signed) (attempted : Bool) : Prop where
  sound : SignedSound D system call signed
  reserved : call.reservation = some signed
  submitted : ⟨c,call.request.executionId,signed,attempted⟩ ∈ system.submissions

/-- The outcome of a submission rests on ledger facts. -/
structure OutcomeSound (signed : Signed) (outcome : PaymentRailResult) : Prop where
  settled : settlementOf outcome ≠ none →
    Final D system.ledger signed.hash signed.prepared.lastLedgerSequence
  completed : ∀ reference, outcome = .completed reference →
    reference = signed.hash ∧ DeliveredIn system.ledger signed.hash signed.prepared.amount

/-- An anchored reservation was decided on the rows its head counts. -/
structure Decided (signed : Signed) (head : InterlockStore.ReservationsHead) : Prop where
  within : head.sequence ≤ system.store.rows.length
  free : ∀ row ∈ system.store.rows.take head.sequence,
    InterlockStore.Releases (signed.record call.request.executionId) signed.validated row

def PhaseSound : Prop :=
  match call.phase with
  | .queued t | .recalling t | .connecting t | .indexing t => Built D call t
  | .heading t validated | .filling t validated =>
      Built D call t ∧ validated ≤ system.ledger.validatedIndex
  | .checking p validated | .signing p validated =>
      Built D call p.toXrplPaymentTransaction ∧ validated ≤ system.ledger.validatedIndex
  | .reserving s => SignedSound D system call s
  | .committing s head => SignedSound D system call s ∧ Decided system call s head
  | .submitting s => SignedSound D system call s ∧ call.reservation = some s ∧
      ∀ submission ∈ system.submissions, submission.call ≠ c
  | .submitted s | .polling s => Sent D system c call s true
  | .looking s index => Sent D system c call s true ∧
      ∀ validated, index = some validated → validated ≤ system.ledger.validatedIndex
  | .closing s => Sent D system c call s false
  | .settling s outcome => Sent D system c call s true ∧ OutcomeSound D system s outcome
  | .answered (.completed reference) =>
      ∃ s, Sent D system c call s true ∧ reference = s.hash ∧
        DeliveredIn system.ledger s.hash s.prepared.amount
  | .answered _ => True

end Phases

/-- What every state of a truthful run keeps. -/
structure SubmissionsSound (D : Deployment) (system : System) : Prop where
  calls : ∀ (c : Nat) (call : RailCall), system.calls[c]? = some call → PhaseSound D system c call
  reserved : ∀ (c : Nat) (call : RailCall) (signed : Signed), system.calls[c]? = some call →
    call.reservation = some signed → ∃ row ∈ system.store.rows,
      row.toXrplSubmissionRecordInput = signed.record call.request.executionId
  apart : ∀ (c c' : Nat) (call call' : RailCall), system.calls[c]? = some call →
    system.calls[c']? = some call' → call.reservation.isSome → call'.reservation.isSome →
    call.request.executionId = call'.request.executionId → c = c'
  submitted : ∀ submission ∈ system.submissions, ∃ call,
    system.calls[submission.call]? = some call ∧ call.request.executionId = submission.executionId ∧
      call.reservation = some submission.signed ∧ SignedSound D system call submission.signed
  once : (system.submissions.map fun submission => submission.call).Nodup
  closed : ∀ row ∈ system.store.rows, row.isOpen = false → Closed D system row.toXrplSubmissionRecordInput
  ordered : system.store.rows.Pairwise fun earlier later =>
    earlier.account = later.account → earlier.sequence = later.sequence →
      Closed D system earlier.toXrplSubmissionRecordInput

/-- The ledger moves on, submissions are added, records are added and only ever closed. -/
structure Grows (system system' : System) : Prop where
  index : system.ledger.validatedIndex ≤ system'.ledger.validatedIndex
  inclusions : ∀ i ∈ system.ledger.inclusions, i ∈ system'.ledger.inclusions
  submissions : ∀ submission ∈ system.submissions, submission ∈ system'.submissions
  rows : ∃ (moved : XrplSubmissionRecord → XrplSubmissionRecord) (added : List XrplSubmissionRecord),
    system'.store.rows = system.store.rows.map moved ++ added ∧
      ∀ row, (moved row).toXrplSubmissionRecordInput = row.toXrplSubmissionRecordInput ∧
        (row.isOpen = false → (moved row).isOpen = false)

variable {D : Deployment} {system system' : System} {c : Nat} {call : RailCall}

variable {hash : String} {record : XrplSubmissionRecordInput} {signed : Signed}

theorem Final.grows {last : Int} (h : Final D system.ledger hash last)
    (hgrows : Grows system system') : Final D system'.ledger hash last := by
  rcases h with ⟨i,hi,hhash⟩ | hnever | hlast
  · exact .inl ⟨i,hgrows.inclusions i hi,hhash⟩
  · exact .inr (.inl hnever)
  · exact .inr (.inr (hlast.trans hgrows.index))

theorem Closed.grows (h : Closed D system record) (hgrows : Grows system system') :
    Closed D system' record := by
  rcases h with hfinal | ⟨submission,hmem,hfacts⟩
  · exact .inl (hfinal.grows hgrows)
  · exact .inr ⟨submission,hgrows.submissions submission hmem,hfacts⟩

theorem DeliveredIn.grows {amount : IssuedAmount} (h : DeliveredIn system.ledger hash amount)
    (hgrows : Grows system system') : DeliveredIn system'.ledger hash amount := by
  obtain ⟨i,hi,hhash,hvalidated,hdelivered⟩ := h
  exact ⟨i,hgrows.inclusions i hi,hhash,hvalidated.trans hgrows.index,hdelivered⟩

theorem SignedSound.grows (h : SignedSound D system call signed) (hgrows : Grows system system') :
    SignedSound D system' call signed :=
  ⟨h.built,h.validated.trans hgrows.index,h.decoded,h.hashed⟩

theorem Sent.grows {attempted : Bool} (h : Sent D system c call signed attempted)
    (hgrows : Grows system system') : Sent D system' c call signed attempted :=
  ⟨h.sound.grows hgrows,h.reserved,hgrows.submissions _ h.submitted⟩

theorem OutcomeSound.grows {outcome : PaymentRailResult}
    (h : OutcomeSound D system signed outcome) (hgrows : Grows system system') :
    OutcomeSound D system' signed outcome where
  settled := fun hne => (h.settled hne).grows hgrows
  completed := fun reference heq =>
    ⟨(h.completed reference heq).1,(h.completed reference heq).2.grows hgrows⟩

theorem Releases.moved {validated : Int} {row row' : XrplSubmissionRecord}
    (h : InterlockStore.Releases record validated row)
    (hinput : row'.toXrplSubmissionRecordInput = row.toXrplSubmissionRecordInput)
    (hopen : row.isOpen = false → row'.isOpen = false) :
    InterlockStore.Releases record validated row' := by
  intro haccount hsequence
  rw [hinput] at haccount hsequence ⊢
  rcases h haccount hsequence with hclosed | hlast
  · exact .inl (hopen hclosed)
  · exact .inr hlast

theorem Decided.grows {head : InterlockStore.ReservationsHead}
    (h : Decided system call signed head) (hgrows : Grows system system') :
    Decided system' call signed head := by
  obtain ⟨moved,added,hrows,hmoved⟩ := hgrows.rows
  have hwithin : head.sequence ≤ (system.store.rows.map moved).length := by
    rw [List.length_map]
    exact h.within
  refine ⟨?_,?_⟩
  · rw [hrows,List.length_append]
    omega
  · intro row hrow
    rw [hrows,List.take_append_of_le_length hwithin,← List.map_take] at hrow
    obtain ⟨old,hold,rfl⟩ := List.mem_map.1 hrow
    exact Releases.moved (h.free old hold) (hmoved old).1 (hmoved old).2

theorem PhaseSound.grows (h : PhaseSound D system c call) (hgrows : Grows system system')
    (hown : ∀ submission ∈ system'.submissions, submission.call = c →
      submission ∈ system.submissions) : PhaseSound D system' c call := by
  unfold PhaseSound at h ⊢
  split at h
  · exact h
  · exact h
  · exact h
  · exact h
  · exact ⟨h.1,h.2.trans hgrows.index⟩
  · exact ⟨h.1,h.2.trans hgrows.index⟩
  · exact ⟨h.1,h.2.trans hgrows.index⟩
  · exact ⟨h.1,h.2.trans hgrows.index⟩
  · exact h.grows hgrows
  · exact ⟨h.1.grows hgrows,h.2.grows hgrows⟩
  · exact ⟨h.1.grows hgrows,h.2.1, fun submission hmem hc => h.2.2 submission (hown submission hmem hc) hc⟩
  · exact h.grows hgrows
  · exact h.grows hgrows
  · exact ⟨h.1.grows hgrows,fun validated heq => (h.2 validated heq).trans hgrows.index⟩
  · exact h.grows hgrows
  · exact ⟨h.1.grows hgrows,h.2.grows hgrows⟩
  · obtain ⟨signed,hsent,href,hdelivered⟩ := h
    exact ⟨signed,hsent.grows hgrows,href,hdelivered.grows hgrows⟩
  · trivial

end Frontera.Xrpl
