import Frontera.Execution.AttenuationSoundness
import Frontera.Execution.Holdings
import Frontera.ExerciseControl.AggregateSafety

/-! Every attempt that may have taken effect still holds a reservation that consumes, for its own
amount, of the bucket the policy always names. The amounts of those attempts are then among the
usages the ledger admitted, whatever became of their settlements. -/

namespace Frontera.Execution

open Frontera.Data Frontera.ExerciseControl Frontera.Grant Frontera.Monetary Frontera.Text List Option

variable {P : Platform} {limit : ExerciseControlLimit} {maximum unit : String}

/-- The amounts of the attempts whose outcome is `executed` or `execution-unconfirmed`. -/
def ExerciseSystem.spentAmounts (s : ExerciseSystem) : List MonetaryAmount :=
  (s.calls.filter (·.stage.spends)).filterMap (·.request.amount)

/-- The reservation asked for a request states the limit, and the request's own amount under
it. -/
structure AsksLimit (limit : ExerciseControlLimit) (unit : String)
    (request : GrantExerciseRequest) (asked : ExerciseReservationRequest) : Prop where
  wellFormed : LimitWellFormed limit
  states : ∃ amount, request.amount = some amount ∧ amount.unit = unit ∧
    ⟨limit,amount.value⟩ ∈ asked.rules ∧ ∀ rule ∈ asked.rules,
      exerciseControlBucketKey rule.limit = exerciseControlBucketKey limit → rule = ⟨limit,amount.value⟩

variable {amount : Option MonetaryAmount} {rule : ExerciseControlRuleUsage}
  {request : GrantExerciseRequest} {grant : BoundedGrant} {at' : String}
  {asked : ExerciseReservationRequest} {s : ExerciseSystem} {call : Nat}
  {events : List ExecutionEvent} {ledger : InMemoryLedger}
  {assessment : BoundedGrantExerciseAssessment} {now : String}

theorem readLimit_limit {stated : ExerciseControlLimit} (h : readLimit amount stated = .rule rule) :
    rule.limit = stated := by
  unfold readLimit at h
  split at h
  · cases h
    rfl
  · split at h
    · cases h
    · split_ifs at h
      cases h
      rfl

theorem readLimit_amount (hmeasure : limit.measure = .amount maximum unit)
    (h : readLimit amount limit = .rule rule) :
    ∃ amount', amount = some amount' ∧ amount'.unit = unit ∧ rule = ⟨limit,amount'.value⟩ := by
  rw [readLimit,hmeasure] at h
  cases amount with
  | none => cases h
  | some amount =>
    simp only at h
    split_ifs at h with hunit
    cases h
    exact ⟨amount,rfl,not_not.1 hunit,rfl⟩

theorem asksLimit_of_admits {host : ExerciseControlHost}
    (hmeasure : limit.measure = .amount maximum unit)
    (hpolicy : ∀ query raw, host.policy query = some raw → limit ∈ raw)
    (h : AdmitsRequest P host (exerciseControlInputFor request grant at') asked) :
    AsksLimit limit unit request asked := by
  obtain ⟨query,raw,limits,hraw,hsnapshot,hlimits,hrules⟩ := h.rules
  obtain ⟨rfl,hwell,hnodup,-⟩ := snapshotExerciseControlLimits_spec hsnapshot
  have hmem := hpolicy query raw hraw
  have hsorted : ∀ other, other ∈ sortExerciseControlLimits raw ↔ other ∈ raw := by
    intro other
    exact (perm_insertionSort limitLe raw).mem_iff
  obtain ⟨rule,hrule,hread⟩ := hlimits limit ((hsorted limit).2 hmem)
  obtain ⟨amount,hamount,hunit,rfl⟩ := readLimit_amount hmeasure hread
  refine ⟨hwell limit hmem,amount,hamount,hunit,hrule,fun other hother hkey => ?_⟩
  obtain ⟨stated,hstated,hread'⟩ := hrules other hother
  -- the snapshot names the bucket once
  have hsame : stated = limit := by
    rw [readLimit_limit hread'] at hkey
    exact inj_on_of_nodup_map hnodup ((hsorted stated).1 hstated) hmem hkey
  rw [hsame,hread] at hread'
  cases hread'
  rfl

/-- What holds in every reachable system whose policy always names the limit. -/
structure Capped (P : Platform) (limit : ExerciseControlLimit) (unit : String)
    (s : ExerciseSystem) : Prop where
  held : Held (AsksLimit limit unit) s
  bucket : InMemoryLedger.BucketSound P limit s.ledger
  unresolved : s.ledger.resolutions = .empty
  reserved : ∀ (call : Nat) (c : ExerciseCall), s.calls[call]? = some c →
    c.stage.spends = true → c.stage.reservation?.isSome = true
  settled : ∀ (call : Nat) (c : ExerciseCall) (reservation : ExerciseReservationHandle)
    (terminal : ExerciseReservationTerminalEvent), s.calls[call]? = some c →
    c.stage.spends = true → c.stage.reservation? = some reservation →
    s.ledger.terminals.get reservation.reservationId = some terminal → terminal.kind = .settled

theorem capped_empty : Capped P limit unit .empty where
  held := held_empty
  bucket := InMemoryLedger.bucketSound_empty limit
  unresolved := rfl
  reserved call c h := by cases h
  settled call c reservation terminal h := by cases h

section

variable (h : Capped P limit unit s)
include h

theorem Capped.moved {stage stage' : CallStage} (hcall : s.calls[call]? = some ⟨request,stage⟩)
    (hheld : Held (AsksLimit limit unit) { s.move call request stage' events with ledger := ledger })
    (hbucket : InMemoryLedger.BucketSound P limit ledger)
    (hresolutions : ledger.resolutions = s.ledger.resolutions)
    (hterminals : ∀ id, (∀ reservation, stage.reservation? = some reservation → id ≠ reservation.reservationId) → ledger.terminals.get id = s.ledger.terminals.get id)
    (hspends : stage'.spends = true → stage'.reservation?.isSome = true)
    (hsettled : ∀ reservation terminal, stage'.spends = true → stage'.reservation? = some reservation → stage'.isDone = true → ledger.terminals.get reservation.reservationId = some terminal → terminal.kind = .settled) :
    Capped P limit unit { s.move call request stage' events with ledger := ledger } := by
  refine ⟨hheld,hbucket,hresolutions.trans h.unresolved,fun j c hj hstage => ?_,
    fun j c reservation terminal hj hstage hreservation hterminal => ?_⟩
  · rcases ExerciseSystem.calls_move hj with ⟨rfl,rfl⟩ | ⟨-,hold⟩
    · exact hspends hstage
    · exact h.reserved j c hold hstage
  · rcases ExerciseSystem.calls_move hj with ⟨rfl,rfl⟩ | ⟨hne,hold⟩
    · cases hdone : stage'.isDone with
      | true => exact hsettled reservation terminal hstage hreservation hdone hterminal
      | false =>
        have hnone := hheld.unsettled _ _ reservation hj hreservation hdone
        rw [hnone] at hterminal
        cases hterminal
    · refine h.settled j c reservation terminal hold hstage hreservation ?_
      rw [← hterminals]
      · exact hterminal
      · intro own hown heq
        exact hne (h.held.unique j call c _ reservation own hold hcall hreservation hown heq)

theorem Capped.start (request : GrantExerciseRequest)
    (hheld : Held (AsksLimit limit unit) ⟨s.ledger,s.calls ++ [⟨request,.firstRead⟩],s.history ++ [ExecutionEvent.started s.calls.length request]⟩) :
    Capped P limit unit ⟨s.ledger,s.calls ++ [⟨request,.firstRead⟩],
      s.history ++ [ExecutionEvent.started s.calls.length request]⟩ := by
  have hold : ∀ (j : Nat) (c : ExerciseCall),
      (s.calls ++ [⟨request,.firstRead⟩])[j]? = some c → c.stage.spends = true → s.calls[j]? = some c := by
    intro j c hj hspends
    rcases ExerciseSystem.calls_start hj with hold | ⟨-,rfl⟩
    · exact hold
    · cases hspends
  refine ⟨hheld,h.bucket,h.unresolved,fun j c hj hspends => ?_,
    fun j c reservation terminal hj hspends => ?_⟩
  · exact h.reserved j c (hold j c hj hspends) hspends
  · exact h.settled j c reservation terminal (hold j c hj hspends) hspends

theorem Capped.reserve {exercisedAt : String} {answer : Option ExerciseReservationOutcome}
    (hcall : s.calls[call]? = some ⟨request,.reserving asked assessment exercisedAt⟩)
    (hresult : ReserveResult P s.ledger asked now answer ledger) :
    Capped P limit unit
      { s.move call request (.reserveAnswered asked answer assessment exercisedAt)
        (ExerciseSystem.reservedEvents call answer) with ledger := ledger } := by
  obtain ⟨-,-,hstates⟩ := h.held.asked call _ asked hcall rfl
  obtain ⟨amount,-,-,-,hstated⟩ := hstates
  refine h.moved hcall (h.held.reserve hcall hresult) ?_ ?_ ?_ (fun h => by cases h)
    (fun _ _ h => by cases h)
  · cases hresult with
    | unrecorded hnot => exact h.bucket
    | recorded hreserves hanswer =>
      refine h.bucket.reserved hreserves fun rule hrule hkey => ?_
      rw [hstated rule hrule hkey]
  · cases hresult <;> rfl
  · intro id _
    cases hresult <;> rfl

theorem Capped.finalize {reservation : ExerciseReservationHandle} {outcome : ExecutionOutcome}
    (hcall : s.calls[call]? = some ⟨request,.finalizing reservation outcome⟩)
    (hresult : FinalizeResult P s.ledger reservation.reservationId (reservationDispositionFor outcome).kind ledger) :
    Capped P limit unit { s.move call request (.done (some reservation) outcome) events with
      ledger := ledger } := by
  have hunsettled := h.held.unsettled call _ reservation hcall rfl rfl
  refine h.moved hcall (h.held.finalize hcall hresult) ?_ ?_ ?_ (fun _ => rfl) ?_
  · cases hresult with
    | retained => exact h.bucket
    | recorded ledgerCall terminal hid hkind hnone heffect hnot =>
      rw [← heffect]
      refine InMemoryLedger.bucketSound_after h.bucket
        (fun request now heq => absurd heq (hnot request now)) ?_
      rintro ⟨input,s',-,-,-,event,hevent,-⟩
      rw [h.unresolved] at hevent
      cases hevent
  · cases hresult <;> rfl
  · intro id hother
    cases hresult with
    | retained => rfl
    | recorded ledgerCall terminal hid hkind hnone heffect hnot =>
      rw [OrderedMap.get_set_of_get_none hnone,if_neg (hother reservation rfl)]
  · rintro _ terminal hspends ⟨⟩ - hterminal
    cases hresult with
    | retained =>
      rw [hunsettled] at hterminal
      cases hterminal
    | recorded ledgerCall recorded hid hkind hnone heffect hnot =>
      rw [OrderedMap.get_set_of_get_none hnone,if_pos rfl,some.injEq] at hterminal
      rw [← hterminal,hkind]
      -- an attempt that may have taken effect is settled, never released
      simp only [CallStage.spends,CallStage.outcome?,any_some,Bool.or_eq_true, beq_iff_eq] at hspends
      rcases hspends with hstatus | hstatus <;> rw [reservationDispositionFor,hstatus]

theorem Capped.step {s' : ExerciseSystem} {label : ExerciseStep}
    (hmeets : StepMeets P (AsksLimit limit unit) label) (heffect : StepEffect P s label s') :
    Capped P limit unit s' := by
  have hheld := h.held.step hmeets heffect
  cases heffect with
  | stay => exact h
  | start request => exact h.start request hheld
  | quiet call request stage stage' events hcall hquiet =>
    refine h.moved hcall hheld h.bucket rfl (fun _ _ => rfl) hquiet.spends ?_
    intro reservation terminal _ hreservation hdone
    rw [hquiet.done hdone] at hreservation
    cases hreservation
  | reserve call request asked assessment exercisedAt now answer ledger hcall hresult =>
    exact h.reserve hcall hresult
  | cross call request reservation grant revocation assessment at' hcall husable =>
    exact h.moved hcall hheld h.bucket rfl (fun _ _ => rfl) (fun h => by cases h)
      (fun _ _ h => by cases h)
  | finalize call request reservation outcome ledger hcall hresult =>
    exact h.finalize hcall hresult

end

/-- The record of the reservation that a call holds. -/
def ExerciseSystem.heldRecord (s : ExerciseSystem) (c : ExerciseCall) : Option ExerciseReservationRecord :=
  c.stage.reservation?.bind fun reservation =>
    s.ledger.reservations.get reservation.reservationId

theorem Capped.spending (h : Capped P limit unit s) {c : ExerciseCall} (hc : c ∈ s.calls)
    (hspends : c.stage.spends = true) :
    LimitWellFormed limit ∧ ∃ amount record, c.request.amount = some amount ∧ amount.unit = unit ∧
      s.heldRecord c = some record ∧ record ∈ s.ledger.reservations.values.filter s.ledger.consumes ∧
      InMemoryLedger.usageIn limit.limitId limit.scopeKey record = some amount.value := by
  obtain ⟨call,hcall⟩ := List.getElem?_of_mem hc
  obtain ⟨reservation,hreservation⟩ := isSome_iff_exists.1 (h.reserved call c hcall hspends)
  obtain ⟨record,hholding⟩ := h.held.holds call c reservation hcall hreservation
  obtain ⟨amount,hamount,hunit,hmem,hstated⟩ := hholding.asked.states
  have hid := h.held.ledger.keys _ _ hholding.recorded
  refine ⟨hholding.asked.wellFormed,amount,record,hamount,hunit,?_,?_,?_⟩
  · rw [ExerciseSystem.heldRecord,hreservation]
    exact hholding.recorded
  · refine mem_filter.2 ⟨OrderedMap.mem_values_iff.2 ⟨_,hholding.recorded⟩,?_⟩
    rw [InMemoryLedger.consumes,hid,h.unresolved]
    cases hterminal : s.ledger.terminals.get reservation.reservationId with
    | none => rfl
    | some terminal =>
      have hkind := h.settled call c reservation terminal hcall hspends hreservation hterminal
      change (some terminal.kind != some .released) = true
      rw [hkind]
      rfl
  · -- the first rule of the bucket is the one the gate wrote
    have hkey : ∀ rule ∈ record.rules, (rule.limit.limitId == limit.limitId &&
        rule.limit.scopeKey == limit.scopeKey) = true → rule = ⟨limit,amount.value⟩ := by
      intro rule hrule hsame
      rw [Bool.and_eq_true,beq_iff_eq,beq_iff_eq] at hsame
      exact hstated rule hrule (exerciseControlBucketKey_inj.2 hsame)
    have hfind : (record.rules.find? fun rule => rule.limit.limitId == limit.limitId &&
        rule.limit.scopeKey == limit.scopeKey).isSome = true := by
      rw [List.find?_isSome]
      exact ⟨_,hmem,by simp⟩
    obtain ⟨rule,hrule⟩ := isSome_iff_exists.1 hfind
    have hsame := List.find?_some hrule
    rw [InMemoryLedger.usageIn,hrule,hkey rule (mem_of_find?_eq_some hrule) hsame]
    rfl

theorem Capped.nodup_heldRecords (h : Capped P limit unit s) :
    ((s.calls.filter (·.stage.spends)).filterMap s.heldRecord).Nodup := by
  have hcalls : s.calls.Pairwise fun c c' => ∀ record, s.heldRecord c = some record →
      ∀ record', s.heldRecord c' = some record' → record ≠ record' := by
    rw [pairwise_iff_getElem]
    intro i j hi hj hlt record hrecord record' hrecord' heq
    obtain ⟨reservation,hreservation,hget⟩ := bind_eq_some_iff.1 hrecord
    obtain ⟨reservation',hreservation',hget'⟩ := bind_eq_some_iff.1 hrecord'
    refine absurd (h.held.unique i j _ _ reservation reservation' (List.getElem?_eq_getElem hi)
      (List.getElem?_eq_getElem hj) hreservation hreservation' ?_) (Nat.ne_of_lt hlt)
    rw [← h.held.ledger.keys _ _ hget,← h.held.ledger.keys _ _ hget',heq]
  rw [List.Nodup,pairwise_filterMap]
  exact hcalls.filter _

theorem Capped.sum_le (h : Capped P limit unit s)
    (hmeasure : limit.measure = .amount maximum unit) (hwindow : limit.window = .lifetime) :
    (s.spentAmounts.map fun amount => decimalValue amount.value).sum ≤ decimalValue maximum := by
  by_cases hnone : s.calls.filter (·.stage.spends) = []
  · rw [ExerciseSystem.spentAmounts,hnone]
    exact decimalValue_nonneg maximum
  obtain ⟨first,hfirst⟩ := exists_mem_of_ne_nil _ hnone
  obtain ⟨hfirst,hspends⟩ := mem_filter.1 hfirst
  obtain ⟨hwell,-⟩ := h.spending hfirst hspends
  have hlimit := h.bucket.limitHolds hwell
  rw [InMemoryLedger.LimitHolds,hwindow] at hlimit
  simp only [InMemoryLedger.WithinMaximum,hmeasure,InMemoryLedger.consumingUsages, filter_true] at hlimit
  have husages : (s.spentAmounts.map fun amount => decimalValue amount.value) =
      (((s.calls.filter (·.stage.spends)).filterMap s.heldRecord).filterMap
        (InMemoryLedger.usageIn limit.limitId limit.scopeKey)).map decimalValue := by
    rw [ExerciseSystem.spentAmounts,filterMap_filterMap,map_filterMap,map_filterMap]
    refine filterMap_congr fun c hc => ?_
    obtain ⟨hc,hspends⟩ := mem_filter.1 hc
    obtain ⟨-,amount,record,hamount,-,hrecord,-,husage⟩ := h.spending hc hspends
    rw [hamount,hrecord,bind_some,husage]
    rfl
  rw [husages]
  refine le_trans (sum_filterMap_le_of_subset decimalValue_nonneg h.nodup_heldRecords ?_) hlimit
  intro record hrecord
  obtain ⟨c,hc,hheld⟩ := mem_filterMap.1 hrecord
  obtain ⟨hc,hspends⟩ := mem_filter.1 hc
  obtain ⟨-,amount,record',-,-,hrecord',hconsuming,-⟩ := h.spending hc hspends
  rw [hheld,some.injEq] at hrecord'
  rw [hrecord']
  exact hconsuming

/-- In every interleaving of exercise calls whose policy always names one lifetime amount
limit, the attempts that may have taken effect carry amounts in its unit, and these sum to
its maximum at most. -/
theorem spendingCap_holds (P : Platform) (adapterIsTrustedRegistry : Bool)
    (limitId scopeKey maximum unit : String) (steps : List ExerciseStep)
    (hpolicy : ∀ call reading clock host, .firstRead call reading clock host ∈ steps →
      ∀ query raw, host.policy query = some raw → ⟨limitId,scopeKey,.amount maximum unit,.lifetime⟩ ∈ raw) :
    (∀ c ∈ (ExerciseSystem.run P adapterIsTrustedRegistry steps).calls, c.stage.spends = true →
      ∃ amount, c.request.amount = some amount ∧ amount.unit = unit) ∧
    ((ExerciseSystem.run P adapterIsTrustedRegistry steps).spentAmounts.map fun amount =>
      decimalValue amount.value).sum ≤ decimalValue maximum := by
  have hcapped : Capped P ⟨limitId,scopeKey,.amount maximum unit,.lifetime⟩ unit
      (ExerciseSystem.run P adapterIsTrustedRegistry steps) := by
    refine ExerciseSystem.run_induction adapterIsTrustedRegistry steps capped_empty ?_
    intro s label hlabel s' hcapped heffect
    refine hcapped.step ?_ heffect
    rintro call reading clock host request grant at' asked rfl hadmits
    exact asksLimit_of_admits rfl (hpolicy call reading clock host hlabel) hadmits
  refine ⟨fun c hc hspends => ?_,hcapped.sum_le rfl rfl⟩
  obtain ⟨-,amount,record,hamount,hunit,-⟩ := hcapped.spending hc hspends
  exact ⟨amount,hamount,hunit⟩

/-- A call alone whose reads are usable and whose gate admits it, when the adapter completes
and the ledger raises before it settles. -/
theorem calls_of_completed {trusted : Bool} {reading : StoreReading} {recordedAt : String}
    {host : ExecutionHost} {record : ExerciseReservationRecord}
    (hread : assessReading P request reading at' = (assessment, some grant))
    (hclear : readEmergencyControl host.emergencyControl (emergencyQueryFor request grant) = .clear)
    (hadmitted : admitExercise P host.toExerciseControlHost (exerciseControlInputFor request grant at') = .reserve asked)
    (hreserve : InMemoryLedger.empty.reserve P asked now = .ok (.reserved record, ledger))
    (hverified : revalidate P host.toExerciseControlHost ⟨asked.reservationId,asked.authorityBindingDigest⟩ (exerciseControlInputFor request grant at') = .verified) :
    (ExerciseSystem.run P trusted [.start request, .firstRead 0 reading (some at') host,
      .reserve 0 now .none, .reserveAnswer 0, .secondRead 0 reading (some at') host,
      .adapterAnswer 0 .completed, .finalize 0 (some recordedAt) .before]).calls =
      [⟨request,.done (some ⟨asked.reservationId,asked.authorityBindingDigest⟩)
        ⟨.executed,assessment,correlationOf request,at'⟩⟩] := by
  have hanswer : ExerciseSystem.reserveWith P .empty asked now .none =
      (some (.reserved record), ledger) := by
    delta ExerciseSystem.reserveWith
    simp only [hreserve]
  simp only [ExerciseSystem.run,foldl_cons,foldl_nil,ExerciseSystem.step,
    ExerciseSystem.empty,nil_append,List.getElem?_cons_zero,afterFirstRead,hread,hclear,
    hadmitted,ExerciseSystem.move,set_cons_zero,hanswer,
    afterReserve,admissionFrom,afterSecondRead,hverified,executionStatus]

/-! ## A sample attempt

One call runs to its outcome, and the ledger raises when it is asked to settle. -/

def sampleExerciseDigests : List (String × String) :=
  [("\x7b\"amount\":\x7b\"unit\":\"USD\",\"value\":\"40.5\"\x7d,\"action\":\"payment.execute\"," ++
      "\"boundedGrantId\":\"grant-1\",\"correlation\":\x7b\"action\":\"payment.execute\"," ++
      "\"decisionId\":\"decision-1\",\"requestId\":\"request-1\"," ++
      "\"resourceScope\":\"invoice-1\"\x7d,\"executionId\":\"exec-1\"," ++
      "\"resource\":\"invoice-1\",\"subject\":\"agent-1\"\x7d",
      "68b378c92c89834c955fa098e36cb42d0d50eade9167774470a93131684048ac"),
    ("\x7b\"authorityBindingDigest\":\"" ++ sampleRequest.authorityBindingDigest ++
      "\",\"correlation\":\x7b\"action\":\"payment.execute\",\"decisionId\":\"decision-1\"," ++
      "\"requestId\":\"request-1\",\"resourceScope\":\"invoice-1\"\x7d,\"digest\":\"\"," ++
      "\"expiresAt\":\"2026-01-01T00:00:01.000Z\",\"id\":\"grant-1\"," ++
      "\"issuedAt\":\"2026-01-01T00:00:00.000Z\",\"scope\":\x7b\"action\":" ++
      "\x7b\"kind\":\"identity\",\"value\":\"payment.execute\"\x7d,\"amount\":" ++
      "\x7b\"kind\":\"ceiling\",\"limit\":\"100\",\"unit\":\"USD\"\x7d,\"resources\":" ++
      "\x7b\"kind\":\"set\",\"values\":[\"invoice-1\",\"invoice-2\"]\x7d\x7d,\"sourceDigest\":" ++
      "\"sha256:70ec09f93a846fd39b0ecb575c164a10204e41f0a82ecb40694b0636e0b166a9\"," ++
      "\"subject\":\"agent-1\"\x7d",
      "a8b68c259293ae82296358406b1b0035b25d21cbbf69a3b494efc610c85232a0")]

def sampleExercisePlatform : Platform := tabulatedPlatform (sampleDigests ++ sampleExerciseDigests)

def sampleUnsealedGrant : BoundedGrant where
  id := "grant-1"
  correlation := sampleCorrelation
  subject := "agent-1"
  scope := sampleScope
  issuedAt := sampleInstant
  expiresAt := sampleLaterInstant
  sourceDigest := "sha256:70ec09f93a846fd39b0ecb575c164a10204e41f0a82ecb40694b0636e0b166a9"
  authorityBindingDigest := some sampleRequest.authorityBindingDigest
  semanticsFormat := none
  digest := ""

def sampleGrant : BoundedGrant :=
  { sampleUnsealedGrant with digest := boundedGrantDigest sampleExercisePlatform sampleUnsealedGrant }

def sampleHost : ExecutionHost where
  classify _ := some .financial
  authorityBinding _ := some sampleRequest.authorityBindingDigest
  policy _ := some [sampleLimit]
  emergencyControl := none

def sampleReading : StoreReading := .answered (some sampleGrant) none

def sampleSteps : List ExerciseStep :=
  [.start sampleAttempt, .firstRead 0 sampleReading (some sampleInstant) sampleHost,
    .reserve 0 sampleInstant .none, .reserveAnswer 0,
    .secondRead 0 sampleReading (some sampleInstant) sampleHost, .adapterAnswer 0 .completed,
    .finalize 0 (some sampleLaterInstant) .before]

def sampleAsked : ExerciseReservationRequest :=
  { sampleRequest with
    requestDigest := "sha256:68b378c92c89834c955fa098e36cb42d0d50eade9167774470a93131684048ac"
    rules := [⟨sampleLimit,"40.5"⟩] }

def sampleAssessment : BoundedGrantExerciseAssessment :=
  ⟨true,[],"grant-1",sampleCorrelation,"exec-1"⟩

def sampleHandle : ExerciseReservationHandle :=
  ⟨sampleAsked.reservationId,sampleAsked.authorityBindingDigest⟩

theorem sampleReading_usable :
    assessReading sampleExercisePlatform sampleAttempt sampleReading sampleInstant =
      (sampleAssessment, some sampleGrant) := by
  have hdigest : boundedGrantDigestMatches sampleExercisePlatform sampleGrant = true :=
    beq_self_eq_true _
  have hcodes : exerciseReasonCodes sampleExercisePlatform sampleGrant none sampleAttempt
      sampleInstant = [] := by
    rw [exerciseReasonCodes,hdigest]
    decide
  have hwell : isWellFormedGrantExerciseRequest sampleAttempt = true := by decide
  simp only [assessReading,sampleReading,assessBoundedGrantExercise,hwell,hcodes]
  rfl

def sampleInput : ExerciseControlAdmissionInput :=
  exerciseControlInputFor sampleAttempt sampleGrant sampleInstant

def sampleRequestText : String :=
  "\x7b\"amount\":\x7b\"unit\":\"USD\",\"value\":\"40.5\"\x7d,\"action\":\"payment.execute\"," ++
    "\"boundedGrantId\":\"grant-1\",\"correlation\":\x7b\"action\":\"payment.execute\"," ++
    "\"decisionId\":\"decision-1\",\"requestId\":\"request-1\"," ++
    "\"resourceScope\":\"invoice-1\"\x7d,\"executionId\":\"exec-1\"," ++
    "\"resource\":\"invoice-1\",\"subject\":\"agent-1\"\x7d"

theorem sampleCorrelation_text : serializeGrantCorrelation sampleCorrelation =
    "\"action\":\"payment.execute\",\"decisionId\":\"decision-1\"," ++
      "\"requestId\":\"request-1\",\"resourceScope\":\"invoice-1\"" := by
  have haction := append_literal (t := stringify "payment.execute") (s := "\"action\":") rfl
    (stringify_literal rfl)
  have hdecision := append_literal (t := stringify "decision-1") (s := "\"decisionId\":") rfl
    (stringify_literal rfl)
  have hrequest := append_literal (t := stringify "request-1") (s := "\"requestId\":") rfl
    (stringify_literal rfl)
  have hscope := append_literal (t := stringify "invoice-1") (s := "\"resourceScope\":") rfl
    (stringify_literal rfl)
  exact append_eq_literal (append_literal haction rfl)
    (append_literal (append_literal hdecision rfl)
      (append_literal (append_literal hrequest rfl) hscope)) (append_literal rfl rfl) rfl

set_option maxRecDepth 2000 in
theorem sampleAttempt_text :
    "\x7b" ++ join "," ["\"amount\":\x7b\"unit\":" ++ stringify "USD" ++ ",\"value\":" ++
        stringify "40.5" ++ "\x7d",
      "\"action\":" ++ stringify "payment.execute",
      "\"boundedGrantId\":" ++ stringify "grant-1",
      "\"correlation\":\x7b" ++ serializeGrantCorrelation sampleCorrelation ++ "\x7d",
      "\"executionId\":" ++ stringify "exec-1",
      "\"resource\":" ++ stringify "invoice-1",
      "\"subject\":" ++ stringify "agent-1"] ++ "\x7d" = sampleRequestText := by
  have hamount := append_literal (append_literal (append_literal (append_literal
    (t := stringify "USD") (s := "\"amount\":\x7b\"unit\":") rfl (stringify_literal rfl))
      (t := ",\"value\":") rfl) (t := stringify "40.5") (stringify_literal rfl)) (t := "\x7d") rfl
  have haction := append_literal (t := stringify "payment.execute") (s := "\"action\":") rfl
    (stringify_literal rfl)
  have hgrant := append_literal (t := stringify "grant-1") (s := "\"boundedGrantId\":") rfl
    (stringify_literal rfl)
  have hcorrelation := append_literal (append_literal (s := "\"correlation\":\x7b") rfl
    (sampleCorrelation_text.trans (append_literal rfl rfl))) (t := "\x7d") rfl
  have hexecution := append_literal (t := stringify "exec-1") (s := "\"executionId\":") rfl
    (stringify_literal rfl)
  have hresource := append_literal (t := stringify "invoice-1") (s := "\"resource\":") rfl
    (stringify_literal rfl)
  have hsubject := append_literal (t := stringify "agent-1") (s := "\"subject\":") rfl
    (stringify_literal rfl)
  have hfields := append_literal (append_literal hamount (t := ",") rfl)
    (append_literal (append_literal haction (t := ",") rfl)
      (append_literal (append_literal hgrant (t := ",") rfl)
        (append_literal (append_literal hcorrelation (t := ",") rfl)
          (append_literal (append_literal hexecution (t := ",") rfl)
            (append_literal (append_literal hresource (t := ",") rfl) hsubject)))))
  exact append_eq_literal (append_literal rfl hfields) rfl
    (append_literal (append_literal (append_literal (append_literal rfl rfl) rfl) rfl) rfl) rfl

theorem sampleAttempt_requestDigest :
    exerciseReservationRequestDigest sampleExercisePlatform (queryFor sampleInput .financial)
      "exec-1" = sampleAsked.requestDigest := by
  have hspelled : sampleRequestText = String.ofList _ :=
    append_literal (append_literal (append_literal (append_literal rfl rfl) rfl) rfl) rfl
  have hgrant : "\x7b\"boundedGrantId\":\"grant-1\",\"executionId\":\"exec-1\"\x7d" ≠
      sampleRequestText := ne_of_literals rfl hspelled (by decide)
  have hsecond : "\x7b\"boundedGrantId\":\"grant-1\",\"executionId\":\"exec-2\"\x7d" ≠
      sampleRequestText := ne_of_literals rfl hspelled (by decide)
  have hpolicy : "[\x7b\"limitId\":\"daily-usd\",\"maximum\":\"100\",\"metric\":\"amount\"," ++
      "\"scopeKey\":\"treasury\",\"unit\":\"USD\",\"window\":\x7b\"kind\":\"lifetime\"\x7d\x7d]" ≠
        sampleRequestText := ne_of_literals (append_literal rfl rfl) hspelled (by decide)
  have hdigest := (tabulatedPlatform_sha256 (sampleDigests ++ sampleExerciseDigests) _).trans
    ((tabulatedHash_tail hgrant).trans ((tabulatedHash_tail hsecond).trans
      ((tabulatedHash_tail hpolicy).trans (tabulatedHash_head sampleRequestText _ _))))
  have hown : exerciseReservationRequestDigest sampleExercisePlatform (queryFor sampleInput .financial)
      "exec-1" = "sha256:" ++ sampleExercisePlatform.sha256 sampleRequestText :=
    congrArg sampleExercisePlatform.digestOf sampleAttempt_text
  rw [hown]
  exact (congrArg ("sha256:" ++ ·) hdigest).trans (append_eq_literal rfl rfl rfl rfl)

theorem sampleBinding_verified (query : ExerciseControlQuery) :
    verifyExerciseAuthorityBinding sampleInput.grant.authorityBindingDigest
      sampleHost.authorityBinding query = .verified := by
  have hdigest : isWellFormedExerciseDigest sampleRequest.authorityBindingDigest = true :=
    isWellFormedExerciseDigest_literal rfl rfl rfl
  have hgrant : sampleInput.grant.authorityBindingDigest = some sampleRequest.authorityBindingDigest := rfl
  have hhost : sampleHost.authorityBinding query = some sampleRequest.authorityBindingDigest := rfl
  simp only [verifyExerciseAuthorityBinding,hgrant,hhost,hdigest,Bool.not_true,
    Bool.false_eq_true,if_false,if_true]

theorem sampleAttempt_admitted :
    admitExercise sampleExercisePlatform sampleHost.toExerciseControlHost sampleInput =
      .reserve sampleAsked := by
  have hwell : (sampleInput.attempt.amount.any fun amount =>
      !(isWellFormedMonetaryAmount amount &&
        isCanonicalExerciseDecimal amount.value exerciseDecimalUsageDigits)) = false := by decide
  have hlimits : (sampleHost.policy (queryFor sampleInput .financial)).bind
      snapshotExerciseControlLimits = some [sampleLimit] := sampleRules_snapshot
  have hgrant : sampleInput.grant.authorityBindingDigest = some sampleAsked.authorityBindingDigest := rfl
  have hid : exerciseReservationId sampleExercisePlatform sampleInput.grant.id
      sampleInput.executionId = sampleAsked.reservationId :=
    sampleRequest_reservationId_of sampleExerciseDigests
  have hrequest : exerciseReservationRequestDigest sampleExercisePlatform
      (queryFor sampleInput .financial) sampleInput.executionId = sampleAsked.requestDigest :=
    sampleAttempt_requestDigest
  have hpolicy : exerciseControlPolicyDigest sampleExercisePlatform [sampleLimit] =
      sampleAsked.policyDigest := sampleLimit_policyDigest_of sampleExerciseDigests
  have hclass : sampleHost.classify sampleInput.grant.correlation.action = some .financial := rfl
  have hreading : readLimit sampleInput.attempt.amount sampleLimit = .rule ⟨sampleLimit,"40.5"⟩ := by
    decide
  have hbinding := sampleBinding_verified (queryFor sampleInput .financial)
  rw [hgrant] at hbinding
  simp only [admitExercise,hclass,hwell,hgrant,hbinding,hlimits,map_cons,map_nil,
    hreading,hid,hrequest,hpolicy,Bool.false_eq_true,if_false]
  rfl

theorem sampleHandle_verified :
    revalidate sampleExercisePlatform sampleHost.toExerciseControlHost sampleHandle sampleInput =
      .verified := by
  have hid : exerciseReservationId sampleExercisePlatform sampleInput.grant.id
      sampleInput.executionId = sampleHandle.reservationId :=
    sampleRequest_reservationId_of sampleExerciseDigests
  have hclass : sampleHost.classify sampleInput.grant.correlation.action = some .financial := rfl
  have hgrant : sampleInput.grant.authorityBindingDigest = some sampleHandle.authorityBindingDigest := rfl
  rw [revalidate,if_neg (not_not.2 hid),hclass]
  simp only
  simp only [sampleBinding_verified]
  rw [if_neg (not_not.2 hgrant)]

def sampleHeld : InMemoryLedger :=
  ⟨OrderedMap.empty.set sampleAsked.reservationId ⟨sampleAsked,sampleInstant⟩,.empty,.empty⟩

theorem sampleAsked_reserved :
    InMemoryLedger.empty.reserve sampleExercisePlatform sampleAsked sampleInstant =
      .ok (.reserved ⟨sampleAsked,sampleInstant⟩, sampleHeld) := by
  have hwell : isWellFormedExerciseReservationRequest sampleExercisePlatform sampleAsked = true :=
    wellFormed_of_sampleRules (ne_of_literals rfl rfl (cons_ne_nil _ _))
      (ne_of_literals rfl rfl (cons_ne_nil _ _))
      (sampleRequest_reservationId_of sampleExerciseDigests)
      (isWellFormedExerciseDigest_literal rfl rfl rfl)
      (isWellFormedExerciseDigest_literal rfl rfl rfl)
      (sampleLimit_policyDigest_of sampleExerciseDigests) rfl rfl (by decide)
  exact InMemoryLedger.reserve_of_admitted hwell (by decide) rfl rfl (by decide +kernel)

theorem spendingCap_holds_sample :
    (ExerciseSystem.run sampleExercisePlatform false sampleSteps).spentAmounts = [⟨"40.5","USD"⟩] ∧
      (∀ c ∈ (ExerciseSystem.run sampleExercisePlatform false sampleSteps).calls,
        c.stage.spends = true → ∃ amount, c.request.amount = some amount ∧ amount.unit = "USD") ∧
      ((ExerciseSystem.run sampleExercisePlatform false sampleSteps).spentAmounts.map fun amount =>
        decimalValue amount.value).sum ≤ decimalValue "100" := by
  refine ⟨?_,spendingCap_holds sampleExercisePlatform false "daily-usd" "treasury" "100" "USD"
    sampleSteps ?_⟩
  · rw [ExerciseSystem.spentAmounts,sampleSteps,calls_of_completed sampleReading_usable rfl
      sampleAttempt_admitted sampleAsked_reserved sampleHandle_verified]
    rfl
  · intro call reading clock host hmem query raw hraw
    simp only [sampleSteps,mem_cons,reduceCtorEq,ExerciseStep.firstRead.injEq,
      not_mem_nil,or_false,false_or] at hmem
    obtain ⟨-,-,-,rfl⟩ := hmem
    cases hraw
    exact List.mem_singleton.2 rfl

end Frontera.Execution
