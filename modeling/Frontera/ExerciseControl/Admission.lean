import Frontera.ExerciseControl.Reservation
import Mathlib.Algebra.BigOperators.Group.List.Basic
import Mathlib.Algebra.Order.BigOperators.Group.List

/-! The pure rule both ledgers admit a reservation under: the verdict of one bucket over its active
usage, and the admission of a whole request. The verdict is characterized by exact values, so that
it does not depend on the order in which a ledger lists the usage it read. -/

namespace Frontera.ExerciseControl

open Frontera.Monetary Frontera.Text List

inductive ExerciseControlReasonCode where
  | policyInvalid | ledgerUnavailable | limitExceeded | amountRequired | unitMismatch
  | executionAlreadyReserved | reservationConflict | authorityBindingUnverifiable
  | authorityBindingChanged | actionClassMismatch
deriving DecidableEq

inductive ExerciseControlLedgerErrorCode where
  | unavailable | stateCorrupt | inputInvalid
deriving DecidableEq

/-- What a ledger call can raise. -/
inductive LedgerThrow where
  | typeError (message : String)
  | rangeError (error : RangeError)
  | ledgerError (code : ExerciseControlLedgerErrorCode) (message : String)
  /-- A database constraint refused a statement. -/
  | constraint (table : String)
deriving DecidableEq

def LedgerThrow.ofRange {α : Type} : Except RangeError α → Except LedgerThrow α
  | .ok a => .ok a
  | .error e => .error (.rangeError e)

@[simp] theorem LedgerThrow.ofRange_ok {α : Type} (a : α) : ofRange (.ok a) = .ok a := rfl

/-- Usage recorded under one bucket; `none` is an instant that could not be read. -/
structure ExerciseControlActiveUsage where
  metric : ExerciseControlMetric
  unit : Option String
  usage : String
  reservedAtMs : Option Int

inductive ExerciseControlRuleVerdict where
  | within | exceeded | unitMismatch
deriving DecidableEq

/-- An entry whose age cannot be read is counted; against an unreadable threshold
no readable instant compares as later. -/
def inWindow (window : ExerciseControlWindow) (atMs : Option Int)
    (entry : ExerciseControlActiveUsage) : Bool :=
  match window with
  | .lifetime => true
  | .rolling seconds =>
      match entry.reservedAtMs, atMs with
      | none, _ => true
      | some reservedAtMs, some atMs => decide (reservedAtMs > atMs - seconds * 1000)
      | some _, none => false

/-- The summation loop; `none` is the early `unit-mismatch` answer. -/
def totalUsage (unit : String) (total : String) :
    List ExerciseControlActiveUsage → Except RangeError (Option String)
  | [] => .ok (some total)
  | entry :: rest =>
      if entry.metric ≠ .amount ∨ entry.unit ≠ some unit ∨
          isCanonicalExerciseDecimal entry.usage exerciseDecimalUsageDigits = false then .ok none
      else
        match addExerciseDecimals total entry.usage with
        | .error e => .error e
        | .ok total => totalUsage unit total rest

def exerciseControlRuleVerdict (rule : ExerciseControlRuleUsage)
    (active : List ExerciseControlActiveUsage) (atMs : Option Int) :
    Except RangeError ExerciseControlRuleVerdict :=
  let windowed := active.filter (inWindow rule.limit.window atMs)
  match rule.limit.measure with
  | .count maximum => .ok (if (windowed.length : Int) + 1 ≤ maximum then .within else .exceeded)
  | .amount maximum unit =>
      match totalUsage unit rule.usage windowed with
      | .error e => .error e
      | .ok none => .ok .unitMismatch
      | .ok (some total) =>
          match compareExerciseDecimals total maximum with
          | .error e => .error e
          | .ok order => .ok (if order.isLE then .within else .exceeded)

structure RefusedBucket where
  (limitId scopeKey : String)
deriving DecidableEq

inductive ExerciseReservationAdmission where
  | admitted
  | refused (reasonCodes : List ExerciseControlReasonCode) (refusedBuckets : List RefusedBucket)
deriving DecidableEq

/-- The verdicts of the rules, in rule order. -/
def ruleVerdicts (atMs : Option Int)
    (activeUsageFor : ExerciseControlRuleUsage → Except LedgerThrow (List ExerciseControlActiveUsage)) :
    List ExerciseControlRuleUsage →
      Except LedgerThrow (List (ExerciseControlRuleUsage × ExerciseControlRuleVerdict))
  | [] => .ok []
  | rule :: rest =>
      match activeUsageFor rule with
      | .error e => .error e
      | .ok active =>
          match LedgerThrow.ofRange (exerciseControlRuleVerdict rule active atMs) with
          | .error e => .error e
          | .ok verdict =>
              match ruleVerdicts atMs activeUsageFor rest with
              | .error e => .error e
              | .ok verdicts => .ok ((rule, verdict) :: verdicts)

/-- The answer over the collected verdicts, the reason codes in their stable order. -/
def admissionOf (verdicts : List (ExerciseControlRuleUsage × ExerciseControlRuleVerdict)) :
    ExerciseReservationAdmission :=
  let mismatch := verdicts.any fun v => v.2 == .unitMismatch
  let exceeded := verdicts.any fun v => v.2 == .exceeded
  if !mismatch && !exceeded then .admitted
  else .refused
    ((if mismatch then [.unitMismatch] else []) ++ if exceeded then [.limitExceeded] else [])
    ((verdicts.filter fun v => v.2 != .within).map fun v =>
      ⟨v.1.limit.limitId,v.1.limit.scopeKey⟩)

def assessExerciseReservationAdmission (P : Platform) (request : ExerciseReservationRequest)
    (reservedAt : String)
    (activeUsageFor : ExerciseControlRuleUsage → Except LedgerThrow (List ExerciseControlActiveUsage)) :
    Except LedgerThrow ExerciseReservationAdmission :=
  match ruleVerdicts (P.dateParse reservedAt) activeUsageFor request.rules with
  | .error e => .error e
  | .ok verdicts => .ok (admissionOf verdicts)

inductive ExerciseReservationOutcome where
  | reserved (reservation : ExerciseReservationRecord)
  | alreadyReserved (reservation : ExerciseReservationRecord)
  | conflict
  | refused (reasonCodes : List ExerciseControlReasonCode) (refusedBuckets : List RefusedBucket)

/-- The usage one reservation records under the bucket of its rule. -/
def activeUsageOf (P : Platform) (recorded : ExerciseControlRuleUsage) (reservedAt : String) :
    ExerciseControlActiveUsage where
  metric := recorded.limit.metric
  unit := recorded.limit.unit
  usage := recorded.usage
  reservedAtMs := P.dateParse reservedAt

/-- The entry can be summed in this unit. -/
def Summable (unit : String) (entry : ExerciseControlActiveUsage) : Prop :=
  entry.metric = .amount ∧ entry.unit = some unit ∧
    isCanonicalExerciseDecimal entry.usage exerciseDecimalUsageDigits = true

instance (unit : String) : DecidablePred (Summable unit) := fun entry => by
  unfold Summable
  infer_instance

def usageValue (entry : ExerciseControlActiveUsage) : ℚ := decimalValue entry.usage

theorem matches_of_isCanonical {value : String} {digits : Nat}
    (h : isCanonicalExerciseDecimal value digits = true) :
    matchesCanonicalDecimal value = true := by
  simp only [isCanonicalExerciseDecimal,isCanonicalDecimal,Bool.and_eq_true] at h
  exact h.1

theorem totalUsage_spec (unit : String) {total : String}
    (entries : List ExerciseControlActiveUsage) (h : matchesCanonicalDecimal total = true) :
    ((∀ entry ∈ entries, Summable unit entry) ∧
      ∃ sum, totalUsage unit total entries = .ok (some sum) ∧ matchesCanonicalDecimal sum = true ∧
        decimalValue sum = decimalValue total + (entries.map usageValue).sum) ∨
    ((∃ entry ∈ entries, ¬ Summable unit entry) ∧ totalUsage unit total entries = .ok none) := by
  induction entries generalizing total with
  | nil => exact .inl ⟨by simp,total,rfl,h,by simp⟩
  | cons entry entries ih =>
    by_cases hentry : Summable unit entry
    · obtain ⟨hmetric,hunit,hcanonical⟩ := id hentry
      obtain ⟨sum,hadd,hsum,hvalue⟩ :=
        addCanonicalDecimals_spec h (matches_of_isCanonical hcanonical)
      have hstep : totalUsage unit total (entry :: entries) = totalUsage unit sum entries := by
        simp [totalUsage,hmetric,hunit,hcanonical,addExerciseDecimals,hadd]
      rw [hstep]
      rcases ih hsum with ⟨hall,total',htotal,hmatch,hvalue'⟩ | ⟨⟨bad,hbad,hnot⟩,hnone⟩
      · refine .inl ⟨by simpa [hentry] using hall,total',htotal,hmatch,?_⟩
        rw [hvalue',hvalue,map_cons,sum_cons,usageValue,add_assoc]
      · exact .inr ⟨⟨bad,mem_cons_of_mem _ hbad,hnot⟩,hnone⟩
    · refine .inr ⟨⟨entry,by simp,hentry⟩,?_⟩
      have hcond : entry.metric ≠ .amount ∨ entry.unit ≠ some unit ∨
          isCanonicalExerciseDecimal entry.usage exerciseDecimalUsageDigits = false := by
        by_contra hcontra
        push Not at hcontra
        exact hentry ⟨hcontra.1,hcontra.2.1,by simpa using hcontra.2.2⟩
      simp [totalUsage,hcond]

/-- The rule's limit and usage are within the contract. -/
structure RuleWellFormed (rule : ExerciseControlRuleUsage) : Prop where
  limit : LimitWellFormed rule.limit
  amount_usage : rule.limit.metric = .amount → matchesCanonicalDecimal rule.usage = true

variable {request : ExerciseReservationRequest} {windowed : List ExerciseControlActiveUsage}
  {activeUsageFor : ExerciseControlRuleUsage → Except LedgerThrow (List ExerciseControlActiveUsage)}
  {active : ExerciseControlRuleUsage → List ExerciseControlActiveUsage} {P : Platform}
  {reservedAt : String}
  {usage : ExerciseControlRuleUsage → Except LedgerThrow (List ExerciseControlActiveUsage)}

theorem RequestRules.rule (h : RequestRules request) {rule : ExerciseControlRuleUsage}
    (hrule : rule ∈ request.rules) : RuleWellFormed rule :=
  ⟨h.limits rule hrule,fun hmetric => matches_of_isCanonical (h.amount_usage rule hrule hmetric)⟩

/-- The bucket has room for the rule's own usage beside the windowed entries. -/
def Fits (rule : ExerciseControlRuleUsage) (windowed : List ExerciseControlActiveUsage) : Prop :=
  match rule.limit.measure with
  | .count maximum => (windowed.length : Int) + 1 ≤ maximum
  | .amount maximum unit =>
      (∀ entry ∈ windowed, Summable unit entry) ∧
        decimalValue rule.usage + (windowed.map usageValue).sum ≤ decimalValue maximum

/-- The verdict the windowed entries call for, in whatever order they are listed. -/
noncomputable def verdictOf (rule : ExerciseControlRuleUsage)
    (windowed : List ExerciseControlActiveUsage) : ExerciseControlRuleVerdict :=
  open Classical in
  if Fits rule windowed then .within
  else
    match rule.limit.measure with
    | .count _ => .exceeded
    | .amount _ unit => if ∀ entry ∈ windowed, Summable unit entry then .exceeded else .unitMismatch

theorem exerciseControlRuleVerdict_eq {rule : ExerciseControlRuleUsage}
    (h : RuleWellFormed rule) (active : List ExerciseControlActiveUsage) (atMs : Option Int) :
    exerciseControlRuleVerdict rule active atMs =
      .ok (verdictOf rule (active.filter (inWindow rule.limit.window atMs))) := by
  generalize hwindowed : active.filter (inWindow rule.limit.window atMs) = windowed
  unfold exerciseControlRuleVerdict verdictOf Fits
  rw [hwindowed]
  cases hmeasure : rule.limit.measure with
  | count maximum => by_cases hfits : (windowed.length : Int) + 1 ≤ maximum <;> simp [hfits]
  | amount maximum unit =>
    have husage := h.amount_usage (by simp [ExerciseControlLimit.metric,hmeasure])
    have hmaximum := h.limit.amount_canonical maximum unit hmeasure
    rcases totalUsage_spec unit windowed husage with
      ⟨hall,total,htotal,hmatch,hvalue⟩ | ⟨⟨bad,hbad,hnot⟩,hnone⟩
    · obtain ⟨order,hcompare,horder⟩ := compareCanonicalDecimals_spec hmatch hmaximum
      have hall' : (∀ entry ∈ windowed, Summable unit entry) = True := eq_true hall
      simp only [htotal,compareExerciseDecimals,hcompare,hall',true_and,if_true,← hvalue, ← horder]
    · have hfail : ¬ ∀ entry ∈ windowed, Summable unit entry := fun hall => hnot (hall bad hbad)
      simp [hnone,hfail]

theorem verdictOf_eq_within_iff {rule : ExerciseControlRuleUsage} :
    verdictOf rule windowed = .within ↔ Fits rule windowed := by
  unfold verdictOf
  split_ifs with hfits
  · simp [hfits]
  · cases rule.limit.measure with
    | count maximum => simp [hfits]
    | amount maximum unit =>
      simp only [hfits,iff_false]
      split_ifs <;> simp

theorem verdictOf_perm {rule : ExerciseControlRuleUsage}
    {windowed' : List ExerciseControlActiveUsage} (h : windowed.Perm windowed') :
    verdictOf rule windowed = verdictOf rule windowed' := by
  have hall : ∀ unit, (∀ entry ∈ windowed, Summable unit entry) ↔
      ∀ entry ∈ windowed', Summable unit entry := fun unit =>
    forall_congr' fun entry => by rw [h.mem_iff]
  have hsum := (h.map usageValue).sum_eq
  have hlength := h.length_eq
  unfold verdictOf Fits
  cases rule.limit.measure <;> simp only [hall,hsum,hlength]

theorem ruleVerdicts_ok {atMs : Option Int} {rules : List ExerciseControlRuleUsage}
    (hrules : ∀ rule ∈ rules, RuleWellFormed rule)
    (hactive : ∀ rule ∈ rules, activeUsageFor rule = .ok (active rule)) :
    ruleVerdicts atMs activeUsageFor rules = .ok (rules.map fun rule =>
      (rule, verdictOf rule ((active rule).filter (inWindow rule.limit.window atMs)))) := by
  induction rules with
  | nil => rfl
  | cons rule rules ih =>
    have hrest := ih (fun r hr => hrules r (by simp [hr])) (fun r hr => hactive r (by simp [hr]))
    simp [ruleVerdicts,hactive rule (by simp), exerciseControlRuleVerdict_eq (hrules rule (by simp)),hrest]

theorem admissionOf_eq_admitted_iff
    {verdicts : List (ExerciseControlRuleUsage × ExerciseControlRuleVerdict)} :
    admissionOf verdicts = .admitted ↔ ∀ v ∈ verdicts, v.2 = .within := by
  have hcases : ∀ v : ExerciseControlRuleVerdict, v = .within ↔ v ≠ .unitMismatch ∧ v ≠ .exceeded := by
    intro v
    cases v <;> simp
  simp only [admissionOf,hcases]
  split_ifs with hcond
  · simp only [Bool.and_eq_true,Bool.not_eq_true',any_eq_false,beq_iff_eq] at hcond
    exact iff_of_true rfl fun v hv => ⟨hcond.1 v hv,hcond.2 v hv⟩
  · simp only [Bool.and_eq_true,Bool.not_eq_true',any_eq_false,beq_iff_eq] at hcond
    refine iff_of_false (by simp) fun hall => hcond ⟨fun v hv => (hall v hv).1, fun v hv => (hall v hv).2⟩

theorem assess_admitted_iff (hrules : RequestRules request)
    (hactive : ∀ rule ∈ request.rules, activeUsageFor rule = .ok (active rule)) :
    assessExerciseReservationAdmission P request reservedAt activeUsageFor = .ok .admitted ↔
      ∀ rule ∈ request.rules, Fits rule ((active rule).filter
        (inWindow rule.limit.window (P.dateParse reservedAt))) := by
  rw [assessExerciseReservationAdmission,ruleVerdicts_ok (fun rule hrule => hrules.rule hrule)
    hactive]
  simp only [Except.ok.injEq,admissionOf_eq_admitted_iff,mem_map]
  constructor
  · intro h rule hrule
    exact verdictOf_eq_within_iff.1 (h _ ⟨rule,hrule,rfl⟩)
  · rintro h _ ⟨rule,hrule,rfl⟩
    exact verdictOf_eq_within_iff.2 (h rule hrule)

theorem assess_perm
    {usage' : ExerciseControlRuleUsage → Except LedgerThrow (List ExerciseControlActiveUsage)}
    {active' : ExerciseControlRuleUsage → List ExerciseControlActiveUsage}
    (hrules : RequestRules request)
    (hactive : ∀ rule ∈ request.rules, usage rule = .ok (active rule))
    (hactive' : ∀ rule ∈ request.rules, usage' rule = .ok (active' rule))
    (hperm : ∀ rule ∈ request.rules, (active rule).Perm (active' rule)) :
    assessExerciseReservationAdmission P request reservedAt usage =
      assessExerciseReservationAdmission P request reservedAt usage' := by
  have hwell : ∀ rule ∈ request.rules, RuleWellFormed rule := fun rule hrule => hrules.rule hrule
  simp only [assessExerciseReservationAdmission,ruleVerdicts_ok hwell hactive,
    ruleVerdicts_ok hwell hactive']
  congr 2
  refine map_congr_left fun rule hrule => ?_
  rw [verdictOf_perm ((hperm rule hrule).filter _)]

theorem assess_ok (P : Platform) (reservedAt : String) (hrules : RequestRules request)
    (hactive : ∀ rule ∈ request.rules, usage rule = .ok (active rule)) :
    ∃ admission, assessExerciseReservationAdmission P request reservedAt usage = .ok admission := by
  rw [assessExerciseReservationAdmission,ruleVerdicts_ok (fun rule hrule => hrules.rule hrule)
    hactive]
  exact ⟨_,rfl⟩

theorem assess_reads {admission : ExerciseReservationAdmission}
    (h : assessExerciseReservationAdmission P request reservedAt usage = .ok admission) :
    ∀ rule ∈ request.rules, ∃ usages, usage rule = .ok usages := by
  unfold assessExerciseReservationAdmission at h
  cases hverdicts : ruleVerdicts (P.dateParse reservedAt) usage request.rules with
  | error e => simp [hverdicts] at h
  | ok verdicts =>
    clear h
    revert hverdicts
    generalize request.rules = rules
    intro hverdicts
    induction rules generalizing verdicts with
    | nil => simp
    | cons rule rules ih =>
      unfold ruleVerdicts at hverdicts
      cases hrule : usage rule with
      | error e => simp [hrule] at hverdicts
      | ok usages =>
        simp only [hrule] at hverdicts
        intro other hother
        rcases mem_cons.1 hother with rfl | htail
        · exact ⟨usages,hrule⟩
        · cases hrest : ruleVerdicts (P.dateParse reservedAt) usage rules with
          | error e => split at hverdicts <;> simp_all
          | ok rest => exact ih rest hrest other htail

end Frontera.ExerciseControl
