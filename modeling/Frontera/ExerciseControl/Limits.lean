import Frontera.Monetary.CanonicalDecimal
import Frontera.Platform
import Frontera.Text.Json
import Mathlib.Data.List.Sort

/-! The closed limit contract of `exercise-control-limits.ts`: what a limit states, when a set of
limits is one the runtime can enforce exactly, the bucket a limit names, and the canonical form its
policy digest is taken over. A raw answer that is not a list of plain limit objects does not reach
this type; the gate represents it as no answer. -/

namespace Frontera.ExerciseControl

open Frontera.Monetary Frontera.Text

def exerciseControlMaximumLimits : Nat := 32
def exerciseControlMaximumRollingSeconds : Int := 31536000
def exerciseControlScopeKeyMaximumBytes : Nat := 512
def exerciseControlUnitMaximumBytes : Nat := 128
def exerciseDecimalMaximumDigits : Nat := 128
def exerciseDecimalUsageDigits : Nat := 400

def isCanonicalExerciseDecimal (value : String) (maximumDigits : Nat) : Bool :=
  isCanonicalDecimal value maximumDigits

def addExerciseDecimals (left right : String) : Except RangeError String :=
  addCanonicalDecimals left right

def compareExerciseDecimals (left right : String) : Except RangeError Ordering :=
  compareCanonicalDecimals left right

inductive ExerciseControlMetric where
  | count | amount
deriving DecidableEq

def ExerciseControlMetric.text : ExerciseControlMetric → String
  | .count => "count"
  | .amount => "amount"

inductive ExerciseControlWindow where
  | lifetime
  | rolling (seconds : Int)
deriving DecidableEq

/-- What the two arms of a limit state beside its bucket and window. -/
inductive ExerciseControlMeasure where
  | count (maximum : Int)
  | amount (maximum unit : String)
deriving DecidableEq

structure ExerciseControlLimit where
  (limitId scopeKey : String)
  measure : ExerciseControlMeasure
  window : ExerciseControlWindow
deriving DecidableEq

def ExerciseControlLimit.metric (limit : ExerciseControlLimit) : ExerciseControlMetric :=
  match limit.measure with
  | .count _ => .count
  | .amount _ _ => .amount

/-- The unit of the amount arm. -/
def ExerciseControlLimit.unit (limit : ExerciseControlLimit) : Option String :=
  match limit.measure with
  | .count _ => none
  | .amount _ unit => some unit

/-- `[A-Za-z0-9]` -/
def isAsciiAlphanumeric (c : Char) : Bool :=
  ('A' ≤ c && c ≤ 'Z') || ('a' ≤ c && c ≤ 'z') || ('0' ≤ c && c ≤ '9')

/-- `EXERCISE_CONTROL_LIMIT_ID_PATTERN`: an alphanumeric, then at most 127 more of these
or of the five separators. -/
def isCanonicalExerciseControlLimitId (value : String) : Bool :=
  match value.toList with
  | [] => false
  | c :: rest =>
      isAsciiAlphanumeric c && decide (rest.length ≤ 127) &&
        rest.all fun d => isAsciiAlphanumeric d || d ∈ ['.', '_', ':', '/', '-']

/-- Text has no lone surrogates here, so that clause of the source holds of every value. -/
def isBoundedOpaqueText (value : String) (maximumBytes : Nat) : Bool :=
  value != "" && value == trim value && !value.toList.any isControlCharacter &&
    decide (value.utf8ByteSize ≤ maximumBytes)

def isCanonicalExerciseControlScopeKey (value : String) : Bool :=
  isBoundedOpaqueText value exerciseControlScopeKeyMaximumBytes

def isCanonicalExerciseControlUnit (value : String) : Bool :=
  isBoundedOpaqueText value exerciseControlUnitMaximumBytes

def snapshotWindow (window : ExerciseControlWindow) : Option ExerciseControlWindow :=
  match window with
  | .lifetime => some .lifetime
  | .rolling seconds =>
      if !isSafeInteger seconds || seconds < 1 || seconds > exerciseControlMaximumRollingSeconds
      then none
      else some (.rolling seconds)

def snapshotLimit (raw : ExerciseControlLimit) : Option ExerciseControlLimit :=
  if !isCanonicalExerciseControlLimitId raw.limitId ||
      !isCanonicalExerciseControlScopeKey raw.scopeKey then none
  else
    match snapshotWindow raw.window with
    | none => none
    | some window =>
        match raw.measure with
        | .count maximum =>
            if !isSafeInteger maximum || maximum < 1 then none
            else some ⟨raw.limitId,raw.scopeKey,.count maximum,window⟩
        | .amount maximum unit =>
            if !isCanonicalExerciseDecimal maximum exerciseDecimalMaximumDigits ||
                !isCanonicalExerciseControlUnit unit then none
            else some ⟨raw.limitId,raw.scopeKey,.amount maximum unit,window⟩

/-- `JSON.stringify([limitId, scopeKey])` -/
def bucketKey (limitId scopeKey : String) : String :=
  "[" ++ stringify limitId ++ "," ++ stringify scopeKey ++ "]"

def exerciseControlBucketKey (limit : ExerciseControlLimit) : String :=
  bucketKey limit.limitId limit.scopeKey

/-- The comparator of `sortExerciseControlLimits` does not answer a positive number. -/
def limitLe (left right : ExerciseControlLimit) : Prop :=
  if stringLt left.limitId right.limitId then True
  else if stringLt right.limitId left.limitId then False
  else ¬ (stringLt left.scopeKey right.scopeKey = false ∧ stringLt right.scopeKey left.scopeKey = true)

instance : DecidableRel limitLe := fun left right => by
  unfold limitLe
  infer_instance

def sortExerciseControlLimits (limits : List ExerciseControlLimit) : List ExerciseControlLimit :=
  limits.insertionSort limitLe

/-- The loop of `snapshotExerciseControlLimits`, with the bucket keys already taken. -/
def snapshotLoop : List ExerciseControlLimit → List String → Option (List ExerciseControlLimit)
  | [], _ => some []
  | raw :: rest, buckets =>
      match snapshotLimit raw with
      | none => none
      | some limit =>
          let bucket := exerciseControlBucketKey limit
          if bucket ∈ buckets then none
          else (snapshotLoop rest (bucket :: buckets)).map (limit :: ·)

def snapshotExerciseControlLimits (raw : List ExerciseControlLimit) : Option (List ExerciseControlLimit) :=
  if raw.length > exerciseControlMaximumLimits then none
  else (snapshotLoop raw []).map sortExerciseControlLimits

def serializeWindow : ExerciseControlWindow → String
  | .lifetime => "\x7b\"kind\":\"lifetime\"\x7d"
  | .rolling seconds => "\x7b\"kind\":\"rolling\",\"seconds\":" ++ toString seconds ++ "\x7d"

theorem serializeWindow_lifetime : serializeWindow .lifetime = "\x7b\"kind\":\"lifetime\"\x7d" := rfl

theorem serializeWindow_rolling (seconds : Int) : serializeWindow (.rolling seconds) =
    "\x7b\"kind\":\"rolling\",\"seconds\":" ++ toString seconds ++ "\x7d" := rfl

def serializeExerciseControlLimit (limit : ExerciseControlLimit) : String :=
  match limit.measure with
  | .count maximum =>
      "\x7b" ++ join "," [
        "\"limitId\":" ++ stringify limit.limitId,
        "\"maximum\":" ++ toString maximum,
        "\"metric\":" ++ stringify "count",
        "\"scopeKey\":" ++ stringify limit.scopeKey,
        "\"window\":" ++ serializeWindow limit.window] ++ "\x7d"
  | .amount maximum unit =>
      "\x7b" ++ join "," [
        "\"limitId\":" ++ stringify limit.limitId,
        "\"maximum\":" ++ stringify maximum,
        "\"metric\":" ++ stringify "amount",
        "\"scopeKey\":" ++ stringify limit.scopeKey,
        "\"unit\":" ++ stringify unit,
        "\"window\":" ++ serializeWindow limit.window] ++ "\x7d"

def exerciseControlPolicyDigest (P : Platform) (limits : List ExerciseControlLimit) : String :=
  P.digestOf ("[" ++ join "," ((sortExerciseControlLimits limits).map serializeExerciseControlLimit) ++ "]")

@[simp] theorem bucketKey_inj {a b c d : String} : bucketKey a b = bucketKey c d ↔ a = c ∧ b = d := by
  simp [bucketKey,String.append_assoc]

theorem exerciseControlBucketKey_inj {l m : ExerciseControlLimit} :
    exerciseControlBucketKey l = exerciseControlBucketKey m ↔
      l.limitId = m.limitId ∧ l.scopeKey = m.scopeKey :=
  bucketKey_inj

theorem snapshotLimit_eq {raw limit : ExerciseControlLimit} (h : snapshotLimit raw = some limit) :
    limit = raw := by
  obtain ⟨limitId,scopeKey,measure,window⟩ := raw
  simp only [snapshotLimit,snapshotWindow] at h
  grind

/-- What a limit of a snapshot states is within the contract. -/
structure LimitWellFormed (limit : ExerciseControlLimit) : Prop where
  amount_canonical : ∀ maximum unit, limit.measure = .amount maximum unit →
    matchesCanonicalDecimal maximum = true
  count_safe : ∀ maximum, limit.measure = .count maximum → isSafeInteger maximum = true
  count_pos : ∀ maximum, limit.measure = .count maximum → 1 ≤ maximum
  window_pos : ∀ seconds, limit.window = .rolling seconds → 1 ≤ seconds

theorem snapshotLimit_wellFormed {raw limit : ExerciseControlLimit}
    (h : snapshotLimit raw = some limit) : LimitWellFormed limit := by
  obtain rfl := snapshotLimit_eq h
  obtain ⟨limitId,scopeKey,measure,window⟩ := limit
  simp only [snapshotLimit,snapshotWindow,isCanonicalExerciseDecimal,isCanonicalDecimal] at h
  constructor <;> grind

theorem snapshotLoop_spec {raw limits : List ExerciseControlLimit} {buckets : List String}
    (h : snapshotLoop raw buckets = some limits) :
    limits = raw ∧ (∀ limit ∈ raw, LimitWellFormed limit) ∧ (raw.map exerciseControlBucketKey).Nodup ∧
      ∀ limit ∈ raw, exerciseControlBucketKey limit ∉ buckets := by
  induction raw generalizing limits buckets with
  | nil =>
    have : limits = [] := by simpa [snapshotLoop] using h.symm
    simp [this]
  | cons limit rest ih =>
    simp only [snapshotLoop] at h
    cases hlimit : snapshotLimit limit with
    | none => simp [hlimit] at h
    | some limit' =>
      obtain rfl := snapshotLimit_eq hlimit
      simp only [hlimit] at h
      split_ifs at h with hbucket
      cases htail : snapshotLoop rest (exerciseControlBucketKey limit' :: buckets) with
      | none => simp [htail] at h
      | some tail =>
        obtain ⟨rfl,hwell,hnodup,hfresh⟩ := ih htail
        simp only [htail,Option.map_some,Option.some.injEq] at h
        refine ⟨h.symm,?_,?_,?_⟩
        · intro m hm
          rcases List.mem_cons.1 hm with rfl | hm
          · exact snapshotLimit_wellFormed hlimit
          · exact hwell m hm
        · refine List.nodup_cons.2 ⟨?_,hnodup⟩
          intro hmem
          obtain ⟨m,hm,hkey⟩ := List.mem_map.1 hmem
          exact hfresh m hm (by simp [hkey])
        · intro m hm
          rcases List.mem_cons.1 hm with rfl | hm
          · exact hbucket
          · exact fun hin => hfresh m hm (List.mem_cons_of_mem _ hin)

/-- A snapshot is the raw answer in bucket order, each limit within the contract
and each bucket named once. -/
theorem snapshotExerciseControlLimits_spec {raw limits : List ExerciseControlLimit}
    (h : snapshotExerciseControlLimits raw = some limits) :
    limits = sortExerciseControlLimits raw ∧ (∀ limit ∈ raw, LimitWellFormed limit) ∧
      (raw.map exerciseControlBucketKey).Nodup ∧ raw.length ≤ exerciseControlMaximumLimits := by
  unfold snapshotExerciseControlLimits at h
  split_ifs at h with hlength
  cases hloop : snapshotLoop raw [] with
  | none => simp [hloop] at h
  | some kept =>
    obtain ⟨rfl,hwell,hnodup,-⟩ := snapshotLoop_spec hloop
    simp only [hloop,Option.map_some,Option.some.injEq] at h
    exact ⟨h.symm,hwell,hnodup,Nat.le_of_not_lt hlength⟩

end Frontera.ExerciseControl
