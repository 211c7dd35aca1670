import Frontera.ExerciseControl.Limits
import Frontera.Text.Literals

/-! The records of `exercise-reservation.ts` and `exercise-reservation-resolution.ts`: what a ledger
is asked to admit, the one terminal event and the one resolution a reservation may have beside it,
and the rule that says whether the three together still consume capacity. -/

namespace Frontera.ExerciseControl

open Frontera.Monetary Frontera.Text List

variable (P : Platform)

def exerciseReservationId (boundedGrantId executionId : String) : String :=
  let canonical := "\x7b\"boundedGrantId\":" ++ stringify boundedGrantId ++ ",\"executionId\":" ++
    stringify executionId ++ "\x7d"
  "aoc.exercise-reservation:" ++ String.ofList ((P.sha256 canonical).toList.take 32)

variable {P} in
theorem exerciseReservationId_literal {boundedGrantId executionId text digest whole : String}
    {chars all : List Char}
    (htext : "\x7b\"boundedGrantId\":" ++ stringify boundedGrantId ++ ",\"executionId\":" ++
      stringify executionId ++ "\x7d" = text)
    (hdigest : P.sha256 text = digest) (hchars : digest = String.ofList chars)
    (hwhole : whole = String.ofList all)
    (hall : "aoc.exercise-reservation:".toList ++ chars.take 32 = all) :
    exerciseReservationId P boundedGrantId executionId = whole := by
  have hnamed : exerciseReservationId P boundedGrantId executionId =
      "aoc.exercise-reservation:" ++ String.ofList (digest.toList.take 32) := by
    subst htext hdigest
    rfl
  exact hnamed.trans (append_eq_literal String.ofList_toList.symm
    (congrArg (fun text => String.ofList (text.take 32)) (toList_literal hchars)) hwhole hall)

/-- One limit, and what this execution consumes of it. -/
structure ExerciseControlRuleUsage where
  limit : ExerciseControlLimit
  usage : String
deriving DecidableEq

structure ExerciseReservationRequest where
  (reservationId executionId boundedGrantId requestDigest policyDigest : String)
  authorityBindingDigest : String
  rules : List ExerciseControlRuleUsage
deriving DecidableEq

/-- A persisted reservation: the admitted request and the instant of its admission. -/
structure ExerciseReservationRecord extends ExerciseReservationRequest where
  reservedAt : String
deriving DecidableEq

inductive ExerciseReservationTerminalKind where
  | settled | released
deriving DecidableEq

def ExerciseReservationTerminalKind.text : ExerciseReservationTerminalKind → String
  | .settled => "settled"
  | .released => "released"

inductive ExerciseReservationTerminalReason where
  | executed | executionUnconfirmed | executionFailed | emergencyControl | exerciseControl
  | grantExercise
deriving DecidableEq

def ExerciseReservationTerminalReason.text : ExerciseReservationTerminalReason → String
  | .executed => "executed"
  | .executionUnconfirmed => "execution-unconfirmed"
  | .executionFailed => "execution-failed"
  | .emergencyControl => "emergency-control"
  | .exerciseControl => "exercise-control"
  | .grantExercise => "grant-exercise"

def isExerciseReservationSettleReason : ExerciseReservationTerminalReason → Bool
  | .executed | .executionUnconfirmed => true
  | _ => false

def isExerciseReservationReleaseReason : ExerciseReservationTerminalReason → Bool
  | .executionFailed | .emergencyControl | .exerciseControl | .grantExercise => true
  | _ => false

/-- A `released` event naming `executed` is corrupt, not a release. -/
def exerciseReservationTerminalReasonMatches (kind : ExerciseReservationTerminalKind)
    (reason : ExerciseReservationTerminalReason) : Bool :=
  match kind with
  | .settled => isExerciseReservationSettleReason reason
  | .released => isExerciseReservationReleaseReason reason

structure ExerciseReservationTerminalEvent where
  reservationId : String
  kind : ExerciseReservationTerminalKind
  reason : ExerciseReservationTerminalReason
  recordedAt : String
deriving DecidableEq

inductive ExerciseReservationResolution where
  | confirmedCompleted | confirmedNotCompleted
deriving DecidableEq

def ExerciseReservationResolution.text : ExerciseReservationResolution → String
  | .confirmedCompleted => "confirmed-completed"
  | .confirmedNotCompleted => "confirmed-not-completed"

inductive ExerciseReservationResolutionBasis where
  | initialObservationUnconfirmed | noInitialObservation
deriving DecidableEq

structure ExerciseReservationResolutionEvent where
  (reservationId executionId resolutionDigest : String)
  resolution : ExerciseReservationResolution
  recordedAt : String
deriving DecidableEq

structure ExerciseReservationResolutionInput where
  (reservationId executionId resolutionDigest : String)
  resolution : ExerciseReservationResolution
  basis : ExerciseReservationResolutionBasis
  recordedAt : String

def isLowerHexDigit (c : Char) : Bool := ('0' ≤ c && c ≤ '9') || ('a' ≤ c && c ≤ 'f')

/-- `^sha256:[0-9a-f]{64}$` -/
def isWellFormedExerciseDigest (value : String) : Bool :=
  value.toList.take 7 == "sha256:".toList && (value.toList.drop 7).length == 64 &&
    (value.toList.drop 7).all isLowerHexDigit

theorem isWellFormedExerciseDigest_literal {value : String} {hex : List Char}
    (h : value = String.ofList ("sha256:".toList ++ hex)) (hlength : hex.length = 64)
    (hhex : hex.all isLowerHexDigit = true) : isWellFormedExerciseDigest value = true := by
  have htag : "sha256:".toList.length = 7 := by decide
  rw [isWellFormedExerciseDigest,toList_literal h,← htag,take_left,drop_left]
  simp [hlength,hhex]

def isExerciseReservationInstant (value : String) : Bool :=
  value != "" && (P.dateParse value).isSome

def isWellFormedExerciseRuleUsage (rule : ExerciseControlRuleUsage) : Bool :=
  match rule.limit.metric with
  | .count => rule.usage == "1"
  | .amount => isCanonicalExerciseDecimal rule.usage exerciseDecimalUsageDigits

/-- The request's rules already stand in the order of the snapshot. -/
def rulesInSnapshotOrder (limits : List ExerciseControlLimit)
    (rules : List ExerciseControlRuleUsage) : Bool :=
  limits.map exerciseControlBucketKey == rules.map fun rule => exerciseControlBucketKey rule.limit

def isWellFormedExerciseReservationRequest (request : ExerciseReservationRequest) : Bool :=
  request.boundedGrantId != "" && request.executionId != "" &&
    request.reservationId == exerciseReservationId P request.boundedGrantId request.executionId &&
    isWellFormedExerciseDigest request.requestDigest &&
    isWellFormedExerciseDigest request.policyDigest &&
    isWellFormedExerciseDigest request.authorityBindingDigest &&
    match snapshotExerciseControlLimits (request.rules.map (·.limit)) with
    | none => false
    | some limits =>
        rulesInSnapshotOrder limits request.rules &&
          exerciseControlPolicyDigest P limits == request.policyDigest &&
          request.rules.all isWellFormedExerciseRuleUsage

def isWellFormedExerciseReservation (record : ExerciseReservationRecord) : Bool :=
  isExerciseReservationInstant P record.reservedAt &&
    isWellFormedExerciseReservationRequest P record.toExerciseReservationRequest

def exerciseReservationsDescribeSameAttempt (left right : ExerciseReservationRequest) : Bool :=
  left.reservationId == right.reservationId && left.executionId == right.executionId &&
    left.boundedGrantId == right.boundedGrantId && left.requestDigest == right.requestDigest &&
    left.policyDigest == right.policyDigest &&
    left.authorityBindingDigest == right.authorityBindingDigest

def isWellFormedExerciseReservationResolutionInput
    (input : ExerciseReservationResolutionInput) : Bool :=
  input.reservationId != "" && input.executionId != "" &&
    isWellFormedExerciseDigest input.resolutionDigest &&
    isExerciseReservationInstant P input.recordedAt

def exerciseReservationResolutionConsistent (terminal : Option ExerciseReservationTerminalEvent)
    (resolution : ExerciseReservationResolution) (basis : ExerciseReservationResolutionBasis) :
    Bool :=
  match terminal with
  | none => true
  | some event =>
      if event.kind = .settled ∧ event.reason = .executionUnconfirmed then true
      else if basis = .initialObservationUnconfirmed then false
      else if event.kind = .settled then resolution == .confirmedCompleted
      else resolution == .confirmedNotCompleted

def exerciseReservationConsumes (terminal : Option ExerciseReservationTerminalEvent)
    (resolution : Option ExerciseReservationResolutionEvent) : Bool :=
  match resolution with
  | none => terminal.map (·.kind) != some .released
  | some event =>
      if !exerciseReservationResolutionConsistent terminal event.resolution .noInitialObservation
      then true
      else event.resolution != .confirmedNotCompleted

def exerciseReservationResolutionMatches (event : ExerciseReservationResolutionEvent)
    (input : ExerciseReservationResolutionInput) : Bool :=
  event.reservationId == input.reservationId && event.executionId == input.executionId &&
    event.resolutionDigest == input.resolutionDigest && event.resolution == input.resolution

variable {P}

/-- The part of well-formedness that admission rests on. -/
structure RequestRules (request : ExerciseReservationRequest) : Prop where
  bounded : request.rules.length ≤ exerciseControlMaximumLimits
  limits : ∀ rule ∈ request.rules, LimitWellFormed rule.limit
  buckets : (request.rules.map fun rule => exerciseControlBucketKey rule.limit).Nodup
  count_usage : ∀ rule ∈ request.rules, rule.limit.metric = .count → rule.usage = "1"
  amount_usage : ∀ rule ∈ request.rules, rule.limit.metric = .amount →
    isCanonicalExerciseDecimal rule.usage exerciseDecimalUsageDigits = true

theorem requestRules_of_wellFormed {request : ExerciseReservationRequest}
    (h : isWellFormedExerciseReservationRequest P request = true) : RequestRules request := by
  simp only [isWellFormedExerciseReservationRequest,Bool.and_eq_true] at h
  obtain ⟨-,hrules⟩ := h
  cases hsnapshot : snapshotExerciseControlLimits (request.rules.map (·.limit)) with
  | none => simp [hsnapshot] at hrules
  | some limits =>
    simp only [hsnapshot,Bool.and_eq_true,all_eq_true] at hrules
    obtain ⟨-,hwell,hnodup,hlength⟩ := snapshotExerciseControlLimits_spec hsnapshot
    refine ⟨by simpa using hlength,?_,?_,?_,?_⟩
    · exact fun rule hrule => hwell rule.limit (mem_map_of_mem hrule)
    · simpa [map_map,Function.comp_def] using hnodup
    · intro rule hrule hmetric
      simpa [isWellFormedExerciseRuleUsage,hmetric] using hrules.2 rule hrule
    · intro rule hrule hmetric
      simpa [isWellFormedExerciseRuleUsage,hmetric] using hrules.2 rule hrule

/-! ## A sample request

A platform that answers for the texts below as the host does, and one request that
is well formed on it. -/

def sampleDigests : List (String × String) :=
  [("\x7b\"boundedGrantId\":\"grant-1\",\"executionId\":\"exec-1\"\x7d",
      "5a22588b9692ec8f2fedfe0067addbd03092242869ae9d52f0a4176658cda655"),
    ("\x7b\"boundedGrantId\":\"grant-1\",\"executionId\":\"exec-2\"\x7d",
      "0d575dc435e273e8904426ebbbd3230bd0698bf6b91a18f8f6c25395704ac8a9"),
    ("[\x7b\"limitId\":\"daily-usd\",\"maximum\":\"100\",\"metric\":\"amount\"," ++
      "\"scopeKey\":\"treasury\",\"unit\":\"USD\",\"window\":\x7b\"kind\":\"lifetime\"\x7d\x7d]",
      "bee805339500541a37ad43a15f1a85b78c8624dccf570f2fef7a069d653568c1")]

def samplePlatform : Platform := tabulatedPlatform sampleDigests

def sampleLimit : ExerciseControlLimit := ⟨"daily-usd","treasury",.amount "100" "USD",.lifetime⟩

def sampleRequest : ExerciseReservationRequest where
  reservationId := "aoc.exercise-reservation:5a22588b9692ec8f2fedfe0067addbd0"
  executionId := "exec-1"
  boundedGrantId := "grant-1"
  requestDigest := "sha256:1f58b9145b24d108d7ac38887338b3ea3229833b9c1e418250343f907bfd1047"
  policyDigest := "sha256:bee805339500541a37ad43a15f1a85b78c8624dccf570f2fef7a069d653568c1"
  authorityBindingDigest :=
    "sha256:80f70afeef3caa57646fd20afb95be9c3f2c03d38e091906de31838813dcc22e"
  rules := [⟨sampleLimit,"60.5"⟩]

def sampleSecondRequest : ExerciseReservationRequest :=
  { sampleRequest with
    reservationId := "aoc.exercise-reservation:0d575dc435e273e8904426ebbbd3230b"
    executionId := "exec-2"
    requestDigest := "sha256:6fc63565247226593c49a36e9da488e6e1c33a9a1fcd8a76f55573483136b880" }

theorem samplePlatform_injective : Function.Injective samplePlatform.sha256 :=
  tabulatedHash_injective_literals (.cons rfl (.cons rfl (.cons rfl .nil))) (by decide)
    (by decide)

theorem samplePlatform_sha256 (text : String) :
    samplePlatform.sha256 text = tabulatedHash sampleDigests text := rfl

theorem sampleRequest_reservationId_of (more : List (String × String)) :
    exerciseReservationId (tabulatedPlatform (sampleDigests ++ more)) "grant-1" "exec-1" =
      sampleRequest.reservationId := by
  have htext : "\x7b\"boundedGrantId\":" ++ stringify "grant-1" ++ ",\"executionId\":" ++
      stringify "exec-1" ++ "\x7d" =
        "\x7b\"boundedGrantId\":\"grant-1\",\"executionId\":\"exec-1\"\x7d" :=
    append_eq_literal (append_literal (append_literal (append_literal rfl (stringify_literal rfl))
      rfl) (stringify_literal rfl)) rfl rfl rfl
  have hdigest : (tabulatedPlatform (sampleDigests ++ more)).sha256
      "\x7b\"boundedGrantId\":\"grant-1\",\"executionId\":\"exec-1\"\x7d" =
        "5a22588b9692ec8f2fedfe0067addbd03092242869ae9d52f0a4176658cda655" :=
    (tabulatedPlatform_sha256 _ _).trans (tabulatedHash_head _ _ _)
  exact exerciseReservationId_literal htext hdigest rfl rfl rfl

theorem sampleRequest_reservationId :
    exerciseReservationId samplePlatform "grant-1" "exec-1" = sampleRequest.reservationId :=
  sampleRequest_reservationId_of []

theorem sampleSecondRequest_reservationId :
    exerciseReservationId samplePlatform "grant-1" "exec-2" = sampleSecondRequest.reservationId := by
  have htext : "\x7b\"boundedGrantId\":" ++ stringify "grant-1" ++ ",\"executionId\":" ++
      stringify "exec-2" ++ "\x7d" =
        "\x7b\"boundedGrantId\":\"grant-1\",\"executionId\":\"exec-2\"\x7d" :=
    append_eq_literal (append_literal (append_literal (append_literal rfl (stringify_literal rfl))
      rfl) (stringify_literal rfl)) rfl rfl rfl
  have hdigest : samplePlatform.sha256
      "\x7b\"boundedGrantId\":\"grant-1\",\"executionId\":\"exec-2\"\x7d" =
        "0d575dc435e273e8904426ebbbd3230bd0698bf6b91a18f8f6c25395704ac8a9" :=
    (samplePlatform_sha256 _).trans ((tabulatedHash_tail (ne_of_literals rfl rfl
      (by decide))).trans (tabulatedHash_head _ _ _))
  exact exerciseReservationId_literal htext hdigest rfl rfl rfl

theorem sampleLimit_text : "[" ++ serializeExerciseControlLimit sampleLimit ++ "]" =
    "[\x7b\"limitId\":\"daily-usd\",\"maximum\":\"100\",\"metric\":\"amount\"," ++
      "\"scopeKey\":\"treasury\",\"unit\":\"USD\",\"window\":\x7b\"kind\":\"lifetime\"\x7d\x7d]" := by
  have hlimit := append_literal (t := stringify "daily-usd") (s := "\"limitId\":") rfl
    (stringify_literal rfl)
  have hmaximum := append_literal (t := stringify "100") (s := "\"maximum\":") rfl
    (stringify_literal rfl)
  have hmetric := append_literal (t := stringify "amount") (s := "\"metric\":") rfl
    (stringify_literal rfl)
  have hscope := append_literal (t := stringify "treasury") (s := "\"scopeKey\":") rfl
    (stringify_literal rfl)
  have hunit := append_literal (t := stringify "USD") (s := "\"unit\":") rfl
    (stringify_literal rfl)
  have hwindow := append_literal (t := serializeWindow .lifetime) (s := "\"window\":") rfl rfl
  have hfields := append_literal (append_literal hlimit (s := _) (t := ",") rfl)
    (append_literal (append_literal hmaximum (t := ",") rfl) (append_literal (append_literal hmetric (t := ",") rfl)
      (append_literal (append_literal hscope (t := ",") rfl) (append_literal (append_literal hunit (t := ",") rfl) hwindow))))
  exact append_eq_literal (append_literal rfl (append_literal (append_literal rfl hfields) rfl)) rfl
    (append_literal rfl rfl) rfl

theorem sampleLimit_policyDigest_of (more : List (String × String)) :
    exerciseControlPolicyDigest (tabulatedPlatform (sampleDigests ++ more)) [sampleLimit] =
      sampleRequest.policyDigest := by
  have hdigest : (tabulatedPlatform (sampleDigests ++ more)).sha256
      ("[" ++ serializeExerciseControlLimit sampleLimit ++ "]") =
        "bee805339500541a37ad43a15f1a85b78c8624dccf570f2fef7a069d653568c1" := by
    rw [sampleLimit_text]
    exact (tabulatedPlatform_sha256 _ _).trans ((tabulatedHash_tail (ne_of_literals rfl
      (append_literal rfl rfl) (by decide))).trans ((tabulatedHash_tail (ne_of_literals rfl
        (append_literal rfl rfl) (by decide))).trans (tabulatedHash_head _ _ _)))
  have hsorted : sortExerciseControlLimits [sampleLimit] = [sampleLimit] := rfl
  rw [exerciseControlPolicyDigest,hsorted,map_singleton,join_singleton,Platform.digestOf, hdigest]
  exact append_eq_literal rfl rfl rfl rfl

theorem sampleLimit_policyDigest :
    exerciseControlPolicyDigest samplePlatform [sampleLimit] = sampleRequest.policyDigest :=
  sampleLimit_policyDigest_of []

theorem sampleRules_snapshot : snapshotExerciseControlLimits [sampleLimit] = some [sampleLimit] := by
  decide

theorem wellFormed_of_sampleRules {P : Platform} {request : ExerciseReservationRequest}
    {usage : String}
    (hgrant : request.boundedGrantId ≠ "") (hexecution : request.executionId ≠ "")
    (hreservation : exerciseReservationId P request.boundedGrantId request.executionId =
      request.reservationId)
    (hrequest : isWellFormedExerciseDigest request.requestDigest = true)
    (hbinding : isWellFormedExerciseDigest request.authorityBindingDigest = true)
    (hlimit : exerciseControlPolicyDigest P [sampleLimit] = sampleRequest.policyDigest)
    (hpolicy : request.policyDigest = sampleRequest.policyDigest)
    (hrules : request.rules = [⟨sampleLimit,usage⟩])
    (husage : isWellFormedExerciseRuleUsage ⟨sampleLimit,usage⟩ = true) :
    isWellFormedExerciseReservationRequest P request = true := by
  have hdigest : isWellFormedExerciseDigest sampleRequest.policyDigest = true :=
    isWellFormedExerciseDigest_literal rfl rfl rfl
  simp only [isWellFormedExerciseReservationRequest,hrules,map_cons,map_nil,
    sampleRules_snapshot,hreservation,hrequest,hbinding,hpolicy,hdigest,
    hlimit,rulesInSnapshotOrder,beq_self_eq_true,all_cons,all_nil,
    husage,Bool.and_true,Bool.and_eq_true,bne_iff_ne]
  exact ⟨hgrant,hexecution⟩

theorem sampleRequest_wellFormed :
    isWellFormedExerciseReservationRequest samplePlatform sampleRequest = true :=
  wellFormed_of_sampleRules (ne_of_literals rfl rfl (cons_ne_nil _ _))
    (ne_of_literals rfl rfl (cons_ne_nil _ _)) sampleRequest_reservationId
    (isWellFormedExerciseDigest_literal rfl rfl rfl) (isWellFormedExerciseDigest_literal rfl rfl rfl)
    sampleLimit_policyDigest rfl rfl (by decide)

theorem sampleSecondRequest_wellFormed :
    isWellFormedExerciseReservationRequest samplePlatform sampleSecondRequest = true :=
  wellFormed_of_sampleRules (ne_of_literals rfl rfl (cons_ne_nil _ _))
    (ne_of_literals rfl rfl (cons_ne_nil _ _)) sampleSecondRequest_reservationId
    (isWellFormedExerciseDigest_literal rfl rfl rfl) (isWellFormedExerciseDigest_literal rfl rfl rfl)
    sampleLimit_policyDigest rfl rfl (by decide)

end Frontera.ExerciseControl
