import Mathlib.Data.List.TakeWhile
import Frontera.GovernedAction.Orchestrator

/-! The forms that the execution ledger records an outcome in, and the two readers of them: the
ledger's own replay and the decoder of definitive summaries. They agree on every text, and a
recorded outcome is read back as itself. -/

namespace Frontera.GovernedAction

open Frontera.Text List Option
open Frontera.Execution (ExecutionFailureReason)

variable (H : Host)

inductive DefinitiveExecutionSummary where
  | executed (adapterId : Option String)
  | executionFailed (failure : ExecutionFailureReason) (adapterId : Option String)
  | withheld (layer : WithholdingLayer) (reasonCodes : List String)
  | resolvedCompleted
  | resolvedNotCompleted (failure : ExecutionFailureReason)

/-- `RESOLVED_COMPLETED` -/
def resolvedCompletedForm : String := "resolved:confirmed-completed"

def resolvedNotCompletedPrefix : String := "resolved:confirmed-not-completed:"

def decodeDefinitiveExecutionSummary (recorded : String) : Option DefinitiveExecutionSummary :=
  if recorded = resolvedCompletedForm then some .resolvedCompleted
  else
    match List.isPrefixOf? resolvedNotCompletedPrefix.toList recorded.toList with
    | some failure => (failureOf (String.ofList failure)).map .resolvedNotCompleted
    | none =>
        if (List.isPrefixOf? withheldPrefix.toList recorded.toList).isSome then
          (decodeWithheldOutcome recorded).map fun withheld => .withheld withheld.1 withheld.2
        else
          let (body, adapterId) := splitAdapter recorded
          if body = "executed" then some (.executed adapterId)
          else
            match List.isPrefixOf? executionFailedPrefix.toList body.toList with
            | some failure => (failureOf (String.ofList failure)).map (.executionFailed · adapterId)
            | none => none

theorem span_reverse_at {front back : List Char} (h : '@' ∉ back) :
    (front ++ '@' :: back).reverse.span (· != '@') = (back.reverse, '@' :: front.reverse) := by
  have hback : ∀ c ∈ back.reverse, (c != '@') = true := by
    intro c hc
    rw [bne_iff_ne]
    rintro rfl
    exact h (mem_reverse.1 hc)
  have hreverse : (front ++ '@' :: back).reverse = back.reverse ++ '@' :: front.reverse := by simp
  rw [hreverse,span_eq_takeWhile_dropWhile,takeWhile_append_of_pos hback,
    dropWhile_append_of_pos hback,takeWhile_cons_of_neg (by simp),
    dropWhile_cons_of_neg (by simp),append_nil]

variable {adapterId : String} {start text : List Char} {withheld : WithholdingLayer × List String}
  {failure : ExecutionFailureReason} {body : String} {known : PriorExecution}
  {summary : Option DefinitiveExecutionSummary} {outcome : ExerciseOutcome}

theorem recordable_no_delimiter (h : isRecordableExecutionAdapterId adapterId = true) :
    '@' ∉ adapterId.toList := by
  unfold isRecordableExecutionAdapterId at h
  split at h
  · cases h
  · next first rest htext =>
    simp only [Bool.and_eq_true] at h
    rw [htext]
    intro hmem
    rcases mem_cons.1 hmem with rfl | hmem
    · exact absurd h.1.1 (by decide)
    · exact absurd (all_eq_true.1 h.2 '@' hmem) (by decide)

theorem splitAdapter_append (body : String) (h : isRecordableExecutionAdapterId adapterId = true) :
    splitAdapter (body ++ "@" ++ adapterId) = (body, some adapterId) := by
  have htext : (body ++ "@" ++ adapterId).toList = body.toList ++ '@' :: adapterId.toList := by
    rw [String.toList_append,String.toList_append,append_assoc]
    rfl
  rw [splitAdapter,htext,span_reverse_at (recordable_no_delimiter h)]
  simp [h]

theorem splitAdapter_of_no_delimiter {recorded : String} (h : '@' ∉ recorded.toList) :
    splitAdapter recorded = (recorded, none) := by
  have hall : ∀ c ∈ recorded.toList.reverse, (c != '@') = true := by
    intro c hc
    rw [bne_iff_ne]
    rintro rfl
    exact h (mem_reverse.1 hc)
  rw [splitAdapter,span_eq_takeWhile_dropWhile,dropWhile_eq_nil_iff.2 hall]

theorem splitAdapter_cases (recorded : String) : splitAdapter recorded = (recorded, none) ∨
      ∃ body adapterId, recorded = body ++ "@" ++ adapterId ∧
        splitAdapter recorded = (body, some adapterId) := by
  by_cases hmem : '@' ∈ recorded.toList.reverse
  · obtain ⟨back,front,hsplit,hback⟩ := eq_append_cons_of_mem hmem
    have htext : recorded.toList = front.reverse ++ '@' :: back.reverse := by
      have hreverse := congrArg List.reverse hsplit
      simpa using hreverse
    have hnot : '@' ∉ back.reverse := fun h => hback (mem_reverse.1 h)
    rw [splitAdapter,htext,span_reverse_at hnot]
    simp only [reverse_reverse]
    split_ifs with hrecordable
    · refine .inr ⟨String.ofList front.reverse,String.ofList back.reverse,?_,rfl⟩
      apply String.toList_injective
      rw [htext]
      simp
    · exact .inl rfl
  · exact .inl (splitAdapter_of_no_delimiter fun h => hmem (mem_reverse.2 h))

theorem prefix_of_append_cons {α : Type} {start body rest : List α} {a : α} (ha : a ∉ start)
    (h : start <+: body ++ a :: rest) : start <+: body := by
  induction start generalizing body with
  | nil => exact nil_prefix
  | cons s start ih =>
    rw [mem_cons,not_or] at ha
    cases body with
    | nil =>
      rw [nil_append,cons_prefix_cons] at h
      exact absurd h.1.symm ha.1
    | cons b body =>
      rw [cons_append,cons_prefix_cons] at h
      exact cons_prefix_cons.2 ⟨h.1,ih ha.2 h.2⟩

theorem prefix_splitAdapter (hstart : '@' ∉ start) (recorded : String) :
    start <+: (splitAdapter recorded).1.toList ↔ start <+: recorded.toList := by
  rcases splitAdapter_cases recorded with h | ⟨body,adapterId,hrecorded,h⟩
  · rw [h]
  · rw [h,hrecorded,String.toList_append,String.toList_append,append_assoc]
    constructor
    · intro hbody
      exact hbody.trans (prefix_append _ _)
    · exact prefix_of_append_cons hstart

theorem isPrefixOf?_eq_none_iff : List.isPrefixOf? start text = none ↔ ¬ start <+: text := by
  constructor
  · rintro h ⟨rest,hrest⟩
    rw [List.isPrefixOf?_eq_some_iff_append_eq.2 hrest] at h
    cases h
  · intro h
    cases hsome : List.isPrefixOf? start text with
    | none => rfl
    | some rest => exact absurd ⟨rest,List.isPrefixOf?_eq_some_iff_append_eq.1 hsome⟩ h

theorem isPrefixOf?_isSome_iff : (List.isPrefixOf? start text).isSome = true ↔ start <+: text := by
  rw [isSome_iff_ne_none,Ne,isPrefixOf?_eq_none_iff,not_not]

/-- The text of a code holds no delimiter. -/
def isCodeText (code : String) : Bool := code.toList.all fun c => c != ',' && c != ':'

theorem codeTexts_cons {code : String} {chars : List Char} {codes : List String}
    (h : code = String.ofList chars) (hchars : (chars.all fun c => c != ',' && c != ':') = true)
    (hcodes : codes.all isCodeText = true) : (code :: codes).all isCodeText = true := by
  rw [all_cons,hcodes,isCodeText,toList_literal h,hchars]
  rfl

theorem vocabulary_codeText (layer : WithholdingLayer) :
    (withholdingVocabulary layer).all isCodeText = true := by
  cases layer
  all_goals repeat apply codeTexts_cons rfl (by decide)
  all_goals exact all_nil

theorem canonical_codeText {layer : WithholdingLayer} {codes : List String}
    (h : isCanonicalWithheldCodes layer codes = true) :
    codes ≠ [] ∧ ∀ code ∈ codes, ',' ∉ code.toList ∧ ':' ∉ code.toList := by
  simp only [isCanonicalWithheldCodes,Bool.and_eq_true,Bool.not_eq_true',List.all_eq_true,
    contains_iff_mem] at h
  obtain ⟨⟨⟨hnonempty,-⟩,-⟩,hvocabulary⟩ := h
  refine ⟨by simpa using hnonempty,fun code hcode => ?_⟩
  have htext := List.all_eq_true.1 (vocabulary_codeText layer) code (hvocabulary code hcode)
  have hchars := all_eq_true.1 htext
  exact ⟨fun hc => absurd (hchars ',' hc) (by decide),fun hc => absurd (hchars ':' hc) (by decide)⟩

theorem toList_join (codes : List String) :
    (join "," codes).toList = [','].intercalate (codes.map String.toList) := by
  induction codes with
  | nil => rfl
  | cons code codes ih =>
    cases codes with
    | nil => simp
    | cons next codes =>
      have hmap : (code :: next :: codes).map String.toList =
          code.toList :: next.toList :: codes.map String.toList := rfl
      rw [join_cons_cons,String.toList_append,String.toList_append,ih,hmap, intercalate_cons_cons]
      rfl

theorem codesOf_join {codes : List String} (hnonempty : codes ≠ [])
    (hcodes : ∀ code ∈ codes, ',' ∉ code.toList) :
    ((join "," codes).toList.splitOn ',').map String.ofList = codes := by
  have hnot : ∀ text ∈ codes.map String.toList, ',' ∉ text := by
    intro text htext
    obtain ⟨code,hcode,rfl⟩ := List.mem_map.1 htext
    exact hcodes code hcode
  rw [toList_join,splitOn_intercalate ',' hnot (by simpa using hnonempty),List.map_map]
  simp

theorem not_mem_join {codes : List String} {c : Char} (hcomma : c ≠ ',')
    (h : ∀ code ∈ codes, c ∉ code.toList) : c ∉ (join "," codes).toList := by
  induction codes with
  | nil => simp
  | cons code codes ih =>
    have hcode := h code mem_cons_self
    have hrest := ih fun other hother => h other (mem_cons_of_mem _ hother)
    cases codes with
    | nil => simpa using hcode
    | cons next codes =>
      rw [join_cons_cons,String.toList_append,String.toList_append,mem_append, mem_append,not_or,not_or]
      exact ⟨⟨hcode,by simpa using hcomma⟩,hrest⟩

theorem withholdingLayerOf_text (layer : WithholdingLayer) :
    withholdingLayerOf layer.text = some layer := by
  cases layer <;> decide

theorem span_colon {head rest : List Char} (h : ':' ∉ head) :
    (head ++ ':' :: rest).span (· != ':') = (head, ':' :: rest) := by
  have hhead : ∀ c ∈ head, (c != ':') = true := by
    intro c hc
    rw [bne_iff_ne]
    rintro rfl
    exact h hc
  rw [span_eq_takeWhile_dropWhile,takeWhile_append_of_pos hhead,
    dropWhile_append_of_pos hhead,takeWhile_cons_of_neg (by simp),
    dropWhile_cons_of_neg (by simp),append_nil]

theorem layer_text_no_colon (layer : WithholdingLayer) : ':' ∉ layer.text.toList := by
  cases layer <;> decide

theorem decodeWithheldOutcome_encoded {layer : WithholdingLayer} {codes : List String}
    (h : isCanonicalWithheldCodes layer codes = true) :
    decodeWithheldOutcome (withheldPrefix ++ layer.text ++ ":" ++ join "," codes) =
      some (layer, codes) := by
  obtain ⟨hnonempty,hcodes⟩ := canonical_codeText h
  have htext : (withheldPrefix ++ layer.text ++ ":" ++ join "," codes).toList =
      withheldPrefix.toList ++ (layer.text.toList ++ ':' :: (join "," codes).toList) := by
    simp only [String.toList_append,append_assoc]
    rfl
  have hbehind := List.isPrefixOf?_eq_some_iff_append_eq.2 htext.symm
  have hread := codesOf_join hnonempty fun code hcode => (hcodes code hcode).1
  rw [decodeWithheldOutcome,hbehind]
  simp only [span_colon (layer_text_no_colon layer),String.ofList_toList,
    withholdingLayerOf_text,hread,h,if_true]

theorem decodeWithheldOutcome_legacy {codes : List String}
    (h : isCanonicalWithheldCodes .grantExercise codes = true) :
    decodeWithheldOutcome (withheldPrefix ++ join "," codes) = some (.grantExercise, codes) := by
  obtain ⟨hnonempty,hcodes⟩ := canonical_codeText h
  have hbehind := List.isPrefixOf?_eq_some_iff_append_eq.2
    (String.toList_append (s := withheldPrefix) (t := join "," codes)).symm
  have hread := codesOf_join hnonempty fun code hcode => (hcodes code hcode).1
  have hcolon : ':' ∉ (join "," codes).toList :=
    not_mem_join (by decide) fun code hcode => (hcodes code hcode).2
  have hall : ∀ c ∈ (join "," codes).toList, (c != ':') = true := by
    intro c hc
    rw [bne_iff_ne]
    rintro rfl
    exact hcolon hc
  have hspan : (join "," codes).toList.span (· != ':') = ((join "," codes).toList, []) := by
    rw [span_eq_takeWhile_dropWhile,dropWhile_eq_nil_iff.2 hall, takeWhile_eq_self_iff.2 hall]
  rw [decodeWithheldOutcome,hbehind]
  simp only [hspan,hread,h,if_true]

theorem decodeWithheldOutcome_prefix {recorded : String}
    (h : decodeWithheldOutcome recorded = some withheld) :
    withheldPrefix.toList <+: recorded.toList := by
  by_contra hnot
  rw [decodeWithheldOutcome,isPrefixOf?_eq_none_iff.2 hnot] at h
  cases h

/-- The row a record holds for an execution. -/
def outcomeRow (record : GovernanceRecord) (executionId : String) : Option String :=
  (record.references.find? fun entry =>
    entry.referenceId == executionOutcomeReferenceId H executionId &&
      entry.externalId == executionId).bind (·.externalVersion)

/-- What the ledger reads of a row. -/
def readRow (attempted : Bool) (recorded : String) : PriorExecution :=
  let (body, adapterId) :=
    if (List.isPrefixOf? withheldPrefix.toList recorded.toList).isSome then (recorded, none)
    else splitAdapter recorded
  match decodeWithheldOutcome body with
  | none => { attempted := attempted, outcome := some body, adapterId := adapterId }
  | some withheld =>
      { attempted := attempted, outcome := some "withheld", withheld := some withheld }

variable {record : GovernanceRecord} {executionId recorded : String} {attempted : Bool}

theorem prior_eq_readRow (hrow : outcomeRow H record executionId = some recorded) :
    prior H record executionId = readRow (executionClaimRecorded H record executionId) recorded := by
  rw [outcomeRow] at hrow
  rw [prior,hrow]
  rfl

theorem readRow_of_withheld (hbegins : withheldPrefix.toList <+: recorded.toList) :
    readRow attempted recorded = match decodeWithheldOutcome recorded with
      | none => { attempted := attempted, outcome := some recorded }
      | some withheld =>
          { attempted := attempted, outcome := some "withheld", withheld := some withheld } := by
  delta readRow
  rw [if_pos (isPrefixOf?_isSome_iff.2 hbegins)]

theorem readRow_of_body (hbegins : ¬ withheldPrefix.toList <+: recorded.toList) :
    readRow attempted recorded =
      { attempted := attempted, outcome := some (splitAdapter recorded).1,
        adapterId := (splitAdapter recorded).2 } := by
  have hbody : decodeWithheldOutcome (splitAdapter recorded).1 = none := by
    cases hdecoded : decodeWithheldOutcome (splitAdapter recorded).1 with
    | none => rfl
    | some withheld =>
      have hdecode := decodeWithheldOutcome_prefix hdecoded
      exact absurd ((prefix_splitAdapter (by decide) recorded).1 hdecode) hbegins
  have hsome : ¬ (List.isPrefixOf? withheldPrefix.toList recorded.toList).isSome = true :=
    fun h => hbegins (isPrefixOf?_isSome_iff.1 h)
  delta readRow
  rw [if_neg hsome]
  simp only [hbody]

theorem failureOf_eq_some_iff {text : String} :
    failureOf text = some failure ↔ text = failureText failure := by
  constructor
  · intro h
    have hfound := List.find?_some h
    exact (by simpa using hfound : failureText failure = text).symm
  · rintro rfl
    cases failure <;> decide

/-- The failure a body states. -/
def failureBehind (body : String) : Option ExecutionFailureReason :=
  (List.isPrefixOf? executionFailedPrefix.toList body.toList).bind fun reason =>
    failureOf (String.ofList reason)

theorem failureBehind_eq_some_iff :
    failureBehind body = some failure ↔ body = executionFailedPrefix ++ failureText failure := by
  rw [failureBehind,bind_eq_some_iff]
  constructor
  · rintro ⟨reason,hreason,hfailure⟩
    rw [List.isPrefixOf?_eq_some_iff_append_eq] at hreason
    apply String.toList_injective
    rw [String.toList_append,← failureOf_eq_some_iff.1 hfailure,String.toList_ofList,hreason]
  · rintro rfl
    refine ⟨(failureText failure).toList,?_,?_⟩
    · rw [List.isPrefixOf?_eq_some_iff_append_eq,String.toList_append]
    · rw [String.ofList_toList,failureOf_eq_some_iff]

theorem decode_of_body (hcompleted : recorded ≠ resolvedCompletedForm)
    (hresolved : ¬ resolvedNotCompletedPrefix.toList <+: recorded.toList)
    (hwithheld : ¬ withheldPrefix.toList <+: recorded.toList) :
    decodeDefinitiveExecutionSummary recorded =
      if (splitAdapter recorded).1 = "executed" then some (.executed (splitAdapter recorded).2)
      else (failureBehind (splitAdapter recorded).1).map
        (.executionFailed · (splitAdapter recorded).2) := by
  have hsome : ¬ (List.isPrefixOf? withheldPrefix.toList recorded.toList).isSome = true :=
    fun h => hwithheld (isPrefixOf?_isSome_iff.1 h)
  rw [decodeDefinitiveExecutionSummary,if_neg hcompleted,isPrefixOf?_eq_none_iff.2 hresolved]
  simp only [hsome,failureBehind]
  rw [if_neg Bool.false_ne_true]
  cases List.isPrefixOf? executionFailedPrefix.toList (splitAdapter recorded).1.toList <;> rfl

theorem decode_of_withheld (hwithheld : withheldPrefix.toList <+: recorded.toList) :
    decodeDefinitiveExecutionSummary recorded =
      (decodeWithheldOutcome recorded).map fun withheld => .withheld withheld.1 withheld.2 := by
  obtain ⟨rest,hrest⟩ := hwithheld
  have hcompleted : recorded ≠ resolvedCompletedForm := by
    rintro rfl
    cases hrest
  have hresolved : List.isPrefixOf? resolvedNotCompletedPrefix.toList recorded.toList = none := by
    rw [isPrefixOf?_eq_none_iff,← hrest]
    rintro ⟨other,hother⟩
    cases hother
  rw [decodeDefinitiveExecutionSummary,if_neg hcompleted,hresolved]
  simp only [isPrefixOf?_isSome_iff.2 ⟨rest,hrest⟩,if_true]

/-- What a call answers with a decoded summary; `none` is an outcome that is not known. -/
def summaryStatus : Option DefinitiveExecutionSummary → GovernedActionStatus
  | some (.executed _) => .executed none true true
  | some (.executionFailed failure _) => .executionFailed failure true true
  | some (.withheld layer _) => .withheld (withheldByOf layer)
  | _ => .executionUnconfirmed

/-- The codes a decoded withholding is answered with. -/
def summaryCodes : Option DefinitiveExecutionSummary → Option (List String)
  | some (.withheld _ reasonCodes) => some reasonCodes
  | _ => none

/-- The readers say the same of a row: `known` is what the ledger read of it, `summary` what the
decoder did. -/
structure ReadersAgree (known : PriorExecution) (summary : Option DefinitiveExecutionSummary) : Prop where
  executed : ∀ adapterId, summary = some (.executed adapterId) ↔
    known.outcome = some "executed" ∧ known.adapterId = adapterId
  executionFailed : ∀ failure adapterId, summary = some (.executionFailed failure adapterId) ↔
    known.outcome = some (executionFailedPrefix ++ failureText failure) ∧ known.adapterId = adapterId
  withheld : ∀ layer reasonCodes, summary = some (.withheld layer reasonCodes) ↔
    known.withheld = some (layer, reasonCodes)
  status : ∀ context decisionReasonCodes,
    (replayResult context known decisionReasonCodes).status = summaryStatus summary
  codes : ∀ context decisionReasonCodes reasonCodes, summaryCodes summary = some reasonCodes →
    (replayResult context known decisionReasonCodes).reasonCodes = reasonCodes

theorem failureBehind_ne_executed : executionFailedPrefix ++ failureText failure ≠ "executed" := by
  cases failure <;> decide

theorem replayResult_of_body (houtcome : known.outcome = some body)
    (hwithheld : known.withheld = none) (context : ResultContext) (reasonCodes : List String) :
    (replayResult context known reasonCodes).status = if body = "executed" then .executed none true true
      else match failureBehind body with
        | some failure => .executionFailed failure true true
        | none => .executionUnconfirmed := by
  by_cases hexecuted : body = "executed"
  · rw [replayResult,houtcome,if_pos (congrArg some hexecuted),if_pos hexecuted]
  · have hother : ¬ some body = some "executed" := fun h => hexecuted (some.inj h)
    rw [replayResult,houtcome,if_neg hother,hwithheld,if_neg hexecuted,bind_some, ← failureBehind]
    simp only
    cases failureBehind body with
    | some failure => rfl
    | none =>
      simp only
      split_ifs <;> rfl

theorem ReadersAgree.of_body {adapterId : Option String} (houtcome : known.outcome = some body)
    (hwithheld : known.withheld = none) (hadapter : known.adapterId = adapterId)
    (hsummary : summary = if body = "executed" then some (.executed adapterId) else (failureBehind body).map (.executionFailed · adapterId)) :
    ReadersAgree known summary := by
  have hstatus := replayResult_of_body houtcome hwithheld
  by_cases hexecuted : body = "executed"
  · rw [if_pos hexecuted] at hsummary
    subst hsummary
    refine ⟨fun a => ?_,fun failure a => ?_,fun layer codes => ?_,fun context codes => ?_,
      fun context codes withheld h => ?_⟩
    · rw [houtcome,hadapter,hexecuted]
      simp
    · rw [houtcome,hexecuted,some_inj]
      simp [failureBehind_ne_executed.symm]
    · rw [hwithheld]
      simp
    · rw [hstatus context codes,if_pos hexecuted]
      rfl
    · cases h
  · rw [if_neg hexecuted] at hsummary
    subst hsummary
    refine ⟨fun a => ?_,fun failure a => ?_,fun layer codes => ?_,fun context codes => ?_,
      fun context codes withheld h => ?_⟩
    · rw [houtcome,some_inj]
      simp [hexecuted]
    · rw [houtcome,hadapter,some_inj,← failureBehind_eq_some_iff]
      cases failureBehind body <;> simp
    · rw [hwithheld]
      cases failureBehind body <;> simp
    · rw [hstatus context codes,if_neg hexecuted]
      cases failureBehind body <;> rfl
    · cases hfailure : failureBehind body with
      | none =>
        rw [hfailure] at h
        cases h
      | some failure =>
        rw [hfailure] at h
        cases h

theorem ReadersAgree.of_withheld (houtcome : known.outcome = some "withheld")
    (hwithheld : known.withheld = some withheld) :
    ReadersAgree known (some (.withheld withheld.1 withheld.2)) := by
  have hresult : ∀ context codes, replayResult context known codes =
      ⟨.withheld (withheldByOf withheld.1),context,withheld.2⟩ := by
    intro context codes
    have hother : ¬ some "withheld" = some "executed" := by decide
    rw [replayResult,houtcome,if_neg hother,hwithheld]
  refine ⟨fun a => ?_,fun failure a => ?_,fun layer codes => ?_,fun context codes => ?_,
    fun context codes reasonCodes h => ?_⟩
  · rw [houtcome]
    simp
  · rw [houtcome,some_inj]
    have hne : "withheld" ≠ executionFailedPrefix ++ failureText failure := by
      cases failure <;> decide
    simp [hne]
  · rw [hwithheld,some_inj,some_inj,DefinitiveExecutionSummary.withheld.injEq,Prod.ext_iff]
  · rw [hresult context codes]
    rfl
  · rw [hresult context codes]
    exact some.inj h

theorem body_of_resolved {start : String} (hstart : '@' ∉ start.toList)
    (hexecuted : ¬ start.toList <+: "executed".toList)
    (hfailed : ∀ failure, ¬ start.toList <+: (executionFailedPrefix ++ failureText failure).toList)
    (h : start.toList <+: recorded.toList) :
    (splitAdapter recorded).1 ≠ "executed" ∧ failureBehind (splitAdapter recorded).1 = none := by
  have hbody := (prefix_splitAdapter hstart recorded).2 h
  constructor
  · intro heq
    rw [heq] at hbody
    exact hexecuted hbody
  · cases hfailure : failureBehind (splitAdapter recorded).1 with
    | none => rfl
    | some failure =>
      rw [failureBehind_eq_some_iff.1 hfailure] at hbody
      exact absurd hbody (hfailed failure)

theorem ReadersAgree.of_unknown (houtcome : known.outcome = some body)
    (hwithheld : known.withheld = none) (hexecuted : body ≠ "executed")
    (hfailure : failureBehind body = none)
    (hsummary : summary = none ∨ summary = some .resolvedCompleted ∨ ∃ failure, summary = some (.resolvedNotCompleted failure)) :
    ReadersAgree known summary := by
  have hstatus := replayResult_of_body houtcome hwithheld
  have hnot : ∀ failure, body ≠ executionFailedPrefix ++ failureText failure := by
    intro failure heq
    rw [failureBehind_eq_some_iff.2 heq] at hfailure
    cases hfailure
  refine ⟨fun a => ?_,fun failure a => ?_,fun layer codes => ?_,fun context codes => ?_,
    fun context codes reasonCodes h => ?_⟩
  · rw [houtcome,some_inj]
    rcases hsummary with rfl | rfl | ⟨failure,rfl⟩ <;> simp [hexecuted]
  · rw [houtcome,some_inj]
    rcases hsummary with rfl | rfl | ⟨other,rfl⟩ <;> simp [hnot]
  · rw [hwithheld]
    rcases hsummary with rfl | rfl | ⟨failure,rfl⟩ <;> simp
  · rw [hstatus context codes,if_neg hexecuted,hfailure]
    rcases hsummary with rfl | rfl | ⟨failure,rfl⟩ <;> rfl
  · rcases hsummary with rfl | rfl | ⟨failure,rfl⟩ <;> cases h

theorem readers_agree (attempted : Bool) (recorded : String) :
    ReadersAgree (readRow attempted recorded) (decodeDefinitiveExecutionSummary recorded) := by
  by_cases hwithheld : withheldPrefix.toList <+: recorded.toList
  · rw [readRow_of_withheld hwithheld,decode_of_withheld hwithheld]
    cases hdecoded : decodeWithheldOutcome recorded with
    | some withheld => exact .of_withheld rfl rfl
    | none =>
      have hexecuted : recorded ≠ "executed" := by
        rintro rfl
        exact absurd hwithheld (by decide)
      refine .of_unknown rfl rfl hexecuted ?_ (.inl rfl)
      cases hfailure : failureBehind recorded with
      | none => rfl
      | some failure =>
        rw [failureBehind_eq_some_iff.1 hfailure] at hwithheld
        exact absurd hwithheld (by cases failure <;> decide)
  · rw [readRow_of_body hwithheld]
    by_cases hcompleted : recorded = resolvedCompletedForm
    · obtain ⟨hexecuted,hfailure⟩ := @body_of_resolved recorded
        resolvedCompletedForm (by decide) (by decide)
        (fun failure => by cases failure <;> decide) (hcompleted ▸ prefix_rfl)
      refine .of_unknown rfl rfl hexecuted hfailure (.inr (.inl ?_))
      rw [decodeDefinitiveExecutionSummary,if_pos hcompleted]
    · by_cases hresolved : resolvedNotCompletedPrefix.toList <+: recorded.toList
      · obtain ⟨hexecuted,hfailure⟩ := @body_of_resolved recorded
          resolvedNotCompletedPrefix (by decide) (by decide)
          (fun failure => by cases failure <;> decide) hresolved
        obtain ⟨rest,hrest⟩ := hresolved
        refine .of_unknown rfl rfl hexecuted hfailure ?_
        rw [decodeDefinitiveExecutionSummary,if_neg hcompleted,
          List.isPrefixOf?_eq_some_iff_append_eq.2 hrest]
        simp only
        cases failureOf (String.ofList rest) with
        | none => exact .inl rfl
        | some failure => exact .inr (.inr ⟨failure,rfl⟩)
      · exact .of_body rfl rfl rfl (decode_of_body hcompleted hresolved hwithheld)

def recordableAdapter (adapterId : String) : Option String :=
  if isRecordableExecutionAdapterId adapterId then some adapterId else none

/-- What a replay should know of an outcome. -/
def outcomeReading (attempted : Bool) : ExerciseOutcome → PriorExecution
  | .executed attribution =>
      { attempted := attempted, outcome := some "executed",
        adapterId := recordableAdapter attribution.adapterId }
  | .executionFailed attribution reason =>
      { attempted := attempted, outcome := some (executionFailedPrefix ++ failureText reason),
        adapterId := recordableAdapter attribution.adapterId }
  | .executionUnconfirmed attribution =>
      { attempted := attempted, outcome := some executionUnconfirmedOutcome,
        adapterId := recordableAdapter attribution.adapterId }
  | .withheld layer reasonCodes =>
      { attempted := attempted, outcome := some "withheld", withheld := some (layer, reasonCodes) }

theorem splitAdapter_withAdapter (h : '@' ∉ body.toList) :
    splitAdapter (withAdapter body adapterId) = (body, recordableAdapter adapterId) := by
  rw [withAdapter,recordableAdapter]
  split_ifs with hrecordable
  · exact splitAdapter_append body hrecordable
  · exact splitAdapter_of_no_delimiter h

section

variable (h : ¬ withheldPrefix.toList <+: body.toList) (hbody : '@' ∉ body.toList)
include h hbody

theorem withAdapter_not_withheld : ¬ withheldPrefix.toList <+: (withAdapter body adapterId).toList := by
  rw [← prefix_splitAdapter (by decide),splitAdapter_withAdapter hbody]
  exact h

theorem readRow_withAdapter : readRow attempted (withAdapter body adapterId) =
      { attempted := attempted, outcome := some body,
        adapterId := recordableAdapter adapterId } := by
  rw [readRow_of_body (withAdapter_not_withheld h hbody),splitAdapter_withAdapter hbody]

end

theorem failureForm_plain (failure : ExecutionFailureReason) :
    ¬ withheldPrefix.toList <+: (executionFailedPrefix ++ failureText failure).toList ∧
      '@' ∉ (executionFailedPrefix ++ failureText failure).toList := by
  cases failure <;> decide

theorem readRow_recorded (hrecorded : recordedOutcome outcome = some recorded) :
    readRow attempted recorded = outcomeReading attempted outcome := by
  cases outcome with
  | executed attribution =>
    obtain rfl := some.inj hrecorded
    exact readRow_withAdapter (by decide) (by decide)
  | executionUnconfirmed attribution =>
    obtain rfl := some.inj hrecorded
    exact readRow_withAdapter (by decide) (by decide)
  | executionFailed attribution reason =>
    obtain rfl := some.inj hrecorded
    obtain ⟨hplain,hbody⟩ := failureForm_plain reason
    exact readRow_withAdapter hplain hbody
  | withheld layer codes =>
    rw [recordedOutcome,encodeWithheldOutcome] at hrecorded
    split_ifs at hrecorded with hcanonical
    obtain rfl := some.inj hrecorded
    have hprefix : withheldPrefix.toList <+:
        (withheldPrefix ++ layer.text ++ ":" ++ join "," codes).toList := by
      simp only [String.toList_append,append_assoc]
      exact prefix_append _ _
    rw [readRow_of_withheld hprefix,decodeWithheldOutcome_encoded hcanonical]
    rfl

/-- The codes of a withholding that its layer could not have written. -/
def Unrecordable (outcome : ExerciseOutcome) : Prop :=
  ∃ layer codes, outcome = .withheld layer codes ∧
    (codes = [] ∨ ¬ codes.Nodup ∨ ∃ code ∈ codes, code ∉ withholdingVocabulary layer)

theorem isCanonicalWithheldCodes_iff {layer : WithholdingLayer} {codes : List String} :
    isCanonicalWithheldCodes layer codes = true ↔
      codes ≠ [] ∧ codes.Nodup ∧ ∀ code ∈ codes, code ∈ withholdingVocabulary layer := by
  simp only [isCanonicalWithheldCodes,Bool.and_eq_true,Bool.not_eq_true',decide_eq_true_eq,
    List.all_eq_true,contains_iff_mem,isEmpty_eq_false_iff]
  constructor
  · rintro ⟨⟨⟨hnonempty,-⟩,hnodup⟩,hvocabulary⟩
    exact ⟨hnonempty,hnodup,hvocabulary⟩
  · rintro ⟨hnonempty,hnodup,hvocabulary⟩
    -- distinct members of the vocabulary are at most as many as its members
    exact ⟨⟨⟨hnonempty,(hnodup.subperm hvocabulary).length_le⟩,hnodup⟩,hvocabulary⟩

theorem recordedOutcome_eq_none_iff : recordedOutcome outcome = none ↔ Unrecordable outcome := by
  cases outcome with
  | executed attribution => simp [recordedOutcome,Unrecordable]
  | executionUnconfirmed attribution => simp [recordedOutcome,Unrecordable]
  | executionFailed attribution reason => simp [recordedOutcome,Unrecordable]
  | withheld layer codes =>
    have hcanonical := @isCanonicalWithheldCodes_iff layer codes
    rw [recordedOutcome,encodeWithheldOutcome]
    split_ifs with h
    · obtain ⟨hnonempty,hnodup,hvocabulary⟩ := hcanonical.1 h
      simp only [false_iff]
      rintro ⟨_,_,heq,hbad⟩
      cases heq
      rcases hbad with hnil | hrepeated | ⟨code,hcode,hnot⟩
      · exact hnonempty hnil
      · exact hrepeated hnodup
      · exact hnot (hvocabulary code hcode)
    · simp only [true_iff]
      refine ⟨layer,codes,rfl,?_⟩
      by_contra hgood
      simp only [not_or,not_not,not_exists,not_and] at hgood
      exact h (hcanonical.2 hgood)

theorem recordOutcome_eq_pure_iff (organizationId evaluationId observationDigest : String) :
    recordOutcome H organizationId evaluationId executionId outcome observationDigest = pure () ↔
      recordedOutcome outcome = none := by
  rw [recordOutcome]
  cases recordedOutcome outcome with
  | none => simp
  | some row =>
    simp only [reduceCtorEq,iff_false]
    exact fun h => nomatch h

theorem outcomeRow_of_appended {before after : List GovernanceReference}
    {evaluationId row observationDigest createdAt : String}
    (hreferences : record.references = before ++
      outcomeReference H evaluationId executionId row observationDigest createdAt :: after)
    (hfirst : ∀ entry ∈ before, ¬ (entry.referenceId = executionOutcomeReferenceId H executionId ∧
      entry.externalId = executionId)) :
    outcomeRow H record executionId = some row := by
  have hbefore : before.find? (fun entry =>
      entry.referenceId == executionOutcomeReferenceId H executionId &&
        entry.externalId == executionId) = none := by
    rw [List.find?_eq_none]
    intro entry hentry
    simpa using hfirst entry hentry
  rw [outcomeRow,hreferences,List.find?_append,hbefore,List.find?_cons]
  simp [outcomeReference]

/-- An outcome row has one reading. -/
theorem outcome_row_one_reading :
    (∀ (outcome : ExerciseOutcome) (organizationId evaluationId executionId digest : String),
      recordOutcome H organizationId evaluationId executionId outcome digest = pure () ↔
        Unrecordable outcome) ∧
    (∀ (outcome : ExerciseOutcome) (row : String), recordedOutcome outcome = some row →
      ∀ (record : GovernanceRecord) (executionId evaluationId digest createdAt : String)
        (before after : List GovernanceReference),
        record.references = before ++
          outcomeReference H evaluationId executionId row digest createdAt :: after →
        (∀ entry ∈ before, ¬ (entry.referenceId = executionOutcomeReferenceId H executionId ∧
          entry.externalId = executionId)) →
        prior H record executionId = outcomeReading (executionClaimRecorded H record executionId) outcome) ∧
    (∀ (record : GovernanceRecord) (executionId recorded : String),
      outcomeRow H record executionId = some recorded →
        ReadersAgree (prior H record executionId) (decodeDefinitiveExecutionSummary recorded)) ∧
    (∀ (outcome other : ExerciseOutcome) (row : String), recordedOutcome outcome = some row →
      recordedOutcome other = some row → outcomeReading true outcome = outcomeReading true other) ∧
    ∀ codes, isCanonicalWithheldCodes .grantExercise codes = true →
      decodeDefinitiveExecutionSummary (withheldPrefix ++ join "," codes) =
        some (.withheld .grantExercise codes) := by
  refine ⟨?_,?_,?_,?_,?_⟩
  · intro outcome organizationId evaluationId executionId digest
    rw [recordOutcome_eq_pure_iff,recordedOutcome_eq_none_iff]
  · intro outcome row hrecorded record executionId evaluationId digest createdAt before after
      hreferences hfirst
    rw [prior_eq_readRow H (outcomeRow_of_appended H hreferences hfirst)]
    exact readRow_recorded hrecorded
  · intro record executionId recorded hrow
    rw [prior_eq_readRow H hrow]
    exact readers_agree _ recorded
  · intro outcome other row hrecorded hother
    rw [← readRow_recorded hrecorded,readRow_recorded hother]
  · intro codes hcanonical
    have hprefix : withheldPrefix.toList <+: (withheldPrefix ++ join "," codes).toList := by
      rw [String.toList_append]
      exact prefix_append _ _
    rw [decode_of_withheld hprefix,decodeWithheldOutcome_legacy hcanonical]
    rfl

end Frontera.GovernedAction
