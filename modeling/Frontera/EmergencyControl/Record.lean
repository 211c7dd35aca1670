import Frontera.EmergencyControl.Signal

/-! An event for each operator transition, the current state of each control, and one head, with the
serializations their digests cover. -/

namespace Frontera.EmergencyControl

open Frontera.Execution Frontera.Text

variable (P : Platform)

def emergencyControlRecordFormat : String := "aoc.emergency-control-store.record.v2"

def emergencyControlStoreSchemaVersion : String := "aoc.emergency-control-store.schema.v2"

inductive EmergencyControlTransition
  | activated | released
deriving DecidableEq

def EmergencyControlTransition.text : EmergencyControlTransition → String
  | activated => "activated"
  | released => "released"

/-- The transition a text names. -/
def isEmergencyControlTransition : String → Option EmergencyControlTransition
  | "activated" => some .activated
  | "released" => some .released
  | _ => none

@[simp] theorem isEmergencyControlTransition_text (transition : EmergencyControlTransition) :
    isEmergencyControlTransition transition.text = some transition := by
  cases transition <;> rfl

theorem EmergencyControlTransition.text_inj {a b : EmergencyControlTransition} : a.text = b.text ↔ a = b :=
  ⟨fun h => by simpa using congrArg isEmergencyControlTransition h,fun h => by rw [h]⟩

theorem text_of_isEmergencyControlTransition {text : String}
    {transition : EmergencyControlTransition}
    (h : isEmergencyControlTransition text = some transition) : transition.text = text := by
  unfold isEmergencyControlTransition at h
  split at h <;> cases h <;> rfl

/-- The text the chain starts from. -/
def emergencyControlGenesis : String :=
  "\x7b\"format\":" ++ stringify emergencyControlRecordFormat ++
    ",\"kind\":\"genesis\",\"schemaVersion\":" ++ stringify emergencyControlStoreSchemaVersion ++
    "\x7d"

/-- `EMERGENCY_CONTROL_GENESIS_DIGEST` -/
def emergencyControlGenesisDigest : String := P.digestOf emergencyControlGenesis

structure EmergencyControlEventRecord where
  sequence : Int
  controlKey : String
  scope : EmergencyControlScope
  value : Option String
  transition : EmergencyControlTransition
  (issuerRef recordedAt previousEventDigest : String)

/-- An optional text as the serializers write it. -/
def textOrNull : Option String → String
  | none => "null"
  | some text => stringify text

def serializeEmergencyControlEvent (event : EmergencyControlEventRecord) : String :=
  "\x7b" ++ join "," [
    "\"controlKey\":" ++ stringify event.controlKey,
    "\"format\":" ++ stringify emergencyControlRecordFormat,
    "\"kind\":\"event\"",
    "\"issuerRef\":" ++ stringify event.issuerRef,
    "\"previousEventDigest\":" ++ stringify event.previousEventDigest,
    "\"recordedAt\":" ++ stringify event.recordedAt,
    "\"schemaVersion\":" ++ stringify emergencyControlStoreSchemaVersion,
    "\"scope\":" ++ stringify (scopeText event.scope),
    "\"sequence\":" ++ toString event.sequence,
    "\"transition\":" ++ stringify event.transition.text,
    "\"value\":" ++ textOrNull event.value] ++ "\x7d"

def emergencyControlEventDigest (event : EmergencyControlEventRecord) : String :=
  P.digestOf (serializeEmergencyControlEvent event)

structure EmergencyControlHeadRecord where
  (eventSequence eventCount : Int)
  (eventDigest updatedAt : String)

def serializeEmergencyControlHead (head : EmergencyControlHeadRecord) : String :=
  "\x7b" ++ join "," [
    "\"eventCount\":" ++ toString head.eventCount,
    "\"eventDigest\":" ++ stringify head.eventDigest,
    "\"eventSequence\":" ++ toString head.eventSequence,
    "\"format\":" ++ stringify emergencyControlRecordFormat,
    "\"kind\":\"head\"",
    "\"schemaVersion\":" ++ stringify emergencyControlStoreSchemaVersion,
    "\"updatedAt\":" ++ stringify head.updatedAt] ++ "\x7d"

def emergencyControlHeadDigest (head : EmergencyControlHeadRecord) : String :=
  P.digestOf (serializeEmergencyControlHead head)

structure StoredEmergencyControl where
  controlKey : String
  scope : EmergencyControlScope
  value : Option String
  active : Bool
  (issuerRef declaredAt : String)
  eventSequence : Int
  eventDigest : String

def booleanText (flag : Bool) : String := if flag then "true" else "false"

def serializeStoredEmergencyControl (control : StoredEmergencyControl) : String :=
  "\x7b" ++ join "," [
    "\"active\":" ++ booleanText control.active,
    "\"controlKey\":" ++ stringify control.controlKey,
    "\"declaredAt\":" ++ stringify control.declaredAt,
    "\"eventDigest\":" ++ stringify control.eventDigest,
    "\"eventSequence\":" ++ toString control.eventSequence,
    "\"format\":" ++ stringify emergencyControlRecordFormat,
    "\"issuerRef\":" ++ stringify control.issuerRef,
    "\"kind\":\"control\"",
    "\"schemaVersion\":" ++ stringify emergencyControlStoreSchemaVersion,
    "\"scope\":" ++ stringify (scopeText control.scope),
    "\"value\":" ++ textOrNull control.value] ++ "\x7d"

def storedEmergencyControlDigest (control : StoredEmergencyControl) : String :=
  P.digestOf (serializeStoredEmergencyControl control)

theorem textOrNull_append_inj {v w : Option String} {r s : String} :
    textOrNull v ++ r = textOrNull w ++ s ↔ v = w ∧ r = s := by
  cases v with
  | none =>
    cases w with
    | none => simp only [String.append_right_inj,true_and]
    | some b =>
      simp only [textOrNull,reduceCtorEq,false_and,iff_false]
      intro h
      exact stringify_ne_unquoted (by decide) _ _ h.symm
  | some a =>
    cases w with
    | none =>
      simp only [textOrNull,reduceCtorEq,false_and,iff_false]
      exact stringify_ne_unquoted (by decide) _ _
    | some b => simp only [textOrNull,stringify_append_inj,Option.some.injEq]

theorem booleanText_append_inj {a b : Bool} {r s : String} :
    booleanText a ++ r = booleanText b ++ s ↔ a = b ∧ r = s := by
  have hdiffer : ∀ t u : String, booleanText true ++ t ≠ booleanText false ++ u :=
    append_ne_append (by decide)
  cases a <;> cases b
  · simp only [String.append_right_inj,true_and]
  · simp only [(hdiffer _ _).symm,Bool.false_eq_true,false_and]
  · simp only [hdiffer,Bool.true_eq_false,false_and]
  · simp only [String.append_right_inj,true_and]

theorem serializeEmergencyControlEvent_inj {a b : EmergencyControlEventRecord}
    (h : serializeEmergencyControlEvent a = serializeEmergencyControlEvent b) : a = b := by
  obtain ⟨aSequence,aKey,aScope,aValue,aTransition,aIssuer,aAt,aPrevious⟩ := a
  obtain ⟨bSequence,bKey,bScope,bValue,bTransition,bIssuer,bAt,bPrevious⟩ := b
  simp only [serializeEmergencyControlEvent,join_cons_cons,join_singleton,String.append_assoc,
    String.append_right_inj,stringify_append_inj,integer_comma_inj,textOrNull_append_inj,
    scopeText_inj,EmergencyControlTransition.text_inj,and_true] at h
  obtain ⟨rfl,rfl,rfl,rfl,rfl,rfl,rfl,rfl⟩ := h
  rfl

theorem serializeEmergencyControlHead_inj {a b : EmergencyControlHeadRecord}
    (h : serializeEmergencyControlHead a = serializeEmergencyControlHead b) : a = b := by
  obtain ⟨aSequence,aCount,aDigest,aAt⟩ := a
  obtain ⟨bSequence,bCount,bDigest,bAt⟩ := b
  simp only [serializeEmergencyControlHead,join_cons_cons,join_singleton,String.append_assoc,
    String.append_right_inj,stringify_append_inj,integer_comma_inj,and_true] at h
  obtain ⟨rfl,rfl,rfl,rfl⟩ := h
  rfl

theorem serializeStoredEmergencyControl_inj {a b : StoredEmergencyControl}
    (h : serializeStoredEmergencyControl a = serializeStoredEmergencyControl b) : a = b := by
  obtain ⟨aKey,aScope,aValue,aActive,aIssuer,aAt,aSequence,aDigest⟩ := a
  obtain ⟨bKey,bScope,bValue,bActive,bIssuer,bAt,bSequence,bDigest⟩ := b
  simp only [serializeStoredEmergencyControl,join_cons_cons,join_singleton,String.append_assoc,
    String.append_right_inj,stringify_append_inj,integer_comma_inj,textOrNull_append_inj,
    booleanText_append_inj,scopeText_inj,and_true] at h
  obtain ⟨rfl,rfl,rfl,rfl,rfl,rfl,rfl,rfl⟩ := h
  rfl

section Digests

variable {P} (hsha : Function.Injective P.sha256)
include hsha

theorem emergencyControlEventDigest_inj {a b : EmergencyControlEventRecord}
    (h : emergencyControlEventDigest P a = emergencyControlEventDigest P b) : a = b :=
  serializeEmergencyControlEvent_inj (Platform.digestOf_injective hsha h)

theorem emergencyControlHeadDigest_inj {a b : EmergencyControlHeadRecord}
    (h : emergencyControlHeadDigest P a = emergencyControlHeadDigest P b) : a = b :=
  serializeEmergencyControlHead_inj (Platform.digestOf_injective hsha h)

theorem storedEmergencyControlDigest_inj {a b : StoredEmergencyControl}
    (h : storedEmergencyControlDigest P a = storedEmergencyControlDigest P b) : a = b :=
  serializeStoredEmergencyControl_inj (Platform.digestOf_injective hsha h)

end Digests

theorem digestOf_ne_empty (canonical : String) : P.digestOf canonical ≠ "" := by
  intro h
  have hlist := congrArg String.toList h
  rw [Platform.digestOf,String.toList_append] at hlist
  exact List.cons_ne_nil _ _ hlist

end Frontera.EmergencyControl
