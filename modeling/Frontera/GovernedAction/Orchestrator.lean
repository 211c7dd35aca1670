import Frontera.Data.Programs
import Frontera.GovernedAction.Ledger

/-! The part of the orchestrator that writes the summary row of an exercise, as a program: one
operation for each call that is awaited and one for each reading of the clock. -/

namespace Frontera.GovernedAction

open Frontera.Data

inductive Op where
  | now
  | getByEvaluationId (organizationId evaluationId : String)
  | appendReference (organizationId : String) (reference : GovernanceReference)

/-- `none` is a call that raised, where the path does not look at the error. -/
def Op.Answer : Op → Type
  | .now => String
  | .getByEvaluationId _ _ => Option (Option GovernanceRecord)
  | .appendReference _ _ => Except GovernanceStoreError Unit

def governedActions : Interface := ⟨Op,Op.Answer⟩

abbrev Governing := Prog governedActions

def perform (op : Op) : Governing op.Answer := Prog.perform (I := governedActions) op

variable (H : Host)

inductive AppendedOnce where
  | appended | existing

/-- `none`: neither appended nor found, and the error is raised again. -/
def appendOnce (organizationId : String) (reference : GovernanceReference) :
    Governing (Option AppendedOnce) := do
  match ← perform (.appendReference organizationId reference) with
  | .ok _ => pure (some .appended)
  | .error _ =>
      match ← perform (.getByEvaluationId organizationId reference.evaluationId) with
      | none => pure none
      | some record =>
          match record.bind fun record => record.references.find? fun entry =>
              entry.referenceId == reference.referenceId with
          | none => pure none
          | some existing =>
              if existing.referenceType == reference.referenceType &&
                  existing.externalId == reference.externalId then pure (some .existing)
              else pure none

/-- The summary row; its failure changes nothing. -/
def recordOutcome (organizationId evaluationId executionId : String) (outcome : ExerciseOutcome)
    (observationDigest : String) : Governing Unit := do
  match recordedOutcome outcome with
  | none => pure ()
  | some recordedAs =>
      let createdAt ← perform .now
      let _ ← appendOnce organizationId
        (outcomeReference H evaluationId executionId recordedAs observationDigest createdAt)

end Frontera.GovernedAction
