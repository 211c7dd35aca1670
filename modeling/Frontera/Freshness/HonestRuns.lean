import Frontera.Freshness.RollbackSafety

/-! Nothing is put back, every request is handled once and every call is answered, a local commit
fails only over a moved head, and a session plans from a head that the store held. An honest process
holds the answer `prepared` only while the store is still at the head it expected; the invariant
says who holds it, and what every answer and stage rests on. -/

namespace Frontera.Freshness

open List Option

def HonestStep (s : FreshnessSystem) : FreshnessStep → Prop
  | .deliver call _ => ∀ inFlight ∈ s.calls[call]?, inFlight.answers = []
  | .restore _ => False
  | .answer _ reply around => reply.isOk = true ∧ around.commitRaises = false
  | .transition _ expected proposed => some expected ∈ s.held ∧
      (WitnessRequest.prepare expected proposed).wellFormed = true
  | _ => True

/-- The slot holds prepared what the request proposes. -/
def WitnessRequest.repeats (slot : WitnessBindingState) : WitnessRequest → Bool
  | .prepare _ proposed => slot.bind (·.pending) == some proposed.head
  | _ => false

/-- The witness handles a prepare of the successor that it already holds prepared. -/
def RepeatsPrepared (s : FreshnessSystem) : FreshnessStep → Prop
  | .deliver call _ => ∃ inFlight ∈ s.calls[call]?, inFlight.request.repeats s.slot = true
  | _ => False

instance (s : FreshnessSystem) : (step : FreshnessStep) → Decidable (HonestStep s step)
  | .deliver call _ => inferInstanceAs (Decidable (∀ inFlight ∈ s.calls[call]?, inFlight.answers = []))
  | .restore _ => isFalse id
  | .answer _ reply around => inferInstanceAs
      (Decidable (reply.isOk = true ∧ around.commitRaises = false))
  | .transition _ expected proposed => inferInstanceAs (Decidable (some expected ∈ s.held ∧
      (WitnessRequest.prepare expected proposed).wellFormed = true))
  | .openStore _ | .commitGenesis _ | .probe _ | .observe _ => isTrue trivial

instance (s : FreshnessSystem) : (step : FreshnessStep) → Decidable (RepeatsPrepared s step)
  | .deliver call _ => inferInstanceAs
      (Decidable (∃ inFlight ∈ s.calls[call]?, inFlight.request.repeats s.slot = true))
  | .restore _ | .openStore _ | .answer _ _ _ | .commitGenesis _ | .transition _ _ _ | .probe _
  | .observe _ => isFalse id

/-- Every step of a run meets a condition on the system before it. -/
def Along (binding : AuthorityStateBinding) (genesisDigest : String → String)
    (condition : FreshnessSystem → FreshnessStep → Prop) (s : FreshnessSystem) :
    List FreshnessStep → Prop
  | [] => True
  | step :: steps => condition s step ∧
      Along binding genesisDigest condition (s.step binding genesisDigest step) steps

def Along.decidable (binding : AuthorityStateBinding) (genesisDigest : String → String)
    (condition : FreshnessSystem → FreshnessStep → Prop)
    (decided : ∀ s step, Decidable (condition s step)) :
    (s : FreshnessSystem) → (steps : List FreshnessStep) →
      Decidable (Along binding genesisDigest condition s steps)
  | _, [] => isTrue trivial
  | s, step :: steps =>
      match decided s step, Along.decidable binding genesisDigest condition decided
        (s.step binding genesisDigest step) steps with
      | isTrue h, isTrue h' => isTrue ⟨h,h'⟩
      | isFalse h, _ => isFalse fun along => h along.1
      | _, isFalse h => isFalse fun along => h along.2

instance (binding : AuthorityStateBinding) (genesisDigest : String → String)
    (condition : FreshnessSystem → FreshnessStep → Prop)
    [decided : ∀ s step, Decidable (condition s step)] (s : FreshnessSystem)
    (steps : List FreshnessStep) : Decidable (Along binding genesisDigest condition s steps) :=
  Along.decidable binding genesisDigest condition decided s steps

/-- A transition awaits an answer. -/
def FreshnessTask.inTransition : FreshnessTask → Bool
  | .finalizingOutstanding _ _ _ _ _ | .preparing _ _ _ _ _ | .finalizingExpected _ _ _ _
  | .finalizingProposed _ _ _ => true
  | _ => false

/-- A transition has not reached its local commit. -/
def FreshnessTask.uncommitted : FreshnessTask → Bool
  | .finalizingOutstanding _ _ _ _ _ | .preparing _ _ _ _ _ | .finalizingExpected _ _ _ _ => true
  | _ => false

/-- The transition an event belongs to. -/
def FreshnessEvent.task? : FreshnessEvent → Option Nat
  | .began task _ | .committed task _ _ | .returned task _ _ | .threw task _ _ => some task
  | _ => none

def Returned (s : FreshnessSystem) (task : Nat) : Prop :=
  ∃ session checkpoint, .returned task session checkpoint ∈ s.events

def Threw (s : FreshnessSystem) (task : Nat) : Prop :=
  ∃ session code, .threw task session code ∈ s.events

/-- How every transition stands: one that threw met a conflict and wrote nothing, and one
that began awaits an answer, has returned, or threw. -/
structure Accounts (s : FreshnessSystem) : Prop where
  threw : ∀ task session code, .threw task session code ∈ s.events → code = .conflict ∧
    s.tasks[task]? = some .done ∧ ∀ other head, .committed task other head ∉ s.events
  committed : ∀ task session head, .committed task session head ∈ s.events →
    ∃ stage : FreshnessTask, s.tasks[task]? = some stage ∧ stage.uncommitted = false
  began : ∀ task session, .began task session ∈ s.events →
    (∃ stage : FreshnessTask, s.tasks[task]? = some stage ∧ stage.inTransition = true) ∨
      Returned s task ∨ Threw s task

variable {s s' : FreshnessSystem}

variable {task : Nat} {stage stage' : FreshnessTask}

theorem Accounts.move (h : Accounts s) (added : List FreshnessEvent)
    (hstage : s.tasks[task]? = some stage) (hdone : stage ≠ .done)
    (htasks : s'.tasks = s.tasks.set task stage') (hevents : s'.events = s.events ++ added)
    (hown : ∀ event ∈ added, ∀ other, event.task? = some other → other = task)
    (hbegan : ∀ session, .began task session ∉ added)
    (hthrew : ∀ session code, .threw task session code ∈ added → code = .conflict ∧ stage' = .done ∧ stage.uncommitted = true ∧ ∀ other head, .committed task other head ∉ added)
    (hcommitted : (stage.uncommitted = false ∨ ∃ session head, .committed task session head ∈ added) → stage'.uncommitted = false)
    (hended : stage.inTransition = true → stage'.inTransition = true ∨ (∃ session checkpoint, .returned task session checkpoint ∈ added) ∨ ∃ session code, .threw task session code ∈ added) :
    Accounts s' := by
  have hself : s'.tasks[task]? = some stage' := by
    rw [htasks]
    exact List.getElem?_set_self (List.getElem?_eq_some_iff.1 hstage).1
  have hother : ∀ other, other ≠ task → s'.tasks[other]? = s.tasks[other]? := by
    intro other hne
    rw [htasks,List.getElem?_set_ne hne.symm]
  -- events of another task, and all that happened before, stand as they stood
  have hkept : ∀ event, event ∈ s.events → event ∈ s'.events := by
    intro event hevent
    rw [hevents]
    exact mem_append_left _ hevent
  have hold : ∀ event other, event.task? = some other → other ≠ task → event ∈ s'.events →
      event ∈ s.events := by
    intro event other hof hne hevent
    rw [hevents] at hevent
    rcases mem_append.1 hevent with hevent | hevent
    · exact hevent
    · exact absurd (hown event hevent other hof) hne
  refine ⟨fun other session code hevent => ?_,fun other session head hevent => ?_,
    fun other session hevent => ?_⟩
  · by_cases hsame : other = task
    · subst hsame
      rw [hevents] at hevent
      rcases mem_append.1 hevent with hevent | hevent
      · rw [(h.threw other session code hevent).2.1,some.injEq] at hstage
        exact absurd hstage.symm hdone
      · obtain ⟨hcode,hfinal,huncommitted,hnone⟩ := hthrew session code hevent
        refine ⟨hcode,by rw [hself,hfinal],fun session' head hwritten => ?_⟩
        rw [hevents] at hwritten
        rcases mem_append.1 hwritten with hwritten | hwritten
        · obtain ⟨stage'',hstage'',hwrote⟩ := h.committed other session' head hwritten
          rw [hstage,some.injEq] at hstage''
          rw [← hstage'',huncommitted] at hwrote
          cases hwrote
        · exact hnone session' head hwritten
    · obtain ⟨hcode,hfinal,hnone⟩ := h.threw other session code (hold _ other rfl hsame hevent)
      refine ⟨hcode,by rw [hother other hsame,hfinal],fun session' head hwritten => ?_⟩
      exact hnone session' head (hold _ other rfl hsame hwritten)
  · by_cases hsame : other = task
    · subst hsame
      refine ⟨stage',hself,hcommitted ?_⟩
      rw [hevents] at hevent
      rcases mem_append.1 hevent with hevent | hevent
      · obtain ⟨stage'',hstage'',hwrote⟩ := h.committed other session head hevent
        rw [hstage,some.injEq] at hstage''
        rw [hstage'']
        exact .inl hwrote
      · exact .inr ⟨session,head,hevent⟩
    · obtain ⟨stage'',hstage'',hwrote⟩ :=
        h.committed other session head (hold _ other rfl hsame hevent)
      exact ⟨stage'',by rw [hother other hsame,hstage''],hwrote⟩
  · by_cases hsame : other = task
    · subst hsame
      rw [hevents] at hevent
      rcases mem_append.1 hevent with hevent | hevent
      · rcases h.began other session hevent with ⟨stage'',hstage'',hin⟩ |
          ⟨session',checkpoint,hreturned⟩ | ⟨session',code,hfailed⟩
        · rw [hstage,some.injEq] at hstage''
          rw [← hstage''] at hin
          rcases hended hin with hin' | ⟨session',checkpoint,hreturned⟩ | ⟨session',code,hfailed⟩
          · exact .inl ⟨stage',hself,hin'⟩
          · refine .inr (.inl ⟨session',checkpoint,?_⟩)
            rw [hevents]
            exact mem_append_right _ hreturned
          · refine .inr (.inr ⟨session',code,?_⟩)
            rw [hevents]
            exact mem_append_right _ hfailed
        · exact .inr (.inl ⟨session',checkpoint,hkept _ hreturned⟩)
        · exact .inr (.inr ⟨session',code,hkept _ hfailed⟩)
      · exact absurd hevent (hbegan session)
    · rcases h.began other session (hold _ other rfl hsame hevent) with ⟨stage'',hstage'',hin⟩ |
        ⟨session',checkpoint,hreturned⟩ | ⟨session',code,hfailed⟩
      · exact .inl ⟨stage'',by rw [hother other hsame,hstage''],hin⟩
      · exact .inr (.inl ⟨session',checkpoint,hkept _ hreturned⟩)
      · exact .inr (.inr ⟨session',code,hkept _ hfailed⟩)

theorem Accounts.aside (h : Accounts s) (added : List FreshnessEvent)
    (hstage : s.tasks[task]? = some stage) (hdone : stage ≠ .done)
    (haside : stage.inTransition = false) (haside' : stage'.uncommitted = false)
    (htasks : s'.tasks = s.tasks.set task stage') (hevents : s'.events = s.events ++ added)
    (hnone : ∀ event ∈ added, event.task? = none) : Accounts s' := by
  have hnot : ∀ event ∈ added, ∀ other, event.task? = some other → False := by
    intro event hevent other hof
    rw [hnone event hevent] at hof
    cases hof
  refine h.move added hstage hdone htasks hevents (fun event hevent other hof => ?_)
    (fun session hevent => hnot _ hevent task rfl)
    (fun session code hevent => (hnot _ hevent task rfl).elim) (fun _ => haside')
    (fun hin => by rw [haside] at hin; cases hin)
  exact (hnot event hevent other hof).elim

theorem Accounts.onward (h : Accounts s) (hstage : s.tasks[task]? = some stage)
    (huncommitted : stage.uncommitted = true) (hin : stage'.inTransition = true)
    (htasks : s'.tasks = s.tasks.set task stage') (hevents : s'.events = s.events) :
    Accounts s' := by
  have hdone : stage ≠ .done := by
    rintro rfl
    cases huncommitted
  refine h.move [] hstage hdone htasks (by rw [hevents,append_nil])
    (fun _ hevent => by cases hevent) (fun _ hevent => by cases hevent)
    (fun _ _ hevent => by cases hevent) ?_ (fun _ => .inl hin)
  rintro (hcommitted | ⟨_,_,hevent⟩)
  · rw [huncommitted] at hcommitted
    cases hcommitted
  · cases hevent

theorem Accounts.append (h : Accounts s) (tasks : List FreshnessTask)
    (added : List FreshnessEvent) (htasks : s'.tasks = s.tasks ++ tasks)
    (hevents : s'.events = s.events ++ added)
    (hbegan : ∀ event ∈ added, ∀ task, event.task? = some task → ∃ session stage,
      event = .began task session ∧ s'.tasks[task]? = some stage ∧ stage.inTransition = true) :
    Accounts s' := by
  have hsame : ∀ {task : Nat} {stage : FreshnessTask}, s.tasks[task]? = some stage →
      s'.tasks[task]? = some stage := by
    intro task stage hstage
    rw [htasks,List.getElem?_append_left (List.getElem?_eq_some_iff.1 hstage).1]
    exact hstage
  have hkept : ∀ event, event ∈ s.events → event ∈ s'.events := by
    intro event hevent
    rw [hevents]
    exact mem_append_left _ hevent
  have hold : ∀ event task, event.task? = some task → (∀ session, event ≠ .began task session) →
      event ∈ s'.events → event ∈ s.events := by
    intro event task hof hne hevent
    rw [hevents] at hevent
    rcases mem_append.1 hevent with hevent | hevent
    · exact hevent
    · obtain ⟨session,stage,heq,-⟩ := hbegan event hevent task hof
      exact absurd heq (hne session)
  refine ⟨fun task session code hevent => ?_,fun task session head hevent => ?_,
    fun task session hevent => ?_⟩
  · obtain ⟨hcode,hfinal,hnone⟩ := h.threw task session code
      (hold _ task rfl (fun _ heq => by cases heq) hevent)
    exact ⟨hcode,hsame hfinal,fun other head hwritten =>
      hnone other head (hold _ task rfl (fun _ heq => by cases heq) hwritten)⟩
  · obtain ⟨stage,hstage,hwrote⟩ := h.committed task session head
      (hold _ task rfl (fun _ heq => by cases heq) hevent)
    exact ⟨stage,hsame hstage,hwrote⟩
  · rw [hevents] at hevent
    rcases mem_append.1 hevent with hevent | hevent
    · rcases h.began task session hevent with ⟨stage,hstage,hin⟩ |
        ⟨other,checkpoint,hreturned⟩ | ⟨other,code,hfailed⟩
      · exact .inl ⟨stage,hsame hstage,hin⟩
      · exact .inr (.inl ⟨other,checkpoint,hkept _ hreturned⟩)
      · exact .inr (.inr ⟨other,code,hkept _ hfailed⟩)
    · obtain ⟨-,stage,-,hstage,hin⟩ := hbegan _ hevent task rfl
      exact .inl ⟨stage,hstage,hin⟩

/-- A transition has been answered `prepared`, and has not gone on to its commit. -/
def Ticketed (s : FreshnessSystem) (task : Nat) (expected proposed : AuthorityStateCheckpoint) : Prop :=
  ∃ session again call, s.tasks[task]? = some (.preparing session expected proposed again call) ∧
    ∃ inFlight : WitnessCall, s.calls[call]? = some inFlight ∧
      ∃ state, (WitnessOutcome.prepared, state) ∈ inFlight.answers

/-- One task awaits each call; one transition at most has been answered `prepared`, and while
it has, the store is where it expected it and the witness holds its proposal prepared. -/
structure Tickets (s : FreshnessSystem) : Prop where
  sent : ∀ stage ∈ s.tasks, ∀ call, stage.call? = some call → call < s.calls.length
  apart : ∀ (i j : Nat) (a b : FreshnessTask) (call : Nat), s.tasks[i]? = some a →
    s.tasks[j]? = some b → a.call? = some call → b.call? = some call → i = j
  ticket : ∀ task expected proposed, Ticketed s task expected proposed →
    s.content = some expected ∧ ∃ row, s.slot = some row ∧ row.committed = expected.head ∧
      row.pending = some proposed.head
  single : ∀ i j a b c d, Ticketed s i a b → Ticketed s j c d → i = j

variable {s s' : FreshnessSystem}

variable {tasks : List FreshnessTask} {i : Nat} {stage other : FreshnessTask}

theorem Tickets.silent (h : Tickets s)
    (htasks : ∀ (i : Nat) (stage : FreshnessTask), tasks[i]? = some stage → s.tasks[i]? = some stage ∨ stage.call? = none)
    (htasks' : s'.tasks = tasks) (hcalls : s'.calls = s.calls) (hcontent : s'.content = s.content)
    (hslot : s'.slot = s.slot) : Tickets s' := by
  subst htasks'
  have hticket : ∀ {i a b}, Ticketed s' i a b → Ticketed s i a b := by
    rintro i a b ⟨session,again,call,hstage,hanswered⟩
    rw [hcalls] at hanswered
    rcases htasks i _ hstage with hstage | hnone
    · exact ⟨session,again,call,hstage,hanswered⟩
    · cases hnone
  refine ⟨fun stage hstage call hcall => ?_,fun i j a b call ha hb hcall hcall' => ?_,
    fun task expected proposed hticketed => ?_,fun i j a b c d hi hj => ?_⟩
  · obtain ⟨i,hi⟩ := mem_iff_getElem?.1 hstage
    rw [hcalls]
    rcases htasks i stage hi with hold | hnone
    · exact h.sent stage (mem_of_getElem? hold) call hcall
    · rw [hnone] at hcall
      cases hcall
  · rcases htasks i a ha with ha | hnone
    · rcases htasks j b hb with hb | hnone
      · exact h.apart i j a b call ha hb hcall hcall'
      · rw [hnone] at hcall'
        cases hcall'
    · rw [hnone] at hcall
      cases hcall
  · rw [hcontent,hslot]
    exact h.ticket task expected proposed (hticket hticketed)
  · exact h.single i j a b c d (hticket hi) (hticket hj)

theorem Tickets.request (h : Tickets s) {request : WitnessRequest} (task : Nat)
    (htasks : ∀ (i : Nat) (stage : FreshnessTask), tasks[i]? = some stage → (i ≠ task ∧ s.tasks[i]? = some stage) ∨ i = task ∧ stage.call? = some s.calls.length)
    (htasks' : s'.tasks = tasks) (hcalls : s'.calls = s.calls ++ [⟨request,[]⟩])
    (hticket : ∀ i a b, i ≠ task → Ticketed s i a b → s'.content = some a ∧ ∃ row, s'.slot = some row ∧ row.committed = a.head ∧ row.pending = some b.head) :
    Tickets s' := by
  subst htasks'
  have hnew : s'.calls[s.calls.length]? = some ⟨request,[]⟩ := by
    rw [hcalls]
    exact List.getElem?_concat_length
  have hlt : ∀ {i : Nat} {stage : FreshnessTask} {call : Nat}, s.tasks[i]? = some stage →
      stage.call? = some call → call < s.calls.length :=
    fun hstage hcall => h.sent _ (mem_of_getElem? hstage) _ hcall
  have hold : ∀ {i a b}, Ticketed s' i a b → i ≠ task ∧ Ticketed s i a b := by
    rintro i a b ⟨session,again,call,hstage,inFlight,hcall,state,hanswer⟩
    rcases htasks i _ hstage with ⟨hne,hstage⟩ | ⟨-,hsent⟩
    · refine ⟨hne,session,again,call,hstage,inFlight,?_,state,hanswer⟩
      rw [hcalls,List.getElem?_append_left (hlt hstage rfl)] at hcall
      exact hcall
    · cases hsent
      rw [hnew,some.injEq] at hcall
      subst hcall
      cases hanswer
  refine ⟨fun stage hstage call hcall => ?_,fun i j a b call ha hb hcall hcall' => ?_,
    fun i a b hticketed => hticket i a b (hold hticketed).1 (hold hticketed).2,
    fun i j a b c d hi hj => h.single i j a b c d (hold hi).2 (hold hj).2⟩
  · obtain ⟨i,hi⟩ := mem_iff_getElem?.1 hstage
    rw [hcalls,length_append,length_singleton]
    rcases htasks i stage hi with ⟨-,hstage⟩ | ⟨-,hsent⟩
    · have := hlt hstage hcall
      omega
    · rw [hsent,some.injEq] at hcall
      omega
  · rcases htasks i a ha with ⟨-,ha⟩ | ⟨hi,hsent⟩ <;>
      rcases htasks j b hb with ⟨-,hb⟩ | ⟨hj,hsent'⟩
    · exact h.apart i j a b call ha hb hcall hcall'
    · have := hlt ha hcall
      rw [hsent',some.injEq] at hcall'
      omega
    · have := hlt hb hcall'
      rw [hsent,some.injEq] at hcall
      omega
    · rw [hi,hj]

theorem getElem?_set_cases {task : Nat} (h : (tasks.set task stage)[i]? = some other) :
    (i ≠ task ∧ tasks[i]? = some other) ∨ i = task ∧ other = stage := by
  by_cases hsame : i = task
  · subst hsame
    rw [List.getElem?_set_self'] at h
    obtain ⟨_,_,heq⟩ := map_eq_some_iff.1 h
    exact .inr ⟨rfl,heq.symm⟩
  · rw [List.getElem?_set_ne (Ne.symm hsame)] at h
    exact .inl ⟨hsame,h⟩

theorem getElem?_concat_cases (h : (tasks ++ [stage])[i]? = some other) :
    (i ≠ tasks.length ∧ tasks[i]? = some other) ∨ i = tasks.length ∧ other = stage := by
  rcases Nat.lt_trichotomy i tasks.length with hlt | heq | hgt
  · rw [List.getElem?_append_left hlt] at h
    exact .inl ⟨Nat.ne_of_lt hlt,h⟩
  · subst heq
    rw [List.getElem?_concat_length,some.injEq] at h
    exact .inr ⟨rfl,h.symm⟩
  · have hlength := (List.getElem?_eq_some_iff.1 h).1
    rw [length_append,length_singleton] at hlength
    omega

end Frontera.Freshness
