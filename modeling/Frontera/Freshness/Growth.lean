import Frontera.Data.History
import Frontera.Freshness.Processes
import Frontera.Freshness.WitnessInvariant

/-! Records, contents, events and answers are only added to; and what the witness has recorded once
it shows ever after, as prepared, as committed, or as overtaken. -/

namespace Frontera.Freshness

open Frontera.Data List

/-- The witness recorded this checkpoint. -/
def RecordedIn (log : List WitnessRecord) (checkpoint : AuthorityStateCheckpoint) : Prop :=
  ∃ record ∈ log, record.storeId = checkpoint.storeId ∧ record.head = checkpoint.head

theorem RecordedIn.mono {log log' : List WitnessRecord} {checkpoint : AuthorityStateCheckpoint}
    (h : RecordedIn log checkpoint) (hfront : log <+: log') : RecordedIn log' checkpoint := by
  obtain ⟨record,hrecord,hsame⟩ := h
  exact ⟨record,hfront.subset hrecord,hsame⟩

variable {row : WitnessBindingState} {log : List WitnessRecord} {a b : AuthorityStateCheckpoint}

section

variable (h : LogSound row log)
include h

theorem LogSound.head_eq (ha : RecordedIn log a) (hb : RecordedIn log b)
    (heq : a.sequence = b.sequence) : a.head = b.head := by
  obtain ⟨record,hrecord,-,hhead⟩ := ha
  obtain ⟨record',hrecord',-,hhead'⟩ := hb
  have hsequence : record.head.sequence = record'.head.sequence := by
    rw [hhead,hhead']
    exact heq
  rw [← hhead,← hhead',h.once record hrecord record' hrecord' hsequence]

theorem LogSound.anchored (ha : RecordedIn log a) : ∃ r, row = some r ∧ r.storeId = a.storeId ∧
      (r.pending = some a.head ∨ r.committed = a.head ∨ a.sequence < r.committed.sequence) := by
  obtain ⟨record,hrecord,hstore,hhead⟩ := ha
  obtain ⟨r,hr,hstore',hle | hpending⟩ := h.within record hrecord
  · refine ⟨r,hr,hstore'.symm.trans hstore,?_⟩
    rcases Int.lt_or_eq_of_le hle with hlt | heq
    · right
      right
      rw [hhead] at hlt
      exact hlt
    · obtain ⟨record',hrecord',hcommitted⟩ := h.committed r hr
      right
      left
      rw [← hcommitted,← hhead]
      exact h.once record' hrecord' record hrecord (by rw [hcommitted,heq])
  · exact ⟨r,hr,hstore'.symm.trans hstore,.inl (by rw [hpending,hhead])⟩

theorem LogSound.recorded_committed {r : BindingRow} (hr : row = some r)
    (hstore : a.storeId = r.storeId) (hhead : a.head = r.committed) : RecordedIn log a := by
  obtain ⟨record,hrecord,hcommitted⟩ := h.committed r hr
  obtain ⟨r',hr',hstore',-⟩ := h.within record hrecord
  rw [hr,Option.some.injEq] at hr'
  subst hr'
  exact ⟨record,hrecord,by rw [hstore',hstore],by rw [hcommitted,hhead]⟩

theorem LogSound.recorded_pending {r : BindingRow} (hr : row = some r)
    (hstore : a.storeId = r.storeId) (hhead : r.pending = some a.head) : RecordedIn log a :=
  ⟨_,h.prepared r a.head hr hhead,hstore.symm,rfl⟩

theorem LogSound.bound (ha : RecordedIn log a) : row ≠ none := by
  obtain ⟨r,hr,-⟩ := h.anchored ha
  rw [hr]
  exact Option.some_ne_none r

end

/-- What no step takes away: records, contents, events, and the answers given. A new answer
shows the slot as it then is. -/
structure Grows (s s' : FreshnessSystem) : Prop where
  log : s.log <+: s'.log
  held : s.held ⊆ s'.held
  events : s.events <+: s'.events
  bound : s.slot ≠ none → s'.slot ≠ none
  calls : ∀ (call : Nat) (inFlight : WitnessCall), s.calls[call]? = some inFlight →
    ∃ later : WitnessCall, s'.calls[call]? = some later ∧ later.request = inFlight.request ∧
      ∀ answer ∈ later.answers, answer ∈ inFlight.answers ∨ answer.2 = s'.slot ∧
        LogSound answer.2 s'.log ∧ appliedStateProblem inFlight.request answer.1 answer.2 = none

variable {s : FreshnessSystem}

theorem Grows.refl (s : FreshnessSystem) : Grows s s where
  log := prefix_refl _
  held := List.Subset.refl _
  events := prefix_refl _
  bound h := h
  calls _ inFlight h := ⟨inFlight,h,rfl,fun _ hanswer => .inl hanswer⟩

theorem Grows.take {s' : FreshnessSystem} (hgrows : Grows s s') {began : Nat}
    (hbegan : began ≤ s.events.length) : s'.events.take began = s.events.take began := by
  obtain ⟨later,hlater⟩ := hgrows.events
  rw [← hlater,take_append_of_le_length hbegan]

theorem grows_setTask (s : FreshnessSystem) (task : Nat) (stage : FreshnessTask) :
    Grows s (s.setTask task stage) :=
  ⟨prefix_refl _,List.Subset.refl _,prefix_refl _,id,(Grows.refl s).calls⟩

theorem grows_record (s : FreshnessSystem) (event : FreshnessEvent) : Grows s (s.record event) :=
  ⟨prefix_refl _,List.Subset.refl _,prefix_append _ _,id,(Grows.refl s).calls⟩

theorem grows_updateSession (s : FreshnessSystem) (session : Nat)
    (f : FreshnessSession → FreshnessSession) : Grows s (s.updateSession session f) :=
  ⟨prefix_refl _,List.Subset.refl _,prefix_refl _,id,(Grows.refl s).calls⟩

theorem grows_withContent (s : FreshnessSystem) (content : AuthorityStateCheckpoint) :
    Grows s (s.withContent content) :=
  ⟨prefix_refl _,subset_append_left _ _,prefix_refl _,id,(Grows.refl s).calls⟩

theorem grows_sessions (s : FreshnessSystem) (sessions : List FreshnessSession) :
    Grows s { s with sessions := sessions } :=
  ⟨prefix_refl _,List.Subset.refl _,prefix_refl _,id,(Grows.refl s).calls⟩

theorem grows_request (s : FreshnessSystem) (request : WitnessRequest) (tasks : List FreshnessTask) :
    Grows s { s with calls := s.calls ++ [⟨request,[]⟩], tasks := tasks } := by
  refine ⟨prefix_refl _,List.Subset.refl _,prefix_refl _,id,?_⟩
  intro call inFlight hcall
  refine ⟨inFlight,?_,rfl,fun _ hanswer => .inl hanswer⟩
  rw [List.getElem?_append_left (List.getElem?_eq_some_iff.1 hcall).1]
  exact hcall

variable {call : Nat} {inFlight : WitnessCall} {elsewhere : Bool} {request : WitnessRequest}

theorem deliver_eq (hcall : s.calls[call]? = some inFlight) (elsewhere : Bool) :
    s.deliver call elsewhere = { s with
      slot := (applyRequest elsewhere s.slot inFlight.request).row
      log := s.log ++ (applyRequest elsewhere s.slot inFlight.request).recorded
      calls := s.calls.set call ⟨inFlight.request,inFlight.answers ++
        [((applyRequest elsewhere s.slot inFlight.request).outcome,
          (applyRequest elsewhere s.slot inFlight.request).row)]⟩ } := by
  rw [FreshnessSystem.deliver,hcall]

theorem applyRequest_free {existing : Option BindingRow}
    (h : (applyRequest elsewhere existing request).row = none) : existing = none := by
  rcases applyRequest_cases elsewhere existing request with ⟨hrow,-⟩ | ⟨_,_,-,hfree,-⟩ |
    ⟨_,_,_,-,-,-,-,-,hdone⟩ | ⟨_,_,-,-,-,-,hdone⟩
  · rw [← hrow]
    exact h
  · exact hfree
  · rw [hdone] at h
    cases h
  · rw [hdone] at h
    cases h

theorem applyRequest_binds (h : (applyRequest elsewhere none request).row ≠ none) :
    ∃ enrollment checkpoint, request = .enroll enrollment checkpoint ∧
      RecordedIn (applyRequest elsewhere none request).recorded checkpoint := by
  rcases applyRequest_cases elsewhere none request with ⟨hrow,-⟩ |
    ⟨enrollment,checkpoint,hrequest,-,hdone⟩ | ⟨_,_,_,-,hrow,-⟩ | ⟨_,_,-,hrow,-⟩
  · exact absurd hrow h
  · refine ⟨enrollment,checkpoint,hrequest,?_⟩
    rw [hdone]
    exact ⟨_,mem_singleton.2 rfl,rfl,rfl⟩
  · cases hrow
  · cases hrow

theorem grows_deliver (hslot : LogSound s.slot s.log) (hcall : s.calls[call]? = some inFlight)
    (hforward : inFlight.request.OneForward) (elsewhere : Bool) :
    Grows s (s.deliver call elsewhere) := by
  rw [deliver_eq hcall]
  refine ⟨prefix_append _ _,List.Subset.refl _,prefix_refl _,
    fun hbound hfree => hbound (applyRequest_free hfree),?_⟩
  intro other waiting hother
  by_cases hsame : call = other
  · subst hsame
    rw [hcall,Option.some.injEq] at hother
    subst hother
    refine ⟨_,List.getElem?_set_self (List.getElem?_eq_some_iff.1 hcall).1,rfl,?_⟩
    intro answer hanswer
    rcases mem_append.1 hanswer with hanswer | hanswer
    · exact .inl hanswer
    · rw [mem_singleton.1 hanswer]
      exact .inr ⟨rfl,hslot.applyRequest elsewhere hforward,
        (applyRequest_answer elsewhere s.slot inFlight.request).1⟩
  · refine ⟨waiting,?_,rfl,fun _ hanswer => .inl hanswer⟩
    rw [List.getElem?_set_ne hsame]
    exact hother

theorem updateSession_self {session : Nat} {kept : FreshnessSession}
    (hkept : s.sessions[session]? = some kept) (f : FreshnessSession → FreshnessSession) :
    (s.updateSession session f).sessions[session]? = some (f kept) := by
  rw [FreshnessSystem.updateSession,List.getElem?_modify_eq,hkept]
  rfl

end Frontera.Freshness
