import Frontera.Data.History
import Frontera.GrantStore.Writes

/-! Whatever processes share a store, in whatever order their transactions fall and wherever one of
them stops, the file stays sound, no call meets an inconsistency, and a grant whose revocation has
completed reads with that revocation. -/

namespace Frontera.GrantStore

open Frontera.Data Frontera.Grant List Option

variable {P : Platform} {parse : String → Option BoundedGrant}

/-- What a call awaits was worked out from this file. -/
def TaskSound (P : Platform) (file : Option StoreDatabase) : StoreTask → Prop
  | .issuing _ _ storeId => ∃ db, file = some db ∧ storeId = db.storeId
  | .revoking _ revocation _ plan => ∃ db, file = some db ∧ Planned P db revocation plan
  | _ => True

/-- An error recorded for a read or a revocation does not speak against the file, and a
revocation reported as standing is recorded. -/
def EventSound (file : Option StoreDatabase) : StoreEvent → Prop
  | .issued _ _ _ => True
  | .read _ _ (.error error) => Benign error
  | .read _ _ (.ok _) => True
  | .revoked _ _ (.error error) => Benign error
  | .revoked _ revocation (.ok outcome) => ∀ standing, standing? outcome = some standing →
      ∃ db, file = some db ∧ db.revocationOf revocation.grantId = some standing

structure ProcessSound (P : Platform) (file : Option StoreDatabase) (process : StoreProcess) : Prop where
  noted : ∀ db, file = some db → Noted P db process.newestVerified
  unestablished : ∀ error, process.unestablished = some error → Benign error

/-- A read after a completed revocation of its grant reports that revocation. -/
def ReadsRevocation (before : List StoreEvent) (grantId : String)
    (result : ReadBoundedGrantResult) : Prop :=
  result.grant.isSome = true → ∀ process revocation outcome standing,
    .revoked process revocation (.ok outcome) ∈ before → standing? outcome = some standing →
    revocation.grantId = grantId → result.revocation = some standing

structure StoreSound (P : Platform) (parse : String → Option BoundedGrant) (s : StoreSystem) : Prop where
  database : ∀ db, s.file = some db → DatabaseSound P parse db
  opened : s.file = none → s.processes = []
  processes : ∀ process ∈ s.processes, ProcessSound P s.file process
  tasks : ∀ task ∈ s.tasks, TaskSound P s.file task
  events : ∀ event ∈ s.history, EventSound s.file event
  reads : ∀ before process grantId result later,
    s.history = before ++ .read process grantId (.ok result) :: later →
    ReadsRevocation before grantId result

theorem storeSound_empty : StoreSound P parse .empty where
  database db h := by cases h
  opened _ := rfl
  processes process h := by cases h
  tasks task h := by cases h
  events event h := by cases h
  reads before process grantId result later h := by
    have hlength := congrArg List.length h
    simp [StoreSystem.empty] at hlength

/-- The file before and after a step. -/
def FileExtends (file file' : Option StoreDatabase) : Prop :=
  ∀ db, file = some db → ∃ db', file' = some db' ∧ Extends db db'

theorem FileExtends.refl (file : Option StoreDatabase) : FileExtends file file :=
  fun db hdb => ⟨db,hdb,Extends.refl db⟩

variable {file file' : Option StoreDatabase}

theorem TaskSound.extend (hfile : FileExtends file file') {task : StoreTask}
    (h : TaskSound P file task) : TaskSound P file' task := by
  cases task with
  | issuing process grant storeId =>
    obtain ⟨db,hdb,rfl⟩ := h
    obtain ⟨db',hdb',hextends⟩ := hfile db hdb
    exact ⟨db',hdb',hextends.storeId.symm⟩
  | revoking process revocation attempt plan =>
    obtain ⟨db,hdb,hplanned⟩ := h
    obtain ⟨db',hdb',hextends⟩ := hfile db hdb
    exact ⟨db',hdb',hextends.planned hplanned⟩
  | _ => trivial

variable {event : StoreEvent} {s s' : StoreSystem} {process : Nat}
  {commitment : RevocationStateCommitment} {p : StoreProcess} {db db' : StoreDatabase} {task : Nat}
  {stage : StoreTask}

theorem EventSound.extend (hfile : FileExtends file file') (h : EventSound file event) :
    EventSound file' event := by
  match event, h with
  | .issued _ _ _, _ => exact trivial
  | .read _ _ (.error _), h => exact h
  | .read _ _ (.ok _), _ => exact trivial
  | .revoked _ _ (.error _), h => exact h
  | .revoked _ revocation (.ok outcome), h =>
    intro standing hstanding
    obtain ⟨db,hdb,hof⟩ := h standing hstanding
    obtain ⟨db',hdb',hextends⟩ := hfile db hdb
    exact ⟨db',hdb',hextends.revocationOf hof⟩

/-- What a step does: the file grows, every process is one there was with a commitment of
the file noted or a new one, every new task stands on the file, and the events it adds are
sound. -/
structure StepSound (P : Platform) (parse : String → Option BoundedGrant)
    (s s' : StoreSystem) : Prop where
  file : FileExtends s.file s'.file
  database : ∀ db, s'.file = some db → DatabaseSound P parse db
  opened : s'.file = none → s'.processes = []
  processes : ∀ process ∈ s'.processes, ProcessSound P s'.file process
  tasks : ∀ task ∈ s'.tasks, task ∈ s.tasks ∨ TaskSound P s'.file task
  events : ∃ events, s'.history = s.history ++ events ∧ events.length ≤ 1 ∧
    (∀ event ∈ events, EventSound s'.file event) ∧
    ∀ process grantId result, .read process grantId (.ok result) ∈ events → result.grant.isSome = true →
        ∃ db, s.file = some db ∧ result.revocation = db.revocationOf grantId

theorem StoreSound.extend (h : StoreSound P parse s) (hstep : StepSound P parse s s') :
    StoreSound P parse s' := by
  obtain ⟨events,hhistory,hone,hevents,hread⟩ := hstep.events
  refine ⟨hstep.database,hstep.opened,hstep.processes,fun task htask => ?_,
    fun event hevent => ?_,fun before process grantId result later hsplit => ?_⟩
  · rcases hstep.tasks task htask with hold | hnew
    · exact (h.tasks task hold).extend hstep.file
    · exact hnew
  · rw [hhistory,mem_append] at hevent
    rcases hevent with hold | hnew
    · exact (h.events event hold).extend hstep.file
    · exact hevents event hnew
  · rw [hhistory] at hsplit
    rcases append_eq_append_cons hsplit with ⟨rest,hold⟩ | ⟨middle,hbefore,hnew⟩
    · exact h.reads before process grantId result rest hold
    · -- the read is the one event this step adds
      have hmiddle : middle = [] := by
        have hlength := congrArg List.length hnew
        simp only [length_append,length_cons] at hlength
        exact length_eq_zero_iff.1 (by omega)
      rw [hmiddle,append_nil] at hbefore
      intro hgrant process' revocation outcome standing hmem hstanding hid
      rw [hbefore] at hmem
      have hin : .read process grantId (.ok result) ∈ events := by
        rw [hnew]
        exact mem_append_right _ mem_cons_self
      obtain ⟨db,hdb,hresult⟩ := hread process grantId result hin hgrant
      obtain ⟨db',hdb',hof⟩ := h.events _ hmem standing hstanding
      rw [hdb,some.injEq] at hdb'
      rw [hresult,hdb',← hid,hof]

theorem processes_note (hp : p ∈ (s.note process commitment).processes) :
    ∃ q ∈ s.processes, p.unestablished = q.unestablished ∧ (p.newestVerified = q.newestVerified ∨
        p.newestVerified = some (commitment.sequence, commitment.revocationSetDigest)) := by
  rcases mem_modify hp with hold | ⟨q,hq,rfl⟩
  · exact ⟨p,hold,rfl,.inl rfl⟩
  · refine ⟨q,hq,?_⟩
    unfold StoreProcess.noteVerified
    split
    · exact ⟨rfl,.inr rfl⟩
    · split_ifs
      · exact ⟨rfl,.inr rfl⟩
      · exact ⟨rfl,.inl rfl⟩

theorem StoreSound.stepSound (h : StoreSound P parse s) (hfile : s.file = some db)
    (hfile' : s'.file = some db') (hsound : DatabaseSound P parse db') (hextends : Extends db db')
    (hprocesses : ∀ p ∈ s'.processes, ∃ q ∈ s.processes, p.unestablished = q.unestablished ∧ (p.newestVerified = q.newestVerified ∨ Noted P db' p.newestVerified))
    (htasks : ∀ task ∈ s'.tasks, task ∈ s.tasks ∨ TaskSound P (some db') task)
    {events : List StoreEvent} (hhistory : s'.history = s.history ++ events)
    (hone : events.length ≤ 1) (hevents : ∀ event ∈ events, EventSound (some db') event)
    (hreads : ∀ process grantId result, .read process grantId (.ok result) ∈ events → result.grant.isSome = true → result.revocation = db.revocationOf grantId) :
    StepSound P parse s s' := by
  refine ⟨fun other hother => ?_,fun other hother => ?_,fun hnone => ?_,fun p hp => ?_,?_,
    events,hhistory,hone,?_,fun process grantId result hmem hgrant => ?_⟩
  · rw [hfile,some.injEq] at hother
    subst hother
    exact ⟨db',hfile',hextends⟩
  · rw [hfile',some.injEq] at hother
    subst hother
    exact hsound
  · rw [hfile'] at hnone
    cases hnone
  · obtain ⟨q,hq,hunestablished,hnewest⟩ := hprocesses p hp
    have hold := h.processes q hq
    refine ⟨fun other hother => ?_,fun error herror => ?_⟩
    · rw [hfile',some.injEq] at hother
      subst hother
      rcases hnewest with hsame | hnoted
      · rw [hsame]
        exact hextends.noted (hold.noted db hfile)
      · exact hnoted
    · rw [hunestablished] at herror
      exact hold.unestablished error herror
  · rw [hfile']
    exact htasks
  · rw [hfile']
    exact hevents
  · exact ⟨db,hfile,hreads process grantId result hmem hgrant⟩

theorem StoreSound.quietStep (h : StoreSound P parse s) (hfile : s'.file = s.file)
    (hprocesses : ∀ p ∈ s'.processes, ∃ q ∈ s.processes, p.unestablished = q.unestablished ∧ p.newestVerified = q.newestVerified)
    (htasks : ∀ task ∈ s'.tasks, task ∈ s.tasks ∨ TaskSound P s.file task)
    (hhistory : s'.history = s.history) : StepSound P parse s s' := by
  refine ⟨?_,?_,fun hnone => ?_,fun p hp => ?_,?_,[],?_,Nat.zero_le 1,by simp,by simp⟩
  · rw [hfile]
    exact FileExtends.refl _
  · rw [hfile]
    exact h.database
  · refine eq_nil_iff_forall_not_mem.2 fun p hp => ?_
    obtain ⟨q,hq,-⟩ := hprocesses p hp
    rw [h.opened (hfile ▸ hnone)] at hq
    cases hq
  · obtain ⟨q,hq,hunestablished,hnewest⟩ := hprocesses p hp
    have hold := h.processes q hq
    refine ⟨?_,?_⟩
    · rw [hfile,hnewest]
      exact hold.noted
    · rw [hunestablished]
      exact hold.unestablished
  · rw [hfile]
    exact htasks
  · rw [hhistory,append_nil]

theorem StoreSound.stay (h : StoreSound P parse s) : StepSound P parse s s :=
  h.quietStep rfl (fun p hp => ⟨p,hp,rfl,rfl⟩) (fun _ htask => .inl htask) rfl

theorem kept (s : StoreSystem) : ∀ p ∈ s.processes, ∃ q ∈ s.processes, p.unestablished = q.unestablished ∧
      (p.newestVerified = q.newestVerified ∨ Noted P db' p.newestVerified) :=
  fun p hp => ⟨p,hp,rfl,.inl rfl⟩

theorem noted {k : Nat} (hk : k ≤ db'.revocations.length)
    (hcommitment : commitment = (db'.stateAt P k).commitment) :
    ∀ p ∈ (s.note process commitment).processes, ∃ q ∈ s.processes, p.unestablished = q.unestablished ∧
      (p.newestVerified = q.newestVerified ∨ Noted P db' p.newestVerified) := by
  intro p hp
  obtain ⟨q,hq,hunestablished,hnewest⟩ := processes_note hp
  refine ⟨q,hq,hunestablished,?_⟩
  rcases hnewest with hsame | hnew
  · exact .inl hsame
  · right
    rintro noted hnoted
    rw [hnew,some.injEq] at hnoted
    exact ⟨k,hk,by rw [← hnoted,hcommitment]; rfl⟩

theorem StoreSound.contextSound (h : StoreSound P parse s) (hfile : s.file = some db)
    (hp : s.processes[process]? = some p) (around : Surroundings) :
    ContextSound P db (p.context around) := by
  have hsound := h.processes p (mem_of_getElem? hp)
  exact ⟨hsound.noted db hfile,hsound.unestablished⟩

theorem transaction_cases {α : Type} (around : Surroundings) (run : Except StoreThrow α) :
    transaction around run = .error .outside ∨ transaction around run = run := by
  unfold transaction
  split_ifs
  · exact .inl rfl
  · exact .inr rfl

theorem tasks_set (hstage : TaskSound P file stage) :
    ∀ other ∈ s.tasks.set task stage, other ∈ s.tasks ∨ TaskSound P file other := by
  intro other hother
  rcases mem_or_eq_of_mem_set hother with hold | rfl
  · exact .inl hold
  · exact .inr hstage

theorem tasks_append (hstage : TaskSound P file stage) :
    ∀ other ∈ s.tasks ++ [stage], other ∈ s.tasks ∨ TaskSound P file other := by
  intro other hother
  rcases mem_append.1 hother with hold | hnew
  · exact .inl hold
  · rw [mem_singleton.1 hnew]
    exact .inr hstage

section

variable (h : StoreSound P parse s) (hfile : s.file = some db)
include h hfile

theorem StoreSound.answer (hfile' : s'.file = some db') (hsound : DatabaseSound P parse db')
    (hextends : Extends db db')
    (hprocesses : ∀ p ∈ s'.processes, ∃ q ∈ s.processes, p.unestablished = q.unestablished ∧ (p.newestVerified = q.newestVerified ∨ Noted P db' p.newestVerified))
    (htasks : ∀ task ∈ s'.tasks, task ∈ s.tasks ∨ TaskSound P (some db') task)
    (hhistory : s'.history = s.history ++ [event]) (hevent : EventSound (some db') event)
    (hread : ∀ process grantId result, event = .read process grantId (.ok result) → result.grant.isSome = true → result.revocation = db.revocationOf grantId) :
    StepSound P parse s s' := by
  refine h.stepSound hfile hfile' hsound hextends hprocesses htasks hhistory (Nat.le_refl 1) ?_ ?_
  · intro other hother
    rw [mem_singleton.1 hother]
    exact hevent
  · intro process grantId result hmem
    exact hread process grantId result (mem_singleton.1 hmem).symm

theorem StoreSound.finishes (task : Nat) (hevent : EventSound (some db) event)
    (hread : ∀ process grantId result, event ≠ .read process grantId (.ok result)) :
    StepSound P parse s (s.finish task event) :=
  h.answer hfile hfile (h.database db hfile) (Extends.refl db) (kept s) (tasks_set trivial) rfl
    hevent fun process grantId result heq => absurd heq (hread process grantId result)

theorem StoreSound.records (hevent : EventSound (some db) event)
    (hread : ∀ process grantId result, event ≠ .read process grantId (.ok result)) :
    StepSound P parse s (s.record event) :=
  h.answer hfile hfile (h.database db hfile) (Extends.refl db) (kept s)
    (fun _ htask => .inl htask) rfl hevent
    fun process grantId result heq => absurd heq (hread process grantId result)

end

theorem DatabaseSound.unestablishedBy_benign (h : DatabaseSound P parse db)
    (verifier : AuthorityArtifactVerifier) (freshness : Bool)
    (observes : RevocationStateCommitment → Bool) (error : StoreThrow)
    (herror : StoreSystem.unestablishedBy freshness (verifiedRevocationState P ⟨verifier,none,none,observes⟩ db) = some error) :
    Benign error := by
  have hcontext : ContextSound P db ⟨verifier,none,none,observes⟩ :=
    ⟨fun _ hnone => (by cases hnone),fun _ hnone => by cases hnone⟩
  rcases h.verifiedRevocationState_cases hcontext with ⟨error',hstate,hbenign⟩ | hstate
  · rw [hstate] at herror
    cases freshness with
    | false => cases herror
    | true =>
      cases herror
      exact hbenign
  · rw [hstate] at herror
    cases freshness <;> cases herror

theorem StoreSound.openExisting (h : StoreSound P parse s) (hfile : s.file = some db)
    (verifier : AuthorityArtifactVerifier) (activeKeyId : String) (freshness : Bool)
    (around : Surroundings) :
    StepSound P parse s (s.openExisting P db verifier activeKeyId freshness around) := by
  have hdb := h.database db hfile
  have hbenign := hdb.unestablishedBy_benign verifier freshness around.observes
  have hfresh : ∀ p ∈ s.processes ++ [(⟨verifier,StoreSystem.unestablishedBy freshness
      (verifiedRevocationState P ⟨verifier,none,none,around.observes⟩ db),none,false⟩ :
        StoreProcess)], ProcessSound P s.file p := by
    intro p hp
    rcases mem_append.1 hp with hold | hnew
    · exact h.processes p hold
    · rw [mem_singleton.1 hnew]
      exact ⟨fun _ _ _ hnone => (by cases hnone),hbenign⟩
  have hopened : s.file = none → False := by
    intro hnone
    rw [hfile] at hnone
    cases hnone
  unfold StoreSystem.openExisting
  simp only
  split
  · exact ⟨FileExtends.refl _,h.database,fun hnone => (hopened hnone).elim,hfresh,
      fun _ htask => .inl htask,[],(append_nil _).symm,Nat.zero_le 1,by simp,by simp⟩
  · split_ifs
    · exact ⟨FileExtends.refl _,h.database,fun hnone => (hopened hnone).elim,hfresh,
        fun _ htask => .inl htask,[],(append_nil _).symm,Nat.zero_le 1,by simp,by simp⟩
    · exact ⟨FileExtends.refl _,h.database,fun hnone => (hopened hnone).elim,hfresh,
        tasks_append trivial,[],(append_nil _).symm,Nat.zero_le 1,by simp,by simp⟩

theorem genesisDatabase_sound (storeId : NewStoreId) (signature : AuthoritySignature) :
    DatabaseSound P parse (genesisDatabase P storeId signature) where
  named := storeId.property
  committed := ⟨_,rfl,rfl,rfl,rfl⟩
  numbered := rfl
  once := nodup_nil
  grants := nodup_nil
  pointers row hrow := by cases hrow
  granted row hrow := by cases hrow
  bounded := Nat.zero_le _
  revocationRows row hrow := by cases hrow
  grantRows row hrow := by cases hrow

section

variable (h : StoreSound P parse s)
include h

theorem StoreSound.genesis (verifier : AuthorityArtifactVerifier) (storeId : NewStoreId)
    (signature : AuthoritySignature) :
    StepSound P parse s { s with
      file := some (s.file.getD (genesisDatabase P storeId signature))
      processes := s.processes ++ [⟨verifier,none,none,false⟩]
      tasks := s.tasks.set task .done } := by
  have hnew : ∀ file, ProcessSound P file (⟨verifier,none,none,false⟩ : StoreProcess) := by
    intro file
    exact ⟨fun _ _ _ hnone => (by cases hnone),fun _ hnone => by cases hnone⟩
  refine ⟨fun db hdb => ⟨db,by rw [hdb]; rfl,Extends.refl db⟩,fun db hdb => ?_,
    fun hnone => (by cases hnone),fun p hp => ?_,tasks_set trivial,[],
    (append_nil _).symm,Nat.zero_le 1,by simp,by simp⟩
  · cases hfile : s.file with
    | none =>
      rw [hfile] at hdb
      cases hdb
      exact genesisDatabase_sound storeId signature
    | some existing =>
      rw [hfile] at hdb
      cases hdb
      exact h.database _ hfile
  · rcases mem_append.1 hp with hold | hlast
    · cases hfile : s.file with
      | none =>
        rw [h.opened hfile] at hold
        cases hold
      | some existing =>
        have hsound := h.processes p hold
        rw [hfile] at hsound
        exact hsound
    · rw [mem_singleton.1 hlast]
      exact hnew _

theorem StoreSound.reattest (hfile : s.file = some db) (task : Nat) (p : StoreProcess)
    (commitment : RevocationStateCommitment) (signature : AuthoritySignature)
    (around : Surroundings)
    (hrun : transaction around (runReattest P (p.context around) db commitment signature) = .ok db') :
    StepSound P parse s ({ s with file := some db' }.setTask task .done) := by
  rcases transaction_cases around (runReattest P (p.context around) db commitment signature)
    with hfailed | hran
  · rw [hfailed] at hrun
    cases hrun
  · rw [hran] at hrun
    obtain ⟨hsound,hextends⟩ := runReattest_sound (h.database db hfile) hrun
    exact h.stepSound hfile rfl hsound hextends (kept s) (tasks_set trivial)
      (append_nil _).symm (Nat.zero_le 1) (by simp) (by simp)

theorem StoreSound.settleIssue (hfile : s.file = some db) (hp : s.processes[process]? = some p)
    (grant : BoundedGrant) (commitGuard : GrantCommitPrecondition) (around : Surroundings) :
    StepSound P parse s (s.settleIssue process grant (transaction around
      (runPreflightIssue P parse (p.context around) db grant commitGuard))) := by
  have hdb := h.database db hfile
  rcases transaction_cases around
      (runPreflightIssue P parse (p.context around) db grant commitGuard) with hfailed | hran
  · rw [hfailed]
    exact h.records hfile trivial (by simp)
  · rw [hran]
    match hrun : runPreflightIssue P parse (p.context around) db grant commitGuard with
    | .error error => exact h.records hfile trivial (by simp)
    | .ok (settled, state) =>
      have hstate := runPreflightIssue_state hdb (h.contextSound hfile hp around) hrun
      cases settled with
      | some outcome =>
        exact h.answer hfile hfile hdb (Extends.refl db) (noted (Nat.le_refl _) hstate)
          (fun _ htask => .inl htask) rfl trivial (by simp)
      | none =>
        refine h.stepSound hfile hfile hdb (Extends.refl db) (noted (Nat.le_refl _) hstate)
          (tasks_append ⟨db,rfl,?_⟩) (append_nil _).symm (Nat.zero_le 1) (by simp) (by simp)
        rw [hstate]
        rfl

theorem StoreSound.commitIssue (hfile : s.file = some db) (hp : s.processes[process]? = some p)
    (task : Nat) (grant : BoundedGrant) (signature : AuthoritySignature)
    (commitGuard : GrantCommitPrecondition) (around : Surroundings)
    {outcome : IssueBoundedGrantOutcome} {state : RevocationStateCommitment}
    (hrun : transaction around (runIssue P parse (p.context around) db grant signature db.storeId commitGuard) = .ok (outcome, state, db')) :
    StepSound P parse s (({ s with file := some db' }.note process state).finish task
      (.issued process grant (.ok outcome))) := by
  have hdb := h.database db hfile
  rcases transaction_cases around (runIssue P parse (p.context around) db grant signature
    db.storeId commitGuard) with hfailed | hran
  · rw [hfailed] at hrun
    cases hrun
  · rw [hran] at hrun
    obtain ⟨hsound,hextends,hstate⟩ := runIssue_sound hdb (h.contextSound hfile hp around) hrun
    have hstate' : state = (db'.stateAt P db.revocations.length).commitment := by
      rw [hstate,hextends.stateAt (Nat.le_refl _)]
    exact h.answer hfile rfl hsound hextends (noted (s := { s with file := some db' })
      hextends.length_le hstate') (tasks_set trivial) rfl trivial (by simp)

theorem StoreSound.read (hfile : s.file = some db) (hp : s.processes[process]? = some p)
    (grantId : String) (around : Surroundings) :
    StepSound P parse s
      (match transaction around (runRead P parse (p.context around) db grantId) with
      | .error error => s.record (.read process grantId (.error error))
      | .ok (result, state) =>
          (s.note process state).record (.read process grantId (.ok result))) := by
  have hdb := h.database db hfile
  rcases transaction_cases around (runRead P parse (p.context around) db grantId)
    with hfailed | hran
  · rw [hfailed]
    exact h.records hfile trivial (by simp)
  · rw [hran]
    rcases hdb.runRead_cases (h.contextSound hfile hp around) grantId with
      ⟨error,hrun,hbenign⟩ | ⟨result,hrun,hresult⟩
    · rw [hrun]
      exact h.records hfile hbenign (by simp)
    · rw [hrun]
      refine h.answer hfile hfile hdb (Extends.refl db) (noted (Nat.le_refl _) rfl)
        (fun _ htask => .inl htask) rfl trivial ?_
      rintro _ _ _ heq hgrant
      cases heq
      exact hresult hgrant

theorem StoreSound.planned (hfile : s.file = some db) (hp : s.processes[process]? = some p)
    (task attempt : Nat) (revocation : GrantRevocation) (around : Surroundings) :
    StepSound P parse s (s.planned task process revocation attempt (transaction around
      (runPlanRevocation P (p.context around) db revocation))) := by
  have hdb := h.database db hfile
  rcases transaction_cases around (runPlanRevocation P (p.context around) db revocation)
    with hfailed | hran
  · rw [hfailed]
    exact h.finishes hfile task trivial (by simp)
  · rw [hran]
    rcases runPlanRevocation_cases hdb (h.contextSound hfile hp around) revocation with
      ⟨error,hrun,hbenign⟩ | ⟨outcome,hrun,hstands⟩ | ⟨plan,hrun,hplanned,hprevious⟩
    · rw [hrun]
      exact h.finishes hfile task hbenign (by simp)
    · rw [hrun]
      exact h.answer hfile hfile hdb (Extends.refl db) (noted (Nat.le_refl _) rfl)
        (tasks_set trivial) rfl (fun standing hstanding => ⟨db,rfl,hstands standing hstanding⟩)
        (by simp)
    · rw [hrun]
      exact h.stepSound hfile hfile hdb (Extends.refl db) (noted (Nat.le_refl _) hprevious)
        (tasks_set ⟨db,rfl,hplanned⟩) (append_nil _).symm (Nat.zero_le 1) (by simp)
        (by simp)

theorem StoreSound.replan (hfile : s.file = some db) (task process attempt : Nat)
    (revocation : GrantRevocation) :
    StepSound P parse s (s.replan task process revocation attempt) := by
  unfold StoreSystem.replan
  split_ifs
  · exact h.quietStep rfl (fun p hp => ⟨p,hp,rfl,rfl⟩) (tasks_set trivial) rfl
  · exact h.finishes hfile task (.inl rfl) (by simp)

theorem StoreSound.committed (hfile : s.file = some db) (hp : s.processes[process]? = some p)
    (task attempt : Nat) {revocation : GrantRevocation} {plan : SigningPlan}
    (hplanned : Planned P db revocation plan)
    (revocationSignature stateSignature : AuthoritySignature) (turn : SessionTurn)
    (around : Surroundings) :
    StepSound P parse s (s.committed task process revocation attempt turn (transaction around
      (runRevoke P (p.context around) db revocation plan revocationSignature
        stateSignature))) := by
  have hcases : (∃ error, transaction around (runRevoke P (p.context around) db revocation plan
        revocationSignature stateSignature) = .error error ∧ Benign error) ∨
      transaction around (runRevoke P (p.context around) db revocation plan
        revocationSignature stateSignature) = .ok (.stale, db) ∨
      ∃ outcome db', transaction around (runRevoke P (p.context around) db revocation plan
          revocationSignature stateSignature) =
          .ok (.committed outcome (db'.stateAt P db'.revocations.length).commitment, db') ∧
        DatabaseSound P parse db' ∧ Extends db db' ∧ ∀ standing, standing? outcome = some standing →
          db'.revocationOf revocation.grantId = some standing := by
    rcases transaction_cases around (runRevoke P (p.context around) db revocation plan
      revocationSignature stateSignature) with hfailed | hran
    · exact .inl ⟨_,hfailed,trivial⟩
    · rw [hran]
      exact runRevoke_cases (h.database db hfile) (h.contextSound hfile hp around) hplanned
  rcases hcases with ⟨error,hrun,hbenign⟩ | hrun | ⟨outcome,db',hrun,hsound,hextends,hstands⟩
  · rw [hrun]
    cases turn with
    | conflict => exact h.replan hfile task process attempt revocation
    | raised => exact h.finishes hfile task trivial (by simp)
    | through => exact h.finishes hfile task hbenign (by simp)
    | raisedAfter => exact h.finishes hfile task hbenign (by simp)
  · rw [hrun]
    cases turn with
    | conflict => exact h.replan hfile task process attempt revocation
    | raised => exact h.finishes hfile task trivial (by simp)
    | through => exact h.replan hfile task process attempt revocation
    | raisedAfter => exact h.replan hfile task process attempt revocation
  · rw [hrun]
    cases turn with
    | conflict => exact h.replan hfile task process attempt revocation
    | raised => exact h.finishes hfile task trivial (by simp)
    | through =>
      exact h.answer hfile rfl hsound hextends
        (noted (s := { s with file := some db' }) (Nat.le_refl _) rfl) (tasks_set trivial) rfl
        (fun standing hstanding => ⟨db',rfl,hstands standing hstanding⟩) (by simp)
    | raisedAfter =>
      exact h.answer hfile rfl hsound hextends (kept s) (tasks_set trivial) rfl trivial (by simp)

theorem StoreSound.closes (process : Nat) (tasks : List StoreTask)
    (htasks : ∀ task ∈ tasks, task ∈ s.tasks ∨ TaskSound P s.file task) :
    StepSound P parse s { s with
      processes := s.processes.modify process fun p => { p with closed := true }
      tasks := tasks } := by
  refine h.quietStep rfl (fun p hp => ?_) htasks rfl
  rcases mem_modify hp with hold | ⟨q,hq,rfl⟩
  · exact ⟨p,hold,rfl,rfl⟩
  · exact ⟨q,hq,rfl,rfl⟩

theorem StoreSound.opens (verifier : AuthorityArtifactVerifier) (activeKeyId : String)
    (freshness : Bool) (storeId : NewStoreId) (around : Surroundings) :
    StepSound P parse s
      (s.step P parse (.create verifier activeKeyId freshness storeId around)) := by
  simp only [StoreSystem.step]
  split
  · exact h.quietStep rfl (fun p hp => ⟨p,hp,rfl,rfl⟩) (tasks_append trivial) rfl
  · exact h.openExisting ‹_› verifier activeKeyId freshness around

theorem StoreSound.steps (step : StoreStep) : StepSound P parse s (s.step P parse step) := by
  have hquiet : ∀ task, StepSound P parse s (s.setTask task .done) := fun task =>
    h.quietStep rfl (fun p hp => ⟨p,hp,rfl,rfl⟩) (tasks_set trivial) rfl
  cases step with
  | create verifier activeKeyId freshness storeId around =>
    exact h.opens verifier activeKeyId freshness storeId around
  | commitGenesis task signature =>
    simp only [StoreSystem.step]
    split
    · exact h.genesis _ _ _
    · exact hquiet task
    · exact h.stay
  | reattest task signature around =>
    simp only [StoreSystem.step]
    split
    next process commitment db htask hfile =>
      split
      next p signature' hp =>
        split
        next => exact hquiet task
        next db' hrun => exact h.reattest hfile task p commitment signature' around hrun
      next => exact hquiet task
    next => exact h.stay
  | issue process grant commitGuard around =>
    simp only [StoreSystem.step]
    split
    next p db hp hfile =>
      split_ifs
      · exact h.records hfile trivial (by simp)
      · exact h.records hfile trivial (by simp)
      · exact h.settleIssue hfile hp grant commitGuard around
    next => exact h.stay
  | commitIssue task signature commitGuard around =>
    simp only [StoreSystem.step]
    split
    next process grant storeId db htask hfile =>
      obtain ⟨db',hdb',rfl⟩ := h.tasks _ (mem_of_getElem? htask)
      rw [hfile,some.injEq] at hdb'
      subst hdb'
      split
      next p signature' hp =>
        split_ifs
        · exact h.finishes hfile task trivial (by simp)
        · split
          next => exact h.finishes hfile task trivial (by simp)
          next hrun => exact h.commitIssue hfile hp task grant signature' commitGuard around hrun
      next => exact h.finishes hfile task trivial (by simp)
    next => exact h.stay
  | read process grantId around =>
    simp only [StoreSystem.step]
    split
    next p db hp hfile =>
      by_cases hclosed : p.closed = true
      · rw [if_pos hclosed]
        exact h.records hfile (.inl rfl) (by simp)
      · rw [if_neg hclosed]
        exact h.read hfile hp grantId around
    next => exact h.stay
  | revoke process input =>
    simp only [StoreSystem.step]
    split
    next p reason hp hreason =>
      split_ifs
      · cases hfile : s.file with
        | none =>
          have hnone := mem_of_getElem? hp
          rw [h.opened hfile] at hnone
          cases hnone
        | some db => exact h.records hfile (.inl rfl) (by simp)
      · exact h.quietStep rfl (fun p hp => ⟨p,hp,rfl,rfl⟩) (tasks_append trivial) rfl
    next => exact h.stay
  | plan task around =>
    simp only [StoreSystem.step]
    split
    next process revocation attempt db htask hfile =>
      split
      next => exact h.stay
      next p hp =>
        split_ifs
        · exact h.finishes hfile task (.inl rfl) (by simp)
        · exact h.planned hfile hp task attempt revocation around
    next => exact h.stay
  | commitRevoke task signatures turn around =>
    simp only [StoreSystem.step]
    split
    next process revocation attempt plan db htask hfile =>
      obtain ⟨db',hdb',hplanned⟩ := h.tasks _ (mem_of_getElem? htask)
      rw [hfile,some.injEq] at hdb'
      subst hdb'
      split
      next p revocationSignature stateSignature hp =>
        split_ifs
        · exact h.finishes hfile task (.inl rfl) (by simp)
        · exact h.committed hfile hp task attempt hplanned revocationSignature stateSignature turn
            around
      next => exact h.finishes hfile task trivial (by simp)
    next => exact h.stay
  | close process => exact h.closes process s.tasks fun _ htask => .inl htask
  | crash process =>
    refine h.closes process _ fun task htask => ?_
    obtain ⟨old,hold,rfl⟩ := mem_map.1 htask
    split_ifs
    · exact .inr trivial
    · exact .inl hold

end

theorem storeSound_run (P : Platform) (parse : String → Option BoundedGrant)
    (steps : List StoreStep) :
    StoreSound P parse (StoreSystem.run P parse steps) := by
  induction steps using List.reverseRecOn with
  | nil => exact storeSound_empty
  | append_singleton steps step ih =>
    have hrun : StoreSystem.run P parse (steps ++ [step]) =
        (StoreSystem.run P parse steps).step P parse step := by
      simp only [StoreSystem.run,foldl_append,foldl_cons,foldl_nil]
    rw [hrun]
    exact ih.extend (ih.steps step)

/-- The commitment counts the revocation rows, which are numbered without gaps and digested
as the commitment says; a revoked grant has one row, and points to it. -/
structure CommitmentCovers (P : Platform) (db : StoreDatabase) : Prop where
  committed : ∃ row, db.state = some row ∧ row.sequence = db.revocations.length ∧
    row.revocationSetDigest = revocationSetDigest P row.storeId
      (db.revocations.map RevocationRow.entry)
  numbered : db.revocations.map (·.sequence) =
    (List.range db.revocations.length).map fun i : Nat => (i : Int) + 1
  once : (db.revocations.map (·.grantId)).Nodup
  pointers : ∀ revocation ∈ db.revocations, ∃ grant ∈ db.grants,
    grant.grantId = revocation.grantId ∧ grant.revocationDigest = some revocation.revocationDigest

/-- An error that reports the store as inconsistent. -/
def ReportsInconsistency : StoreThrow → Prop
  | .store code _ => code = .stateCorrupt ∨ code = .revocationStateInconsistent
  | _ => False

theorem DatabaseSound.covers (h : DatabaseSound P parse db) : CommitmentCovers P db := by
  obtain ⟨row,hrow,-,hsequence,hdigest⟩ := h.committed
  have hstore : db.storeId = row.storeId := by
    unfold StoreDatabase.storeId
    rw [hrow]
    rfl
  refine ⟨⟨row,hrow,hsequence,?_⟩,h.numbered,h.once,fun revocation hrevocation => ?_⟩
  · rw [hdigest,hstore]
    rfl
  · obtain ⟨grant,hgrant⟩ := isSome_iff_exists.1 (h.granted revocation hrevocation)
    obtain ⟨hmem,hid⟩ := DatabaseSound.selectGrant_some hgrant
    refine ⟨grant,hmem,hid,?_⟩
    have hselected : db.selectRevocation grant.grantId = some revocation := by
      cases hselect : db.selectRevocation grant.grantId with
      | none =>
        have hnone := List.find?_eq_none.1 hselect revocation hrevocation
        rw [hid] at hnone
        simp at hnone
      | some found =>
        obtain ⟨hfound,hfoundId⟩ := DatabaseSound.selectRevocation_some hselect
        rw [h.unique_revocation hfound hrevocation (hfoundId.trans hid)]
    rw [h.pointers grant hmem,hselected]
    rfl

theorem Benign.consistent {error : StoreThrow} (h : Benign error) : ¬ ReportsInconsistency error := by
  intro hreports
  match error, h, hreports with
  | .store code _, h, hreports =>
    rcases h with rfl | rfl <;> rcases hreports with hcode | hcode <;> cases hcode

/-- Whatever processes did to the store, and wherever they stopped: the commitment covers
the revocation rows, a read after a completed revocation of its grant reports that
revocation, and neither reads nor revocations met an inconsistency. -/
theorem revocation_permanent (P : Platform) (parse : String → Option BoundedGrant)
    (steps : List StoreStep) :
    (∀ db, (StoreSystem.run P parse steps).file = some db → CommitmentCovers P db) ∧
    (∀ before process grantId result later, (StoreSystem.run P parse steps).history =
        before ++ .read process grantId (.ok result) :: later →
      result.grant.isSome = true → ∀ revoker revocation outcome standing,
        .revoked revoker revocation (.ok outcome) ∈ before →
        standing? outcome = some standing → revocation.grantId = grantId →
        result.revocation = some standing) ∧
    (∀ process grantId error,
      .read process grantId (.error error) ∈ (StoreSystem.run P parse steps).history →
      ¬ ReportsInconsistency error) ∧
    ∀ process revocation error,
      .revoked process revocation (.error error) ∈ (StoreSystem.run P parse steps).history →
      ¬ ReportsInconsistency error := by
  have h := storeSound_run P parse steps
  refine ⟨fun db hdb => (h.database db hdb).covers,h.reads,fun process grantId error hmem => ?_,
    fun process revocation error hmem => ?_⟩
  · exact Benign.consistent (h.events _ hmem)
  · exact Benign.consistent (h.events _ hmem)

/-- Whatever processes do, and wherever they stop: the file stays the same store with every
revocation it had, in its order, and the commitment, the pointers and the digests of its rows go on
to agree. -/
theorem store_file_only_grows (P : Platform) (parse : String → Option BoundedGrant)
    (front back : List StoreStep) :
    (∀ db, (StoreSystem.run P parse front).file = some db → ∃ db',
      (StoreSystem.run P parse (front ++ back)).file = some db' ∧ Extends db db') ∧
    ∀ db, (StoreSystem.run P parse (front ++ back)).file = some db → DatabaseSound P parse db := by
  refine ⟨?_,(storeSound_run P parse (front ++ back)).database⟩
  induction back using List.reverseRecOn with
  | nil =>
    rw [append_nil]
    exact FileExtends.refl _
  | append_singleton back step ih =>
    intro db hdb
    obtain ⟨db',hdb',hextends⟩ := ih db hdb
    obtain ⟨db'',hdb'',hextends'⟩ := ((storeSound_run P parse (front ++ back)).steps step).file db' hdb'
    refine ⟨db'',?_,hextends'.storeId.trans hextends.storeId,
      hextends.revocations.trans hextends'.revocations⟩
    rw [← append_assoc,StoreSystem.run,foldl_append]
    exact hdb''

end Frontera.GrantStore
