import Frontera.Data.Runs
import Frontera.HumanIdentity.Store

/-! While no commit fails after its transaction has read itself back, and no commit falls between
the two halves of another handle's read, a rejected append leaves no trace and every read is of the
rows in the file. -/

namespace Frontera.HumanIdentity

open Frontera.Data List

variable {A : Authenticity} {db : IdentityDatabase}

/-! ## Reads of a verified file -/

/-- The file holds a history that verifies against its signed head. -/
structure Verified (A : Authenticity) (db : IdentityDatabase) : Prop where
  authentic : ∃ keyId, A.verifyState db.state db.head.signature = some keyId
  history : verifyHumanIdentityHistory A.toPlatform db.rows db.state = .ok ()

/-- The state of the file as a floor. -/
def IdentityDatabase.top (db : IdentityDatabase) : Witnessed := ⟨db.head.sequence,db.head.chainDigest⟩

/-- The floor is not above the file, and agrees with it at its own sequence. -/
def AtFloor (db : IdentityDatabase) (witnessed : Option Witnessed) : Prop :=
  ∀ floor ∈ witnessed, floor.sequence ≤ db.head.sequence ∧
    (floor.sequence = db.head.sequence → floor.chainDigest = db.head.chainDigest)

/-- A head of the file's state, under a signature that verifies. -/
structure CurrentHead (A : Authenticity) (db : IdentityDatabase) (head : IdentityHead) : Prop where
  state : db.commitment head = db.state
  authentic : ∃ keyId, A.verifyState db.state head.signature = some keyId

theorem Verified.currentHead (h : Verified A db) : CurrentHead A db db.head := ⟨rfl,h.authentic⟩

theorem atFloor_top : AtFloor db (some db.top) := by
  rintro floor ⟨⟩
  exact ⟨le_refl _,fun _ => rfl⟩

variable {witnessed : Option Witnessed} {head : IdentityHead} {keyId : String}
  {later : IdentityDatabase} {job : Job} {plan : Plan} {fate : TransactionFate} {rest : List Job}
  {floor : Option Witnessed} {signature : String} {reply : Reply} {request : AppendRequest}
  {action : Action} {event : IdentityEvent}

theorem observe_atFloor (h : AtFloor db witnessed) : observe witnessed db.state = .ok (some db.top) := by
  cases witnessed with
  | none => rfl
  | some floor =>
    obtain ⟨hle,hdigest⟩ := h floor rfl
    have hsequence : db.state.sequence = db.head.sequence := rfl
    have hchain : db.state.chainDigest = db.head.chainDigest := rfl
    rw [observe,if_neg (by omega),if_neg]
    · split_ifs with hlt
      · rfl
      · have hsame : floor.sequence = db.head.sequence := by omega
        have hfloor : floor = db.top := by
          cases floor
          simp_all [IdentityDatabase.top]
        rw [hfloor]
    · rintro ⟨hsame,hne⟩
      exact hne (by rw [hchain,hdigest (by omega)])

theorem verifiedState_eq (h : Verified A db) (hhead : db.commitment head = db.state)
    (hkey : A.verifyState db.state head.signature = some keyId) (hfloor : AtFloor db witnessed) :
    verifiedState A db witnessed head db.rows = .ok ⟨db.state,db.rows,keyId,some db.top⟩ := by
  simp only [verifiedState,hhead,hkey,h.history,observe_atFloor hfloor]

theorem verifiedState_current (h : Verified A db) (hhead : CurrentHead A db head)
    (hfloor : AtFloor db witnessed) :
    ∃ keyId, verifiedState A db witnessed head db.rows = .ok ⟨db.state,db.rows,keyId,some db.top⟩ := by
  obtain ⟨keyId,hkey⟩ := hhead.authentic
  exact ⟨keyId,verifiedState_eq h hhead.state hkey hfloor⟩

theorem verifiedState_ok {rows : List StoredHumanIdentityRow} {verified : VerifiedState}
    (h : verifiedState A db witnessed head rows = .ok verified) :
    (∃ keyId, A.verifyState (db.commitment head) head.signature = some keyId) ∧
      verifyHumanIdentityHistory A.toPlatform rows (db.commitment head) = .ok () ∧
      observe witnessed (db.commitment head) = .ok verified.witnessed := by
  unfold verifiedState at h
  split at h
  · cases h
  · next keyId hkey =>
    split at h
    · cases h
    · next hhistory =>
      split at h
      · cases h
      · next floor hfloor =>
        cases h
        exact ⟨⟨keyId,hkey⟩,hhistory,hfloor⟩

/-! ## The transaction -/

/-- The later file continues the earlier one. -/
structure Keeps (db later : IdentityDatabase) : Prop where
  storeId : later.storeId = db.storeId
  organizationId : later.organizationId = db.organizationId
  rows : db.rows <+: later.rows
  sequence : db.head.sequence ≤ later.head.sequence
  chainDigest : later.head.sequence = db.head.sequence → later.head.chainDigest = db.head.chainDigest

theorem Keeps.refl (db : IdentityDatabase) : Keeps db db :=
  ⟨rfl,rfl,prefix_refl _,le_refl _,fun _ => rfl⟩

theorem AtFloor.keeps (h : AtFloor db witnessed) (hkeeps : Keeps db later) : AtFloor later witnessed := by
  intro floor hfloor
  obtain ⟨hle,hdigest⟩ := h floor hfloor
  refine ⟨hle.trans hkeeps.sequence,?_⟩
  intro hsame
  have hsequence := hkeeps.sequence
  rw [hkeeps.chainDigest (by omega),hdigest (by omega)]

/-- What an append has planned, on the rows its guard has passed. -/
structure Planned (A : Authenticity) (db : IdentityDatabase) (job : Job) (plan : Plan) : Prop where
  planned : plan = planOn A plan.state (job.draft.content db.organizationId)
  storeId : plan.state.storeId = db.storeId
  organizationId : plan.state.organizationId = db.organizationId
  guarded : ∃ past, past <+: db.rows ∧ past.length = plan.state.sequence ∧ job.guard past = true

theorem Planned.keeps (h : Planned A db job plan) (hkeeps : Keeps db later) : Planned A later job plan where
  planned := by
    rw [hkeeps.organizationId]
    exact h.planned
  storeId := h.storeId.trans hkeeps.storeId.symm
  organizationId := h.organizationId.trans hkeeps.organizationId.symm
  guarded := by
    obtain ⟨past,hpast,hlength,hguard⟩ := h.guarded
    exact ⟨past,hpast.trans hkeeps.rows,hlength,hguard⟩

/-- The challenges after an append that consumes this one. -/
def Consumed (consume : Option Consumption) (challenges later : List CeremonyChallenge) : Prop :=
  match consume with
  | none => later = challenges
  | some consume => (challenges.filter consume.selects).length = 1 ∧ later = challenges.map fun row =>
        if consume.selects row then { row with consumedAt := some consume.usedAt } else row

/-- The later file is the earlier one with the row of this append, its head signed and its
challenge used. -/
structure Extended (A : Authenticity) (db later : IdentityDatabase) (job : Job)
    (row : StoredHumanIdentityRow) : Prop where
  guarded : job.guard db.rows = true
  appended : row = plannedRow A.toPlatform db.state (job.draft.content db.organizationId)
  rows : later.rows = db.rows ++ [row]
  state : later.state = plannedState A.toPlatform db.state (job.draft.content db.organizationId)
  verified : Verified A later
  challenges : Consumed job.consume db.challenges later.challenges

theorem useChallenge?_some {challenges later : List CeremonyChallenge} {consume : Option Consumption}
    (h : useChallenge? challenges consume = some later) : Consumed consume challenges later := by
  cases consume with
  | none => exact (Option.some.inj h).symm
  | some consume =>
    simp only [useChallenge?,useChallenge] at h
    split_ifs at h with hone
    exact ⟨hone,(Option.some.inj h).symm⟩

theorem Verified.length (h : Verified A db) : db.rows.length = db.head.sequence :=
  (verifyHumanIdentityHistory_ok.1 h.history).2.1

theorem Planned.state_eq (h : Planned A db job plan)
    (hsequence : db.state.sequence = plan.state.sequence)
    (hdigest : db.state.chainDigest = plan.state.chainDigest) : plan.state = db.state := by
  have hstore := h.storeId
  have hname := h.organizationId
  cases hplan : plan.state
  rw [hplan] at hstore hname hsequence hdigest
  simp only at hstore hname hsequence hdigest
  subst hstore hname hsequence hdigest
  rfl

theorem commitLocal_cases (h : Verified A db) (hfloor : AtFloor db witnessed)
    (hplan : Planned A db job plan) (signature : String) (hfate : fate ≠ .commitFails) :
    (∃ floor reason, commitLocal A db witnessed job.consume plan signature fate =
        (db, floor, .error reason) ∧ AtFloor db floor ∧
        (∀ refusal, reason ≠ .refused refusal) ∧ reason ≠ .guard) ∨
      ∃ later, commitLocal A db witnessed job.consume plan signature fate =
        (later, some later.top, .ok plan.row) ∧ fate = .commits ∧
        Extended A db later job plan.row ∧ Keeps db later := by
  obtain ⟨keyId,hverified⟩ := verifiedState_current h h.currentHead hfloor
  unfold commitLocal
  by_cases hbusy : fate = .busy
  · rw [if_pos hbusy]
    exact Or.inl ⟨witnessed,.busy,rfl,hfloor,by simp,by simp⟩
  rw [if_neg hbusy]
  simp only [hverified]
  by_cases hchanged : db.state.sequence ≠ plan.state.sequence ∨
      db.state.chainDigest ≠ plan.state.chainDigest ∨ db.state.storeId ≠ plan.state.storeId
  · rw [if_pos hchanged]
    exact Or.inl ⟨_,.changed,rfl,atFloor_top,by simp,by simp⟩
  rw [if_neg hchanged]
  simp only [not_or,not_not] at hchanged
  obtain ⟨hsequence,hdigest,-⟩ := hchanged
  have hstate : plan.state = db.state := hplan.state_eq hsequence hdigest
  split
  · exact Or.inl ⟨_,.challengeChanged,rfl,atFloor_top,by simp,by simp⟩
  · next challenges hchallenges =>
    by_cases hinsert : fate = .insertFails ∨ insertable db.rows plan.row = false
    · rw [if_pos hinsert]
      exact Or.inl ⟨_,.insertFailed,rfl,atFloor_top,by simp,by simp⟩
    rw [if_neg hinsert]
    by_cases hhead : fate = .headFails ∨ db.head.sequence ≠ plan.state.sequence
    · rw [if_pos hhead]
      exact Or.inl ⟨_,.headMoved,rfl,atFloor_top,by simp,by simp⟩
    · rw [if_neg hhead]
      split
      · next refusal hback => exact Or.inl ⟨_,.readBack refusal,rfl,atFloor_top,by simp,by simp⟩
      · next back hback =>
        right
        have hnext := hplan.planned
        rw [hstate] at hnext
        have hcommits : fate = .commits := by
          cases fate <;> simp_all
        obtain ⟨hauthentic,hhistory,hobserved⟩ := verifiedState_ok hback
        have hlater : (db.written plan signature challenges).head.sequence = db.head.sequence + 1 := by
          rw [hnext]
          rfl
        have hkeeps : Keeps db (db.written plan signature challenges) :=
          ⟨rfl,rfl,prefix_append _ _,by omega,by omega⟩
        have hobserve := observe_atFloor (atFloor_top.keeps hkeeps)
        have hback' : back.witnessed = some (db.written plan signature challenges).top :=
          Except.ok.inj (hobserved.symm.trans hobserve)
        refine ⟨db.written plan signature challenges,?_,hcommits,?_,hkeeps⟩
        · rw [if_neg hfate,hback']
        · obtain ⟨past,hpast,hlength,hguard⟩ := hplan.guarded
          have hrows : past = db.rows := by
            apply hpast.eq_of_length
            rw [hlength,hstate,h.length]
            rfl
          exact {
            guarded := hrows ▸ hguard
            appended := by rw [hnext]; rfl
            rows := rfl
            state := by rw [hnext]; rfl
            verified := ⟨hauthentic,hhistory⟩
            challenges := useChallenge?_some hchallenges }

/-! ## Handles -/

/-- The plan of a stage. -/
def Stage.plan? : Stage → Option Plan
  | .checking _ plan | .signing _ plan | .committing plan _ => some plan
  | .idle | .replanning _ => none

/-- What holds of a handle between its actions. -/
structure Sound (A : Authenticity) (db : IdentityDatabase) (log : List (Nat × Reply)) (i : Nat)
    (handle : Handle) : Prop where
  floor : AtFloor db handle.witnessed
  reading : ∀ reading ∈ handle.reading, CurrentHead A db reading.head
  latest : ∀ attempt plan signature head, handle.reading = some ⟨.latest attempt plan signature,head⟩ →
      ∃ job rest, handle.jobs = job :: rest ∧ Planned A db job plan
  staged : ∀ plan ∈ handle.stage.plan?, ∃ job rest, handle.jobs = job :: rest ∧ Planned A db job plan
  /-- Appends end in the order in which they were accepted. -/
  settled : ∃ settled, handle.accepted = settled + handle.jobs.length ∧
    handle.jobs.map (·.ticket) = List.range' settled handle.jobs.length ∧
    ∀ ticket < settled, ∃ result, (i, .appended ticket result) ∈ log
  awaited : ∀ awaited ∈ handle.awaited, awaited = handle.accepted ∧ handle.draining = true

theorem Sound.keeps {log log' : List (Nat × Reply)} {i : Nat} {handle : Handle}
    (h : Sound A db log i handle) (hkeeps : Keeps db later)
    (hreading : handle.reading = none ∨ later.state = db.state) (hlog : log ⊆ log') :
    Sound A later log' i handle where
  floor := h.floor.keeps hkeeps
  reading := by
    intro reading hmem
    rcases hreading with hnone | hstate
    · rw [hnone] at hmem
      cases hmem
    · obtain ⟨hhead,hauthentic⟩ := h.reading reading hmem
      rw [← hstate] at hhead hauthentic
      refine ⟨?_,hauthentic⟩
      rw [← hhead,IdentityDatabase.commitment,IdentityDatabase.commitment,hkeeps.storeId,
        hkeeps.organizationId]
  latest := by
    intro attempt plan signature head hhead
    obtain ⟨job,rest,hjobs,hplan⟩ := h.latest attempt plan signature head hhead
    exact ⟨job,rest,hjobs,hplan.keeps hkeeps⟩
  staged := by
    intro plan hplan
    obtain ⟨job,rest,hjobs,hplanned⟩ := h.staged plan hplan
    exact ⟨job,rest,hjobs,hplanned.keeps hkeeps⟩
  settled := by
    obtain ⟨settled,haccepted,htickets,hdone⟩ := h.settled
    refine ⟨settled,haccepted,htickets,?_⟩
    intro ticket hlt
    obtain ⟨result,hmem⟩ := hdone ticket hlt
    exact ⟨result,hlog hmem⟩
  awaited := h.awaited

/-- What a reply says of the file before and after the action that gave it. -/
def Lawful (A : Authenticity) (db later : IdentityDatabase) (log : List (Nat × Reply)) (i : Nat)
    (handle : Handle) : Reply → Prop
  | .opened | .appendRefused | .saved | .saveFailed | .interrupted => True
  | .openRefused _ => False
  | .history (.ok rows) => rows = db.rows
  | .history (.error reason) => reason = .closed
  | .head (.ok state) => state = db.state
  | .head (.error reason) => reason = .closed
  | .appended ticket (.ok row) => ∃ job rest, handle.jobs = job :: rest ∧ job.ticket = ticket ∧
      Extended A db later job row
  | .appended ticket (.error reason) => ∃ job rest, handle.jobs = job :: rest ∧
      job.ticket = ticket ∧ later = db ∧ (∀ refusal, reason ≠ .refused refusal) ∧
      (reason = .guard → job.guard db.rows = false)
  | .settled => ∀ ticket < handle.accepted, ∃ result, (i, .appended ticket result) ∈ log

/-- What an action of a sound handle leads to. -/
structure Outcome (A : Authenticity) (db : IdentityDatabase) (log : List (Nat × Reply)) (i : Nat)
    (handle : Handle) (result : IdentityDatabase × Handle × List Reply) : Prop where
  verified : Verified A result.1
  keeps : Keeps db result.1
  sound : Sound A result.1 (log ++ result.2.2.map fun reply => (i, reply)) i result.2.1
  lawful : ∀ reply ∈ result.2.2, Lawful A db result.1 log i handle reply
  single : result.2.2.length ≤ 1
  writes : result.1 = db ∨ (∃ ticket row, .appended ticket (.ok row) ∈ result.2.2) ∨ (.saved ∈ result.2.2 ∧
      ∃ challenge, result.1 = { db with challenges := db.challenges ++ [challenge] }) ∨
    ∃ signature, result.1 = { db with head := { db.head with signature := signature } }

variable {log : List (Nat × Reply)} {i : Nat} {handle : Handle}

theorem Outcome.unchanged (h : Verified A db) {later : Handle} {replies : List Reply}
    (hsound : Sound A db (log ++ replies.map fun reply => (i, reply)) i later)
    (hlawful : ∀ reply ∈ replies, Lawful A db db log i handle reply)
    (hsingle : replies.length ≤ 1) : Outcome A db log i handle (db, later, replies) :=
  ⟨h,Keeps.refl db,hsound,hlawful,hsingle,Or.inl rfl⟩

theorem Outcome.quiet (h : Verified A db) {later : Handle} (hsound : Sound A db log i later) :
    Outcome A db log i handle (db, later, []) :=
  Outcome.unchanged h (by simpa using hsound) (by simp) (by simp)

theorem Sound.finish (h : Sound A db log i handle) (hjobs : handle.jobs = job :: rest)
    (result : Except Rejection StoredHumanIdentityRow) (hfloor : AtFloor later floor) :
    Sound A later (log ++ [(i, .appended job.ticket result)]) i
      (({ handle with witnessed := floor } : Handle).finish job result).1 where
  floor := hfloor
  reading := by
    intro reading hmem
    cases hmem
  latest := by
    intro attempt plan signature head hhead
    cases hhead
  staged := by
    intro plan hplan
    cases hplan
  settled := by
    obtain ⟨settled,haccepted,htickets,hdone⟩ := h.settled
    rw [hjobs,length_cons] at haccepted
    rw [hjobs,map_cons,length_cons,List.range'_succ,List.cons.injEq] at htickets
    refine ⟨settled + 1,?_,?_,?_⟩
    · simp only [Handle.finish,hjobs,tail_cons]
      omega
    · simp only [Handle.finish,hjobs,tail_cons]
      exact htickets.2
    · intro ticket hlt
      by_cases hlast : ticket = settled
      · subst hlast
        exact ⟨result,by simp [htickets.1]⟩
      · obtain ⟨earlier,hmem⟩ := hdone ticket (by omega)
        exact ⟨earlier,mem_append_left _ hmem⟩
  awaited := h.awaited

theorem Outcome.rejected (h : Verified A db) (hsound : Sound A db log i handle)
    (hjobs : handle.jobs = job :: rest) (hfloor : AtFloor db floor) {reason : Rejection}
    (hreason : ∀ refusal, reason ≠ .refused refusal)
    (hguard : reason = .guard → job.guard db.rows = false) :
    Outcome A db log i handle
      (db, ({ handle with witnessed := floor } : Handle).finish job (.error reason)) := by
  apply Outcome.unchanged h
  · exact hsound.finish hjobs _ hfloor
  · intro reply hreply
    rw [mem_singleton.1 hreply]
    exact ⟨job,rest,hjobs,rfl,rfl,hreason,hguard⟩
  · exact le_refl _

theorem Outcome.select (h : Verified A db) (hsound : Sound A db log i handle) {purpose : Purpose}
    (hlatest : ∀ attempt plan signature, purpose = .latest attempt plan signature →
      ∃ job rest, handle.jobs = job :: rest ∧ Planned A db job plan) :
    Outcome A db log i handle (db, handle.select db purpose, []) := by
  apply Outcome.quiet h
  exact {
    floor := hsound.floor
    reading := by
      rintro reading ⟨⟩
      exact h.currentHead
    latest := by
      intro attempt plan signature head hhead
      cases hhead
      exact hlatest attempt plan signature rfl
    staged := hsound.staged
    settled := hsound.settled
    awaited := hsound.awaited }

theorem Sound.read (h : Sound A db log i handle) :
    Sound A db log i { handle with reading := none, witnessed := some db.top } where
  floor := atFloor_top
  reading := by
    intro reading hmem
    cases hmem
  latest := by
    intro attempt plan signature head hhead
    cases hhead
  staged := h.staged
  settled := h.settled
  awaited := h.awaited

theorem Sound.stage (h : Sound A db log i handle) {stage : Stage}
    (hstage : ∀ plan ∈ stage.plan?, ∃ job rest, handle.jobs = job :: rest ∧ Planned A db job plan) :
    Sound A db log i { handle with stage := stage } where
  floor := h.floor
  reading := h.reading
  latest := h.latest
  staged := hstage
  settled := h.settled
  awaited := h.awaited

theorem Sound.conclude (h : Verified A db) (hsound : Sound A db log i handle) {reading : Reading}
    (hreading : handle.reading = some reading) :
    Outcome A db log i handle (db, handle.conclude A db reading) := by
  obtain ⟨keyId,hverified⟩ := verifiedState_current h (hsound.reading reading hreading) hsound.floor
  have hread := hsound.read
  obtain ⟨purpose,head⟩ := reading
  simp only [Handle.conclude,hverified]
  cases purpose with
  | opening =>
    apply Outcome.quiet h
    exact ⟨hread.floor,hread.reading,hread.latest,hread.staged,hread.settled,hread.awaited⟩
  | opened =>
    apply Outcome.unchanged h
    · have hmono := hread.keeps (Keeps.refl db) (Or.inl rfl)
        (subset_append_left log [(i, .opened)])
      exact ⟨hmono.floor,hmono.reading,hmono.latest,hmono.staged,hmono.settled,hmono.awaited⟩
    · simp [Lawful]
    · simp
  | history =>
    apply Outcome.unchanged h
    · exact hread.keeps (Keeps.refl db) (Or.inl rfl) (subset_append_left _ _)
    · simp [Lawful]
    · simp
  | head =>
    apply Outcome.unchanged h
    · exact hread.keeps (Keeps.refl db) (Or.inl rfl) (subset_append_left _ _)
    · simp [Lawful]
    · simp
  | plan attempt =>
    dsimp only
    split
    · exact Outcome.quiet h hread
    · next job rest hjobs =>
      by_cases hguard : job.guard db.rows = false
      · rw [if_pos hguard]
        exact Outcome.rejected h hsound hjobs atFloor_top (by simp) fun _ => hguard
      · rw [if_neg hguard]
        apply Outcome.quiet h
        apply hread.stage
        rintro plan ⟨⟩
        refine ⟨job,rest,hjobs,rfl,rfl,rfl,db.rows,prefix_refl _,h.length,?_⟩
        simpa using hguard
  | latest attempt plan signature =>
    dsimp only
    split
    · exact Outcome.quiet h hread
    · next job rest hjobs =>
      split_ifs
      · exact Outcome.rejected h hsound hjobs atFloor_top (by simp) (by simp)
      · apply Outcome.quiet h
        apply hread.stage
        intro plan hplan
        cases hplan
      · apply Outcome.quiet h
        apply hread.stage
        rintro plan ⟨⟩
        exact hsound.latest attempt plan signature head hreading

theorem rotateHead_cases (h : Verified A db) (hfloor : AtFloor db witnessed) (signature : String)
    (commits : Bool) :
    (rotateHead A db witnessed signature commits).2 = some db.top ∧
      ((rotateHead A db witnessed signature commits).1 = db ∨
        ((rotateHead A db witnessed signature commits).1 =
            { db with head := { db.head with signature := signature } } ∧
          ∃ keyId, A.verifyState db.state signature = some keyId)) := by
  obtain ⟨keyId,hverified⟩ := verifiedState_current h h.currentHead hfloor
  unfold rotateHead
  simp only [hverified]
  split_ifs
  · exact ⟨rfl,Or.inl rfl⟩
  all_goals
    split
    · exact ⟨rfl,Or.inl rfl⟩
    · next back hback =>
      obtain ⟨hauthentic,-,hobserved⟩ := verifiedState_ok hback
      have htop : back.witnessed = some db.top :=
        Except.ok.inj (hobserved.symm.trans (observe_atFloor atFloor_top))
      first
      | exact ⟨htop,Or.inr ⟨rfl,hauthentic⟩⟩
      | exact ⟨htop,Or.inl rfl⟩

theorem Verified.resigned (h : Verified A db)
    (hsignature : ∃ keyId, A.verifyState db.state signature = some keyId) :
    Verified A { db with head := { db.head with signature := signature } } :=
  ⟨hsignature,h.history⟩

theorem Sound.answers (h : Sound A db log i handle) (hverified : Verified A db)
    (hlawful : Lawful A db db log i handle reply) :
    Outcome A db log i handle (db, handle, [reply]) := by
  apply Outcome.unchanged hverified
  · exact h.keeps (Keeps.refl db) (Or.inr rfl) (subset_append_left _ _)
  · intro other hother
    rw [mem_singleton.1 hother]
    exact hlawful
  · exact le_refl _

theorem Sound.accept (h : Sound A db log i handle) (hdraining : handle.draining = false) :
    Sound A db log i { handle with
      jobs := handle.jobs ++ [⟨request,handle.accepted⟩]
      accepted := handle.accepted + 1 } where
  floor := h.floor
  reading := h.reading
  latest := by
    intro attempt plan signature head hhead
    obtain ⟨job,rest,hjobs,hplan⟩ := h.latest attempt plan signature head hhead
    exact ⟨job,rest ++ [⟨request,handle.accepted⟩],by simp [hjobs],hplan⟩
  staged := by
    intro plan hplan
    obtain ⟨job,rest,hjobs,hplanned⟩ := h.staged plan hplan
    exact ⟨job,rest ++ [⟨request,handle.accepted⟩],by simp [hjobs],hplanned⟩
  settled := by
    obtain ⟨settled,haccepted,htickets,hdone⟩ := h.settled
    refine ⟨settled,?_,?_,hdone⟩
    · simp only [length_append,length_singleton]
      omega
    · simp only [map_append,map_cons,map_nil,length_append, length_singleton,htickets,haccepted]
      rw [List.range'_concat]
      simp
  awaited := by
    intro awaited hawaited
    have hfalse := (h.awaited awaited hawaited).2
    rw [hdraining] at hfalse
    cases hfalse

theorem Sound.all_settled (h : Sound A db log i handle) {awaited : Nat}
    (hawaited : handle.awaited = some awaited)
    (hpending : ¬(handle.jobs.any fun job => job.ticket + 1 == awaited) = true) :
    ∀ ticket < handle.accepted, ∃ result, (i, .appended ticket result) ∈ log := by
  obtain ⟨settled,haccepted,htickets,hdone⟩ := h.settled
  have hempty : handle.jobs.length = 0 := by
    by_contra hne
    apply hpending
    have hlast : settled + handle.jobs.length - 1 ∈ handle.jobs.map (·.ticket) := by
      rw [htickets,mem_range'_1]
      omega
    obtain ⟨job,hjob,hticket⟩ := mem_map.1 hlast
    have hsame := (h.awaited awaited hawaited).1
    rw [any_eq_true]
    refine ⟨job,hjob,?_⟩
    rw [beq_iff_eq]
    omega
  intro ticket hlt
  exact hdone ticket (by omega)

theorem Sound.act (h : Verified A db) (hsound : Sound A db log i handle)
    (hcommits : action ≠ .commit .commitFails) :
    Outcome A db log i handle (handle.act A db action) ∧
      ((handle.act A db action).1.state = db.state ∨ action = .commit .commits) := by
  cases action with
  | read =>
    simp only [Handle.act]
    split
    · exact ⟨Outcome.quiet h hsound,Or.inl rfl⟩
    · next reading hreading => exact ⟨hsound.conclude h hreading,Or.inl rfl⟩
  | rotate signature commits =>
    simp only [Handle.act]
    split_ifs
    · cases signature with
      | none =>
        refine ⟨Outcome.quiet h ?_,Or.inl rfl⟩
        exact ⟨hsound.floor,hsound.reading,hsound.latest,hsound.staged,hsound.settled, hsound.awaited⟩
      | some signature =>
        obtain ⟨hfloor,hdb | ⟨hdb,hauthentic⟩⟩ :=
          rotateHead_cases h hsound.floor signature commits
        · simp only [hfloor,hdb]
          refine ⟨Outcome.quiet h ?_,Or.inl trivial⟩
          exact ⟨atFloor_top,hsound.reading,hsound.latest,hsound.staged,hsound.settled, hsound.awaited⟩
        · simp only [hfloor,hdb]
          have hkeeps : Keeps db { db with head := { db.head with signature := signature } } :=
            ⟨rfl,rfl,prefix_refl _,le_refl _,fun _ => rfl⟩
          have hmono := hsound.keeps hkeeps (Or.inr rfl) (List.Subset.refl log)
          refine ⟨⟨h.resigned hauthentic,hkeeps,?_,by simp,by simp,
            Or.inr (Or.inr (Or.inr ⟨_,rfl⟩))⟩,Or.inl rfl⟩
          simp only [map_nil,append_nil]
          exact ⟨atFloor_top.keeps hkeeps,hmono.reading,hmono.latest,hmono.staged,hmono.settled,
            hmono.awaited⟩
    · exact ⟨Outcome.quiet h hsound,Or.inl rfl⟩
  | reopen =>
    simp only [Handle.act]
    split_ifs
    · exact ⟨Outcome.select h hsound (by simp),Or.inl rfl⟩
    · exact ⟨Outcome.quiet h hsound,Or.inl rfl⟩
  | history =>
    simp only [Handle.act]
    split_ifs
    · exact ⟨Outcome.quiet h hsound,Or.inl rfl⟩
    · exact ⟨hsound.answers h (by simp [Lawful]),Or.inl rfl⟩
    · exact ⟨Outcome.select h hsound (by simp),Or.inl rfl⟩
  | head =>
    simp only [Handle.act]
    split_ifs
    · exact ⟨Outcome.quiet h hsound,Or.inl rfl⟩
    · exact ⟨hsound.answers h (by simp [Lawful]),Or.inl rfl⟩
    · exact ⟨Outcome.select h hsound (by simp),Or.inl rfl⟩
  | append request =>
    simp only [Handle.act]
    split_ifs with hready hclosed
    · exact ⟨Outcome.quiet h hsound,Or.inl rfl⟩
    · exact ⟨hsound.answers h (by simp [Lawful]),Or.inl rfl⟩
    · refine ⟨Outcome.quiet h (hsound.accept ?_),Or.inl rfl⟩
      simp only [Bool.or_eq_true,not_or,Bool.not_eq_true] at hclosed
      exact hclosed.2
  | plan =>
    simp only [Handle.act]
    split
    · next job rest hjobs _ _ =>
      split_ifs
      · exact ⟨Outcome.rejected h hsound hjobs hsound.floor (by simp) (by simp),Or.inl rfl⟩
      · exact ⟨Outcome.select h hsound (by simp),Or.inl rfl⟩
    · next job rest attempt hjobs _ _ =>
      split_ifs
      · exact ⟨Outcome.rejected h hsound hjobs hsound.floor (by simp) (by simp),Or.inl rfl⟩
      · exact ⟨Outcome.select h hsound (by simp),Or.inl rfl⟩
    · exact ⟨Outcome.quiet h hsound,Or.inl rfl⟩
  | challenge =>
    simp only [Handle.act]
    split
    · next job rest attempt plan hjobs _ hstage =>
      split_ifs
      · exact ⟨Outcome.rejected h hsound hjobs hsound.floor (by simp) (by simp),Or.inl rfl⟩
      · exact ⟨Outcome.rejected h hsound hjobs hsound.floor (by simp) (by simp),Or.inl rfl⟩
      · refine ⟨Outcome.quiet h (hsound.stage ?_),Or.inl rfl⟩
        intro plan' hplan'
        exact hsound.staged plan' (by rw [hstage]; exact hplan')
    · exact ⟨Outcome.quiet h hsound,Or.inl rfl⟩
  | sign signature =>
    simp only [Handle.act]
    split
    · next job rest attempt plan hjobs _ hstage =>
      cases signature with
      | none =>
        exact ⟨Outcome.rejected h hsound hjobs hsound.floor (by simp) (by simp),Or.inl rfl⟩
      | some signature =>
        dsimp only
        split_ifs
        · exact ⟨Outcome.rejected h hsound hjobs hsound.floor (by simp) (by simp),Or.inl rfl⟩
        · refine ⟨Outcome.select h hsound ?_,Or.inl rfl⟩
          rintro _ _ _ ⟨⟩
          exact hsound.staged plan (by rw [hstage]; rfl)
    · exact ⟨Outcome.quiet h hsound,Or.inl rfl⟩
  | commit fate =>
    simp only [Handle.act]
    split
    · next job rest plan signature hjobs _ hstage =>
      obtain ⟨job',rest',hjobs',hplan⟩ := hsound.staged plan (by rw [hstage]; rfl)
      rw [hjobs,List.cons.injEq] at hjobs'
      obtain ⟨rfl,rfl⟩ := hjobs'
      rcases commitLocal_cases h hsound.floor hplan signature (by simpa using hcommits) with
        ⟨floor,reason,hresult,hfloor,hreason,hguard⟩ | ⟨later,hresult,rfl,hextended,hkeeps⟩
      · simp only [hresult]
        exact ⟨Outcome.rejected h hsound hjobs hfloor hreason fun hsame => absurd hsame hguard,
          Or.inl trivial⟩
      · simp only [hresult]
        refine ⟨⟨hextended.verified,hkeeps,hsound.finish hjobs _ atFloor_top,?_,le_refl _,
          Or.inr (Or.inl ⟨job.ticket,plan.row,mem_singleton_self _⟩)⟩,Or.inr trivial⟩
        intro reply hreply
        rw [mem_singleton.1 hreply]
        exact ⟨job,rest,hjobs,rfl,hextended⟩
    · exact ⟨Outcome.quiet h hsound,Or.inl rfl⟩
  | saveChallenge challenge inserts =>
    simp only [Handle.act]
    split_ifs
    · exact ⟨Outcome.quiet h hsound,Or.inl rfl⟩
    · exact ⟨hsound.answers h (by simp [Lawful]),Or.inl rfl⟩
    · exact ⟨hsound.answers h (by simp [Lawful]),Or.inl rfl⟩
    · refine ⟨⟨⟨h.authentic,h.history⟩,⟨rfl,rfl,prefix_refl _,le_refl _,fun _ => rfl⟩,?_,
        by simp [Lawful],le_refl _,Or.inr (Or.inr (Or.inl ⟨by simp,_,rfl⟩))⟩,Or.inl rfl⟩
      exact hsound.keeps ⟨rfl,rfl,prefix_refl _,le_refl _,fun _ => rfl⟩ (Or.inr rfl)
        (subset_append_left _ _)
  | closeWhenSettled =>
    simp only [Handle.act]
    split_ifs
    · exact ⟨Outcome.quiet h hsound,Or.inl rfl⟩
    · refine ⟨Outcome.quiet h ?_,Or.inl rfl⟩
      exact ⟨hsound.floor,hsound.reading,hsound.latest,hsound.staged,hsound.settled,
        by rintro _ ⟨⟩; exact ⟨rfl,rfl⟩⟩
  | settle =>
    simp only [Handle.act]
    split
    · exact ⟨Outcome.quiet h hsound,Or.inl rfl⟩
    · next awaited hawaited =>
      split_ifs with hpending
      · exact ⟨Outcome.quiet h hsound,Or.inl rfl⟩
      · refine ⟨Outcome.unchanged h ?_ ?_ (le_refl _),Or.inl rfl⟩
        · have hmono := hsound.keeps (Keeps.refl db) (Or.inr rfl)
            (subset_append_left log [(i, .settled)])
          exact ⟨hmono.floor,hmono.reading,hmono.latest,hmono.staged,hmono.settled, hmono.awaited⟩
        · intro reply hreply
          rw [mem_singleton.1 hreply]
          rw [not_or] at hpending
          exact hsound.all_settled hawaited hpending.2
  | interrupt =>
    simp only [Handle.act]
    split
    · exact ⟨Outcome.quiet h hsound,Or.inl rfl⟩
    · split_ifs
      · exact ⟨Outcome.quiet h hsound,Or.inl rfl⟩
      · refine ⟨Outcome.unchanged h ?_ (by simp [Lawful]) (le_refl _),Or.inl rfl⟩
        have hmono := hsound.keeps (Keeps.refl db) (Or.inr rfl)
          (subset_append_left log [(i, .interrupted)])
        exact ⟨hmono.floor,hmono.reading,hmono.latest,hmono.staged,hmono.settled,hmono.awaited⟩
  | close =>
    simp only [Handle.act]
    split_ifs
    · exact ⟨Outcome.quiet h hsound,Or.inl rfl⟩
    · refine ⟨Outcome.quiet h ?_,Or.inl rfl⟩
      exact ⟨hsound.floor,hsound.reading,hsound.latest,hsound.staged,hsound.settled, hsound.awaited⟩

/-! ## Systems -/

/-- No commit fails after its transaction has read itself back, and none falls between the two
halves of a read. -/
def Undisturbed (s : IdentitySystem) : IdentityEvent → Prop
  | .act _ (.commit fate) => fate ≠ .commitFails ∧
      (fate = .commits → ∀ handle, some handle ∈ s.handles → handle.reading = none)
  | _ => True

/-- The sequences of the appends that resolved, in order. -/
def resolvedSequences (log : List (Nat × Reply)) : List Nat :=
  log.filterMap fun entry =>
    match entry.2 with
    | .appended _ (.ok row) => some row.sequence
    | _ => none

structure SystemSound (A : Authenticity) (s : IdentitySystem) : Prop where
  verified : Verified A s.database
  handles : ∀ i handle, s.handles[i]? = some (some handle) → Sound A s.database s.log i handle
  ordered : (resolvedSequences s.log).Pairwise (· < ·)
  bounded : ∀ sequence ∈ resolvedSequences s.log, sequence ≤ s.database.head.sequence

/-- What the event has been replied. -/
def newReplies (A : Authenticity) (s : IdentitySystem) (event : IdentityEvent) : List (Nat × Reply) :=
  (s.next A event).log.drop s.log.length

/-- One step of a history that is never torn or refused. -/
structure StepLaw (A : Authenticity) (s : IdentitySystem) (event : IdentityEvent) : Prop where
  /-- An append that rejects leaves the file as it was, and is not refused its history. -/
  rejects : ∀ i ticket reason, (i, .appended ticket (.error reason)) ∈ newReplies A s event →
    (s.next A event).database = s.database ∧ (∀ refusal, reason ≠ .refused refusal) ∧
    ∃ handle job rest, s.handles[i]? = some (some handle) ∧ handle.jobs = job :: rest ∧
      job.ticket = ticket ∧ (reason = .guard → job.guard s.database.rows = false)
  /-- An append that resolves adds its row and uses its challenge in this step. -/
  resolves : ∀ i ticket row, (i, .appended ticket (.ok row)) ∈ newReplies A s event →
    ∃ handle job rest, s.handles[i]? = some (some handle) ∧ handle.jobs = job :: rest ∧
      job.ticket = ticket ∧ Extended A s.database (s.next A event).database job row
  /-- Nothing else writes rows, the committed state or the use of a challenge. -/
  writes : (s.next A event).database = s.database ∨
    (∃ i ticket row, (i, .appended ticket (.ok row)) ∈ newReplies A s event) ∨
    (∃ i challenge, (i, .saved) ∈ newReplies A s event ∧ (s.next A event).database =
      { s.database with challenges := s.database.challenges ++ [challenge] }) ∨
    ∃ signature, (s.next A event).database =
      { s.database with head := { s.database.head with signature := signature } }
  /-- Reads are of the rows in the file. -/
  histories : ∀ i result, (i, .history result) ∈ newReplies A s event →
    result = .ok s.database.rows ∨ result = .error .closed
  heads : ∀ i result, (i, .head result) ∈ newReplies A s event →
    result = .ok s.database.state ∨ result = .error .closed
  opens : ∀ i refusal, (i, .openRefused refusal) ∈ newReplies A s event →
    ∃ organizationId, event = .open organizationId ∧ organizationId ≠ s.database.organizationId
  /-- What was accepted has ended when the drain is settled. -/
  settles : ∀ i, (i, .settled) ∈ newReplies A s event → ∃ handle, s.handles[i]? = some (some handle) ∧
      ∀ ticket < handle.accepted, ∃ result, (i, .appended ticket result) ∈ s.log

variable {s : IdentitySystem}

theorem next_act (h : s.handles[i]? = some (some handle)) : s.next A (.act i action) =
      ⟨(handle.act A s.database action).1,s.handles.set i (some (handle.act A s.database action).2.1),
        s.log ++ (handle.act A s.database action).2.2.map fun reply => (i, reply)⟩ := by
  simp only [IdentitySystem.next,h]

theorem mem_newReplies_act (h : s.handles[i]? = some (some handle)) {j : Nat}
    (hmem : (j, reply) ∈ newReplies A s (.act i action)) :
    j = i ∧ reply ∈ (handle.act A s.database action).2.2 := by
  rw [newReplies,next_act h,drop_left,mem_map] at hmem
  obtain ⟨other,hother,hsame⟩ := hmem
  cases hsame
  exact ⟨rfl,hother⟩

theorem StepLaw.quiet (hreplies : newReplies A s event = [])
    (hdatabase : (s.next A event).database = s.database) : StepLaw A s event where
  rejects := by simp [hreplies]
  resolves := by simp [hreplies]
  writes := Or.inl hdatabase
  histories := by simp [hreplies]
  heads := by simp [hreplies]
  opens := by simp [hreplies]
  settles := by simp [hreplies]

theorem Outcome.stepLaw (h : s.handles[i]? = some (some handle))
    (houtcome : Outcome A s.database s.log i handle (handle.act A s.database action)) :
    StepLaw A s (.act i action) := by
  have hnext : (s.next A (.act i action)).database = (handle.act A s.database action).1 := by
    rw [next_act h]
  have hlawful : ∀ j reply, (j, reply) ∈ newReplies A s (.act i action) → j = i ∧
      Lawful A s.database (s.next A (.act i action)).database s.log i handle reply := by
    intro j reply hmem
    obtain ⟨hj,hreply⟩ := mem_newReplies_act h hmem
    exact ⟨hj,hnext ▸ houtcome.lawful reply hreply⟩
  have hreplied : ∀ reply ∈ (handle.act A s.database action).2.2,
      (i, reply) ∈ newReplies A s (.act i action) := by
    intro reply hreply
    rw [newReplies,next_act h,drop_left]
    exact mem_map_of_mem hreply
  constructor
  case rejects =>
    intro j ticket reason hmem
    obtain ⟨rfl,job,rest,hjobs,hticket,hsame,hreason,hguard⟩ := hlawful _ _ hmem
    exact ⟨hsame,hreason,handle,job,rest,h,hjobs,hticket,hguard⟩
  case resolves =>
    intro j ticket row hmem
    obtain ⟨rfl,job,rest,hjobs,hticket,hextended⟩ := hlawful _ _ hmem
    exact ⟨handle,job,rest,h,hjobs,hticket,hextended⟩
  case writes =>
    rcases houtcome.writes with hsame | ⟨ticket,row,hmem⟩ | ⟨hmem,challenge,hsaved⟩ |
      ⟨signature,hsigned⟩
    · exact Or.inl (hnext.trans hsame)
    · exact Or.inr (Or.inl ⟨i,ticket,row,hreplied _ hmem⟩)
    · exact Or.inr (Or.inr (Or.inl ⟨i,challenge,hreplied _ hmem,hnext.trans hsaved⟩))
    · exact Or.inr (Or.inr (Or.inr ⟨signature,hnext.trans hsigned⟩))
  case histories =>
    intro j result hmem
    obtain ⟨-,hresult⟩ := hlawful _ _ hmem
    cases result with
    | error reason => exact Or.inr (congrArg Except.error hresult)
    | ok rows => exact Or.inl (congrArg Except.ok hresult)
  case heads =>
    intro j result hmem
    obtain ⟨-,hresult⟩ := hlawful _ _ hmem
    cases result with
    | error reason => exact Or.inr (congrArg Except.error hresult)
    | ok state => exact Or.inl (congrArg Except.ok hresult)
  case opens =>
    intro j refusal hmem
    exact (hlawful _ _ hmem).2.elim
  case settles =>
    intro j hmem
    obtain ⟨rfl,hsettled⟩ := hlawful _ _ hmem
    exact ⟨handle,h,hsettled⟩

theorem resolvedSequences_append (log more : List (Nat × Reply)) :
    resolvedSequences (log ++ more) = resolvedSequences log ++ resolvedSequences more := by
  simp [resolvedSequences]

theorem Outcome.resolved {result : IdentityDatabase × Handle × List Reply}
    (houtcome : Outcome A db log i handle result) :
    resolvedSequences (result.2.2.map fun reply => (i, reply)) = [] ∨
      resolvedSequences (result.2.2.map fun reply => (i, reply)) = [result.1.head.sequence] ∧
        db.head.sequence < result.1.head.sequence := by
  have hsingle := houtcome.single
  have hlawful := houtcome.lawful
  match hreplies : result.2.2 with
  | [] => exact Or.inl rfl
  | [reply] =>
    rw [hreplies] at hlawful
    match reply with
    | .appended ticket (.ok row) =>
      obtain ⟨job,rest,-,-,hextended⟩ := hlawful _ (mem_singleton_self _)
      have hsequence : result.1.head.sequence = db.head.sequence + 1 :=
        congrArg HumanIdentityStateCommitment.sequence hextended.state
      have hrow : row.sequence = db.head.sequence + 1 := by
        rw [hextended.appended]
        rfl
      exact Or.inr ⟨by simp [resolvedSequences,hrow,hsequence],by omega⟩
    | .appended _ (.error _) | .opened | .openRefused _ | .history _ | .head _ | .appendRefused
    | .saved | .saveFailed | .settled | .interrupted => exact Or.inl rfl
  | first :: second :: rest =>
    rw [hreplies] at hsingle
    simp at hsingle

theorem SystemSound.act (hsound : SystemSound A s) (h : s.handles[i]? = some (some handle))
    (hundisturbed : Undisturbed s (.act i action)) :
    SystemSound A (s.next A (.act i action)) ∧ StepLaw A s (.act i action) := by
  have hcommits : action ≠ .commit .commitFails := by
    rintro rfl
    exact hundisturbed.1 rfl
  obtain ⟨houtcome,hstate⟩ := (hsound.handles i handle h).act hsound.verified hcommits
  refine ⟨?_,houtcome.stepLaw h⟩
  rw [next_act h]
  obtain ⟨hlt,-⟩ := List.getElem?_eq_some_iff.1 h
  constructor
  case verified => exact houtcome.verified
  case handles =>
    intro j other hother
    by_cases hj : i = j
    · subst hj
      rw [List.getElem?_set_self hlt,Option.some.injEq,Option.some.injEq] at hother
      rw [← hother]
      exact houtcome.sound
    · rw [List.getElem?_set_ne hj] at hother
      apply (hsound.handles j other hother).keeps houtcome.keeps _ (subset_append_left _ _)
      rcases hstate with hsame | rfl
      · exact Or.inr hsame
      · exact Or.inl (hundisturbed.2 rfl other (mem_of_getElem? hother))
  case ordered =>
    rw [resolvedSequences_append]
    rcases houtcome.resolved with hnone | ⟨hone,hlater⟩
    · rw [hnone,append_nil]
      exact hsound.ordered
    · rw [hone,pairwise_append]
      refine ⟨hsound.ordered,pairwise_singleton _ _,?_⟩
      intro sequence hmem later hlast
      rw [mem_singleton.1 hlast]
      exact (hsound.bounded sequence hmem).trans_lt hlater
  case bounded =>
    intro sequence hmem
    rw [resolvedSequences_append,mem_append] at hmem
    rcases hmem with hmem | hmem
    · exact (hsound.bounded sequence hmem).trans houtcome.keeps.sequence
    · rcases houtcome.resolved with hnone | ⟨hone,-⟩
      · rw [hnone] at hmem
        cases hmem
      · rw [hone,mem_singleton] at hmem
        exact hmem.le

theorem handles_concat {opened : Option Handle} (hi : (s.handles ++ [opened])[i]? = some (some handle)) :
    s.handles[i]? = some (some handle) ∨ i = s.handles.length ∧ opened = some handle := by
  rw [List.getElem?_append] at hi
  split_ifs at hi with hlt
  · exact Or.inl hi
  · rw [List.getElem?_singleton] at hi
    split_ifs at hi with hzero
    exact Or.inr ⟨by omega,Option.some.inj hi⟩

theorem sound_opening (h : Verified A db) : Sound A db log i (({} : Handle).select db .opening) where
  floor := by
    intro floor hfloor
    cases hfloor
  reading := by
    rintro reading ⟨⟩
    exact h.currentHead
  latest := by
    intro attempt plan signature head hhead
    cases hhead
  staged := by
    intro plan hplan
    cases hplan
  settled := ⟨0,rfl,rfl,by simp⟩
  awaited := by
    intro awaited hawaited
    cases hawaited

theorem SystemSound.open (hsound : SystemSound A s) (organizationId : String) :
    SystemSound A (s.next A (.open organizationId)) ∧ StepLaw A s (.open organizationId) := by
  by_cases hname : organizationId ≠ s.database.organizationId
  · have hnext : s.next A (.open organizationId) = { s with
        handles := s.handles ++ [none]
        log := s.log ++ [(s.handles.length, .openRefused .organization)] } := by
      simp only [IdentitySystem.next,if_pos hname]
    have hreplies : newReplies A s (.open organizationId) =
        [(s.handles.length, .openRefused .organization)] := by
      rw [newReplies,hnext,drop_left]
    constructor
    · rw [hnext]
      refine ⟨hsound.verified,?_,by simpa [resolvedSequences] using hsound.ordered,
        by simpa [resolvedSequences] using hsound.bounded⟩
      intro i handle hhandle
      rcases handles_concat hhandle with hold | ⟨-,hnew⟩
      · exact (hsound.handles i handle hold).keeps (Keeps.refl _) (Or.inr rfl)
          (subset_append_left _ _)
      · cases hnew
    · constructor
      case writes => exact Or.inl (by rw [hnext])
      case opens =>
        intro i refusal hmem
        exact ⟨organizationId,rfl,hname⟩
      all_goals simp [hreplies]
  · have hnext : s.next A (.open organizationId) = { s with
        handles := s.handles ++ [some (({} : Handle).select s.database .opening)] } := by
      simp only [IdentitySystem.next,if_neg hname]
    constructor
    · rw [hnext]
      refine ⟨hsound.verified,?_,hsound.ordered,hsound.bounded⟩
      intro i handle hhandle
      rcases handles_concat hhandle with hold | ⟨-,hnew⟩
      · exact hsound.handles i handle hold
      · rw [← Option.some.inj hnew]
        exact sound_opening hsound.verified
    · exact StepLaw.quiet (by simp [newReplies,hnext]) (by rw [hnext])

theorem SystemSound.next (hsound : SystemSound A s) (hundisturbed : Undisturbed s event) :
    SystemSound A (s.next A event) ∧ StepLaw A s event := by
  cases event with
  | «open» organizationId => exact hsound.open organizationId
  | act i action =>
    match hhandle : s.handles[i]? with
    | some (some handle) => exact hsound.act hhandle hundisturbed
    | some none | none =>
      have hnext : s.next A (.act i action) = s := by
        simp only [IdentitySystem.next,hhandle]
      rw [hnext]
      exact ⟨hsound,StepLaw.quiet (by simp [newReplies,hnext]) (by rw [hnext])⟩
  | crash i =>
    refine ⟨⟨hsound.verified,?_,hsound.ordered,hsound.bounded⟩,
      StepLaw.quiet (by simp [newReplies,IdentitySystem.next]) rfl⟩
    intro j handle hhandle
    simp only [IdentitySystem.next,List.getElem?_set] at hhandle
    split_ifs at hhandle
    · cases hhandle
    · exact hsound.handles j handle hhandle

/-- In a run in which no commit fails after its transaction has read itself back, and none falls
between the two halves of another handle's read, every append is all or nothing and no read is
refused: a rejected append leaves the file as it was, one that resolves adds its row and uses its
challenge in one step, on the rows its guard has passed, no two on one head, every read is of the
rows in the file, and a settled drain has ended every append it accepted. -/
theorem identity_append_is_all_or_nothing (A : Authenticity) (db : IdentityDatabase)
    (hdb : Verified A db) (events : List IdentityEvent)
    (h : StepsMeet (IdentitySystem.next A) Undisturbed (.start db) events) :
    (∀ front event back, events = front ++ event :: back →
      StepLaw A ((IdentitySystem.start db).run A front) event) ∧
    (resolvedSequences ((IdentitySystem.start db).run A events).log).Pairwise (· < ·) := by
  have hstart : SystemSound A (.start db) := by
    refine ⟨hdb,?_,List.Pairwise.nil,by simp [IdentitySystem.start,resolvedSequences]⟩
    intro i handle hhandle
    simp [IdentitySystem.start] at hhandle
  have hrun : ∀ events, StepsMeet (IdentitySystem.next A) Undisturbed (.start db) events →
      SystemSound A ((IdentitySystem.start db).run A events) := by
    intro events hevents
    exact StepsMeet.invariant (fun s event hsound hmeets => (hsound.next hmeets).1) hstart hevents
  refine ⟨?_,(hrun events h).ordered⟩
  rintro front event back rfl
  obtain ⟨hfront,hevent,-⟩ := stepsMeet_append.1 h
  exact ((hrun front hfront).next hevent).2

/-! ## One process -/

def openingEvents (db : IdentityDatabase) : List IdentityEvent :=
  [.open db.organizationId, .act 0 .read, .act 0 .reopen, .act 0 .read]

def appendingEvents (request : AppendRequest) (signature : String) : List IdentityEvent :=
  [.act 0 (.append request), .act 0 .plan, .act 0 .read, .act 0 .challenge,
    .act 0 (.sign (some signature)), .act 0 .read]

theorem run_append (s : IdentitySystem) (front back : List IdentityEvent) :
    s.run A (front ++ back) = (s.run A front).run A back := by
  simp [IdentitySystem.run]

def openedHandle (db : IdentityDatabase) : Handle := { witnessed := some db.top, ready := true }

theorem run_opening (h : Verified A db)
    (hkey : A.verifyState db.state db.head.signature = some A.activeKeyId) :
    (IdentitySystem.start db).run A (openingEvents db) = ⟨db,[some (openedHandle db)],[(0, .opened)]⟩ := by
  have hfirst := verifiedState_eq h rfl hkey (show AtFloor db none by simp [AtFloor])
  have hsecond := verifiedState_eq h rfl hkey atFloor_top
  simp [IdentitySystem.run,openingEvents,IdentitySystem.start,IdentitySystem.next,Handle.select,
    Handle.act,Handle.conclude,hfirst,hsecond,openedHandle]

def committingHandle (A : Authenticity) (db : IdentityDatabase) (request : AppendRequest)
    (signature : String) : Handle :=
  { openedHandle db with
    jobs := [⟨request,0⟩]
    accepted := 1
    stage := .committing (planOn A db.state (request.draft.content db.organizationId)) signature }

theorem run_appending (h : Verified A db)
    (hkey : A.verifyState db.state db.head.signature = some A.activeKeyId)
    (hguard : request.guard db.rows = true) (hconsume : request.consume = none)
    (hsafe : isSafeInteger (db.head.sequence + 1 : Nat) = true) :
    (IdentitySystem.start db).run A (openingEvents db ++ appendingEvents request signature) =
      ⟨db,[some (committingHandle A db request signature)],[(0, .opened)]⟩ := by
  have hsecond := verifiedState_eq h rfl hkey atFloor_top
  rw [run_append,run_opening h hkey]
  have hnext : isSafeInteger (planOn A db.state
      (request.draft.content db.organizationId)).next.sequence = true := hsafe
  have hplan : (planOn A db.state (request.draft.content db.organizationId)).state = db.state := rfl
  simp [IdentitySystem.run,appendingEvents,IdentitySystem.next,Handle.select,Handle.act,Handle.conclude,hsecond,
    openedHandle,Handle.occupied,hguard,hconsume,hnext,hplan,committingHandle]

theorem verifiedState_written (plan : Plan) (signature : String)
    (challenges : List CeremonyChallenge) (witnessed : Option Witnessed) (head : IdentityHead)
    (rows : List StoredHumanIdentityRow) :
    verifiedState A (db.written plan signature challenges) witnessed head rows =
      verifiedState A db witnessed head rows := by
  have hcommitment : (db.written plan signature challenges).commitment head = db.commitment head :=
    rfl
  simp only [verifiedState,hcommitment]

theorem commitLocal_readBack (h : Verified A db) {content : HumanIdentityRowContent}
    (horganization : content.organizationId = db.organizationId)
    (hkey : ∃ keyId, A.verifyState (plannedState A.toPlatform db.state content) signature = some keyId)
    (hsafe : isSafeInteger (db.head.sequence + 1 : Nat) = true)
    (hinsert : insertable db.rows (plannedRow A.toPlatform db.state content) = true)
    (hfate : fate = .commitFails ∨ fate = .commits) :
    commitLocal A db (some db.top) none (planOn A db.state content) signature fate =
      (if fate = .commitFails then db
        else db.written (planOn A db.state content) signature db.challenges,
        some ⟨db.head.sequence + 1,(plannedState A.toPlatform db.state content).chainDigest⟩,
        if fate = .commitFails then .error .commitFailed
        else .ok (plannedRow A.toPlatform db.state content)) := by
  obtain ⟨keyId,hcurrent⟩ := verifiedState_current h h.currentHead atFloor_top
  obtain ⟨key,hkey⟩ := hkey
  have hwritten : Verified A (db.written (planOn A db.state content) signature db.challenges) :=
    ⟨⟨key,hkey⟩,verifyHumanIdentityHistory_planned h.history horganization hsafe⟩
  have hkeeps : Keeps db (db.written (planOn A db.state content) signature db.challenges) := by
    have hlater : (db.written (planOn A db.state content) signature db.challenges).head.sequence =
        db.head.sequence + 1 := rfl
    exact ⟨rfl,rfl,prefix_append _ _,by omega,by omega⟩
  have hback := verifiedState_eq hwritten rfl hkey (atFloor_top.keeps hkeeps)
  have hbusy : fate ≠ .busy ∧ fate ≠ .insertFails ∧ fate ≠ .headFails := by
    rcases hfate with rfl | rfl <;> simp
  rw [verifiedState_written] at hback
  unfold commitLocal
  rw [if_neg hbusy.1]
  simp only [hcurrent]
  rw [if_neg (by simp [planOn])]
  simp only [useChallenge?]
  rw [if_neg (by rw [not_or]; exact ⟨hbusy.2.1,by simpa [planOn] using hinsert⟩),
    if_neg (by rw [not_or]; exact ⟨hbusy.2.2,by simp [planOn,IdentityDatabase.state,
      IdentityDatabase.commitment]⟩)]
  simp only [hback]
  rcases hfate with rfl | rfl
  · rfl
  · rfl

theorem verifiedState_below (h : Verified A db) (floor : Witnessed)
    (hfloor : db.head.sequence < floor.sequence) :
    verifiedState A db (some floor) db.head db.rows = .error .regressed := by
  obtain ⟨keyId,hkey⟩ := h.authentic
  have hstate : db.commitment db.head = db.state := rfl
  have hlt : db.state.sequence < floor.sequence := hfloor
  simp only [verifiedState,hstate,hkey,h.history,observe,if_pos hlt]

/-- The commit of the first append fails: nothing was written, and the process that made it is
refused its history. -/
theorem run_failed_commit (h : Verified A db)
    (hkey : A.verifyState db.state db.head.signature = some A.activeKeyId)
    (hguard : request.guard db.rows = true) (hconsume : request.consume = none)
    (hsafe : isSafeInteger (db.head.sequence + 1 : Nat) = true)
    (hsigned : ∃ keyId, A.verifyState (plannedState A.toPlatform db.state (request.draft.content db.organizationId)) signature = some keyId)
    (hinsert : insertable db.rows (plannedRow A.toPlatform db.state (request.draft.content db.organizationId)) = true) :
    ∃ handle, (IdentitySystem.start db).run A (openingEvents db ++ appendingEvents request signature ++
        [IdentityEvent.act 0 (.commit .commitFails), .act 0 .history, .act 0 .read]) =
      ⟨db,[some handle],[(0, .opened), (0, .appended 0 (.error .commitFailed)),
        (0, .history (.error (.refused .regressed)))]⟩ ∧ handle.closed = false := by
  have hcommit := commitLocal_readBack h rfl hsigned hsafe hinsert (Or.inl rfl)
  have hrefused := verifiedState_below h ⟨db.head.sequence + 1,(plannedState A.toPlatform
    db.state (request.draft.content db.organizationId)).chainDigest⟩ (Nat.lt_succ_self _)
  rw [run_append,run_appending h hkey hguard hconsume hsafe]
  simp [IdentitySystem.run,IdentitySystem.next,Handle.act,committingHandle,openedHandle,
    Handle.finish,hconsume,hcommit,Handle.occupied,Handle.select,Handle.conclude,hrefused]

/-! ## A new store -/

def genesisDatabase (P : Platform) (storeId organizationId signature : String) : IdentityDatabase where
  storeId := storeId
  organizationId := organizationId
  head := ⟨0,humanIdentityGenesisDigest P storeId organizationId,signature⟩
  rows := []
  challenges := []

theorem verified_genesis {storeId organizationId : String}
    (hkey : A.verifyState (genesisDatabase A.toPlatform storeId organizationId signature).state signature = some keyId) :
    Verified A (genesisDatabase A.toPlatform storeId organizationId signature) :=
  ⟨⟨keyId,hkey⟩,verifyHumanIdentityHistory_ok.2 ⟨rfl,rfl,rfl⟩⟩

def sampleAuthenticity : Authenticity where
  sha256 := fun text => text
  dateParse := fun _ => none
  localeCompare := fun _ _ => .eq
  verifyState := fun _ signature => if signature = "signature" then some "key-1" else none
  activeKeyId := "key-1"

def sampleStore : IdentityDatabase :=
  genesisDatabase sampleAuthenticity.toPlatform "human-identity-store:1" "organization-1" "signature"

def sampleRequest : AppendRequest where
  draft := {
    kind := .principalCreated
    operatorId := "ada"
    objectId := none
    payload := "\x7b\"displayName\":\"Ada\",\"userHandle\":\"aGFuZGxl\"\x7d"
    recordedBy := "operator:admin"
    recordedAt := "2026-01-01T00:00:00.000Z" }
  guard := fun _ => true
  consume := none

theorem sampleKey (state : HumanIdentityStateCommitment) :
    sampleAuthenticity.verifyState state "signature" = some "key-1" := by
  simp [sampleAuthenticity]

theorem verified_sampleStore : Verified sampleAuthenticity sampleStore :=
  verified_genesis (sampleKey _)

theorem sampleStore_active : sampleAuthenticity.verifyState sampleStore.state
    sampleStore.head.signature = some sampleAuthenticity.activeKeyId := by
  have hsignature : sampleStore.head.signature = "signature" := rfl
  rw [hsignature,sampleKey]
  rfl

theorem sampleStore_safe : isSafeInteger (sampleStore.head.sequence + 1 : Nat) = true := by
  have hsequence : sampleStore.head.sequence = 0 := rfl
  rw [hsequence]
  decide

theorem insertable_sample (row : StoredHumanIdentityRow) : insertable sampleStore.rows row = true :=
  rfl

/-- A process whose first append could not commit is refused its own history from then on,
although nothing was written. -/
theorem failed_commit_refuses_history : ∃ events handle,
    (IdentitySystem.start sampleStore).run sampleAuthenticity events =
      ⟨sampleStore,[some handle],[(0, .opened), (0, .appended 0 (.error .commitFailed)),
        (0, .history (.error (.refused .regressed)))]⟩ ∧ handle.closed = false := by
  obtain ⟨handle,hrun⟩ := run_failed_commit verified_sampleStore sampleStore_active
    (show sampleRequest.guard sampleStore.rows = true from rfl) rfl sampleStore_safe
    ⟨_,sampleKey _⟩ (insertable_sample _)
  exact ⟨_,handle,hrun⟩

/-- The append that commits on a new store meets the conditions. -/
theorem sample_append_resolves :
    StepsMeet (IdentitySystem.next sampleAuthenticity) Undisturbed (.start sampleStore)
      (openingEvents sampleStore ++ appendingEvents sampleRequest "signature" ++
        [.act 0 (.commit .commits)]) ∧
    StepLaw sampleAuthenticity ((IdentitySystem.start sampleStore).run sampleAuthenticity
      (openingEvents sampleStore ++ appendingEvents sampleRequest "signature"))
      (.act 0 (.commit .commits)) := by
  have hrun : (IdentitySystem.start sampleStore).run sampleAuthenticity
      (openingEvents sampleStore ++ appendingEvents sampleRequest "signature") = _ :=
    run_appending verified_sampleStore sampleStore_active
      (show sampleRequest.guard sampleStore.rows = true from rfl) rfl sampleStore_safe
  have hmeets : StepsMeet (IdentitySystem.next sampleAuthenticity) Undisturbed (.start sampleStore)
      (openingEvents sampleStore ++ appendingEvents sampleRequest "signature" ++
        [.act 0 (.commit .commits)]) := by
    rw [stepsMeet_append]
    constructor
    · apply stepsMeet_of_forall
      simp [openingEvents,appendingEvents,Undisturbed]
    · refine ⟨⟨by simp,?_⟩,trivial⟩
      intro _ handle hhandle
      change some handle ∈ ((IdentitySystem.start sampleStore).run sampleAuthenticity
        (openingEvents sampleStore ++ appendingEvents sampleRequest "signature")).handles at hhandle
      rw [hrun,mem_singleton,Option.some.injEq] at hhandle
      rw [hhandle]
      rfl
  exact ⟨hmeets,(identity_append_is_all_or_nothing sampleAuthenticity sampleStore
    verified_sampleStore _ hmeets).1 _ _ [] rfl⟩

end Frontera.HumanIdentity
