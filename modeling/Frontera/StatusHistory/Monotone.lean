import Frontera.StatusHistory.Conformance

/-! Whatever calls run over one store, and however their reads and writes interleave, every stored
mark is made of the one it replaces and remembers what that one did. -/

namespace Frontera.StatusHistory

open Frontera.Data List Option

variable {H : Host}

variable {input : CheckInput} {prepared : Prepared} {mark : StatusHighWaterMark} {system : Receiver}
  {status : SovereignStatusVerified} {key : StatusHistoryKey}
  {found : Option StatusHighWaterMarkEntry} {call : Nat} {read head : StatusHighWaterMark}

theorem prepare_ok (h : prepare H input = .ok prepared) : Authentic H.toPlatform prepared.verified ∧
      instantOf prepared.verified.issuedAt ≤ prepared.now := by
  unfold prepare at h
  split at h
  · cases h
  · dsimp only at h
    split at h
    · cases h
    · split at h
      · cases h
      · split at h
        · cases h
        · next now hnow =>
          split_ifs at h
          split at h
          · cases h
          · split at h
            · cases h
            · split at h
              · cases h
              · next verified hverified =>
                cases h
                obtain ⟨hauthentic,-,-,-,now',issuedAt,hnow',hissuedAt,hle⟩ :=
                  verifySovereignStatus_ok hverified
                rw [hnow,some.injEq] at hnow'
                refine ⟨hauthentic,?_⟩
                simp only [instantOf,hissuedAt,getD_some]
                omega

theorem prepareAnchoring_ok {input : BootstrapInput} {anchoring : Anchoring}
    (h : prepareAnchoring H input = .ok anchoring) :
    Authentic H.toPlatform anchoring.verified ∧
      (canonicalInstant anchoring.evaluationTime).isSome = true := by
  unfold prepareAnchoring at h
  split at h
  · cases h
  · split at h
    · cases h
    · next now hnow =>
      split at h
      · cases h
      · cases h
      · cases h
      · next verified hverified =>
        cases h
        refine ⟨(verifySovereignStatus_ok hverified).1,?_⟩
        rw [hnow]
        rfl

section Writes

variable {Presented : SovereignStatusVerified → Prop} {mark next : StatusHighWaterMark}

variable {status : SovereignStatusVerified}

theorem transition_conflict (h : transition mark status = .conflict next) :
    next = { mark with conflict := true } := by
  unfold transition at h
  dsimp only at h
  split_ifs at h <;> exact (Step.conflict.inj h).symm

theorem transition_advance {gap : Bool} (h : transition mark status = .advance next gap) :
    next = nextMark mark status gap ∧ mark.sequence < status.sequence ∧
      reopens mark status = false ∧ reintroduces mark status = false := by
  unfold transition at h
  dsimp only at h
  split_ifs at h with hlower hsame hdigest hreopens hreintroduces hissued hlink
  obtain ⟨rfl,rfl⟩ := Step.advance.inj h
  refine ⟨rfl,by omega,?_,?_⟩
  · simpa using hreopens
  · simpa using hreintroduces

theorem transition_unchanged (h : transition mark status = .unchanged) :
    status.sequence = mark.sequence ∧ status.statusDigest = mark.statusDigest := by
  unfold transition at h
  dsimp only at h
  split_ifs at h with hlower hsame hdigest
  exact ⟨hsame,hdigest⟩

theorem anchoredMark_some {reanchor : Bool} {evaluationTime : String}
    (h : anchoredMark reanchor status evaluationTime (some mark) = .ok next) :
    next = { nextMark mark status false with continuity := .verified, anchoredAt := evaluationTime } ∧
      mark.conflict = false ∧ mark.sequence ≤ status.sequence ∧ reopens mark status = false ∧
      reintroduces mark status = false := by
  simp only [anchoredMark] at h
  split_ifs at h with hconflict hreanchor hlower hreopens hreintroduces hclock
  cases h
  refine ⟨rfl,?_,by omega,?_,?_⟩
  · simpa using hconflict
  · simpa using hreopens
  · simpa using hreintroduces

theorem replacement_kept {call : Call} {read : Option StatusHighWaterMark}
    (hstatus : statusOf H call = some status) (h : replacement H call read = some next)
    (hpresented : Presented status)
    (hread : ∀ mark ∈ read, Kept Presented mark ∧ mark.key = status.historyKey) :
    Kept Presented next ∧ next.key = status.historyKey ∧ ∀ mark ∈ read, Forward mark next := by
  cases call with
  | check input =>
    cases hprepared : prepare H input with
    | error refused => simp [statusOf,hprepared,Except.toOption] at hstatus
    | ok prepared =>
      rw [statusOf_check hprepared,some.injEq] at hstatus
      subst hstatus
      have hauthentic := (prepare_ok hprepared).1
      cases read with
      | none =>
        rw [replacement_check_none hprepared] at h
        cases h
      | some mark =>
        obtain ⟨hkept,hkey⟩ := hread mark rfl
        rw [replacement_check hprepared,gateMark] at h
        split_ifs at h
        split at h
        · cases h
        · cases h
        · next step hstep =>
          cases h
          rw [transition_conflict hstep]
          refine ⟨hkept.latch,hkey,?_⟩
          rintro _ ⟨⟩
          exact forward_latch mark
        · next step gap hstep =>
          cases h
          obtain ⟨rfl,hlt,hreopens,hreintroduces⟩ := transition_advance hstep
          refine ⟨hkept.nextMark hauthentic hpresented hkey hreopens hreintroduces gap,hkey,?_⟩
          rintro _ ⟨⟩
          exact forward_nextMark hlt.le gap
  | establish input =>
    cases hanchoring : prepareAnchoring H input with
    | error refused => simp [statusOf,hanchoring,Except.toOption] at hstatus
    | ok anchoring =>
      rw [statusOf_establish hanchoring,some.injEq] at hstatus
      subst hstatus
      obtain ⟨hauthentic,htime⟩ := prepareAnchoring_ok hanchoring
      rw [replacement_establish hanchoring] at h
      cases hmark : anchoredMark anchoring.reanchor anchoring.verified anchoring.evaluationTime
          read with
      | error reason =>
        rw [hmark] at h
        cases h
      | ok written =>
        rw [hmark] at h
        cases h
        cases read with
        | none =>
          cases hmark
          refine ⟨kept_establishedMark hauthentic hpresented htime,rfl,?_⟩
          rintro _ ⟨⟩
        | some mark =>
          obtain ⟨hkept,hkey⟩ := hread mark rfl
          obtain ⟨rfl,-,hle,hreopens,hreintroduces⟩ := anchoredMark_some hmark
          refine ⟨(hkept.nextMark hauthentic hpresented hkey hreopens hreintroduces false).anchored
            htime,hkey,?_⟩
          rintro _ ⟨⟩
          have hforward := forward_nextMark hle false
          exact ⟨hforward.key,hforward.sequence,hforward.timeFloor,hforward.withdrawn,
            hforward.conflict,hforward.retired⟩

end Writes

/-- A status that a call of this run presents. -/
def Presented (H : Host) (system : Receiver) (status : SovereignStatusVerified) : Prop :=
  ∃ (i : Nat) (call : Call), (system.calls[i]?).map Prod.fst = some call ∧ statusOf H call = some status

theorem Kept.mono {first second : SovereignStatusVerified → Prop} (h : Kept first mark)
    (himp : ∀ status, first status → second status) : Kept second mark where
  readable := h.readable
  current := h.current
  head := by
    obtain ⟨status,hstatus,hhead⟩ := h.head
    exact ⟨status,himp status hstatus,hhead⟩

/-- Stored entries are kept marks, and an entry that was read is the stored one unless the
history has gone on since. -/
structure Sound (H : Host) (system : Receiver) : Prop where
  kept : ∀ key entry, system.state key = some entry →
    Kept (Presented H system) entry.mark ∧ entry.mark.key = key ∧ 1 ≤ entry.revision
  reads : ∀ call key found, (call, readOf key (some found)) ∈ system.history →
    Kept (Presented H system) found.mark ∧ ∃ entry, system.state key = some entry ∧
      found.revision ≤ entry.revision ∧ (found.revision = entry.revision → found = entry) ∧
      Forward found.mark entry.mark

/-- The step function of a receiver. -/
abbrev receiverNext (H : Host) (system : Receiver) (event : Event linearizableStore Call Empty) :
    Receiver :=
  System.next (callProgram H) nothingOutside system event

abbrev Conforming (H : Host) (system : Receiver) : Prop :=
  System.Conforms (Due H) (Ended H) system

theorem Presented.next (h : Presented H system status)
    (event : Event linearizableStore Call Empty) :
    Presented H (receiverNext H system event) status := by
  obtain ⟨i,call,hcall,hstatus⟩ := h
  exact ⟨i,call,System.inputs_next system event hcall,hstatus⟩

theorem compareAndSet_cases (histories : Histories) (key : StatusHistoryKey) (expected : Option Int)
    (next : StatusHighWaterMark) (fate : WriteFate) :
    ((histories.compareAndSet key expected next fate).1 = histories ∧
      (histories.compareAndSet key expected next fate).2 ≠ some true) ∨
    ((histories key).map (·.revision) = expected ∧
      (histories.compareAndSet key expected next fate).1 = histories.write key next ∧
      (histories.compareAndSet key expected next fate).2 ≠ some false) := by
  by_cases hmatched : (histories key).map (·.revision) = expected
  · cases fate <;> simp [Histories.compareAndSet,hmatched]
  · left
    cases fate <;> simp [Histories.compareAndSet,hmatched]

theorem readOf_eq_act {histories : Histories} {key' : StatusHistoryKey} {answers : Bool}
    (h : readOf key' found = ⟨.read key,(linearizableStore.act (.read key) histories answers).2⟩) :
    key' = key ∧ found = histories key := by
  cases answers with
  | false =>
    cases congrArg Sigma.fst h
    cases eq_of_heq (Sigma.mk.inj h).2
  | true =>
    cases congrArg Sigma.fst h
    exact ⟨rfl,some.inj (eq_of_heq (Sigma.mk.inj h).2)⟩

/-- An event in which a call writes what it makes of the stored mark. -/
structure Wrote (H : Host) (system : Receiver) (event : Event linearizableStore Call Empty)
    (i : Nat) (call : Call) (status : SovereignStatusVerified) (next : StatusHighWaterMark) :
    Prop where
  made : (system.calls[i]?).map Prod.fst = some call
  running : ∃ x, (receiverNext H system event).calls[i]? = some (call, some x)
  presents : statusOf H call = some status
  read : ∃ front, System.trailOf system.history i =
    front ++ [readOf status.historyKey (system.state status.historyKey)]
  replaces : replacement H call ((system.state status.historyKey).map (·.mark)) = some next
  state : ∀ key, (receiverNext H system event).state key = if key = status.historyKey then
    some ⟨((system.state status.historyKey).map (·.revision)).getD 0 + 1,next⟩
    else system.state key
  history : ∃ written, written ≠ some false ∧ (receiverNext H system event).history =
    system.history ++ [(i, writeOf status.historyKey
      ((system.state status.historyKey).map (·.revision)) next written)]

/-- An event that changes no history: a read in it gives the stored entry, and a write in it is
not answered `true`. -/
structure Quiet (H : Host) (system : Receiver) (event : Event linearizableStore Call Empty) : Prop where
  state : (receiverNext H system event).state = system.state
  reads : ∀ call key found, (call, readOf key found) ∈ (receiverNext H system event).history →
    (call, readOf key found) ∈ system.history ∨ found = system.state key
  writes : ∀ call key expected next,
    (call, writeOf key expected next (some true)) ∈ (receiverNext H system event).history →
    (call, writeOf key expected next (some true)) ∈ system.history

theorem mem_history_of_trail {entry : statusStore.Entry}
    (h : entry ∈ System.trailOf system.history call) : (call, entry) ∈ system.history := by
  obtain ⟨⟨other,done⟩,hdone,rfl⟩ := mem_map.1 h
  simp only [mem_filter,decide_eq_true_eq] at hdone
  obtain ⟨hdone,rfl⟩ := hdone
  exact hdone

theorem Sound.next_effect (hconforms : Conforming H system) (hsound : Sound H system)
    (event : Event linearizableStore Call Empty) :
    Quiet H system event ∨ ∃ i call status next, Wrote H system event i call status next := by
  rcases hconforms.next_effect (callProgram H) nothingOutside event with
    ⟨hstate,hhistory⟩ | ⟨i,call,op,choice,hcall,hdue,hstate,hhistory,hrunning⟩ |
    ⟨e,-⟩
  · left
    refine ⟨hstate,?_,?_⟩
    · intro call key found hmem
      rw [hhistory] at hmem
      exact Or.inl hmem
    · intro call key expected next hmem
      rwa [hhistory] at hmem
  · cases op with
    | read key =>
      left
      refine ⟨hstate,?_,?_⟩
      · intro other key' found hmem
        rw [hhistory] at hmem
        rcases mem_append.1 hmem with hmem | hmem
        · exact Or.inl hmem
        · right
          rw [mem_singleton,Prod.mk.injEq] at hmem
          obtain ⟨rfl,rfl⟩ := readOf_eq_act hmem.2
          rfl
      · intro other key' expected next hmem
        rw [hhistory] at hmem
        rcases mem_append.1 hmem with hmem | hmem
        · exact hmem
        · rw [mem_singleton,Prod.mk.injEq] at hmem
          cases congrArg Sigma.fst hmem.2
    | compareAndSet key expected next =>
      obtain ⟨status,entry,front,hstatus,rfl,htrail,hreadable,hexpected,hreplacement⟩ := hdue
      rcases compareAndSet_cases system.state status.historyKey expected next choice with
        ⟨hkept,hanswer⟩ | ⟨hmatched,hwrote,hanswer⟩
      · left
        refine ⟨hstate.trans hkept,?_,?_⟩
        · intro other key' found hmem
          rw [hhistory] at hmem
          rcases mem_append.1 hmem with hmem | hmem
          · exact Or.inl hmem
          · rw [mem_singleton,Prod.mk.injEq] at hmem
            cases congrArg Sigma.fst hmem.2
        · intro other key' expected' next' hmem
          rw [hhistory] at hmem
          rcases mem_append.1 hmem with hmem | hmem
          · exact hmem
          · rw [mem_singleton,Prod.mk.injEq] at hmem
            have hentry := hmem.2
            cases congrArg Sigma.fst hentry
            exact absurd (eq_of_heq (Sigma.mk.inj hentry).2).symm hanswer
      · right
        -- the entry that was read has the revision of the stored one, so it is the stored one
        have hread : (i, readOf status.historyKey entry) ∈ system.history :=
          mem_history_of_trail (by rw [htrail]; simp)
        rw [hexpected] at hmatched
        have hsame : system.state status.historyKey = entry := by
          cases entry with
          | none => simpa using hmatched
          | some found =>
            obtain ⟨-,stored,hstored,-,hunique,-⟩ := hsound.reads i _ found hread
            rw [hstored,map_some,map_some,some.injEq] at hmatched
            rw [hstored,hunique hmatched.symm]
        subst hexpected
        refine ⟨i,call,status,next,hcall,hrunning,hstatus,⟨front,hsame ▸ htrail⟩,
          hsame ▸ hreplacement,?_,_,hanswer,?_⟩
        · intro key
          rw [hstate.trans hwrote]
          exact Histories.write_apply _ _ _ _
        · rw [hsame]
          exact hhistory
  · exact e.elim

theorem Wrote.reads {event : Event linearizableStore Call Empty} {i : Nat} {call : Call}
    {next : StatusHighWaterMark} (h : Wrote H system event i call status next) {other : Nat}
    (hmem : (other, readOf key found) ∈ (receiverNext H system event).history) :
    (other, readOf key found) ∈ system.history := by
  obtain ⟨written,-,hhistory⟩ := h.history
  rw [hhistory] at hmem
  rcases mem_append.1 hmem with hmem | hmem
  · exact hmem
  · rw [mem_singleton,Prod.mk.injEq] at hmem
    cases congrArg Sigma.fst hmem.2

theorem Sound.marks (hsound : Sound H system) (key : StatusHistoryKey) :
    ∀ mark ∈ (system.state key).map (·.mark), Kept (Presented H system) mark ∧ mark.key = key := by
  intro mark hmark
  obtain ⟨entry,hentry,rfl⟩ := map_eq_some_iff.1 hmark
  exact ⟨(hsound.kept key entry hentry).1,(hsound.kept key entry hentry).2.1⟩

theorem Sound.next (hconforms : Conforming H system) (hsound : Sound H system)
    (event : Event linearizableStore Call Empty) : Sound H (receiverNext H system event) := by
  have hpresented : ∀ status, Presented H system status →
      Presented H (receiverNext H system event) status := fun status h => h.next event
  rcases hsound.next_effect hconforms event with hquiet | ⟨i,call,status,next,hwrote⟩
  · have hstate := hquiet.state
    constructor
    · intro key entry hentry
      rw [hstate] at hentry
      obtain ⟨hkept,hkey,hrevision⟩ := hsound.kept key entry hentry
      exact ⟨hkept.mono hpresented,hkey,hrevision⟩
    · intro call key found hmem
      rw [hstate]
      rcases hquiet.reads call key (some found) hmem with hmem | hread
      · obtain ⟨hkept,entry,hentry⟩ := hsound.reads call key found hmem
        exact ⟨hkept.mono hpresented,entry,hentry⟩
      · refine ⟨(hsound.kept key found hread.symm).1.mono hpresented,found,hread.symm,le_refl _,
          fun _ => rfl,Forward.refl _⟩
  · have hstate := hwrote.state
    obtain ⟨hkept,hkey,hforward⟩ := replacement_kept hwrote.presents hwrote.replaces
      ⟨i,call,hwrote.made,hwrote.presents⟩ (hsound.marks status.historyKey)
    constructor
    · intro key entry hentry
      rw [hstate] at hentry
      split_ifs at hentry with hsame
      · cases hentry
        refine ⟨hkept.mono hpresented,hkey.trans hsame.symm,?_⟩
        cases hstored : system.state status.historyKey with
        | none => simp
        | some stored =>
          have hrevision := (hsound.kept _ stored hstored).2.2
          simp only [map_some,getD_some]
          omega
      · obtain ⟨hkept,hkey,hrevision⟩ := hsound.kept key entry hentry
        exact ⟨hkept.mono hpresented,hkey,hrevision⟩
    · intro other key found hmem
      obtain ⟨hfound,stored,hstored,hle,hunique,hsince⟩ :=
        hsound.reads other key found (hwrote.reads hmem)
      refine ⟨hfound.mono hpresented,?_⟩
      rw [hstate]
      split_ifs with hsame
      · rw [hsame] at hstored
        refine ⟨_,rfl,?_,?_,hsince.trans (hforward stored.mark (by simp [hstored]))⟩
        · simp only [hstored,map_some,getD_some]
          omega
        · intro heq
          simp only [hstored,map_some,getD_some] at heq
          omega
      · exact ⟨stored,hstored,hle,hunique,hsince⟩

theorem sound_initial : Sound H (System.initial fun _ => none) where
  kept := by
    intro key entry h
    cases h
  reads := by
    intro call key found h
    cases h

theorem sound_run (H : Host) (events : List (Event linearizableStore Call Empty)) :
    Conforming H (receiverRun H events) ∧ Sound H (receiverRun H events) :=
  System.Conforms.run (callProgram_follows H) (fun _ event hconforms h => h.next hconforms event)
    .initial sound_initial events

/-- Since this mark was stored, its history has gone forward from it, for every call that was
made later. -/
structure Since (mark : StatusHighWaterMark) (made : Nat) (system : Receiver) : Prop where
  stored : ∃ entry, system.state mark.key = some entry ∧ Forward mark entry.mark
  reads : ∀ call found, made ≤ call → (call, readOf mark.key found) ∈ system.history →
    ∃ entry, found = some entry ∧ Forward mark entry.mark

theorem Since.next {made : Nat} (hconforms : Conforming H system) (hsound : Sound H system)
    (h : Since mark made system) (event : Event linearizableStore Call Empty) :
    Since mark made (receiverNext H system event) := by
  obtain ⟨entry,hentry,hforward⟩ := h.stored
  rcases hsound.next_effect hconforms event with hquiet | ⟨i,call,status,next,hwrote⟩
  · refine ⟨⟨entry,hquiet.state ▸ hentry,hforward⟩,?_⟩
    intro call found hmade hmem
    rcases hquiet.reads call mark.key found hmem with hmem | rfl
    · exact h.reads call found hmade hmem
    · exact ⟨entry,hentry,hforward⟩
  · refine ⟨?_,fun call found hmade hmem => h.reads call found hmade (hwrote.reads hmem)⟩
    rw [hwrote.state]
    split_ifs with hsame
    · obtain ⟨-,-,hnext⟩ := replacement_kept hwrote.presents hwrote.replaces
        ⟨i,call,hwrote.made,hwrote.presents⟩ (hsound.marks status.historyKey)
      exact ⟨_,rfl,hforward.trans (hnext entry.mark (by simp [← hsame,hentry]))⟩
    · exact ⟨entry,hentry,hforward⟩

theorem receiverRun_append (front back : List (Event linearizableStore Call Empty)) :
    receiverRun H (front ++ back) =
      System.run (callProgram H) nothingOutside (receiverRun H front) back := by
  simp [receiverRun,System.run,foldl_append]

theorem since_run {front : List (Event linearizableStore Call Empty)}
    {entry : StatusHighWaterMarkEntry} (h : (receiverRun H front).state key = some entry)
    (back : List (Event linearizableStore Call Empty)) :
    entry.mark.key = key ∧
      Since entry.mark (receiverRun H front).calls.length (receiverRun H (front ++ back)) := by
  obtain ⟨hconforms,hsound⟩ := sound_run H front
  obtain ⟨-,hkey,-⟩ := hsound.kept key entry h
  refine ⟨hkey,?_⟩
  rw [receiverRun_append]
  have hstart : Since entry.mark (receiverRun H front).calls.length (receiverRun H front) := by
    refine ⟨⟨entry,hkey ▸ h,Forward.refl _⟩,?_⟩
    intro call found hmade hmem
    have htrail : readOf entry.mark.key found ∈
        System.trailOf (receiverRun H front).history call :=
      mem_map.2 ⟨_,mem_filter.2 ⟨hmem,by simp⟩,rfl⟩
    rw [hconforms.unmade call hmade] at htrail
    cases htrail
  have hstep : ∀ system event, Conforming H system →
      (Sound H system ∧ Since entry.mark (receiverRun H front).calls.length system) →
      Sound H (receiverNext H system event) ∧
        Since entry.mark (receiverRun H front).calls.length (receiverNext H system event) := by
    rintro system event hconforms ⟨hsound,hsince⟩
    exact ⟨hsound.next hconforms event,hsince.next hconforms hsound event⟩
  exact (System.Conforms.run (callProgram_follows H) hstep hconforms ⟨hsound,hstart⟩ back).2.2

theorem statusOf_authentic {call : Call} (h : statusOf H call = some status) :
    Authentic H.toPlatform status := by
  cases call with
  | check input =>
    cases hprepared : prepare H input with
    | error refused => simp [statusOf,hprepared,Except.toOption] at h
    | ok prepared =>
      rw [statusOf_check hprepared,some.injEq] at h
      exact h ▸ (prepare_ok hprepared).1
  | establish input =>
    cases hanchoring : prepareAnchoring H input with
    | error refused => simp [statusOf,hanchoring,Except.toOption] at h
    | ok anchoring =>
      rw [statusOf_establish hanchoring,some.injEq] at h
      exact h ▸ (prepareAnchoring_ok hanchoring).1

/-- No two statuses presented in this run have the same SHA-256 digest without being the same
text. -/
def CollisionFree (H : Host) (system : Receiver) : Prop :=
  ∀ first second, Presented H system first → Presented H system second →
    H.sha256 (canonicalJson first.toJson) = H.sha256 (canonicalJson second.toJson) →
    canonicalJson first.toJson = canonicalJson second.toJson

theorem CollisionFree.payload_eq (h : CollisionFree H system)
    {first second : SovereignStatusVerified} (hfirst : Presented H system first)
    (hsecond : Presented H system second) (hdigest : first.statusDigest = second.statusDigest) :
    first.toSovereignStatusPayload = second.toSovereignStatusPayload := by
  obtain ⟨i,call,hcall,hstatus⟩ := id hfirst
  obtain ⟨j,other,hother,hstatus'⟩ := id hsecond
  rw [(statusOf_authentic hstatus).digest,(statusOf_authentic hstatus').digest] at hdigest
  exact canonicalJson_toJson_injective (h first second hfirst hsecond hdigest)

theorem ended_of_answered (hconforms : Conforming H system) {input : Call} {reply : Reply}
    (h : system.Answered call input reply) :
    Ended H input (System.trailOf system.history call) reply :=
  hconforms.calls call input _ h

theorem fresh_read (hconforms : Conforming H system) {result : DocumentUseFreshnessResult}
    (h : system.Answered call (.check input) (.checked result))
    (hfresh : result.freshnessVerdict = .fresh) :
    ∃ prepared found head, prepare H input = .ok prepared ∧
      (call, readOf prepared.verified.historyKey (some found)) ∈ system.history ∧
      FreshOn prepared found.mark head := by
  obtain ⟨input',prepared,front,found,head,hinput,hprepared,-,htrail,hfresh⟩ :=
    (ended_of_answered hconforms h).2 hfresh
  cases hinput
  refine ⟨prepared,found,head,hprepared,mem_history_of_trail ?_,hfresh⟩
  rcases htrail with htrail | ⟨next,htrail⟩
  · rw [htrail]
    simp
  · rw [htrail]
    simp

theorem FreshOn.head_eq (h : FreshOn prepared read head) : head.sequence = prepared.verified.sequence ∧
      head.statusDigest = prepared.verified.statusDigest ∧ head.conflict = false := by
  rcases h.arrives with ⟨hstep,rfl⟩ | ⟨gap,hstep⟩
  · obtain ⟨hsequence,hdigest⟩ := transition_unchanged hstep
    exact ⟨hsequence.symm,hdigest.symm,h.settled⟩
  · obtain ⟨rfl,-⟩ := transition_advance hstep
    exact ⟨rfl,rfl,h.settled⟩

theorem FreshOn.unforgotten (h : FreshOn prepared read head) (hfree : CollisionFree H system)
    (hkept : Kept (Presented H system) read) (hpresented : Presented H system prepared.verified) :
    read.withdrawn = false ∧ prepared.policy.claimDigest ∉ read.retiredTermsDigests := by
  have hterms : prepared.verified.termsDigest = some prepared.policy.claimDigest := by
    simp [SovereignStatusPayload.termsDigest,h.terms]
  rcases h.arrives with ⟨hstep,-⟩ | ⟨gap,hstep⟩
  · obtain ⟨-,hdigest⟩ := transition_unchanged hstep
    obtain ⟨status,hstatus,hhead⟩ := hkept.head
    have hsame := hfree.payload_eq hpresented hstatus (hdigest.trans hhead.digest)
    constructor
    · rw [hhead.withdrawn,← hsame,h.active]
      rfl
    · apply hkept.current
      rw [hhead.terms,← hsame]
      exact hterms
  · obtain ⟨-,-,hreopens,hreintroduces⟩ := transition_advance hstep
    constructor
    · simpa [reopens,h.active] using hreopens
    · simpa [reintroduces,hterms] using hreintroduces

/-- Along every run of checks and anchorings over one store, every history moves forward only,
each of its marks reads back and is made of the one it replaces; a fresh verdict stands on a
read after which the presented status is the head; and what a history has recorded against a
use, no later check forgets. -/
theorem status_history_moves_forward (H : Host)
    (front back : List (Event linearizableStore Call Empty)) :
    (∀ key entry, (receiverRun H front).state key = some entry →
      ∃ since, (receiverRun H (front ++ back)).state key = some since ∧ Forward entry.mark since.mark) ∧
    (∀ key entry, (receiverRun H (front ++ back)).state key = some entry →
      readMark entry.mark = some entry.mark ∧ entry.mark.key = key ∧
        ∀ digest ∈ entry.mark.currentTermsDigest, digest ∉ entry.mark.retiredTermsDigests) ∧
    (∀ event key, (receiverNext H (receiverRun H front) event).state key = (receiverRun H front).state key ∨
      ∃ (i : Nat) (call : Call) (next : StatusHighWaterMark),
        ((receiverRun H front).calls[i]?).map Prod.fst = some call ∧
        replacement H call (((receiverRun H front).state key).map (·.mark)) = some next ∧
        (receiverNext H (receiverRun H front) event).state key =
          some ⟨(((receiverRun H front).state key).map (·.revision)).getD 0 + 1,next⟩) ∧
    (∀ call input result, (receiverRun H (front ++ back)).Answered call (.check input) (.checked result) →
      result.freshnessVerdict = .fresh → ∃ prepared found head, prepare H input = .ok prepared ∧
        (call, readOf prepared.verified.historyKey (some found)) ∈
          (receiverRun H (front ++ back)).history ∧
        FreshOn prepared found.mark head ∧ head.sequence = prepared.verified.sequence ∧
        head.statusDigest = prepared.verified.statusDigest ∧ head.conflict = false ∧
        -- where the check was made after this mark was stored, the mark does not speak against it
        ∀ entry, (receiverRun H front).state prepared.verified.historyKey = some entry →
          (receiverRun H front).calls.length ≤ call → entry.mark.conflict = false ∧
            (CollisionFree H (receiverRun H (front ++ back)) → entry.mark.withdrawn = false ∧
                prepared.policy.claimDigest ∉ entry.mark.retiredTermsDigests)) := by
  obtain ⟨hconforms,hsound⟩ := sound_run H (front ++ back)
  obtain ⟨hconforms',hsound'⟩ := sound_run H front
  refine ⟨?_,?_,?_,?_⟩
  · intro key entry hentry
    obtain ⟨hkey,hsince⟩ := since_run hentry back
    rw [← hkey]
    exact hsince.stored
  · intro key entry hentry
    obtain ⟨hkept,hkey,-⟩ := hsound.kept key entry hentry
    exact ⟨hkept.readable,hkey,hkept.current⟩
  · intro event key
    rcases hsound'.next_effect hconforms' event with hquiet | ⟨i,call,status,next,hwrote⟩
    · left
      rw [hquiet.state]
    · by_cases hkey : key = status.historyKey
      · right
        refine ⟨i,call,next,hwrote.made,hkey ▸ hwrote.replaces,?_⟩
        rw [hwrote.state key,if_pos hkey,hkey]
      · left
        rw [hwrote.state key,if_neg hkey]
  · intro call input result hanswered hfresh
    obtain ⟨prepared,found,head,hprepared,hread,hgrounds⟩ :=
      fresh_read hconforms hanswered hfresh
    obtain ⟨hsequence,hdigest,hconflict⟩ := hgrounds.head_eq
    refine ⟨prepared,found,head,hprepared,hread,hgrounds,hsequence,hdigest,hconflict,?_⟩
    intro entry hentry hmade
    obtain ⟨hkey,hsince⟩ := since_run hentry back
    obtain ⟨_,⟨⟩,hforward⟩ := hsince.reads call (some found) hmade (hkey ▸ hread)
    refine ⟨?_,?_⟩
    · by_contra hmark
      rw [Bool.not_eq_false] at hmark
      have hsettled := hgrounds.settled
      rw [hforward.conflict hmark] at hsettled
      cases hsettled
    · intro hfree
      have hpresented : Presented H (receiverRun H (front ++ back)) prepared.verified :=
        ⟨call,.check input,by rw [hanswered]; rfl,statusOf_check hprepared⟩
      obtain ⟨hactive,hterms⟩ :=
        hgrounds.unforgotten hfree (hsound.reads call _ found hread).1 hpresented
      refine ⟨?_,fun hretired => hterms (hforward.retired hretired)⟩
      by_contra hmark
      rw [Bool.not_eq_false] at hmark
      rw [hforward.withdrawn hmark] at hactive
      cases hactive

/-- Along every run, a stored mark stands at a status that some call has verified; and a mark that a
call read is still the stored one as long as its revision is. -/
theorem stored_marks_presented (H : Host) (events : List (Event linearizableStore Call Empty)) :
    (∀ key entry, (receiverRun H events).state key = some entry →
      1 ≤ entry.revision ∧ entry.mark.key = key ∧
        ∃ status, Presented H (receiverRun H events) status ∧ HeadOf entry.mark status) ∧
    ∀ call key found, (call, readOf key (some found)) ∈ (receiverRun H events).history →
      ∃ entry, (receiverRun H events).state key = some entry ∧ found.revision ≤ entry.revision ∧
        (found.revision = entry.revision → found = entry) := by
  obtain ⟨-,hsound⟩ := sound_run H events
  refine ⟨fun key entry hentry => ?_,fun call key found hread => ?_⟩
  · obtain ⟨hkept,hkey,hrevision⟩ := hsound.kept key entry hentry
    exact ⟨hrevision,hkey,hkept.head⟩
  · obtain ⟨-,entry,hentry,hle,hsame,-⟩ := hsound.reads call key found hread
    exact ⟨entry,hentry,hle,hsame⟩

end Frontera.StatusHistory
