import Frontera.StatusHistory.Monotone
import Frontera.StatusHistory.SignedStatus

/-! Two different statuses at one sequence contradict each other. The gate latches a conflict when
the status it is presented with differs from the head at its own sequence; the anchoring of a
history does not look. -/

namespace Frontera.StatusHistory

open Frontera.Data Frontera.Text List Option System Histories

variable {H : Host}

/-- What a call read last, when it was answered. -/
def lastRead (trail : Trail) : Option (Option StatusHighWaterMarkEntry) :=
  trail.foldl (fun last entry =>
    match entry with
    | ⟨.read _,answer⟩ => answer
    | ⟨.compareAndSet _ _ _,_⟩ => last) none

theorem lastRead_readOf (front : Trail) (key : StatusHistoryKey)
    (entry : Option StatusHighWaterMarkEntry) :
    lastRead (front ++ [readOf key entry]) = some entry := by
  simp [lastRead,readOf]

theorem lastRead_writeOf (front : Trail) (key : StatusHistoryKey) (expected : Option Int)
    (next : StatusHighWaterMark) (written : Option Bool) :
    lastRead (front ++ [writeOf key expected next written]) = lastRead front := by
  simp [lastRead,writeOf]

variable {key : StatusHistoryKey} {expected : Option Int} {system : Receiver} {call : Nat}
  {input : Call} {status : SovereignStatusVerified} {found : StatusHighWaterMarkEntry}
  {event : Event linearizableStore Call Empty} {i : Nat} {histories : Histories}
  {prepared : Prepared} {now : Int} {verified : SovereignStatusVerified}

theorem writeOf_inj {key' : StatusHistoryKey} {expected' : Option Int}
    {next next' : StatusHighWaterMark} {written written' : Option Bool}
    (h : writeOf key expected next written = writeOf key' expected' next' written') :
    key = key' ∧ expected = expected' ∧ next = next' ∧ written = written' := by
  cases congrArg Sigma.fst h
  exact ⟨rfl,rfl,rfl,eq_of_heq (Sigma.mk.inj h).2⟩

/-- A call that has ended, the status it presented and the entry it read last, at the status's
own sequence. -/
structure ReadAtHead (H : Host) (system : Receiver) (call : Nat) (input : Call)
    (status : SovereignStatusVerified) (found : StatusHighWaterMarkEntry) : Prop where
  ended : ∃ reply, system.Answered call input reply
  presents : statusOf H input = some status
  read : lastRead (trailOf system.history call) = some (some found)
  sequence : found.mark.sequence = status.sequence

/-- The status was presented against its history while its sequence was the head: a call that
presented it read the head there, or made it the head. -/
def PresentedAtHead (H : Host) (system : Receiver) (status : SovereignStatusVerified) : Prop :=
  (∃ call input found, ReadAtHead H system call input status found) ∨
    ∃ (call : Nat) (expected : Option Int) (next : StatusHighWaterMark),
      (call, writeOf status.historyKey expected next (some true)) ∈ system.history ∧
      next.sequence = status.sequence ∧ next.statusDigest = status.statusDigest

/-- Every status that differs from the head at its own sequence, in a history without conflict, is
presented to the gate, at a time not before the history's floor, and the store takes the write
that follows. -/
def Latching (H : Host) (system : Receiver) : Prop :=
  ∀ call input status found, ReadAtHead H system call input status found →
    found.mark.statusDigest ≠ status.statusDigest → found.mark.conflict = false →
    ∃ check prepared front next, input = .check check ∧ prepare H check = .ok prepared ∧
      instantOf found.mark.timeFloor ≤ prepared.now ∧ trailOf system.history call =
        front ++ [writeOf status.historyKey (some found.revision) next (some true)]

theorem ReadAtHead.next (h : ReadAtHead H system call input status found)
    (event : Event linearizableStore Call Empty) :
    ReadAtHead H (receiverNext H system event) call input status found ∧
      trailOf (receiverNext H system event).history call = trailOf system.history call := by
  obtain ⟨reply,hreply⟩ := h.ended
  obtain ⟨hanswered,htrail⟩ := System.Answered.next hreply event
  exact ⟨⟨⟨reply,hanswered⟩,h.presents,by rw [htrail]; exact h.read,h.sequence⟩,htrail⟩

theorem Latching.of_next (h : Latching H (receiverNext H system event)) : Latching H system := by
  intro call input status found hread hdigest hconflict
  obtain ⟨hread',htrail⟩ := hread.next event
  obtain ⟨check,prepared,front,next,hinput,hprepared,hfloor,hlast⟩ :=
    h call input status found hread' hdigest hconflict
  exact ⟨check,prepared,front,next,hinput,hprepared,hfloor,htrail ▸ hlast⟩

theorem Wrote.answered {call : Call} {next : StatusHighWaterMark}
    (h : Wrote H system event i call status next)
    (hconforms : Conforming H (receiverNext H system event)) :
    (∃ reply, (receiverNext H system event).Answered i call reply) ∧
      lastRead (trailOf (receiverNext H system event).history i) =
        some (system.state status.historyKey) := by
  obtain ⟨front,hfront⟩ := h.read
  obtain ⟨written,hwritten,hhistory⟩ := h.history
  have htrail : trailOf (receiverNext H system event).history i =
      front ++ [readOf status.historyKey (system.state status.historyKey)] ++
        [writeOf status.historyKey ((system.state status.historyKey).map (·.revision)) next
          written] := by
    rw [hhistory,trailOf_concat,if_pos rfl,hfront]
  refine ⟨?_,by rw [htrail,lastRead_writeOf,lastRead_readOf]⟩
  obtain ⟨x,hx⟩ := h.running
  have hfollows := hconforms.calls i call x hx
  rw [htrail] at hfollows
  cases x with
  | pure reply => exact ⟨reply,hx⟩
  | ask op rest =>
    -- neither a read nor a write is due after a write that was not refused
    have hdue := hfollows.1
    cases op with
    | read key =>
      obtain ⟨other,-,-,hretry⟩ := hdue
      rcases hretry with hnil | ⟨front',entry,next',-,-,heq⟩
      · simp at hnil
      · rw [append_cons front'] at heq
        have hlast := (List.cons.inj (append_inj_right' heq rfl)).1
        exact absurd (writeOf_inj hlast).2.2.2 hwritten
    | compareAndSet key expected next' =>
      obtain ⟨other,entry,front',-,-,heq,-⟩ := hdue
      have hlast := (List.cons.inj (append_inj_right' heq rfl)).1
      cases congrArg Sigma.fst hlast

theorem Wrote.digest {call : Call} {next : StatusHighWaterMark}
    (h : Wrote H system event i call status next)
    (hconforms : Conforming H (receiverNext H system event))
    (hlatching : Latching H (receiverNext H system event)) {entry : StatusHighWaterMarkEntry}
    (hentry : system.state status.historyKey = some entry)
    (hsequence : entry.mark.sequence = next.sequence) :
    next.statusDigest = entry.mark.statusDigest := by
  have hreplaces := h.replaces
  rw [hentry,map_some] at hreplaces
  cases call with
  | check input =>
    cases hprepared : prepare H input with
    | error refused => simp [replacement,hprepared,Except.toOption] at hreplaces
    | ok prepared =>
      rw [replacement_check hprepared,gateMark] at hreplaces
      split_ifs at hreplaces
      split at hreplaces
      · cases hreplaces
      · cases hreplaces
      · next step hstep =>
        cases hreplaces
        rw [transition_conflict hstep]
      · next step gap hstep =>
        cases hreplaces
        obtain ⟨rfl,hlt,-⟩ := transition_advance hstep
        simp only [nextMark] at hsequence
        omega
  | establish input =>
    cases hanchoring : prepareAnchoring H input with
    | error refused => simp [replacement,hanchoring,Except.toOption] at hreplaces
    | ok anchoring =>
      rw [replacement_establish hanchoring] at hreplaces
      cases hmark : anchoredMark anchoring.reanchor anchoring.verified anchoring.evaluationTime
          (some entry.mark) with
      | error reason =>
        rw [hmark] at hreplaces
        cases hreplaces
      | ok written =>
        rw [hmark] at hreplaces
        cases hreplaces
        obtain ⟨rfl,hconflict,-⟩ := anchoredMark_some hmark
        have hpresents := h.presents
        rw [statusOf_establish hanchoring,some.injEq] at hpresents
        subst hpresents
        by_contra hdigest
        obtain ⟨hended,hread⟩ := h.answered hconforms
        rw [hentry] at hread
        obtain ⟨check,-,-,-,hcheck,-⟩ := hlatching i (.establish input) anchoring.verified
          entry ⟨hended,h.presents,hread,hsequence⟩ (Ne.symm hdigest) hconflict
        cases hcheck

/-- Marks of this run: the stored one, and those that were read or whose write was answered. -/
def Recorded (system : Receiver) (key : StatusHistoryKey) (mark : StatusHighWaterMark) : Prop :=
  (∃ entry, system.state key = some entry ∧ mark = entry.mark) ∨
    (∃ call found, (call, readOf key (some found)) ∈ system.history ∧ mark = found.mark) ∨
    ∃ call expected, (call, writeOf key expected mark (some true)) ∈ system.history

/-- The stored mark goes forward from every recorded one, and agrees with it on the digest at its
sequence. -/
structure Agrees (system : Receiver) : Prop where
  forward : ∀ key mark, Recorded system key mark →
    ∃ entry, system.state key = some entry ∧ Forward mark entry.mark
  digest : ∀ key first second, Recorded system key first → Recorded system key second →
    first.sequence = second.sequence → first.statusDigest = second.statusDigest

theorem Agrees.next (hconforms : Conforming H system) (hsound : Sound H system)
    (hlatching : Latching H (receiverNext H system event)) (h : Agrees system) :
    Agrees (receiverNext H system event) := by
  have hconforms' : Conforming H (receiverNext H system event) :=
    hconforms.next (callProgram_follows H) event
  rcases hsound.next_effect hconforms event with hquiet | ⟨i,call,status,next,hwrote⟩
  · -- nothing new is recorded
    have hold : ∀ key mark, Recorded (receiverNext H system event) key mark → Recorded system key mark := by
      rintro key mark (⟨entry,hentry,rfl⟩ | ⟨call,found,hmem,rfl⟩ | ⟨call,expected,hmem⟩)
      · rw [hquiet.state] at hentry
        exact Or.inl ⟨entry,hentry,rfl⟩
      · rcases hquiet.reads call key (some found) hmem with hmem | hread
        · exact Or.inr (Or.inl ⟨call,found,hmem,rfl⟩)
        · exact Or.inl ⟨found,hread.symm,rfl⟩
      · exact Or.inr (Or.inr ⟨call,expected,hquiet.writes call key expected mark hmem⟩)
    constructor
    · intro key mark hmark
      rw [hquiet.state]
      exact h.forward key mark (hold key mark hmark)
    · intro key first second hfirst hsecond
      exact h.digest key first second (hold key first hfirst) (hold key second hsecond)
  · -- the mark that was written is new
    have hold : ∀ key mark, Recorded (receiverNext H system event) key mark →
        Recorded system key mark ∨ (key = status.historyKey ∧ mark = next) := by
      rintro key mark (⟨entry,hentry,rfl⟩ | ⟨call,found,hmem,rfl⟩ | ⟨call,expected,hmem⟩)
      · rw [hwrote.state] at hentry
        split_ifs at hentry with hkey
        · cases hentry
          exact Or.inr ⟨hkey,rfl⟩
        · exact Or.inl (Or.inl ⟨entry,hentry,rfl⟩)
      · exact Or.inl (Or.inr (Or.inl ⟨call,found,hwrote.reads hmem,rfl⟩))
      · obtain ⟨written,-,hhistory⟩ := hwrote.history
        rw [hhistory] at hmem
        rcases mem_append.1 hmem with hmem | hmem
        · exact Or.inl (Or.inr (Or.inr ⟨call,expected,hmem⟩))
        · rw [mem_singleton,Prod.mk.injEq] at hmem
          obtain ⟨hkey,-,hnext,-⟩ := writeOf_inj hmem.2
          exact Or.inr ⟨hkey,hnext⟩
    obtain ⟨-,-,hforward⟩ := replacement_kept hwrote.presents hwrote.replaces
      ⟨i,call,hwrote.made,hwrote.presents⟩ (hsound.marks status.historyKey)
    -- an old mark at the sequence of the new one stands where the replaced one does
    have hdigest : ∀ mark, Recorded system status.historyKey mark → mark.sequence = next.sequence →
        mark.statusDigest = next.statusDigest := by
      intro mark hmark hsequence
      obtain ⟨entry,hentry,hsince⟩ := h.forward status.historyKey mark hmark
      have hle := (hforward entry.mark (by simp [hentry])).sequence
      have hge := hsince.sequence
      have hsame : entry.mark.sequence = next.sequence := by omega
      rw [hwrote.digest hconforms' hlatching hentry hsame]
      exact h.digest status.historyKey mark entry.mark hmark (Or.inl ⟨entry,hentry,rfl⟩)
        (hsequence.trans hsame.symm)
    constructor
    · intro key mark hmark
      rw [hwrote.state]
      rcases hold key mark hmark with hmark | ⟨rfl,rfl⟩
      · obtain ⟨entry,hentry,hsince⟩ := h.forward key mark hmark
        split_ifs with hkey
        · subst hkey
          exact ⟨_,rfl,hsince.trans (hforward entry.mark (by simp [hentry]))⟩
        · exact ⟨entry,hentry,hsince⟩
      · rw [if_pos rfl]
        exact ⟨_,rfl,Forward.refl _⟩
    · intro key first second hfirst hsecond hsequence
      rcases hold key first hfirst with hfirst | ⟨rfl,rfl⟩
      · rcases hold key second hsecond with hsecond | ⟨rfl,rfl⟩
        · exact h.digest key first second hfirst hsecond hsequence
        · exact hdigest first hfirst hsequence
      · rcases hold _ second hsecond with hsecond | ⟨-,rfl⟩
        · exact (hdigest second hsecond hsequence.symm).symm
        · rfl

theorem agrees_initial : Agrees (initial fun _ => none) where
  forward := by
    rintro key mark (⟨entry,hentry,-⟩ | ⟨call,found,hmem,-⟩ | ⟨call,expected,hmem⟩)
    · cases hentry
    · cases hmem
    · cases hmem
  digest := by
    rintro key first second (⟨entry,hentry,-⟩ | ⟨call,found,hmem,-⟩ | ⟨call,expected,hmem⟩)
    · cases hentry
    · cases hmem
    · cases hmem

theorem receiverRun_concat (events : List (Event linearizableStore Call Empty))
    (event : Event linearizableStore Call Empty) :
    receiverRun H (events ++ [event]) = receiverNext H (receiverRun H events) event := by
  simp [receiverRun_append,run]

theorem agrees_run {events : List (Event linearizableStore Call Empty)}
    (h : Latching H (receiverRun H events)) : Agrees (receiverRun H events) := by
  induction events using List.reverseRecOn with
  | nil => exact agrees_initial
  | append_singleton events event ih =>
    obtain ⟨hconforms,hsound⟩ := sound_run H events
    rw [receiverRun_concat] at h ⊢
    exact (ih h.of_next).next hconforms hsound h

theorem digest_kept {front : List (Event linearizableStore Call Empty)}
    {first : StatusHighWaterMarkEntry} (hfirst : (receiverRun H front).state key = some first)
    {back : List (Event linearizableStore Call Empty)}
    (h : Latching H (receiverRun H (front ++ back))) :
    ∃ entry, (receiverRun H (front ++ back)).state key = some entry ∧
      first.mark.sequence ≤ entry.mark.sequence ∧ (entry.mark.sequence = first.mark.sequence →
        entry.mark.statusDigest = first.mark.statusDigest) := by
  induction back using List.reverseRecOn with
  | nil =>
    rw [append_nil]
    exact ⟨first,hfirst,le_refl _,fun _ => rfl⟩
  | append_singleton back event ih =>
    rw [← append_assoc,receiverRun_concat] at h ⊢
    obtain ⟨entry,hentry,hle,hdigest⟩ := ih h.of_next
    obtain ⟨hconforms,hsound⟩ := sound_run H (front ++ back)
    rcases hsound.next_effect hconforms event with hquiet | ⟨i,call,status,next,hwrote⟩
    · rw [hquiet.state]
      exact ⟨entry,hentry,hle,hdigest⟩
    · rw [hwrote.state]
      split_ifs with hkey
      · subst hkey
        obtain ⟨-,-,hforward⟩ := replacement_kept hwrote.presents hwrote.replaces
          ⟨i,call,hwrote.made,hwrote.presents⟩ (hsound.marks status.historyKey)
        have hnext := (hforward entry.mark (by simp [hentry])).sequence
        refine ⟨_,rfl,hle.trans hnext,?_⟩
        intro hsame
        simp only at hsame
        have hsequence : entry.mark.sequence = next.sequence := by omega
        rw [hwrote.digest (hconforms.next (callProgram_follows H) event) h hentry hsequence]
        exact hdigest (hsequence.trans hsame)
      · exact ⟨entry,hentry,hle,hdigest⟩

theorem ReadAtHead.lastAttempt (hconforms : Conforming H system)
    (h : ReadAtHead H system call input status found) :
    (call, readOf status.historyKey (some found)) ∈ system.history ∧
      ((∃ front, trailOf system.history call = front ++ [readOf status.historyKey (some found)]) ∨
        ∃ front next written, replacement H input (some found.mark) = some next ∧
          trailOf system.history call = front ++ [readOf status.historyKey (some found)] ++
            [writeOf status.historyKey (some found.revision) next written]) := by
  obtain ⟨reply,hreply⟩ := h.ended
  have hlast := (ended_of_answered hconforms hreply).1 status h.presents
  have hread := h.read
  generalize htrail : trailOf system.history call = trail at hlast hread ⊢
  cases hlast with
  | unread => cases hread
  | unanswered front => simp [lastRead] at hread
  | refused front entry hentry =>
    rw [lastRead_readOf,some.injEq] at hread
    subst hread
    exact ⟨mem_history_of_trail (by rw [htrail]; simp),Or.inl ⟨front,rfl⟩⟩
  | wrote front entry next written hreadable hreplacement =>
    rw [append_cons,lastRead_writeOf,lastRead_readOf,some.injEq] at hread
    subst hread
    exact ⟨mem_history_of_trail (by rw [htrail]; simp),
      Or.inr ⟨front,next,written,hreplacement,append_cons _ _ _⟩⟩

theorem Latching.conflict (hconforms : Conforming H system) (hagrees : Agrees system)
    (h : Latching H system) (hread : ReadAtHead H system call input status found)
    (hdigest : found.mark.statusDigest ≠ status.statusDigest) :
    ∃ entry, system.state status.historyKey = some entry ∧ entry.mark.conflict = true := by
  obtain ⟨hmem,hlast⟩ := hread.lastAttempt hconforms
  cases hconflict : found.mark.conflict with
  | true =>
    obtain ⟨entry,hentry,hforward⟩ := hagrees.forward status.historyKey found.mark
      (Or.inr (Or.inl ⟨call,found,hmem,rfl⟩))
    exact ⟨entry,hentry,hforward.conflict hconflict⟩
  | false =>
    obtain ⟨check,prepared,front,next,rfl,hprepared,hfloor,htrail⟩ :=
      h call input status found hread hdigest hconflict
    have hpresents := hread.presents
    rw [statusOf_check hprepared,some.injEq] at hpresents
    subst hpresents
    rcases hlast with ⟨front',hfront⟩ | ⟨front',next',written,hreplacement,hfront⟩
    · rw [hfront] at htrail
      have hsame := (List.cons.inj (append_inj_right' htrail rfl)).1
      cases congrArg Sigma.fst hsame
    · rw [hfront] at htrail
      have hsame := (List.cons.inj (append_inj_right' htrail rfl)).1
      obtain ⟨-,-,rfl,rfl⟩ := writeOf_inj hsame
      -- the gate writes the latched mark
      have hlatch : next' = { found.mark with conflict := true } := by
        have hstep : transition found.mark prepared.verified =
            .conflict { found.mark with conflict := true } := by
          have hsequence := hread.sequence
          simp [transition,hsequence,Ne.symm hdigest]
        rw [replacement_check hprepared,gateMark,if_neg (by omega),if_neg (by simp [hconflict]),
          hstep] at hreplacement
        exact (some.inj hreplacement).symm
      have hwritten : (call, writeOf prepared.verified.historyKey (some found.revision) next'
          (some true)) ∈ system.history :=
        mem_history_of_trail (by rw [hfront]; simp)
      obtain ⟨entry,hentry,hforward⟩ := hagrees.forward prepared.verified.historyKey next'
        (Or.inr (Or.inr ⟨call,_,hwritten⟩))
      exact ⟨entry,hentry,hforward.conflict (by rw [hlatch])⟩

theorem Latching.equivocation (hconforms : Conforming H system) (hagrees : Agrees system)
    (h : Latching H system) {first second : SovereignStatusVerified}
    (hfirst : PresentedAtHead H system first) (hsecond : PresentedAtHead H system second)
    (hkey : first.historyKey = second.historyKey) (hsequence : first.sequence = second.sequence)
    (hdigest : first.statusDigest ≠ second.statusDigest) :
    ∃ entry, system.state first.historyKey = some entry ∧ entry.mark.conflict = true := by
  -- each of them is in conflict with the head, or stands on record with its own digest
  have hcases : ∀ status, PresentedAtHead H system status →
      (∃ entry, system.state status.historyKey = some entry ∧ entry.mark.conflict = true) ∨
        ∃ mark, Recorded system status.historyKey mark ∧ mark.sequence = status.sequence ∧
          mark.statusDigest = status.statusDigest := by
    rintro status (⟨call,input,found,hread⟩ | ⟨call,expected,next,hmem,hnext⟩)
    · by_cases hsame : found.mark.statusDigest = status.statusDigest
      · exact Or.inr ⟨found.mark,
          Or.inr (Or.inl ⟨call,found,(hread.lastAttempt hconforms).1,rfl⟩),hread.sequence,hsame⟩
      · exact Or.inl (h.conflict hconforms hagrees hread hsame)
    · exact Or.inr ⟨next,Or.inr (Or.inr ⟨call,expected,hmem⟩),hnext⟩
  rcases hcases first hfirst with hconflict | ⟨mark,hmark,hmarkSequence,hmarkDigest⟩
  · exact hconflict
  · rcases hcases second hsecond with hconflict | ⟨mark',hmark',hmarkSequence',hmarkDigest'⟩
    · rw [hkey]
      exact hconflict
    · have hsame := hagrees.digest first.historyKey mark mark' hmark (hkey ▸ hmark')
        (by rw [hmarkSequence,hmarkSequence',hsequence])
      rw [hmarkDigest,hmarkDigest'] at hsame
      exact absurd hsame hdigest

/-- In a run in which every status that differs from the head at its own sequence is presented to
the gate, with a clock that has not gone back, and the store takes the gate's write, the head of a
sequence never changes; and two different statuses presented at one head leave their history in
conflict for good, with no fresh verdict after it. -/
theorem equivocation_is_latched (H : Host) (events : List (Event linearizableStore Call Empty))
    (h : Latching H (receiverRun H events)) :
    (∀ front back, events = front ++ back → ∀ key first second,
      (receiverRun H front).state key = some first →
      (receiverRun H events).state key = some second → first.mark.sequence = second.mark.sequence →
      first.mark.statusDigest = second.mark.statusDigest) ∧
    (∀ first second, PresentedAtHead H (receiverRun H events) first →
      PresentedAtHead H (receiverRun H events) second →
      first.historyKey = second.historyKey → first.sequence = second.sequence →
      first.statusDigest ≠ second.statusDigest →
      ∀ more, (∃ entry, (receiverRun H (events ++ more)).state first.historyKey = some entry ∧
          entry.mark.conflict = true) ∧
        ∀ call input result prepared, (receiverRun H events).calls.length ≤ call →
          (receiverRun H (events ++ more)).Answered call (.check input) (.checked result) →
          prepare H input = .ok prepared → prepared.verified.historyKey = first.historyKey →
          result.freshnessVerdict ≠ .fresh) := by
  obtain ⟨hconforms,hsound⟩ := sound_run H events
  have hagrees := agrees_run h
  constructor
  · rintro front back rfl key first second hfirst hsecond hsequence
    obtain ⟨entry,hentry,-,hdigest⟩ := digest_kept hfirst h
    rw [hentry,Option.some.injEq] at hsecond
    rw [← hsecond,hdigest (by rw [hsecond,hsequence])]
  · intro first second hfirst hsecond hkey hsequence hdigest more
    obtain ⟨entry,hentry,hconflict⟩ :=
      h.equivocation hconforms hagrees hfirst hsecond hkey hsequence hdigest
    obtain ⟨hentryKey,hsince⟩ := since_run hentry more
    constructor
    · obtain ⟨later,hlater,hforward⟩ := hsince.stored
      exact ⟨later,hentryKey ▸ hlater,hforward.conflict hconflict⟩
    · intro call input result prepared hmade hanswered hprepared hsame hfresh
      obtain ⟨prepared',found,head,hprepared',hread,hgrounds⟩ :=
        fresh_read (sound_run H (events ++ more)).1 hanswered hfresh
      rw [hprepared,Except.ok.injEq] at hprepared'
      subst hprepared'
      rw [hsame,← hentryKey] at hread
      obtain ⟨_,⟨⟩,hforward⟩ := hsince.reads call (some found) hmade hread
      have hsettled := hgrounds.settled
      rw [hforward.conflict hconflict] at hsettled
      cases hsettled

/-- A store that answers. -/
def answering : (op : statusStore.Op) → linearizableStore.Choice op
  | .read _ => true
  | .compareAndSet _ _ _ => WriteFate.answered

theorem exec_attempts (prepared : Prepared) (n : Nat)
    (history : DocumentUseFreshnessHistoryEvidence) (histories : Histories) :
    (attempts prepared (n + 1) history).exec linearizableStore answering histories =
      let rest := (settle prepared (attempts prepared n) history
        (some (histories prepared.verified.historyKey))).exec linearizableStore answering histories
      (rest.1, readOf prepared.verified.historyKey (histories prepared.verified.historyKey) ::
        rest.2.1, rest.2.2) := rfl

theorem exec_anchoringAttempts (anchoring : Anchoring) (n : Nat) (histories : Histories) :
    (anchoringAttempts anchoring (n + 1)).exec linearizableStore answering histories =
      let rest := (anchor anchoring (anchoringAttempts anchoring n)
        (some (histories anchoring.verified.historyKey))).exec linearizableStore answering histories
      (rest.1, readOf anchoring.verified.historyKey (histories anchoring.verified.historyKey) ::
        rest.2.1, rest.2.2) := rfl

theorem act_write (next : StatusHighWaterMark) (h : (histories key).map (·.revision) = expected) :
    linearizableStore.act (.compareAndSet key expected next) histories
      (answering (.compareAndSet key expected next)) =
        (histories.write key next, (some true : Option Bool)) := by
  show Histories.compareAndSet histories key expected next .answered = _
  simp [Histories.compareAndSet,h]

theorem exec_check (histories : Histories) (found : StatusHighWaterMarkEntry) {input : CheckInput}
    (h : prepare H input = .ok prepared)
    (hstored : histories prepared.verified.historyKey = some found)
    (hread : readEntry prepared.verified.historyKey (some (some found)) = .found found.revision found.mark)
    (hclock : ¬prepared.now < instantOf found.mark.timeFloor)
    (hconflict : found.mark.conflict = false)
    (hstep : transition found.mark prepared.verified = .unchanged) :
    ∃ result, (callProgram H (.check input)).exec linearizableStore answering histories =
        (histories, [readOf prepared.verified.historyKey (some found)], .checked result) ∧
      result.freshnessVerdict = conclude prepared found.mark := by
  have hexec : ∃ result, (attempts prepared maxAttempts {}).exec linearizableStore answering
      histories = (histories, [readOf prepared.verified.historyKey (some found)], result) ∧
      result.freshnessVerdict = conclude prepared found.mark := by
    rw [maxAttempts,exec_attempts,hstored]
    simp only [settle,hread,hclock,hconflict,hstep,if_false,Bool.false_eq_true]
    exact ⟨_,rfl,rfl⟩
  obtain ⟨result,hresult,hverdict⟩ := hexec
  refine ⟨result,?_,hverdict⟩
  simp only [callProgram,checkDocumentUseFreshness,h]
  exact (Prog.exec_bind_pure _ _ _ _).trans (by rw [hresult]; rfl)

theorem exec_check_conflict (histories : Histories) (found : StatusHighWaterMarkEntry)
    {input : CheckInput} {next : StatusHighWaterMark} (h : prepare H input = .ok prepared)
    (hstored : histories prepared.verified.historyKey = some found)
    (hread : readEntry prepared.verified.historyKey (some (some found)) = .found found.revision found.mark)
    (hclock : ¬prepared.now < instantOf found.mark.timeFloor)
    (hconflict : found.mark.conflict = false)
    (hstep : transition found.mark prepared.verified = .conflict next) :
    ∃ result, (callProgram H (.check input)).exec linearizableStore answering histories =
        (histories.write prepared.verified.historyKey next,
          [readOf prepared.verified.historyKey (some found),
            writeOf prepared.verified.historyKey (some found.revision) next (some true)],
          .checked result) := by
  have hexec : ∃ result, (attempts prepared maxAttempts {}).exec linearizableStore answering
      histories = (histories.write prepared.verified.historyKey next,
          [readOf prepared.verified.historyKey (some found),
            writeOf prepared.verified.historyKey (some found.revision) next (some true)],
          result) := by
    rw [maxAttempts,exec_attempts,hstored]
    have hact := act_write next (congrArg (Option.map (·.revision)) hstored)
    simp only [settle,hread,hclock,hconflict,hstep,if_false,Bool.false_eq_true,Prog.exec]
    erw [hact]
    exact ⟨_,rfl⟩
  obtain ⟨result,hresult⟩ := hexec
  refine ⟨result,?_⟩
  simp only [callProgram,checkDocumentUseFreshness,h]
  exact (Prog.exec_bind_pure _ _ _ _).trans (by rw [hresult]; rfl)

theorem exec_establish (histories : Histories) (stored : Option StatusHighWaterMarkEntry)
    {input : BootstrapInput} {anchoring : Anchoring} {next : StatusHighWaterMark}
    (h : prepareAnchoring H input = .ok anchoring)
    (hstored : histories anchoring.verified.historyKey = stored)
    (hread : ∀ found, stored = some found → readEntry anchoring.verified.historyKey (some (some found)) =
        .found found.revision found.mark)
    (hmark : anchoredMark anchoring.reanchor anchoring.verified anchoring.evaluationTime
      (stored.map (·.mark)) = .ok next) :
    ∃ result, (callProgram H (.establish input)).exec linearizableStore answering histories =
        (histories.write anchoring.verified.historyKey next, [readOf anchoring.verified.historyKey stored,
            writeOf anchoring.verified.historyKey (stored.map (·.revision)) next (some true)],
          .anchored result) := by
  have hexec : ∃ result, (anchoringAttempts anchoring maxAttempts).exec linearizableStore answering
      histories = (histories.write anchoring.verified.historyKey next,
          [readOf anchoring.verified.historyKey stored,
            writeOf anchoring.verified.historyKey (stored.map (·.revision)) next (some true)],
          result) := by
    rw [maxAttempts,exec_anchoringAttempts,hstored]
    have hact := act_write next (congrArg (Option.map (·.revision)) hstored)
    cases stored with
    | none =>
      simp only [anchor,readEntry,map_none] at hmark ⊢
      simp only [hmark,Prog.exec]
      erw [hact]
      exact ⟨_,rfl⟩
    | some found =>
      simp only [anchor,hread found rfl,map_some] at hmark ⊢
      simp only [hmark,Prog.exec]
      erw [hact]
      exact ⟨_,rfl⟩
  obtain ⟨result,hresult⟩ := hexec
  refine ⟨result,?_⟩
  simp only [callProgram,establishStatusHistory,h]
  exact (Prog.exec_bind_pure _ _ _ _).trans (by rw [hresult]; rfl)

theorem exists_run_alone (H : Host) (front : List (Event linearizableStore Call Empty))
    (call : Call) {trail : Trail} {reply : Reply}
    (h : (callProgram H call).exec linearizableStore answering (receiverRun H front).state = (histories, trail, reply)) :
    ∃ back, receiverRun H (front ++ back) =
      ⟨histories,(receiverRun H front).calls ++ [(call, some (.pure reply))],
        (receiverRun H front).history ++
          trail.map fun entry => ((receiverRun H front).calls.length, entry)⟩ := by
  have halone := run_alone (callProgram H) nothingOutside (receiverRun H front) call answering
  rw [h] at halone
  exact ⟨_,(receiverRun_append front _).trans halone⟩

theorem readEntry_of_kept (entry : StatusHighWaterMarkEntry)
    {Presented : SovereignStatusVerified → Prop} (h : Kept Presented entry.mark)
    (hkey : entry.mark.key = key)
    (hrevision : isSafeInteger entry.revision = true ∧ 1 ≤ entry.revision) :
    readEntry key (some (some entry)) = .found entry.revision entry.mark := by
  simp only [readEntry,h.readable,hrevision,hkey,and_self,if_true]

def sampleKey : StatusHistoryKey := ⟨sampleAssetId,"registrant"⟩

/-- The first status of the sample registrant, and another one at its sequence. -/
def firstStatus : SovereignStatusVerified := sampleVerified "terms-1" (digestOfChar 'a')

def otherStatus : SovereignStatusVerified := sampleVerified "terms-2" (digestOfChar 'b')

theorem verify_first : verifySovereignStatus sampleHost
    (some (sampleSigned "terms-1" (digestOfChar 'a'))) sampleContext = .ok firstStatus := by
  apply verifySovereignStatus_sample
  · decide
  · decide
  · decide
  · rw [sampleSha256,claimIdIn_sample]
    rfl

theorem verify_other : verifySovereignStatus sampleHost
    (some (sampleSigned "terms-2" (digestOfChar 'b'))) sampleContext = .ok otherStatus := by
  apply verifySovereignStatus_sample
  · decide
  · decide
  · decide
  · rw [sampleSha256,claimIdIn_sample]
    rfl

theorem digests_differ : firstStatus.statusDigest ≠ otherStatus.statusDigest := by
  intro hsame
  have hlists := congrArg String.toList hsame
  simp only [firstStatus,otherStatus,sampleVerified,toList_digestOfChar] at hlists
  exact absurd (replicate_right_injective (by decide) hlists) (by decide)

def sampleBootstrap (claimId statusDigest : String) (reanchor : Bool) : BootstrapInput where
  presented := some (sampleSigned claimId statusDigest)
  context := some sampleContext
  reanchor := reanchor

def firstBootstrap : BootstrapInput := sampleBootstrap "terms-1" (digestOfChar 'a') false

def otherBootstrap : BootstrapInput := sampleBootstrap "terms-2" (digestOfChar 'b') true

theorem sampleTime : canonicalInstant "2026-01-01T00:00:01Z" = some 1767225601000000000 := by
  decide

theorem prepareAnchoring_of_verified (input : BootstrapInput)
    {context : SovereignStatusTrustedContext} (hcontext : input.context = some context)
    (hnow : canonicalInstant context.evaluationTime = some now)
    (hverified : verifySovereignStatus H input.presented context = .ok verified) :
    prepareAnchoring H input = .ok ⟨input.reanchor,verified,context.evaluationTime⟩ := by
  simp only [prepareAnchoring,hcontext,hnow,hverified]

theorem prepareAnchoring_first : prepareAnchoring sampleHost firstBootstrap =
    .ok ⟨false,firstStatus,sampleContext.evaluationTime⟩ :=
  prepareAnchoring_of_verified firstBootstrap rfl sampleTime verify_first

theorem prepareAnchoring_other : prepareAnchoring sampleHost otherBootstrap =
    .ok ⟨true,otherStatus,sampleContext.evaluationTime⟩ :=
  prepareAnchoring_of_verified otherBootstrap rfl sampleTime verify_other

theorem prepare_of_verified (issued : IssuedDecision) (context : FreshnessContext)
    (action : DocumentUseAction) {manifestDigest text : String}
    (hmanifest : issued.manifestDigest = some manifestDigest)
    (hcontext : readContext context = some context)
    (hnow : canonicalInstant context.evaluationTime = some now)
    (htime : issued.evaluationTime = some context.evaluationTime)
    (haction : issued.action.bind DocumentUseAction.ofText = some action)
    (hverified : verifySovereignStatus H (some text) {
      expectedSovereignAssetId := issued.sovereignAssetId
      expectedRegistrant := issued.registrant
      expectedManifestDigest := manifestDigest
      evaluationTime := context.evaluationTime
      resolved := context.resolved } = .ok verified) :
    ∃ state, prepare H ⟨some issued,some text,some context⟩ =
      .ok ⟨state,verified,issued.terms,now,context.maxStatusAgeSeconds action⟩ := by
  simp only [prepare,hmanifest,bind_some,hcontext,hnow,htime,ne_eq,not_true_eq_false,
    if_false,haction,hverified]
  exact ⟨_,rfl⟩

def otherDecision : IssuedDecision where
  decision := .allowed
  action := some "aoc.licensing:access"
  evaluationTime := some sampleContext.evaluationTime
  sovereignAssetId := sampleAssetId
  registrant := "registrant"
  terms := ⟨"terms-2",digestOfChar 'd'⟩
  manifestDigest := some (digestOfChar 'c')

def otherFreshness : FreshnessContext where
  resolved := sampleContext.resolved
  evaluationTime := sampleContext.evaluationTime
  operationId := "operation-1"
  maxStatusAgeSeconds := fun _ => 900

def otherCheck : CheckInput :=
  ⟨some otherDecision,some (sampleSigned "terms-2" (digestOfChar 'b')),some otherFreshness⟩

theorem readContext_other : readContext otherFreshness = some otherFreshness := by
  have hoperation : isIdentifier "operation-1" = true := by decide
  have hlength : (codeUnits "operation-1").length ≤ 256 := by decide
  have hlimits : ([.access, .export, .modifyProtectedTerms].all fun action =>
      isLimit action 900) = true := by
    decide
  exact if_pos ⟨hoperation,hlength,hlimits⟩

theorem prepare_other : ∃ state, prepare sampleHost otherCheck =
    .ok ⟨state,otherStatus,otherDecision.terms,1767225601000000000,900⟩ := by
  have haction : DocumentUseAction.ofText "aoc.licensing:access" = some .access := by
    decide
  exact prepare_of_verified otherDecision otherFreshness .access rfl readContext_other sampleTime rfl haction verify_other

theorem exists_anchored : ∃ events result, receiverRun sampleHost events = ⟨
      write (fun _ => none) sampleKey
        (establishedMark firstStatus sampleContext.evaluationTime),
      [(.establish firstBootstrap, some (.pure (.anchored result)))],
      [(0, readOf sampleKey none), (0, writeOf sampleKey none
        (establishedMark firstStatus sampleContext.evaluationTime) (some true))]⟩ := by
  obtain ⟨result,hexec⟩ := exec_establish (fun _ => none) none prepareAnchoring_first rfl
    (by simp) rfl
  obtain ⟨back,hback⟩ := exists_run_alone sampleHost [] (.establish firstBootstrap) hexec
  exact ⟨_,result,hback⟩

theorem stored_first : write (fun _ => none) sampleKey
    (establishedMark firstStatus sampleContext.evaluationTime) sampleKey =
      some ⟨1,establishedMark firstStatus sampleContext.evaluationTime⟩ := by
  simp [write_apply]

theorem readEntry_first : readEntry sampleKey
    (some (some ⟨1,establishedMark firstStatus sampleContext.evaluationTime⟩)) =
      .found 1 (establishedMark firstStatus sampleContext.evaluationTime) := by
  have hkept : Kept (fun _ => True) (establishedMark firstStatus sampleContext.evaluationTime) :=
    kept_establishedMark (verifySovereignStatus_ok verify_first).1 trivial
      (congrArg Option.isSome sampleTime)
  exact readEntry_of_kept ⟨1,establishedMark firstStatus sampleContext.evaluationTime⟩ hkept rfl
    ⟨rfl,le_refl _⟩

theorem transition_other : transition (establishedMark firstStatus sampleContext.evaluationTime)
    otherStatus = .conflict
      { establishedMark firstStatus sampleContext.evaluationTime with conflict := true } := by
  have hsequence : otherStatus.sequence =
      (establishedMark firstStatus sampleContext.evaluationTime).sequence := rfl
  have hdigest : otherStatus.statusDigest ≠
      (establishedMark firstStatus sampleContext.evaluationTime).statusDigest :=
    digests_differ.symm
  simp only [transition,hsequence,lt_self_iff_false,if_false,if_true,hdigest]

theorem issued_first : instantOf firstStatus.issuedAt = 1767225600000000000 := by
  have hissued : canonicalInstant "2026-01-01T00:00:00Z" = some 1767225600000000000 := by
    decide
  have hinstant : instantOf "2026-01-01T00:00:00Z" = 1767225600000000000 := by
    rw [instantOf,hissued]
    rfl
  exact hinstant

/-- The mark of the first status, re-anchored at the other one. -/
def reanchoredMark : StatusHighWaterMark :=
  { nextMark (establishedMark firstStatus sampleContext.evaluationTime) otherStatus false with
    continuity := .verified
    anchoredAt := sampleContext.evaluationTime }

theorem anchoredMark_other : anchoredMark true otherStatus sampleContext.evaluationTime
    (some (establishedMark firstStatus sampleContext.evaluationTime)) = .ok reanchoredMark := by
  have hsequence : ¬otherStatus.sequence <
      (establishedMark firstStatus sampleContext.evaluationTime).sequence := lt_irrefl _
  have hclock : ¬instantOf sampleContext.evaluationTime <
      instantOf (establishedMark firstStatus sampleContext.evaluationTime).timeFloor := by
    have hnow : instantOf sampleContext.evaluationTime = 1767225601000000000 :=
      congrArg (Option.getD · 0) sampleTime
    have hfloor := issued_first
    rw [hnow]
    change ¬_ < instantOf firstStatus.issuedAt
    omega
  have hconflict : (establishedMark firstStatus sampleContext.evaluationTime).conflict = false := rfl
  have hreopens : reopens (establishedMark firstStatus sampleContext.evaluationTime) otherStatus =
      false := rfl
  have hretired : reintroduces (establishedMark firstStatus sampleContext.evaluationTime)
      otherStatus = false := by
    simp [reintroduces,establishedMark]
  simp only [anchoredMark,hconflict,hreopens,hretired,hsequence,hclock,Bool.not_true,
    Bool.false_eq_true,if_false]
  rfl

theorem floor_reanchored : instantOf reanchoredMark.timeFloor = 1767225600000000000 := by
  have hsame : reanchoredMark.timeFloor = later firstStatus.issuedAt firstStatus.issuedAt := rfl
  rw [hsame,later,if_neg (lt_irrefl _),issued_first]

theorem transition_reanchored : transition reanchoredMark otherStatus = .unchanged := by
  have hsequence : otherStatus.sequence = reanchoredMark.sequence := rfl
  have hdigest : otherStatus.statusDigest = reanchoredMark.statusDigest := rfl
  simp only [transition,hsequence,lt_self_iff_false,if_false,if_true,hdigest]

theorem conclude_reanchored (state : GateState) :
    conclude ⟨state,otherStatus,otherDecision.terms,1767225601000000000,900⟩ reanchoredMark = .fresh := by
  have hissued : instantOf otherStatus.issuedAt = 1767225600000000000 := issued_first
  have hterms : otherStatus.currentTerms = some otherDecision.terms := rfl
  have hstatus : otherStatus.assetStatus = .active := rfl
  have hcontinuity : reanchoredMark.continuity = .verified := rfl
  simp only [conclude,hissued,hterms,hstatus,hcontinuity,nanosPerSecond]
  simp

theorem exists_reanchored {anchored : List (Event linearizableStore Call Empty)}
    {result : StatusHistoryBootstrapResult}
    (h : receiverRun sampleHost anchored = ⟨
      write (fun _ => none) sampleKey
        (establishedMark firstStatus sampleContext.evaluationTime),
      [(.establish firstBootstrap, some (.pure (.anchored result)))],
      [(0, readOf sampleKey none), (0, writeOf sampleKey none
        (establishedMark firstStatus sampleContext.evaluationTime) (some true))]⟩) :
    ∃ back result', receiverRun sampleHost (anchored ++ back) = ⟨
      write (write (fun _ => none) sampleKey
        (establishedMark firstStatus sampleContext.evaluationTime)) sampleKey reanchoredMark,
      [(.establish firstBootstrap, some (.pure (.anchored result))),
        (.establish otherBootstrap, some (.pure (.anchored result')))],
      [(0, readOf sampleKey none), (0, writeOf sampleKey none
          (establishedMark firstStatus sampleContext.evaluationTime) (some true)),
        (1, readOf sampleKey (some ⟨1,establishedMark firstStatus sampleContext.evaluationTime⟩)),
        (1, writeOf sampleKey (some 1) reanchoredMark (some true))]⟩ := by
  have hread : ∀ found : StatusHighWaterMarkEntry,
      some ⟨1,establishedMark firstStatus sampleContext.evaluationTime⟩ = some found →
      readEntry sampleKey (some (some found)) = .found found.revision found.mark := by
    rintro found ⟨⟩
    exact readEntry_first
  obtain ⟨result',hexec⟩ := exec_establish _ _ prepareAnchoring_other stored_first hread
    anchoredMark_other
  have hstate := congrArg System.state h
  obtain ⟨back,hback⟩ := exists_run_alone sampleHost anchored (.establish otherBootstrap)
    (by rw [hstate]; exact hexec)
  refine ⟨back,result',?_⟩
  rw [hback,h]
  rfl

/-- An issuer whose two first statuses were both the head of their history, anchored and
re-anchored, is trusted at the next check: the head of the sequence was replaced, no conflict is
recorded, and the verdict is fresh. -/
theorem equivocation_reanchored : ∃ anchored reanchored checked,
    (receiverRun sampleHost anchored).state sampleKey =
      some ⟨1,establishedMark firstStatus sampleContext.evaluationTime⟩ ∧
    PresentedAtHead sampleHost (receiverRun sampleHost (anchored ++ reanchored)) firstStatus ∧
    PresentedAtHead sampleHost (receiverRun sampleHost (anchored ++ reanchored)) otherStatus ∧
    firstStatus.historyKey = otherStatus.historyKey ∧ firstStatus.sequence = otherStatus.sequence ∧
    firstStatus.statusDigest ≠ otherStatus.statusDigest ∧
    (receiverRun sampleHost (anchored ++ reanchored ++ checked)).state sampleKey = some ⟨2,reanchoredMark⟩ ∧
    reanchoredMark.conflict = false ∧ reanchoredMark.sequence = firstStatus.sequence ∧
    reanchoredMark.statusDigest = otherStatus.statusDigest ∧ ∃ result prepared,
      (receiverRun sampleHost (anchored ++ reanchored ++ checked)).Answered
        (receiverRun sampleHost (anchored ++ reanchored)).calls.length (.check otherCheck)
        (.checked result) ∧
      prepare sampleHost otherCheck = .ok prepared ∧
      prepared.verified.historyKey = firstStatus.historyKey ∧ result.freshnessVerdict = .fresh := by
  obtain ⟨anchored,result,hanchored⟩ := exists_anchored
  obtain ⟨reanchored,result',hreanchored⟩ := exists_reanchored hanchored
  obtain ⟨state,hprepared⟩ := prepare_other
  have hstored : write (write (fun _ => none) sampleKey
      (establishedMark firstStatus sampleContext.evaluationTime)) sampleKey reanchoredMark
        sampleKey = some ⟨2,reanchoredMark⟩ := by
    simp [write_apply]
  have hkept : ∃ Presented, Kept Presented reanchoredMark := by
    have hentry := (sound_run sampleHost (anchored ++ reanchored)).2.kept sampleKey
      ⟨2,reanchoredMark⟩ (by rw [hreanchored]; exact hstored)
    exact ⟨_,hentry.1⟩
  obtain ⟨Presented,hkept⟩ := hkept
  have hclock : ¬(1767225601000000000 : Int) < instantOf reanchoredMark.timeFloor := by
    rw [floor_reanchored]
    decide
  obtain ⟨checkResult,hexec,hverdict⟩ := exec_check _ ⟨2,reanchoredMark⟩ hprepared hstored
    (readEntry_of_kept ⟨2,reanchoredMark⟩ hkept rfl ⟨rfl,by decide⟩) hclock rfl
    transition_reanchored
  obtain ⟨checked,hchecked⟩ := exists_run_alone sampleHost (anchored ++ reanchored)
    (.check otherCheck) (by rw [congrArg System.state hreanchored]; exact hexec)
  refine ⟨anchored,reanchored,checked,?_,?_,?_,rfl,rfl,digests_differ,?_,rfl,rfl,rfl,
    checkResult,_,?_,hprepared,rfl,hverdict.trans (conclude_reanchored state)⟩
  · rw [hanchored]
    exact stored_first
  · rw [hreanchored]
    exact Or.inr ⟨0,none,establishedMark firstStatus sampleContext.evaluationTime,
      mem_cons_of_mem _ mem_cons_self,rfl,rfl⟩
  · rw [hreanchored]
    exact Or.inr ⟨1,some 1,reanchoredMark,mem_cons_of_mem _ (mem_cons_of_mem _
      (mem_cons_of_mem _ mem_cons_self)),rfl,rfl⟩
  · rw [hchecked]
    exact hstored
  · rw [hchecked]
    exact List.getElem?_concat_length

/-- The gate presented with the other status latches the conflict. -/
theorem equivocation_latched_at_the_gate : ∃ events, Latching sampleHost (receiverRun sampleHost events) ∧
    PresentedAtHead sampleHost (receiverRun sampleHost events) firstStatus ∧
    PresentedAtHead sampleHost (receiverRun sampleHost events) otherStatus ∧
    ∀ more, ∃ entry, (receiverRun sampleHost (events ++ more)).state sampleKey = some entry ∧
      entry.mark.conflict = true := by
  obtain ⟨anchored,result,hanchored⟩ := exists_anchored
  obtain ⟨state,hprepared⟩ := prepare_other
  have hclock : ¬(1767225601000000000 : Int) <
      instantOf (establishedMark firstStatus sampleContext.evaluationTime).timeFloor := by
    have hfloor := issued_first
    change ¬_ < instantOf firstStatus.issuedAt
    omega
  obtain ⟨checkResult,hexec⟩ := exec_check_conflict _
    ⟨1,establishedMark firstStatus sampleContext.evaluationTime⟩ hprepared stored_first
    readEntry_first hclock rfl transition_other
  obtain ⟨checked,hchecked⟩ := exists_run_alone sampleHost anchored (.check otherCheck)
    (by rw [congrArg System.state hanchored]; exact hexec)
  rw [hanchored] at hchecked
  have hfirst : PresentedAtHead sampleHost (receiverRun sampleHost (anchored ++ checked))
      firstStatus := by
    rw [hchecked]
    exact Or.inr ⟨0,none,establishedMark firstStatus sampleContext.evaluationTime,
      mem_cons_of_mem _ mem_cons_self,rfl,rfl⟩
  have hother : ReadAtHead sampleHost (receiverRun sampleHost (anchored ++ checked)) 1
      (.check otherCheck) otherStatus
      ⟨1,establishedMark firstStatus sampleContext.evaluationTime⟩ := by
    rw [hchecked]
    exact ⟨⟨_,rfl⟩,statusOf_check hprepared,rfl,rfl⟩
  have hlatching : Latching sampleHost (receiverRun sampleHost (anchored ++ checked)) := by
    rintro call input status found ⟨⟨reply,hended⟩,hpresents,hread,-⟩ - -
    rw [hchecked] at hended hread
    match call with
    | 0 => cases hread
    | 1 =>
      cases hended
      cases hread
      rw [statusOf_check hprepared] at hpresents
      cases hpresents
      refine ⟨otherCheck,_,[readOf sampleKey
        (some ⟨1,establishedMark firstStatus sampleContext.evaluationTime⟩)],
        { establishedMark firstStatus sampleContext.evaluationTime with conflict := true },rfl,
        hprepared,not_lt.1 hclock,?_⟩
      rw [hchecked]
      rfl
    | call + 2 => cases hended
  refine ⟨anchored ++ checked,hlatching,hfirst,Or.inl ⟨1,_,_,hother⟩,?_⟩
  intro more
  exact ((equivocation_is_latched sampleHost (anchored ++ checked) hlatching).2 firstStatus
    otherStatus hfirst (Or.inl ⟨1,_,_,hother⟩) rfl rfl digests_differ more).1

end Frontera.StatusHistory
