import Frontera.Data.OrderedSet
import Frontera.StatusHistory.Status

/-! What a receiver keeps of one registrant's statuses for one asset, and how a verified status
moves it: the transition of the gate, and the anchoring of a history. -/

namespace Frontera.StatusHistory

open Frontera.Data Frontera.Text OrderedSet

structure StatusHistoryKey where
  (sovereignAssetId issuer : String)
deriving DecidableEq

inductive Continuity where
  | verified | unproven
deriving DecidableEq

structure StatusHighWaterMark where
  (sovereignAssetId issuer : String)
  sequence : Int
  (statusDigest issuedAt : String)
  currentTermsDigest : Option String
  timeFloor : String
  withdrawn : Bool
  retiredTermsDigests : List String
  continuity : Continuity
  conflict : Bool
  anchoredAt : String
deriving DecidableEq

structure StatusHighWaterMarkEntry where
  revision : Int
  mark : StatusHighWaterMark
deriving DecidableEq

def StatusHighWaterMark.key (mark : StatusHighWaterMark) : StatusHistoryKey :=
  ⟨mark.sovereignAssetId,mark.issuer⟩

/-- The instant of a text that has been read as one. -/
def instantOf (text : String) : Int := (canonicalInstant text).getD 0

/-- Each text is before the one after it. -/
def isAscending : List String → Bool
  | a :: b :: rest => stringLt a b && isAscending (b :: rest)
  | _ => true

def readMark (mark : StatusHighWaterMark) : Option StatusHighWaterMark :=
  if isIdentifier mark.sovereignAssetId = true ∧ isIdentifier mark.issuer = true ∧
      isSafeInteger mark.sequence = true ∧ 1 ≤ mark.sequence ∧
      isDigest mark.statusDigest = true ∧ mark.currentTermsDigest.all isDigest = true ∧
      (canonicalInstant mark.issuedAt).isSome = true ∧ (canonicalInstant mark.timeFloor).isSome = true ∧
      (canonicalInstant mark.anchoredAt).isSome = true ∧
      instantOf mark.issuedAt ≤ instantOf mark.timeFloor ∧ mark.retiredTermsDigests.all isDigest = true ∧
      isAscending mark.retiredTermsDigests = true then
    some mark
  else none

/-- The digest of the terms a status declares current. -/
def SovereignStatusPayload.termsDigest (status : SovereignStatusPayload) : Option String :=
  status.currentTerms.map (·.claimDigest)

def later (a b : String) : String := if instantOf a < instantOf b then b else a

/-- The terms retired once these are current. -/
def retire (mark : StatusHighWaterMark) (termsDigest : Option String) : List String :=
  match mark.currentTermsDigest with
  | some current =>
      if some current ≠ termsDigest then
        add (ofList mark.retiredTermsDigests) current
      else ofList mark.retiredTermsDigests
  | none => ofList mark.retiredTermsDigests

def nextMark (mark : StatusHighWaterMark) (status : SovereignStatusVerified) (gap : Bool) :
    StatusHighWaterMark where
  sovereignAssetId := mark.sovereignAssetId
  issuer := mark.issuer
  sequence := status.sequence
  statusDigest := status.statusDigest
  issuedAt := status.issuedAt
  currentTermsDigest := status.termsDigest
  timeFloor := later mark.timeFloor status.issuedAt
  withdrawn := mark.withdrawn || status.assetStatus == .withdrawn
  retiredTermsDigests := sortStrings (retire mark status.termsDigest)
  continuity := if gap then .unproven else mark.continuity
  conflict := mark.conflict
  anchoredAt := mark.anchoredAt

inductive Step where
  | rollback | unchanged
  | conflict (next : StatusHighWaterMark)
  | advance (next : StatusHighWaterMark) (gap : Bool)

/-- The status reopens a withdrawal or makes retired terms current. -/
def reopens (mark : StatusHighWaterMark) (status : SovereignStatusVerified) : Bool :=
  mark.withdrawn && status.assetStatus != .withdrawn

def reintroduces (mark : StatusHighWaterMark) (status : SovereignStatusVerified) : Bool :=
  status.termsDigest.any fun digest => decide (digest ∈ mark.retiredTermsDigests)

def transition (mark : StatusHighWaterMark) (status : SovereignStatusVerified) : Step :=
  let latch := Step.conflict { mark with conflict := true }
  if status.sequence < mark.sequence then .rollback
  else if status.sequence = mark.sequence then
    if status.statusDigest = mark.statusDigest then .unchanged else latch
  else if reopens mark status then latch
  else if reintroduces mark status then latch
  else if instantOf status.issuedAt < instantOf mark.issuedAt then latch
  else
    let gap := decide (mark.sequence + 1 < status.sequence)
    if !gap && status.previousStatusDigest ≠ some mark.statusDigest then latch
    else .advance (nextMark mark status gap) gap

/-- The mark of a history that starts at this status. -/
def establishedMark (status : SovereignStatusVerified) (evaluationTime : String) : StatusHighWaterMark where
  sovereignAssetId := status.sovereignAssetId
  issuer := status.issuer
  sequence := status.sequence
  statusDigest := status.statusDigest
  issuedAt := status.issuedAt
  currentTermsDigest := status.termsDigest
  timeFloor := status.issuedAt
  withdrawn := status.assetStatus == .withdrawn
  retiredTermsDigests := []
  continuity := .verified
  conflict := false
  anchoredAt := evaluationTime

inductive StatusHistoryBootstrapReason where
  | established | reestablished | contextInvalid | statusRejected | alreadyEstablished
  | conflictDetected | reanchorRollback | reanchorReactivatesWithdrawn
  | reanchorReintroducesRetiredTerms | clockRollbackDetected | historyStoreUnavailable
  | historyStoreInvalid

/-- The mark an anchoring writes over the one it has read. -/
def anchoredMark (reanchor : Bool) (status : SovereignStatusVerified) (evaluationTime : String) :
    Option StatusHighWaterMark → Except StatusHistoryBootstrapReason StatusHighWaterMark
  | none => .ok (establishedMark status evaluationTime)
  | some mark =>
      if mark.conflict then .error .conflictDetected
      else if !reanchor then .error .alreadyEstablished
      else if status.sequence < mark.sequence then .error .reanchorRollback
      else if reopens mark status then .error .reanchorReactivatesWithdrawn
      else if reintroduces mark status then .error .reanchorReintroducesRetiredTerms
      else if instantOf evaluationTime < instantOf mark.timeFloor then
        .error .clockRollbackDetected
      else .ok { nextMark mark status false with
        continuity := .verified
        anchoredAt := evaluationTime }

/-- The later mark remembers what the earlier one did. -/
structure Forward (mark later : StatusHighWaterMark) : Prop where
  key : later.key = mark.key
  sequence : mark.sequence ≤ later.sequence
  timeFloor : instantOf mark.timeFloor ≤ instantOf later.timeFloor
  withdrawn : mark.withdrawn = true → later.withdrawn = true
  conflict : mark.conflict = true → later.conflict = true
  retired : mark.retiredTermsDigests ⊆ later.retiredTermsDigests

theorem Forward.refl (mark : StatusHighWaterMark) : Forward mark mark :=
  ⟨rfl,le_refl _,le_refl _,id,id,List.Subset.refl _⟩

theorem Forward.trans {first second third : StatusHighWaterMark} (h : Forward first second)
    (h' : Forward second third) : Forward first third where
  key := h'.key.trans h.key
  sequence := h.sequence.trans h'.sequence
  timeFloor := h.timeFloor.trans h'.timeFloor
  withdrawn := fun hmark => h'.withdrawn (h.withdrawn hmark)
  conflict := fun hmark => h'.conflict (h.conflict hmark)
  retired := fun _ hdigest => h'.retired (h.retired hdigest)

theorem instantOf_later (a b : String) :
    instantOf a ≤ instantOf (later a b) ∧ instantOf b ≤ instantOf (later a b) := by
  unfold later
  split_ifs with h <;> omega

theorem mem_retire {mark : StatusHighWaterMark} {termsDigest : Option String} {digest : String} :
    digest ∈ retire mark termsDigest ↔ digest ∈ mark.retiredTermsDigests ∨
      (mark.currentTermsDigest = some digest ∧ some digest ≠ termsDigest) := by
  unfold retire
  split
  · next current hcurrent =>
    split_ifs with hsame
    · rw [mem_add,mem_ofList]
      constructor
      · rintro (hmem | rfl)
        · exact Or.inl hmem
        · exact Or.inr ⟨hcurrent,hsame⟩
      · rintro (hmem | ⟨heq,-⟩)
        · exact Or.inl hmem
        · rw [hcurrent,Option.some.injEq] at heq
          exact Or.inr heq.symm
    · rw [mem_ofList]
      constructor
      · exact Or.inl
      · rintro (hmem | ⟨heq,hne⟩)
        · exact hmem
        · rw [hcurrent] at heq
          exact absurd (heq ▸ not_not.1 hsame) hne
  · next hcurrent =>
    simp [hcurrent]

theorem nodup_retire (mark : StatusHighWaterMark) (termsDigest : Option String) :
    (retire mark termsDigest).Nodup := by
  unfold retire
  split
  · split_ifs
    · exact nodup_add (nodup_ofList _) _
    · exact nodup_ofList _
  · exact nodup_ofList _

theorem forward_latch (mark : StatusHighWaterMark) : Forward mark { mark with conflict := true } :=
  ⟨rfl,le_refl _,le_refl _,id,fun _ => rfl,List.Subset.refl _⟩

theorem forward_nextMark {mark : StatusHighWaterMark} {status : SovereignStatusVerified}
    (hsequence : mark.sequence ≤ status.sequence) (gap : Bool) :
    Forward mark (nextMark mark status gap) where
  key := rfl
  sequence := hsequence
  timeFloor := (instantOf_later _ _).1
  withdrawn := by
    intro h
    simp [nextMark,h]
  conflict := id
  retired := by
    intro digest hdigest
    exact mem_sortStrings.2 (mem_retire.2 (Or.inl hdigest))

/-- The mark stands at this status. -/
structure HeadOf (mark : StatusHighWaterMark) (status : SovereignStatusVerified) : Prop where
  key : mark.key = ⟨status.sovereignAssetId,status.issuer⟩
  sequence : mark.sequence = status.sequence
  digest : mark.statusDigest = status.statusDigest
  terms : mark.currentTermsDigest = status.termsDigest
  withdrawn : mark.withdrawn = (status.assetStatus == .withdrawn)

/-- A mark that reads back, does not hold its current terms as retired, and stands at a status
that has been presented. -/
structure Kept (Presented : SovereignStatusVerified → Prop) (mark : StatusHighWaterMark) : Prop where
  readable : readMark mark = some mark
  current : ∀ digest ∈ mark.currentTermsDigest, digest ∉ mark.retiredTermsDigests
  head : ∃ status, Presented status ∧ HeadOf mark status

theorem isAscending_of_pairwise {texts : List String}
    (h : texts.Pairwise fun a b => stringLt a b = true) : isAscending texts = true := by
  induction texts with
  | nil => rfl
  | cons a texts ih =>
    cases texts with
    | nil => rfl
    | cons b texts =>
      have hlt := (List.pairwise_cons.1 h).1 b (by simp)
      simp [isAscending,hlt,ih (List.pairwise_cons.1 h).2]

theorem readMark_self_iff {mark : StatusHighWaterMark} : readMark mark = some mark ↔
      isIdentifier mark.sovereignAssetId = true ∧ isIdentifier mark.issuer = true ∧
        isSafeInteger mark.sequence = true ∧ 1 ≤ mark.sequence ∧
        isDigest mark.statusDigest = true ∧ mark.currentTermsDigest.all isDigest = true ∧
        (canonicalInstant mark.issuedAt).isSome = true ∧ (canonicalInstant mark.timeFloor).isSome = true ∧
        (canonicalInstant mark.anchoredAt).isSome = true ∧
        instantOf mark.issuedAt ≤ instantOf mark.timeFloor ∧ mark.retiredTermsDigests.all isDigest = true ∧
        isAscending mark.retiredTermsDigests = true := by
  unfold readMark
  split_ifs with h
  · simp only [true_iff]
    exact h
  · constructor
    · intro hnone
      cases hnone
    · intro hchecks
      exact absurd hchecks h

variable {Presented : SovereignStatusVerified → Prop} {P : Platform}
  {mark : StatusHighWaterMark} {status : SovereignStatusVerified}

theorem Authentic.termsDigest_isDigest (h : Authentic P status) :
    status.termsDigest.all isDigest = true := by
  unfold SovereignStatusPayload.termsDigest
  cases hterms : status.currentTerms with
  | none => rfl
  | some terms => exact h.terms terms hterms

theorem Authentic.issued_isSome (h : Authentic P status) :
    (canonicalInstant status.issuedAt).isSome = true := by
  obtain ⟨issuedAt,hissuedAt⟩ := h.issued
  rw [hissuedAt]
  rfl

theorem kept_establishedMark (h : Authentic P status) (hpresented : Presented status)
    {evaluationTime : String} (htime : (canonicalInstant evaluationTime).isSome = true) :
    Kept Presented (establishedMark status evaluationTime) where
  readable := readMark_self_iff.2 ⟨h.asset,h.registrant,h.sequence.1,h.sequence.2,h.wellFormed,
    h.termsDigest_isDigest,h.issued_isSome,h.issued_isSome,htime,le_refl _,rfl,rfl⟩
  current := fun _ _ => List.not_mem_nil
  head := ⟨status,hpresented,⟨rfl,rfl,rfl,rfl,rfl⟩⟩

theorem Kept.latch (h : Kept Presented mark) : Kept Presented { mark with conflict := true } where
  readable := by
    have hchecks := readMark_self_iff.1 h.readable
    exact readMark_self_iff.2 hchecks
  current := h.current
  head := by
    obtain ⟨status,hpresented,hhead⟩ := h.head
    exact ⟨status,hpresented,⟨hhead.key,hhead.sequence,hhead.digest,hhead.terms, hhead.withdrawn⟩⟩

theorem Kept.nextMark (h : Kept Presented mark) (hstatus : Authentic P status)
    (hpresented : Presented status) (hkey : mark.key = ⟨status.sovereignAssetId,status.issuer⟩)
    (hreopens : reopens mark status = false) (hreintroduces : reintroduces mark status = false)
    (gap : Bool) : Kept Presented (nextMark mark status gap) where
  readable := by
    obtain ⟨hasset,hissuer,-,-,-,hcurrent,-,hfloor,hanchored,-,hretired,-⟩ :=
      readMark_self_iff.1 h.readable
    refine readMark_self_iff.2 ⟨hasset,hissuer,hstatus.sequence.1,hstatus.sequence.2,
      hstatus.wellFormed,hstatus.termsDigest_isDigest,hstatus.issued_isSome,?_,hanchored,
      (instantOf_later _ _).2,?_,isAscending_of_pairwise (sortStrings_strict (nodup_retire _ _))⟩
    · simp only [StatusHistory.nextMark,later]
      split_ifs
      · exact hstatus.issued_isSome
      · exact hfloor
    · rw [List.all_eq_true]
      intro digest hdigest
      rcases mem_retire.1 (mem_sortStrings.1 hdigest) with hold | ⟨hold,-⟩
      · exact List.all_eq_true.1 hretired digest hold
      · rw [hold] at hcurrent
        exact hcurrent
  current := by
    intro digest hdigest hmem
    have hterms : status.termsDigest = some digest := hdigest
    rcases mem_retire.1 (mem_sortStrings.1 hmem) with hold | ⟨-,hne⟩
    · simp [reintroduces,hterms,hold] at hreintroduces
    · exact hne hterms.symm
  head := by
    refine ⟨status,hpresented,⟨hkey,rfl,rfl,rfl,?_⟩⟩
    simp only [reopens,Bool.and_eq_false_iff,bne_eq_false_iff_eq] at hreopens
    rcases hreopens with hactive | hwithdrawn
    · simp [StatusHistory.nextMark,hactive]
    · simp [StatusHistory.nextMark,hwithdrawn]

theorem Kept.anchored (h : Kept Presented mark) {evaluationTime : String}
    (htime : (canonicalInstant evaluationTime).isSome = true) :
    Kept Presented { mark with continuity := .verified, anchoredAt := evaluationTime } where
  readable := by
    obtain ⟨hasset,hissuer,hsafe,hone,hdigest,hcurrent,hissued,hfloor,-,hle,hretired,
      hascending⟩ := readMark_self_iff.1 h.readable
    exact readMark_self_iff.2 ⟨hasset,hissuer,hsafe,hone,hdigest,hcurrent,hissued,hfloor,
      htime,hle,hretired,hascending⟩
  current := h.current
  head := by
    obtain ⟨status,hpresented,hhead⟩ := h.head
    exact ⟨status,hpresented,⟨hhead.key,hhead.sequence,hhead.digest,hhead.terms, hhead.withdrawn⟩⟩

end Frontera.StatusHistory
