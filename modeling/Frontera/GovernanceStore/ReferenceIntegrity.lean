import Frontera.GovernanceStore.References

/-! A list of rows that verifies under a stored head holds exactly the protected rows the head was
advanced over, and every list of such rows verifies. -/

namespace Frontera.GovernanceStore

open Frontera.Data Frontera.Text List Option
open Frontera.Payment (isWellFormedDigest)

variable {P : Platform} {organizationId : Option String}

theorem orNull_injective : Function.Injective orNull := by
  rintro (_ | a) (_ | b) h <;> simp_all [orNull]

theorem canonical_orNull (value : Option String) :
    Json.canonical Payment.keyLe (orNull value) = orNull value := by
  cases value <;> rfl

theorem referenceDigestFields_keys (input : GovernanceReferenceDigestInput) :
    (referenceDigestFields input).map Prod.fst = ["referenceId", "evaluationId", "organizationId",
      "sequence", "referenceType", "externalId", "externalVersion", "digest", "uri", "createdAt",
      "integrityVersion", "previousReferenceDigest"] := rfl

theorem referenceDigest_injective (hsha : Function.Injective P.sha256) :
    Function.Injective (computeGovernanceReferenceDigest P) := by
  intro a b h
  have htext := Platform.digestOf_injective hsha h
  have hkeys := (referenceDigestFields_keys a).trans (referenceDigestFields_keys b).symm
  have hnodup : ((referenceDigestFields a).map Prod.fst).Nodup := by
    rw [referenceDigestFields_keys]
    decide
  have hvalues := Json.canonicalSerialize_obj_inj hkeys hnodup htext
  simp only [referenceDigestFields,map_cons,map_nil,canonical_orNull,Json.canonical,
    List.cons.injEq,Json.str.injEq,Json.num.injEq,orNull_injective.eq_iff,and_true] at hvalues
  cases a
  cases b
  simp_all

/-- The rows follow one another from `index` on, behind a row of digest `previous`. -/
inductive Linked (P : Platform) (organizationId : Option String) :
    Nat → Option String → List GovernanceReferenceRecord → Prop where
  | nil (index previous) : Linked P organizationId index previous []
  | cons {index : Nat} {previous reference rest}
      (hversion : reference.integrityVersion = some governanceReferenceIntegrityVersion)
      (hsequence : reference.sequence = some (.integer ((index : Int) + 1)))
      (hdigest : reference.referenceDigest = some (recomputed P organizationId reference))
      (hprevious : reference.previousReferenceDigest = previous)
      (hrest : Linked P organizationId (index + 1) reference.referenceDigest rest) :
      Linked P organizationId index previous (reference :: rest)

variable {index : Nat} {previous previous' : Option String}
  {rows others : List GovernanceReferenceRecord} {reference : GovernanceReferenceRecord}
  {references : List GovernanceReferenceRecord} {r : GovernanceReferenceRecord}
  {chain : ReferenceChain}

theorem Linked.head_eq (hsha : Function.Injective P.sha256) {index' : Nat}
    {a b : GovernanceReferenceRecord} {rest rest' : List GovernanceReferenceRecord}
    (h : Linked P organizationId index previous (a :: rest))
    (h' : Linked P organizationId index' previous' (b :: rest'))
    (hdigest : a.referenceDigest = b.referenceDigest) : a = b := by
  cases h with | cons hversion hsequence hown hprevious hrest => ?_
  cases h' with | cons hversion' hsequence' hown' hprevious' hrest' => ?_
  have hinput : recomputed P organizationId a = recomputed P organizationId b := by
    rw [← some_inj,← hown,← hown',hdigest]
  have hfields := referenceDigest_injective hsha hinput
  rw [GovernanceReferenceDigestInput.mk.injEq] at hfields
  obtain ⟨hid,hevaluation,-,hposition,htype,hexternal,hexternalVersion,hcontent,huri,
    hcreated,-,hbefore⟩ := hfields
  rw [position,position,hsequence,hsequence'] at hposition
  cases a
  cases b
  simp only at *
  rw [GovernanceReferenceRecord.mk.injEq]
  exact ⟨hid,hevaluation,htype,hexternal,hexternalVersion,hcontent,huri,hcreated,
    by rw [hsequence,hsequence',hposition],hversion.trans hversion'.symm,hbefore,hdigest⟩

theorem Linked.eq_of_last (hsha : Function.Injective P.sha256)
    (h : Linked P organizationId index previous rows)
    (h' : Linked P organizationId index previous' others) (hlength : rows.length = others.length)
    (hlast : rows.getLast?.map (·.referenceDigest) = others.getLast?.map (·.referenceDigest)) :
    rows = others := by
  induction h generalizing others previous' with
  | nil =>
    rw [length_nil,eq_comm,length_eq_zero_iff] at hlength
    exact hlength.symm
  | @cons index previous a rest hversion hsequence hdigest hprevious hrest ih =>
    cases h' with
    | nil => cases hlength
    | @cons _ _ b rest' hversion' hsequence' hdigest' hprevious' hrest' =>
      rw [length_cons,length_cons,Nat.add_right_cancel_iff] at hlength
      have hhead := Linked.cons hversion hsequence hdigest hprevious hrest
      have hhead' := Linked.cons hversion' hsequence' hdigest' hprevious' hrest'
      cases rest with
      | nil =>
        rw [length_nil,eq_comm,length_eq_zero_iff] at hlength
        subst hlength
        rw [hhead.head_eq hsha hhead' (by simpa using hlast)]
      | cons c rest =>
        cases rest' with
        | nil => cases hlength
        | cons d rest' =>
          rw [List.getLast?_cons_cons,List.getLast?_cons_cons] at hlast
          obtain hrestEq := ih hrest' hlength hlast
          -- the next row names the digest of this one
          have hnamed : a.referenceDigest = b.referenceDigest := by
            cases hrest with | cons _ _ _ hnext _ => ?_
            cases hrest' with | cons _ _ _ hnext' _ => ?_
            rw [List.cons.injEq] at hrestEq
            rw [← hnext,← hnext',hrestEq.1]
          rw [hhead.head_eq hsha hhead' hnamed,hrestEq]

theorem Linked.last_sequence (h : Linked P organizationId index previous rows)
    {last : GovernanceReferenceRecord} (hlast : rows.getLast? = some last) :
    last.sequence = some (.integer (index + rows.length : Nat)) := by
  induction h with
  | nil => cases hlast
  | @cons index previous a rest hversion hsequence hdigest hprevious hrest ih =>
    cases rest with
    | nil =>
      obtain rfl : a = last := by simpa using hlast
      rw [hsequence]
      rfl
    | cons b rest =>
      rw [List.getLast?_cons_cons] at hlast
      rw [ih hlast,length_cons (a := a)]
      congr 3
      omega

/-- A protected row with all its metadata. -/
structure IsComplete (reference : GovernanceReferenceRecord) : Prop where
  version : reference.integrityVersion = some governanceReferenceIntegrityVersion
  sequence : ∃ n : Int, reference.sequence = some (.integer n) ∧ 1 ≤ n
  digest : ∃ digest, reference.referenceDigest = some digest ∧ isWellFormedDigest digest = true

theorem isComplete_iff :
    IsComplete reference ↔ unsupportedVersion reference = none ∧ problems reference = [] := by
  constructor
  · rintro ⟨hversion,⟨n,hsequence,hn⟩,⟨digest,hdigest,hformed⟩⟩
    rw [unsupportedVersion,problems,hversion,hsequence,hdigest]
    simp [isPosition,hn,hformed]
  · rintro ⟨hversion,hproblems⟩
    simp only [problems,append_eq_nil_iff] at hproblems
    obtain ⟨⟨hsome,hposition⟩,hdigest⟩ := hproblems
    refine ⟨?_,?_,?_⟩
    · cases hstated : reference.integrityVersion with
      | none => simp [hstated] at hsome
      | some version =>
        simp only [unsupportedVersion,hstated] at hversion
        split_ifs at hversion with heq
        rw [heq]
    · match hstated : reference.sequence with
      | none => simp [hstated,isPosition] at hposition
      | some .fraction => simp [hstated,isPosition] at hposition
      | some (.integer n) =>
        simp only [hstated,isPosition] at hposition
        exact ⟨n,rfl,by simpa using hposition⟩
    · cases hstated : reference.referenceDigest with
      | none => simp [hstated] at hdigest
      | some digest =>
        simp only [hstated] at hdigest
        exact ⟨digest,rfl,by simpa using hdigest⟩

theorem IsComplete.not_legacy (h : IsComplete reference) : isLegacyUnprotected reference = false := by
  rw [isLegacyUnprotected,h.version]
  simp

theorem mem_completeRows : r ∈ completeRows references ↔ r ∈ references ∧ IsComplete r := by
  rw [completeRows,mem_filter]
  refine and_congr_right fun _ => ?_
  constructor
  · intro h
    simp only [Bool.and_eq_true,isNone_iff_eq_none,List.isEmpty_iff] at h
    exact isComplete_iff.2 ⟨h.1.2,h.2⟩
  · intro h
    obtain ⟨hversion,hproblems⟩ := isComplete_iff.1 h
    rw [h.not_legacy,hversion,hproblems]
    rfl

theorem mem_orderedRows : r ∈ orderedRows references ↔ r ∈ references ∧ IsComplete r := by
  rw [orderedRows,(perm_insertionSort _ _).mem_iff,mem_completeRows]

private theorem ite_nil_iff {c : Prop} [Decidable c] {message : String} :
    (if c then [] else [message]) = [] ↔ c := by
  split_ifs with h <;> simp [h]

theorem checkChain_eq_nil_iff (hstart : index = 0 → previous = none)
    (hcomplete : ∀ r ∈ rows, IsComplete r) :
    (checkChain P organizationId index previous rows).flatMap Prod.snd = [] ↔
      Linked P organizationId index previous rows := by
  induction rows generalizing index previous with
  | nil => exact ⟨fun _ => .nil index previous,fun _ => rfl⟩
  | cons r rows ih =>
    obtain ⟨hversion,⟨n,hsequence,hn⟩,-⟩ := hcomplete r (by simp)
    have hposition : position r = n := by rw [position,hsequence]
    have hrest : (checkChain P organizationId (index + 1) r.referenceDigest rows).flatMap
        Prod.snd = [] ↔ Linked P organizationId (index + 1) r.referenceDigest rows :=
      ih (fun h => absurd h (by omega)) fun s hs => hcomplete s (mem_cons_of_mem _ hs)
    rw [checkChain,flatMap_cons,append_eq_nil_iff,hrest]
    have hlink : linkFailures P organizationId index previous r = [] ↔
        n = index + 1 ∧ some (recomputed P organizationId r) = r.referenceDigest ∧
          r.previousReferenceDigest = previous := by
      rw [linkFailures,hposition]
      by_cases hindex : index = 0
      · rw [if_pos hindex,hstart hindex]
        simp only [append_eq_nil_iff,ite_nil_iff,and_assoc]
      · rw [if_neg hindex]
        simp only [append_eq_nil_iff,ite_nil_iff,and_assoc]
    rw [hlink]
    constructor
    · rintro ⟨⟨hn,hdigest,hprevious⟩,hrest⟩
      exact .cons hversion (by rw [hsequence,hn]) hdigest.symm hprevious hrest
    · rintro (_ | ⟨-,hsequence',hdigest,hprevious,hrest⟩)
      rw [hsequence] at hsequence'
      simp only [some_inj,SequenceNumber.integer.injEq] at hsequence'
      exact ⟨⟨hsequence',hdigest.symm,hprevious⟩,hrest⟩

theorem valid_iff {chain : SuppliedChain} :
    (verifyGovernanceReferenceIntegrity P references organizationId chain).valid = true ↔
      (∀ r ∈ references, isLegacyUnprotected r = false → IsComplete r) ∧
        Linked P organizationId 0 none (orderedRows references) ∧
        (checkHead (orderedRows references) chain).1 = [] := by
  have hlinks : (checkChain P organizationId 0 none (orderedRows references)).flatMap Prod.snd =
      [] ↔ Linked P organizationId 0 none (orderedRows references) :=
    checkChain_eq_nil_iff (fun _ => rfl) fun r hr => (mem_orderedRows.1 hr).2
  simp only [GovernanceReferenceIntegrityResult.valid,verifyGovernanceReferenceIntegrity,
    List.isEmpty_iff,append_eq_nil_iff,map_eq_nil_iff,hlinks,and_assoc]
  constructor
  · rintro ⟨hunsupported,hincomplete,hlinked,hhead⟩
    refine ⟨fun r hr hlegacy => ?_,hlinked,hhead⟩
    have hversion : unsupportedVersion r = none := by
      have hnone := List.filter_eq_nil_iff.1 hunsupported r
        (mem_filter.2 ⟨hr,by rw [hlegacy]; rfl⟩)
      simpa using hnone
    have hproblems := filter_eq_nil_iff.1 hincomplete r (mem_filter.2
      ⟨mem_filter.2 ⟨hr,by rw [hlegacy]; rfl⟩,by rw [hversion]; rfl⟩)
    exact isComplete_iff.2 ⟨hversion,by simpa using hproblems⟩
  · rintro ⟨hcomplete,hlinked,hhead⟩
    have hclaimed : ∀ r ∈ references.filter (fun r => !isLegacyUnprotected r), IsComplete r := by
      intro r hr
      obtain ⟨hr,hlegacy⟩ := mem_filter.1 hr
      exact hcomplete r hr (by simpa using hlegacy)
    refine ⟨?_,?_,hlinked,hhead⟩
    · refine List.filter_eq_nil_iff.2 fun r hr => ?_
      rw [(isComplete_iff.1 (hclaimed r hr)).1]
      simp
    · refine List.filter_eq_nil_iff.2 fun r hr => ?_
      rw [(isComplete_iff.1 (hclaimed r (mem_of_mem_filter hr))).2]
      simp

def isProtected (reference : GovernanceReferenceRecord) : Bool := !isLegacyUnprotected reference

/-- The head that a store hands over: it looked, and there is one or none. -/
def storedChain : Option GovernanceReferenceChainState → SuppliedChain
  | none => .null
  | some chain => .head chain

theorem checkHead_head {ordered : List GovernanceReferenceRecord}
    {chain : GovernanceReferenceChainState} :
    (checkHead ordered (.head chain)).1 = [] ↔
      chain.integrityVersion = governanceReferenceIntegrityVersion ∧
      ∃ last, ordered.getLast? = some last ∧ last.sequence = some (.integer chain.latestSequence) ∧
        last.referenceDigest = some chain.latestReferenceDigest := by
  rw [checkHead]
  split_ifs with hversion
  · simp [hversion]
  · rw [not_not] at hversion
    cases hlast : ordered.getLast? with
    | none => simp
    | some last =>
      simp only [hversion,true_and,some_inj,exists_eq_left']
      split_ifs with hdiffers
      · rw [← not_and_or] at hdiffers
        simp [hdiffers]
      · rw [← not_and_or,not_not] at hdiffers
        simp [hdiffers]

theorem protectedRows_perm (h : ∀ r ∈ references, isLegacyUnprotected r = false → IsComplete r) :
    (references.filter isProtected).Perm (orderedRows references) := by
  have hsame : references.filter isProtected = completeRows references := by
    refine filter_congr fun r hr => ?_
    cases hlegacy : isLegacyUnprotected r with
    | true => simp [isProtected,hlegacy]
    | false =>
      obtain ⟨hversion,hproblems⟩ := isComplete_iff.1 (h r hr hlegacy)
      simp [isProtected,hlegacy,hversion,hproblems]
  rw [hsame,orderedRows]
  exact (perm_insertionSort _ _).symm

theorem protectedRows_unique (hsha : Function.Injective P.sha256)
    {stored : Option GovernanceReferenceChainState}
    (h : (verifyGovernanceReferenceIntegrity P references organizationId (storedChain stored)).valid = true)
    (h' : (verifyGovernanceReferenceIntegrity P others organizationId (storedChain stored)).valid = true) :
    (references.filter isProtected).Perm (others.filter isProtected) := by
  obtain ⟨hcomplete,hlinked,hhead⟩ := valid_iff.1 h
  obtain ⟨hcomplete',hlinked',hhead'⟩ := valid_iff.1 h'
  have hsame : orderedRows references = orderedRows others := by
    cases stored with
    | none =>
      have hempty {rows : List GovernanceReferenceRecord}
          (hrows : (checkHead rows .null).1 = []) : rows = [] := by
        rw [checkHead] at hrows
        by_contra hne
        rw [if_neg hne] at hrows
        cases hrows
      rw [hempty hhead,hempty hhead']
    | some chain =>
      obtain ⟨-,last,hlast,hsequence,hdigest⟩ := checkHead_head.1 hhead
      obtain ⟨-,last',hlast',hsequence',hdigest'⟩ := checkHead_head.1 hhead'
      have hcount := hlinked.last_sequence hlast
      have hcount' := hlinked'.last_sequence hlast'
      rw [hsequence,some_inj,SequenceNumber.integer.injEq] at hcount
      rw [hsequence',some_inj,SequenceNumber.integer.injEq,hcount] at hcount'
      refine hlinked.eq_of_last hsha hlinked' (by omega) ?_
      rw [hlast,hlast',map_some,map_some,hdigest,hdigest']
  exact (protectedRows_perm hcomplete).trans (hsame ▸ (protectedRows_perm hcomplete').symm)

/-- The chain after the references were appended one by one. -/
def appendedChain (P : Platform) (organizationId : Option String)
    (references : List GovernanceReferenceInput) : ReferenceChain :=
  references.foldl (fun chain reference => chain.append P organizationId reference) ⟨[],none⟩

/-- The rows are linked, and the head is that of the newest one. -/
structure ReferenceChain.IsSealed (P : Platform) (organizationId : Option String)
    (chain : ReferenceChain) : Prop where
  linked : Linked P organizationId 0 none chain.rows
  complete : ∀ r ∈ chain.rows, IsComplete r
  head : (checkHead chain.rows (storedChain chain.head)).1 = []

theorem Linked.concat (h : Linked P organizationId index previous rows)
    {row : GovernanceReferenceRecord}
    (hversion : row.integrityVersion = some governanceReferenceIntegrityVersion)
    (hsequence : row.sequence = some (.integer ((index + rows.length : Nat) + 1)))
    (hdigest : row.referenceDigest = some (recomputed P organizationId row))
    (hprevious : row.previousReferenceDigest = (rows.getLast?.map (·.referenceDigest)).getD previous) :
    Linked P organizationId index previous (rows ++ [row]) := by
  induction h with
  | nil index previous =>
    exact .cons hversion hsequence hdigest hprevious (.nil _ _)
  | @cons index previous a rest hversion' hsequence' hdigest' hprevious' hrest ih =>
    refine .cons hversion' hsequence' hdigest' hprevious' (ih ?_ ?_)
    · rw [hsequence,length_cons]
      congr 3
      omega
    · rw [hprevious]
      cases rest with
      | nil => rfl
      | cons b rest =>
        rw [List.getLast?_cons_cons,List.getLast?_eq_some_getLast (cons_ne_nil b rest)]
        rfl

theorem ReferenceChain.IsSealed.append (h : chain.IsSealed P organizationId)
    {reference : GovernanceReferenceInput}
    (hhex : ∀ digest, (chain.sealNext P organizationId reference).referenceDigest = some digest → isWellFormedDigest digest = true) :
    (chain.append P organizationId reference).IsSealed P organizationId := by
  obtain ⟨rows,head⟩ := chain
  obtain ⟨hlinked,hcomplete,hhead⟩ := h
  have hnewest : (head.map (·.latestSequence)).getD 0 = (rows.length : Int) ∧
      head.map (·.latestReferenceDigest) = (rows.getLast?.map (·.referenceDigest)).getD none := by
    cases head with
    | none =>
      simp only [storedChain,checkHead] at hhead
      split_ifs at hhead with hempty
      · subst hempty
        exact ⟨rfl,rfl⟩
    | some chain =>
      obtain ⟨-,last,hlast,hsequence,hdigest⟩ := checkHead_head.1 hhead
      have hcount := hlinked.last_sequence hlast
      rw [hsequence,some_inj,SequenceNumber.integer.injEq] at hcount
      simp only at hlast
      rw [hlast]
      exact ⟨by simpa using hcount,hdigest.symm⟩
  refine ⟨?_,?_,?_⟩
  · refine hlinked.concat rfl ?_ rfl hnewest.2
    simp only [ReferenceChain.sealNext,sealGovernanceReference,ReferenceChain.nextSequence, hnewest.1]
    simp
  · intro r hr
    rcases mem_append.1 hr with hr | hr
    · exact hcomplete r hr
    · rw [mem_singleton.1 hr]
      refine ⟨rfl,⟨_,rfl,?_⟩,⟨_,rfl,hhex _ rfl⟩⟩
      simp only [ReferenceChain.nextSequence,hnewest.1]
      omega
  · refine checkHead_head.2 ⟨rfl,_,List.getLast?_concat,rfl,rfl⟩

theorem emptyChain_sealed : ReferenceChain.IsSealed P organizationId ⟨[],none⟩ :=
  ⟨.nil _ _,by simp,by simp [storedChain,checkHead]⟩

theorem appendedChain_sealed (hhex : ∀ text, isWellFormedDigest (P.digestOf text) = true)
    (references : List GovernanceReferenceInput) :
    (appendedChain P organizationId references).IsSealed P organizationId := by
  induction references using List.reverseRecOn with
  | nil => exact emptyChain_sealed
  | append_singleton references reference ih =>
    rw [appendedChain,foldl_concat]
    refine ih.append fun digest hdigest => ?_
    rw [← some_inj.1 hdigest]
    exact hhex _

theorem Linked.pairwise (h : Linked P organizationId index previous rows) :
    (rows.Pairwise fun a b => position a < position b) ∧ ∀ r ∈ rows, (index : Int) < position r := by
  induction h with
  | nil => simp
  | @cons index previous a rest hversion hsequence hdigest hprevious hrest ih =>
    have ha : position a = index + 1 := by rw [position,hsequence]
    obtain ⟨hpairwise,hlater⟩ := ih
    refine ⟨pairwise_cons.2 ⟨fun b hb => ?_,hpairwise⟩,?_⟩
    · have hb := hlater b hb
      push_cast at hb
      omega
    · intro r hr
      rcases mem_cons.1 hr with rfl | hr
      · omega
      · have hr := hlater r hr
        push_cast at hr
        omega

theorem ReferenceChain.IsSealed.valid (h : chain.IsSealed P organizationId)
    {legacy : List GovernanceReferenceRecord}
    (hlegacy : ∀ r ∈ legacy, isLegacyUnprotected r = true)
    (hread : references.Perm (chain.rows ++ legacy)) :
    (verifyGovernanceReferenceIntegrity P references organizationId
      (storedChain chain.head)).valid = true := by
  have hrows : (completeRows references).Perm chain.rows := by
    have hfilter := hread.filter fun r =>
      !isLegacyUnprotected r && (unsupportedVersion r).isNone && (problems r).isEmpty
    have hkept : completeRows chain.rows = chain.rows :=
      filter_eq_self.2 fun r hr => by
        obtain ⟨hversion,hproblems⟩ := isComplete_iff.1 (h.complete r hr)
        rw [(h.complete r hr).not_legacy,hversion,hproblems]
        rfl
    have hdropped : completeRows legacy = [] :=
      filter_eq_nil_iff.2 fun r hr => by rw [hlegacy r hr]; simp
    rw [filter_append] at hfilter
    change (completeRows references).Perm (completeRows chain.rows ++ completeRows legacy) at hfilter
    rwa [hkept,hdropped,append_nil] at hfilter
  have hordered : orderedRows references = chain.rows := by
    have : Std.Total positionLe := ⟨fun a b => le_total (position a) (position b)⟩
    have : IsTrans GovernanceReferenceRecord positionLe := ⟨fun _ _ _ => le_trans⟩
    have hsorted : chain.rows.Pairwise positionLe :=
      h.linked.pairwise.1.imp fun hlt => le_of_lt hlt
    rw [orderedRows,insertionSort_eq_of_perm hrows,hsorted.insertionSort_eq]
    intro a ha b hb hab hba
    have hpositions : position a = position b := le_antisymm hab hba
    have hnodup : (chain.rows.map position).Nodup :=
      pairwise_map.2 (h.linked.pairwise.1.imp ne_of_lt)
    exact inj_on_of_nodup_map hnodup (hrows.mem_iff.1 ha) (hrows.mem_iff.1 hb) hpositions
  refine valid_iff.2 ⟨fun r hr hprotected => ?_,?_,?_⟩
  · rcases mem_append.1 (hread.mem_iff.1 hr) with hr | hr
    · exact h.complete r hr
    · rw [hlegacy r hr] at hprotected
      cases hprotected
  · rw [hordered]
    exact h.linked
  · rw [hordered]
    exact h.head

/-- A stored head pins the protected rows that verify under it, field by field, and the rows of
every chain built by appending verify under its head, in any order and among any legacy rows. -/
theorem referenceChain_pins_protectedRows (P : Platform) :
    (Function.Injective P.sha256 → ∀ (stored : Option GovernanceReferenceChainState)
      (organizationId : Option String) (references others : List GovernanceReferenceRecord),
      (verifyGovernanceReferenceIntegrity P references organizationId
        (storedChain stored)).valid = true →
      (verifyGovernanceReferenceIntegrity P others organizationId
        (storedChain stored)).valid = true →
      (references.filter isProtected).Perm (others.filter isProtected)) ∧
    ((∀ text, isWellFormedDigest (P.digestOf text) = true) →
      ∀ (organizationId : Option String) (appended : List GovernanceReferenceInput)
        (legacy references : List GovernanceReferenceRecord),
      (∀ r ∈ legacy, isLegacyUnprotected r = true) →
      references.Perm ((appendedChain P organizationId appended).rows ++ legacy) →
      (verifyGovernanceReferenceIntegrity P references organizationId
        (storedChain (appendedChain P organizationId appended).head)).valid = true) :=
  ⟨fun hsha _ _ _ _ h h' => protectedRows_unique hsha h h',fun hhex _ appended _ _ hlegacy hread =>
      (appendedChain_sealed hhex appended).valid hlegacy hread⟩

def sampleReference : GovernanceReferenceInput where
  referenceId := "reference-1"
  evaluationId := "evaluation-1"
  referenceType := "execution_record"
  externalId := "execution-1"
  externalVersion := some "attempt"
  digest := none
  uri := none
  createdAt := sampleInstant

def sampleReferenceDigestInput : GovernanceReferenceDigestInput where
  referenceId := "reference-1"
  evaluationId := "evaluation-1"
  organizationId := some "org-1"
  sequence := 1
  referenceType := "execution_record"
  externalId := "execution-1"
  externalVersion := some "attempt"
  digest := none
  uri := none
  createdAt := sampleInstant
  integrityVersion := governanceReferenceIntegrityVersion
  previousReferenceDigest := none

def sampleHex : String := String.ofList (List.replicate 64 '0')

theorem sampleHex_eq : sampleHex = String.ofList (List.replicate 64 '0') := rfl

def sampleReferenceText : String :=
  Json.canonicalSerialize Payment.keyLe (referenceDigestInput sampleReferenceDigestInput)

def sampleReferencePlatform : Platform :=
  tabulatedPlatform [(sampleReferenceText, sampleHex)]

def sampleReferenceChain : ReferenceChain :=
  appendedChain sampleReferencePlatform (some "org-1") [sampleReference]

def sampleLegacyReference : GovernanceReferenceRecord where
  referenceId := "reference-0"
  evaluationId := "evaluation-1"
  referenceType := "evidence_bundle"
  externalId := "bundle-1"
  externalVersion := none
  digest := none
  uri := none
  createdAt := sampleInstant
  sequence := none
  integrityVersion := none
  previousReferenceDigest := none
  referenceDigest := none

theorem sampleReferencePlatform_sha256 : sampleReferencePlatform.sha256 =
    tabulatedHash [(sampleReferenceText, sampleHex)] := by
  rw [sampleReferencePlatform,tabulatedPlatform]

theorem sampleReferenceChain_sealed :
    sampleReferenceChain.IsSealed sampleReferencePlatform (some "org-1") := by
  refine emptyChain_sealed.append fun digest hdigest => ?_
  have hown : digest = sampleReferencePlatform.digestOf sampleReferenceText :=
    (some_inj.1 hdigest).symm
  rw [hown,Platform.digestOf,sampleReferencePlatform_sha256,tabulatedHash_head]
  have htext := append_literal (String.ofList_toList (s := "sha256:")).symm sampleHex_eq
  have hhex : (List.replicate 64 '0').all Payment.isLowercaseHex = true := by
    rw [List.all_eq_true]
    intro c hc
    rw [eq_of_mem_replicate hc]
    decide
  exact Payment.isWellFormedDigest_literal htext (length_replicate ..) hhex

theorem sampleReferencePlatform_injective : Function.Injective sampleReferencePlatform.sha256 := by
  have hhex : List.Forall₂ (fun (entry : String × String) digest =>
      entry.2 = String.ofList digest) [(sampleReferenceText, sampleHex)]
      [List.replicate 64 '0'] := .cons sampleHex_eq .nil
  have hinjective : Function.Injective (tabulatedHash [(sampleReferenceText, sampleHex)]) :=
    tabulatedHash_injective_literals hhex (nodup_singleton _) fun digest hdigest => by
      rw [mem_singleton.1 hdigest]
      decide
  rw [sampleReferencePlatform_sha256]
  exact hinjective

theorem sampleReferenceChain_valid :
    (verifyGovernanceReferenceIntegrity sampleReferencePlatform sampleReferenceChain.rows
      (some "org-1") (storedChain sampleReferenceChain.head)).valid = true := by
  refine sampleReferenceChain_sealed.valid (fun _ hr => absurd hr not_mem_nil)
    (?_ : List.Perm _ (_ ++ []))
  rw [append_nil]

theorem sampleReferenceChain_valid_among_legacy :
    (verifyGovernanceReferenceIntegrity sampleReferencePlatform
      (sampleReferenceChain.rows ++ [sampleLegacyReference]) (some "org-1")
      (storedChain sampleReferenceChain.head)).valid = true := by
  refine sampleReferenceChain_sealed.valid ?_ (List.Perm.refl _)
  intro r hr
  rw [mem_singleton.1 hr]
  rfl

/-- The rows of the sample verify without and with a legacy row, and are the same ones. -/
theorem sampleReferenceChain_pinned : (sampleReferenceChain.rows.filter isProtected).Perm
      ((sampleReferenceChain.rows ++ [sampleLegacyReference]).filter isProtected) :=
  (referenceChain_pins_protectedRows sampleReferencePlatform).1
    sampleReferencePlatform_injective sampleReferenceChain.head (some "org-1") _ _
    sampleReferenceChain_valid sampleReferenceChain_valid_among_legacy

end Frontera.GovernanceStore
