import Frontera.AuthorityGraph.Soundness

/-! The resolver commits to one record of the actor before any policy runs: the grant inserted first
of those that cover the action, or with none the delegation inserted first. A decision then depends
on that record and on those it derives from, and on no other record of the store. -/

namespace Frontera.AuthorityGraph

open AuthorityGraphStore List

variable {store other : AuthorityGraphStore} {now : String} {request : AuthorityChainRequest}
  {record : DelegationLineageSource}

theorem getGrant_eq_some_iff {id : String} {grant : AuthorityGrant} :
    store.getGrant id = some grant ↔ grant ∈ store.grants ∧ grant.id = id := by
  constructor
  · intro h
    exact ⟨mem_of_find?_eq_some h,getGrant_id h⟩
  · rintro ⟨hmem,rfl⟩
    exact getGrant_of_mem hmem

theorem getDelegation_eq_some_iff {id : String} {delegation : DelegationGrant} :
    store.getDelegation id = some delegation ↔ delegation ∈ store.delegations ∧ delegation.id = id := by
  constructor
  · intro h
    exact ⟨mem_of_find?_eq_some h,getDelegation_id h⟩
  · rintro ⟨hmem,rfl⟩
    unfold AuthorityGraphStore.getDelegation
    cases hfind : store.delegations.find? fun d => d.id == delegation.id with
    | none => simpa using List.find?_eq_none.1 hfind delegation hmem
    | some found =>
      have hid : found.id = delegation.id := by simpa using List.find?_some hfind
      rw [inj_on_of_nodup_map store.delegations_nodup (mem_of_find?_eq_some hfind) hmem
        hid]

/-- The records that a record derives from, itself included. -/
inductive Lineage (store : AuthorityGraphStore) (record : DelegationLineageSource) :
    DelegationLineageSource → Prop where
  | self : Lineage store record record
  | parent {grant parentId parent} (hgrant : Lineage store record (.authorityGrant grant))
      (hparent : grant.parentGrantId = some parentId)
      (hget : store.getGrant parentId = some parent) :
      Lineage store record (.authorityGrant parent)
  | source {delegation source} (hdelegation : Lineage store record (.delegationGrant delegation))
      (hget : resolveSource store delegation.sourceAuthorityGrantId = some source) :
      Lineage store record source

def AuthorityGraphStore.Holds (store : AuthorityGraphStore) : DelegationLineageSource → Prop
  | .authorityGrant grant => grant ∈ store.grants
  | .delegationGrant delegation => delegation ∈ store.delegations

theorem Lineage.holds {derived : DelegationLineageSource} (h : Lineage store record derived)
    (hrecord : store.Holds record) : store.Holds derived := by
  induction h with
  | self => exact hrecord
  | parent hgrant hparent hget ih => exact (getGrant_eq_some_iff.1 hget).1
  | source hdelegation hget ih =>
    rcases resolveSource_cases hget with ⟨grant,rfl,hfound⟩ | ⟨delegation,rfl,-,hfound⟩
    · exact (getGrant_eq_some_iff.1 hfound).1
    · exact (getDelegation_eq_some_iff.1 hfound).1

/-- Another store looks up along the lineage of a record what `store` does. -/
structure SameLineage (store other : AuthorityGraphStore) (record : DelegationLineageSource) : Prop where
  holds : other.Holds record
  parent : ∀ grant parentId, Lineage store record (.authorityGrant grant) →
    grant.parentGrantId = some parentId → other.getGrant parentId = store.getGrant parentId
  sourceGrant : ∀ delegation, Lineage store record (.delegationGrant delegation) →
    other.getGrant delegation.sourceAuthorityGrantId = store.getGrant delegation.sourceAuthorityGrantId
  sourceDelegation : ∀ delegation, Lineage store record (.delegationGrant delegation) →
    store.getGrant delegation.sourceAuthorityGrantId = none →
      other.getDelegation delegation.sourceAuthorityGrantId =
        store.getDelegation delegation.sourceAuthorityGrantId

namespace SameLineage

section

variable (h : SameLineage store other record)
include h

theorem resolveSource {delegation : DelegationGrant}
    (hlineage : Lineage store record (.delegationGrant delegation)) :
    AuthorityGraph.resolveSource other delegation.sourceAuthorityGrantId =
      AuthorityGraph.resolveSource store delegation.sourceAuthorityGrantId := by
  rw [AuthorityGraph.resolveSource,h.sourceGrant delegation hlineage,AuthorityGraph.resolveSource]
  cases hgrant : store.getGrant delegation.sourceAuthorityGrantId with
  | some grant => rfl
  | none =>
    simp only
    rw [h.sourceDelegation delegation hlineage hgrant]

theorem collectGrantAncestryFrom {hops : Nat} {grant : AuthorityGrant}
    (hlineage : Lineage store record (.authorityGrant grant)) :
    AuthorityGraph.collectGrantAncestryFrom other hops grant =
      AuthorityGraph.collectGrantAncestryFrom store hops grant := by
  induction hops generalizing grant with
  | zero => rfl
  | succ hops ih =>
    rw [AuthorityGraph.collectGrantAncestryFrom,AuthorityGraph.collectGrantAncestryFrom]
    cases hparent : grant.parentGrantId with
    | none => rfl
    | some parentId =>
      simp only
      rw [h.parent grant parentId hlineage hparent]
      cases hget : store.getGrant parentId with
      | none => rfl
      | some parent =>
        simp only
        rw [ih (.parent hlineage hparent hget)]

theorem collectDelegationAncestryFrom {hops : Nat} {delegation : DelegationGrant}
    (hlineage : Lineage store record (.delegationGrant delegation)) :
    AuthorityGraph.collectDelegationAncestryFrom other hops delegation =
      AuthorityGraph.collectDelegationAncestryFrom store hops delegation := by
  induction hops generalizing delegation with
  | zero => rfl
  | succ hops ih =>
    rw [AuthorityGraph.collectDelegationAncestryFrom,AuthorityGraph.collectDelegationAncestryFrom,
      h.sourceGrant delegation hlineage]
    cases hgrant : store.getGrant delegation.sourceAuthorityGrantId with
    | some grant =>
      have hderived : Lineage store record (.authorityGrant grant) :=
        .source hlineage (by rw [AuthorityGraph.resolveSource,hgrant])
      simp only
      rw [collectGrantAncestry,h.collectGrantAncestryFrom hderived,← collectGrantAncestry]
    | none =>
      simp only
      rw [h.sourceDelegation delegation hlineage hgrant]
      cases hsource : store.getDelegation delegation.sourceAuthorityGrantId with
      | none => rfl
      | some source =>
        have hderived : Lineage store record (.delegationGrant source) :=
          .source hlineage (by rw [AuthorityGraph.resolveSource,hgrant,hsource]; rfl)
        simp only
        rw [ih hderived]

theorem assertGrantRooted {hops : Nat} {currentId : String} {refs : List String}
    (hget : other.getGrant currentId = store.getGrant currentId)
    (hlineage : ∀ grant, store.getGrant currentId = some grant → Lineage store record (.authorityGrant grant)) :
    AuthorityGraph.assertGrantRooted other hops currentId refs =
      AuthorityGraph.assertGrantRooted store hops currentId refs := by
  induction hops generalizing currentId refs with
  | zero => rfl
  | succ hops ih =>
    rw [AuthorityGraph.assertGrantRooted,AuthorityGraph.assertGrantRooted,hget]
    split_ifs with hvisited
    · rfl
    · cases hgrant : store.getGrant currentId with
      | none => rfl
      | some grant =>
        have hderived := hlineage grant hgrant
        simp only
        cases hparent : grant.parentGrantId with
        | none => rfl
        | some parentId =>
          have hsame := h.parent grant parentId hderived hparent
          simp only
          rw [hsame,ih hsame fun parent hfound => .parent hderived hparent hfound]

theorem assessDelegation {terminalDepth : Int} {hops : Nat} {current : DelegationGrant}
    {refs : List String} (hlineage : Lineage store record (.delegationGrant current)) :
    AuthorityGraph.assessDelegation other terminalDepth hops current refs =
      AuthorityGraph.assessDelegation store terminalDepth hops current refs := by
  induction hops generalizing current refs with
  | zero => rfl
  | succ hops ih =>
    have hgrant := h.sourceGrant current hlineage
    rw [AuthorityGraph.assessDelegation,AuthorityGraph.assessDelegation,h.resolveSource hlineage]
    cases hsource : AuthorityGraph.resolveSource store current.sourceAuthorityGrantId with
    | none => rfl
    | some source =>
      have hderived : Lineage store record source := .source hlineage hsource
      rcases resolveSource_cases hsource with ⟨grant,rfl,hget⟩ | ⟨delegation,rfl,hnone,hget⟩
      · have hid := getGrant_id hget
        rw [← hid] at hgrant
        have hrooted := @assertGrantRooted _ _ _ h hops _ (refs ++ [current.id]) hgrant
          fun found hfound => by
            rw [hid,hget] at hfound
            exact Option.some.inj hfound ▸ hderived
        simp only [hrooted]
      · have hdelegation := h.sourceDelegation current hlineage hnone
        have hid := getDelegation_id hget
        rw [← hid] at hdelegation hget
        simp only [hdelegation,hget,ih hderived]

end

end SameLineage

/-- The record the resolver commits to. -/
def selectedRecord (store : AuthorityGraphStore) (request : AuthorityChainRequest) :
    Option DelegationLineageSource :=
  match matchingGrant store request with
  | some grant => some (.authorityGrant grant)
  | none => (matchingDelegation store request).map .delegationGrant

theorem selectedRecord_cases (h : selectedRecord store request = some record) :
    (∃ grant, record = .authorityGrant grant ∧ matchingGrant store request = some grant) ∨
      ∃ delegation, record = .delegationGrant delegation ∧ matchingGrant store request = none ∧
        matchingDelegation store request = some delegation := by
  unfold selectedRecord at h
  split at h
  · cases h
    exact .inl ⟨_,rfl,by assumption⟩
  · rename_i hnone
    obtain ⟨delegation,hmatch,rfl⟩ := Option.map_eq_some_iff.1 h
    exact .inr ⟨delegation,rfl,hnone,hmatch⟩

theorem selectedRecord_holds (h : selectedRecord store request = some record) : store.Holds record := by
  rcases selectedRecord_cases h with ⟨grant,rfl,hmatch⟩ | ⟨delegation,rfl,-,hmatch⟩
  · exact (matchingGrant_spec hmatch).1
  · exact (matchingDelegation_spec hmatch).1

theorem SameLineage.resolved (h : SameLineage store other record)
    (hselected : selectedRecord store request = some record)
    (hother : selectedRecord other request = some record) :
    resolveAuthorityChain other request = resolveAuthorityChain store request ∧
      assess other (resolveAuthorityChain store request) =
        assess store (resolveAuthorityChain store request) := by
  rcases selectedRecord_cases hselected with ⟨grant,rfl,hgrant⟩ | ⟨delegation,rfl,hnone,hmatch⟩
  · have hotherGrant : matchingGrant other request = some grant := by
      rcases selectedRecord_cases hother with ⟨_,heq,hfound⟩ | ⟨_,heq,-⟩
      · cases heq
        exact hfound
      · cases heq
    have hcollected : collectGrantAncestry other grant = collectGrantAncestry store grant :=
      h.collectGrantAncestryFrom .self
    have hhead : (collectGrantAncestry store grant).head? = some grant :=
      collectGrantAncestryFrom_head
    have hget : store.getGrant grant.id = some grant := getGrant_of_mem (matchingGrant_spec hgrant).1
    have hgetOther : other.getGrant grant.id = some grant := getGrant_of_mem h.holds
    have hrooted := @assertGrantRooted _ _ _ h (maxAncestryHops + 1) _ []
      (hgetOther.trans hget.symm) fun found hfound => by
        rw [hget] at hfound
        exact Option.some.inj hfound ▸ .self
    constructor
    · simp only [resolveAuthorityChain,hgrant,hotherGrant,hcollected]
    · simp only [resolveAuthorityChain,hgrant,assess,buildChain,List.head?_nil,hhead,hrooted]
  · have hotherMatch : matchingGrant other request = none ∧
        matchingDelegation other request = some delegation := by
      rcases selectedRecord_cases hother with ⟨_,heq,-⟩ | ⟨_,heq,hnoneOther,hfound⟩
      · cases heq
      · cases heq
        exact ⟨hnoneOther,hfound⟩
    have hcollected : collectDelegationAncestry other delegation =
        collectDelegationAncestry store delegation := h.collectDelegationAncestryFrom .self
    have hhead : (collectDelegationAncestry store delegation).2.head? = some delegation :=
      collectDelegationAncestryFrom_head
    constructor
    · simp only [resolveAuthorityChain,hnone,hmatch,hotherMatch.1,hotherMatch.2,hcollected]
    · simp only [resolveAuthorityChain,hnone,hmatch,assess,buildChain,hhead, h.assessDelegation .self]

/-- The deployment's own tables are the same in both stores. -/
structure SameTables (store other : AuthorityGraphStore) : Prop where
  rootIssuer : other.isRootIssuer = store.isRootIssuer
  crossDomain : other.isCrossDomainAuthorityAccepted = store.isCrossDomainAuthorityAccepted

theorem SameLineage.verifyAuthority (h : SameLineage store other record)
    (htables : SameTables store other) (hselected : selectedRecord store request = some record)
    (hother : selectedRecord other request = some record) :
    AuthorityGraph.verifyAuthority other now request =
      AuthorityGraph.verifyAuthority store now request := by
  obtain ⟨hchain,hassess⟩ := h.resolved hselected hother
  have hcontext : policyContext other now (resolveAuthorityChain store request)
      request.trustDomainId = policyContext store now (resolveAuthorityChain store request)
        request.trustDomainId := by
    rw [policyContext,policyContext,htables.rootIssuer,htables.crossDomain,hassess]
  rw [AuthorityGraph.verifyAuthority,AuthorityGraph.verifyAuthority,hchain,hcontext]

theorem find?_of_sublist {α : Type} {p : α → Bool} {part whole : List α} {a : α}
    (hsub : part.Sublist whole) (hnodup : whole.Nodup) (hfind : whole.find? p = some a)
    (hmem : a ∈ part) : part.find? p = some a := by
  induction hsub with
  | slnil => cases hmem
  | @cons part whole b hsub ih =>
    rw [List.find?_cons] at hfind
    have hfresh : b ≠ a := by
      rintro rfl
      exact (nodup_cons.1 hnodup).1 (hsub.mem hmem)
    split at hfind
    · cases hfind
      exact absurd rfl hfresh
    · exact ih (nodup_cons.1 hnodup).2 hfind hmem
  | @cons_cons part whole b hsub ih =>
    rw [List.find?_cons] at hfind ⊢
    split at hfind
    · exact hfind
    · next hb =>
      refine ih (nodup_cons.1 hnodup).2 hfind ?_
      rcases mem_cons.1 hmem with rfl | hmem
      · rw [List.find?_some hfind] at hb
        cases hb
      · exact hmem

/-- A store with some records taken out, but none that `record` derives from. -/
structure Narrowed (store part : AuthorityGraphStore) (record : DelegationLineageSource) : Prop where
  grants : part.grants.Sublist store.grants
  delegations : part.delegations.Sublist store.delegations
  tables : SameTables store part
  lineage : ∀ derived, Lineage store record derived → part.Holds derived

namespace Narrowed

variable {part : AuthorityGraphStore}

section

variable (h : Narrowed store part record)
include h

theorem getGrant {id : String}
    (hkept : ∀ grant, store.getGrant id = some grant → grant ∈ part.grants) :
    part.getGrant id = store.getGrant id := by
  cases hget : store.getGrant id with
  | some grant =>
    exact getGrant_eq_some_iff.2 ⟨hkept grant hget,getGrant_id hget⟩
  | none =>
    cases hpart : part.getGrant id with
    | none => rfl
    | some grant =>
      obtain ⟨hmem,hid⟩ := getGrant_eq_some_iff.1 hpart
      rw [getGrant_eq_some_iff.2 ⟨h.grants.mem hmem,hid⟩] at hget
      cases hget

theorem getDelegation {id : String}
    (hkept : ∀ d, store.getDelegation id = some d → d ∈ part.delegations) :
    part.getDelegation id = store.getDelegation id := by
  cases hget : store.getDelegation id with
  | some d =>
    exact getDelegation_eq_some_iff.2 ⟨hkept d hget,getDelegation_id hget⟩
  | none =>
    cases hpart : part.getDelegation id with
    | none => rfl
    | some d =>
      obtain ⟨hmem,hid⟩ := getDelegation_eq_some_iff.1 hpart
      rw [getDelegation_eq_some_iff.2 ⟨h.delegations.mem hmem,hid⟩] at hget
      cases hget

theorem sameLineage : SameLineage store part record where
  holds := h.lineage record .self
  parent grant parentId hgrant hparent :=
    h.getGrant fun parent hget => h.lineage _ (.parent hgrant hparent hget)
  sourceGrant delegation hdelegation :=
    h.getGrant fun grant hget => h.lineage (.authorityGrant grant) <|
      .source hdelegation (by rw [AuthorityGraph.resolveSource,hget])
  sourceDelegation delegation hdelegation hnone :=
    h.getDelegation fun source hget => h.lineage (.delegationGrant source) <|
      .source hdelegation (by rw [AuthorityGraph.resolveSource,hnone,hget]; rfl)

theorem selectedRecord (hselected : AuthorityGraph.selectedRecord store request = some record) :
    AuthorityGraph.selectedRecord part request = some record := by
  have hgrants : (actorGrants part request).Sublist (actorGrants store request) :=
    (h.grants.filter _).filter _
  have hdelegations : (actorDelegations part request).Sublist (actorDelegations store request) :=
    (h.delegations.filter _).filter _
  have hheld := h.lineage record .self
  rcases selectedRecord_cases hselected with ⟨grant,rfl,hgrant⟩ | ⟨delegation,rfl,hnone,hmatch⟩
  · have hspec := matchingGrant_spec hgrant
    have hmem : grant ∈ actorGrants part request := by
      have hheld : grant ∈ part.grants := hheld
      simp [actorGrants,getGrantsBySubjectActor,hheld,hspec.2.1,hspec.2.2.1]
    have hnodup : (actorGrants store request).Nodup :=
      ((List.Nodup.of_map _ store.grants_nodup).filter _).filter _
    have hfind : matchingGrant part request = some grant :=
      find?_of_sublist hgrants hnodup hgrant hmem
    rw [AuthorityGraph.selectedRecord,hfind]
  · have hspec := matchingDelegation_spec hmatch
    have hmem : delegation ∈ actorDelegations part request := by
      have hheld : delegation ∈ part.delegations := hheld
      simp [actorDelegations,getDelegationsByDelegateActor,hheld,hspec.2.1,hspec.2.2.1]
    have hnodup : (actorDelegations store request).Nodup :=
      ((List.Nodup.of_map _ store.delegations_nodup).filter _).filter _
    have hfind : matchingDelegation part request = some delegation :=
      find?_of_sublist hdelegations hnodup hmatch hmem
    have hnoneFound : matchingGrant part request = none := by
      rw [matchingGrant,List.find?_eq_none] at hnone ⊢
      exact fun grant hgrant => hnone grant (hgrants.mem hgrant)
    rw [AuthorityGraph.selectedRecord,hnoneFound,hfind]
    rfl

end

end Narrowed

/-- The same records, put into the store in another order. -/
structure Reordered (store other : AuthorityGraphStore) : Prop where
  grants : other.grants.Perm store.grants
  delegations : other.delegations.Perm store.delegations
  tables : SameTables store other

namespace Reordered

theorem getGrant (h : Reordered store other) (id : String) : other.getGrant id = store.getGrant id := by
  apply Option.ext
  intro grant
  rw [getGrant_eq_some_iff,getGrant_eq_some_iff,h.grants.mem_iff]

theorem getDelegation (h : Reordered store other) (id : String) :
    other.getDelegation id = store.getDelegation id := by
  apply Option.ext
  intro delegation
  rw [getDelegation_eq_some_iff,getDelegation_eq_some_iff,h.delegations.mem_iff]

theorem sameLineage (h : Reordered store other) (hrecord : store.Holds record) :
    SameLineage store other record where
  holds := by
    cases record with
    | authorityGrant grant => exact h.grants.mem_iff.2 hrecord
    | delegationGrant delegation => exact h.delegations.mem_iff.2 hrecord
  parent _ parentId _ _ := h.getGrant parentId
  sourceGrant delegation _ := h.getGrant delegation.sourceAuthorityGrantId
  sourceDelegation delegation _ _ := h.getDelegation delegation.sourceAuthorityGrantId

end Reordered

open scoped Classical in
/-- The store in which an actor holds nothing but a record, beside those it derives from. -/
noncomputable def alone (store : AuthorityGraphStore) (actorId : String)
    (record : DelegationLineageSource) : AuthorityGraphStore where
  grants := store.grants.filter fun grant =>
    grant.subjectActorId ≠ actorId ∨ Lineage store record (.authorityGrant grant)
  delegations := store.delegations.filter fun delegation =>
    delegation.delegateActorId ≠ actorId ∨ Lineage store record (.delegationGrant delegation)
  isRootIssuer := store.isRootIssuer
  isCrossDomainAuthorityAccepted := store.isCrossDomainAuthorityAccepted
  grants_nodup := store.grants_nodup.sublist (filter_sublist.map _)
  delegations_nodup := store.delegations_nodup.sublist (filter_sublist.map _)

theorem alone_narrowed {actorId : String} (hrecord : store.Holds record) :
    Narrowed store (alone store actorId record) record where
  grants := filter_sublist
  delegations := filter_sublist
  tables := ⟨rfl,rfl⟩
  lineage derived hderived := by
    have hholds := hderived.holds hrecord
    cases derived with
    | authorityGrant grant =>
      have hkept : grant.subjectActorId ≠ actorId ∨ Lineage store record (.authorityGrant grant) :=
        .inr hderived
      exact mem_filter.2 ⟨hholds,by simpa using hkept⟩
    | delegationGrant delegation =>
      have hkept : delegation.delegateActorId ≠ actorId ∨
          Lineage store record (.delegationGrant delegation) := .inr hderived
      exact mem_filter.2 ⟨hholds,by simpa using hkept⟩

theorem verifyAuthority_of_selectedRecord_none (h : selectedRecord store request = none) :
    (verifyAuthority store now request).valid = false := by
  rw [← Bool.not_eq_true]
  intro hvalid
  have hstatus := verifyAuthority_valid_iff.1 hvalid authorityChainRequiredPolicy
    (by simp [createDefaultAuthorityPolicyChain])
  unfold selectedRecord at h
  split at h
  · cases h
  · next hgrant =>
    have hdelegation := Option.map_eq_none_iff.1 h
    simp only [authorityChainRequiredPolicy,policyContext,resolveAuthorityChain,hgrant,
      hdelegation] at hstatus
    split_ifs at hstatus <;> cases hstatus

/-- A decision is the one that the selected record would get as the actor's only record, whatever
other records are taken out of the store or put in another order behind it; and without a covering
record there is no authority. -/
theorem authority_of_selected_record (store : AuthorityGraphStore) (now : String)
    (request : AuthorityChainRequest) :
    (∀ record, selectedRecord store request = some record →
      verifyAuthority (alone store request.actorId record) now request = verifyAuthority store now request ∧
        (∀ part, Narrowed store part record →
          verifyAuthority part now request = verifyAuthority store now request) ∧
        ∀ other, Reordered store other → selectedRecord other request = some record →
          verifyAuthority other now request = verifyAuthority store now request) ∧
      (selectedRecord store request = none → (verifyAuthority store now request).valid = false) := by
  have hpart : ∀ record, selectedRecord store request = some record → ∀ part, Narrowed store part record →
        verifyAuthority part now request = verifyAuthority store now request := by
    intro record hselected part hnarrowed
    exact hnarrowed.sameLineage.verifyAuthority hnarrowed.tables hselected
      (hnarrowed.selectedRecord hselected)
  refine ⟨fun record hselected => ⟨?_,hpart record hselected,?_⟩, verifyAuthority_of_selectedRecord_none⟩
  · exact hpart record hselected _ (alone_narrowed (selectedRecord_holds hselected))
  · intro other hreordered hother
    exact (hreordered.sameLineage (selectedRecord_holds hselected)).verifyAuthority
      hreordered.tables hselected hother

def withdrawnGrant : AuthorityGrant := { sampleRootGrant with id := "grant-old", status := .revoked }

def reissuedStore : AuthorityGraphStore :=
  sampleStore [withdrawnGrant, sampleRootGrant] [] (by decide) List.nodup_nil

def reissuedFirstStore : AuthorityGraphStore :=
  sampleStore [sampleRootGrant, withdrawnGrant] [] (by decide) List.nodup_nil

theorem authority_of_selected_record_reissued :
    verifyAuthority (alone reissuedStore "agent" (.authorityGrant withdrawnGrant))
        "2026-01-01T00:00:00.000Z" (samplePayRequest "agent") =
      verifyAuthority reissuedStore "2026-01-01T00:00:00.000Z" (samplePayRequest "agent") :=
  ((authority_of_selected_record reissuedStore "2026-01-01T00:00:00.000Z"
    (samplePayRequest "agent")).1 (.authorityGrant withdrawnGrant) rfl).1

/-- The new grant alone is valid; behind the revoked one it restores nothing, and before it it
does. -/
theorem reissued_authority_shadowed :
    (verifyAuthority rootedStore "2026-01-01T00:00:00.000Z" (samplePayRequest "agent")).valid = true ∧
      (verifyAuthority reissuedStore "2026-01-01T00:00:00.000Z" (samplePayRequest "agent")).valid = false ∧
      (verifyAuthority reissuedFirstStore "2026-01-01T00:00:00.000Z"
        (samplePayRequest "agent")).valid = true := by
  decide

end Frontera.AuthorityGraph
