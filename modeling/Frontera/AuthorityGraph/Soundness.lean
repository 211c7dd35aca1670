import Frontera.AuthorityGraph.Ancestry

/-! What `verifyAuthority` has established when it answers valid, over any content of the store:
forged, dangling, cyclic, colliding or long. -/

namespace Frontera.AuthorityGraph

open List Option

variable {store : AuthorityGraphStore} {now : String} {request : AuthorityChainRequest}

variable {requested : String} {delegations : List DelegationGrant} {resource : String}
  {grants : List AuthorityGrant} {grant : AuthorityGrant} {delegation : DelegationGrant}
  {hops : Nat} {grants' : List AuthorityGrant} {delegations' : List DelegationGrant}

theorem isInScope_iff {granted : List String} : isInScope requested granted = true ↔
      ∃ scope ∈ granted, requested = scope ∨ (scope ++ ":").toList <+: requested.toList := by
  simp [isInScope,List.any_eq_true, isPrefixOf_iff_prefix]

theorem isInScope_trans {scopes parent : List String} (h : isInScope requested scopes = true)
    (hall : scopes.all (isInScope · parent) = true) : isInScope requested parent = true := by
  obtain ⟨scope,hscope,hrequested⟩ := isInScope_iff.1 h
  obtain ⟨outer,houter,hscope'⟩ := isInScope_iff.1 (all_eq_true.1 hall scope hscope)
  refine isInScope_iff.2 ⟨outer,houter,?_⟩
  rcases hrequested with rfl | hrequested
  · exact hscope'
  · right
    rcases hscope' with rfl | hfront
    · exact hrequested
    · have hinner : scope.toList <+: requested.toList :=
        (String.toList_append ▸ prefix_append _ _ : scope.toList <+: (scope ++ ":").toList).trans
          hrequested
      exact hfront.trans hinner

/-- When no delegation exceeds its parent, a resource in the scopes of the first is in the
scopes of all of them and of the first grant. -/
theorem inScope_of_contained {firstGrant : Option AuthorityGrant}
    (hnone : exceedsParent firstGrant delegations = none)
    (hhead : ∀ d, delegations.head? = some d → isInScope resource d.resourceScopes = true) :
    (∀ d ∈ delegations, isInScope resource d.resourceScopes = true) ∧
      ∀ g, firstGrant = some g → delegations ≠ [] → isInScope resource g.resourceScopes = true := by
  induction delegations with
  | nil => exact ⟨by simp,fun _ _ hne => absurd rfl hne⟩
  | cons delegation rest ih =>
    have hfirst := hhead delegation rfl
    cases rest with
    | nil =>
      refine ⟨by simpa using hfirst,?_⟩
      rintro g rfl -
      simp only [exceedsParent,Bool.not_eq_true',ite_eq_right_iff,reduceCtorEq,imp_false,
        Bool.not_eq_false] at hnone
      exact isInScope_trans hfirst hnone
    | cons parent rest =>
      simp only [exceedsParent] at hnone
      split_ifs at hnone with hexceeds
      have hall : delegation.resourceScopes.all (isInScope · parent.resourceScopes) = true := by
        simpa using hexceeds
      obtain ⟨hrest,hgrant⟩ := ih hnone fun d hd => by
        obtain rfl : parent = d := by simpa using hd
        exact isInScope_trans hfirst hall
      refine ⟨?_,fun g hg _ => hgrant g hg (by simp)⟩
      intro d hd
      rcases mem_cons.1 hd with rfl | hd
      · exact hfirst
      · exact hrest d hd

theorem misissued_eq_none (h : misissued grants = none) :
    grants.IsChain fun child parent => child.issuerActorId = parent.subjectActorId := by
  induction grants with
  | nil => exact .nil
  | cons child rest ih =>
    cases rest with
    | nil => exact .singleton child
    | cons parent rest =>
      simp only [misissued] at h
      split_ifs at h with hissuer
      exact isChain_cons_cons.2 ⟨by simpa using hissuer,ih h⟩

/-- The records from the one that covers the action, to the root. -/
def Traces (store : AuthorityGraphStore) (request : AuthorityChainRequest)
    (delegations : List DelegationGrant) (grants : List AuthorityGrant) : Prop :=
  (∃ grant, matchingGrant store request = some grant ∧ delegations = [] ∧ GrantPath store grant grants) ∨
  (matchingGrant store request = none ∧ ∃ delegation, matchingDelegation store request = some delegation ∧
      DelegationPath store delegation delegations grants)

theorem matchingGrant_spec (h : matchingGrant store request = some grant) :
    grant ∈ store.grants ∧ grant.subjectActorId = request.actorId ∧
      grant.trustDomainId = request.trustDomainId ∧ request.action ∈ grant.actions := by
  have haction := List.find?_some h
  have hmem := mem_of_find?_eq_some h
  simp only [actorGrants,AuthorityGraphStore.getGrantsBySubjectActor,mem_filter, beq_iff_eq] at hmem
  exact ⟨hmem.1.1,hmem.1.2,hmem.2,by simpa using haction⟩

theorem matchingDelegation_spec (h : matchingDelegation store request = some delegation) :
    delegation ∈ store.delegations ∧ delegation.delegateActorId = request.actorId ∧
      delegation.trustDomainId = request.trustDomainId ∧ request.action ∈ delegation.actions := by
  have haction := List.find?_some h
  have hmem := mem_of_find?_eq_some h
  simp only [actorDelegations,AuthorityGraphStore.getDelegationsByDelegateActor,mem_filter,
    beq_iff_eq] at hmem
  exact ⟨hmem.1.1,hmem.1.2,hmem.2,by simpa using haction⟩

theorem getGrant_of_mem (h : grant ∈ store.grants) : store.getGrant grant.id = some grant := by
  unfold AuthorityGraphStore.getGrant
  cases hfind : store.grants.find? fun g => g.id == grant.id with
  | none => simpa using List.find?_eq_none.1 hfind grant h
  | some found =>
    have hid : found.id = grant.id := by simpa using List.find?_some hfind
    rw [inj_on_of_nodup_map store.grants_nodup (mem_of_find?_eq_some hfind) h hid]

theorem collectGrantAncestryFrom_head : (collectGrantAncestryFrom store hops grant).head? = some grant := by
  cases hops with
  | zero => rfl
  | succ hops =>
    simp only [collectGrantAncestryFrom]
    split
    · rfl
    · split_ifs
      · rfl
      · split <;> rfl

theorem collectDelegationAncestryFrom_head :
    (collectDelegationAncestryFrom store hops delegation).2.head? = some delegation := by
  cases hops with
  | zero => rfl
  | succ hops =>
    simp only [collectDelegationAncestryFrom]
    split
    · rfl
    · split <;> rfl

/-- The path of a decision, as the strict walk found it and as the policies saw it. -/
structure Resolved (store : AuthorityGraphStore) (request : AuthorityChainRequest)
    (delegations : List DelegationGrant) (grants : List AuthorityGrant) : Prop where
  traces : Traces store request delegations grants
  walked : Walked store (maxAncestryHops + 1) [] delegations grants
  root : ∃ grant, grants.head? = some grant ∧
    (resolveAuthorityChain store request).grants.head? = some grant ∧
    ∀ d, delegations.head? = some d → d.delegationDepth ≤ grant.maxDelegationDepth.getD 0
  delegations_seen : (resolveAuthorityChain store request).delegations = delegations
  grants_seen : (∀ g ∈ grants, g.parentGrantId ≠ some "") →
    (resolveAuthorityChain store request).grants = grants

theorem GrantPath.collectedAll (h : GrantPath store grant grants)
    (hlength : grants.length ≤ maxAncestryHops + 1)
    (hnamed : ∀ g ∈ grants, g.parentGrantId ≠ some "") :
    collectGrantAncestry store grant = grants :=
  h.collected hnamed hlength

theorem resolved_of_valid (hvalid : (verifyAuthority store now request).valid = true) :
    ∃ delegations grants, Resolved store request delegations grants := by
  have hpass := verifyAuthority_valid_iff.1 hvalid
  have hstatus := hpass authorityChainRequiredPolicy (by simp [createDefaultAuthorityPolicyChain])
  have hlineage := hpass delegationLineagePolicy (by simp [createDefaultAuthorityPolicyChain])
  have hrooted : (assess store (resolveAuthorityChain store request)).rooted = true := by
    simp only [delegationLineagePolicy,policyContext] at hlineage
    split at hlineage
    · cases hlineage
    · by_contra hunrooted
      simp [hunrooted] at hlineage
  cases hgrant : matchingGrant store request with
  | some grant =>
    have hchain : resolveAuthorityChain store request =
        buildChain request (collectGrantAncestry store grant) [] .valid := by
      simp [resolveAuthorityChain,hgrant]
    have hhead : (collectGrantAncestry store grant).head? = some grant :=
      collectGrantAncestryFrom_head
    simp only [hchain,assess,buildChain,List.head?_nil,hhead] at hrooted
    obtain ⟨grant',grants,hget,hpath,hlength,hnodup,-⟩ := assertGrantRooted_rooted hrooted
    obtain rfl : grant = grant' := by
      rw [getGrant_of_mem (matchingGrant_spec hgrant).1] at hget
      exact some.inj hget
    refine ⟨[],grants,.inl ⟨grant,hgrant,rfl,hpath⟩,⟨by simpa using hlength,
      by simpa using hnodup,by simp,by simp⟩,⟨grant,hpath.head,?_,by simp⟩,?_,?_⟩
    · rw [hchain]
      exact hhead
    · rw [hchain]
      rfl
    · intro hnamed
      rw [hchain]
      exact hpath.collectedAll (by simpa using hlength) hnamed
  | none =>
    cases hdelegation : matchingDelegation store request with
    | some delegation =>
      have hchain : resolveAuthorityChain store request =
          buildChain request (collectDelegationAncestry store delegation).1
            (collectDelegationAncestry store delegation).2 .valid := by
        simp [resolveAuthorityChain,hgrant,hdelegation]
      have hhead : (collectDelegationAncestry store delegation).2.head? = some delegation :=
        collectDelegationAncestryFrom_head
      simp only [hchain,assess,buildChain,hhead] at hrooted
      obtain ⟨delegations,grants,grant,hpath,hfirst,hdepth,hwalked⟩ :=
        assessDelegation_rooted hrooted
      have hpositive : 0 < grants.length := by
        cases grants with
        | nil => cases hfirst
        | cons g rest => simp
      have hhorizon := hwalked.horizon
      obtain ⟨source,hsource,hcollected⟩ : ∃ source, GrantPath store source grants ∧
          collectDelegationAncestry store delegation =
            (collectGrantAncestry store source, delegations) := hpath.collected (by omega)
      obtain rfl : source = grant := by
        rw [hsource.head] at hfirst
        exact some.inj hfirst
      refine ⟨delegations,grants,.inr ⟨hgrant,delegation,hdelegation,hpath⟩,hwalked,
        ⟨source,hfirst,?_,?_⟩,?_,?_⟩
      · rw [hchain,hcollected]
        exact collectGrantAncestryFrom_head
      · intro d hd
        rw [hpath.head] at hd
        rw [← some.inj hd]
        exact hdepth
      · rw [hchain,hcollected]
        rfl
      · intro hnamed
        rw [hchain,hcollected]
        exact hsource.collectedAll (by omega) hnamed
    | none =>
      simp only [authorityChainRequiredPolicy,policyContext,resolveAuthorityChain,hgrant,
        hdelegation] at hstatus
      split_ifs at hstatus <;> cases hstatus

/-- What a valid decision promises of the records it rests on. -/
structure SoundPath (store : AuthorityGraphStore) (now : String) (request : AuthorityChainRequest)
    (delegations : List DelegationGrant) (grants : List AuthorityGrant) : Prop where
  traces : Traces store request delegations grants
  delegation_covers : ∀ d, delegations.head? = some d →
    d.delegateActorId = request.actorId ∧ request.action ∈ d.actions
  grant_covers : delegations = [] → ∀ g, grants.head? = some g →
    g.subjectActorId = request.actorId ∧ request.action ∈ g.actions
  once : (delegations.map (·.id) ++ grants.map (·.id)).Nodup
  horizon : delegations.length + grants.length ≤ maxAncestryHops + 1
  rooted : ∃ root, grants.getLast? = some root ∧ root.parentGrantId = none ∧
    store.isRootIssuer request.trustDomainId root.issuerActorId = true
  derived : ∀ d ∈ delegations, Derives store d
  grants_live : ∀ g ∈ grants, g.status.isWithdrawn = false ∧ isExpired now g.status g.expiresAt = false
  delegations_live : ∀ d ∈ delegations, d.status.isWithdrawn = false ∧
    isExpired now d.status d.expiresAt = false
  grants_issued : ∀ g ∈ grants, g.issuerActorId ≠ g.subjectActorId
  delegations_issued : ∀ d ∈ delegations, d.delegatorActorId ≠ d.delegateActorId
  domain : store.isCrossDomainAuthorityAccepted request.trustDomainId = true ∨
    (∀ g ∈ grants, g.trustDomainId = request.trustDomainId) ∧
      ∀ d ∈ delegations, d.trustDomainId = request.trustDomainId
  issuers : grants.IsChain fun child parent => child.issuerActorId = parent.subjectActorId
  delegation_scopes : ∀ d ∈ delegations, isInScope request.resourceScope d.resourceScopes = true
  grant_scopes : ∀ g, grants.head? = some g → isInScope request.resourceScope g.resourceScopes = true
  delegable : delegations ≠ [] →
    (∀ d ∈ delegations, ∀ actions, d.nonDelegableActions = some actions → request.action ∉ actions) ∧
      ∀ g ∈ grants, ∀ actions, g.nonDelegableActions = some actions → request.action ∉ actions

section

variable (h : Traces store request delegations grants)
include h

theorem Traces.delegation_covers : ∀ d, delegations.head? = some d →
    d.delegateActorId = request.actorId ∧ request.action ∈ d.actions := by
  intro d hd
  rcases h with ⟨grant,-,rfl,-⟩ | ⟨-,delegation,hmatch,hpath⟩
  · cases hd
  · rw [hpath.head] at hd
    obtain rfl := some.inj hd
    exact ⟨(matchingDelegation_spec hmatch).2.1,(matchingDelegation_spec hmatch).2.2.2⟩

theorem Traces.grant_covers (hnone : delegations = []) :
    ∀ g, grants.head? = some g → g.subjectActorId = request.actorId ∧ request.action ∈ g.actions := by
  intro g hg
  rcases h with ⟨grant,hmatch,-,hpath⟩ | ⟨-,delegation,-,hpath⟩
  · rw [hpath.head] at hg
    obtain rfl := some.inj hg
    exact ⟨(matchingGrant_spec hmatch).2.1,(matchingGrant_spec hmatch).2.2.2⟩
  · have hhead := hpath.head
    rw [hnone] at hhead
    cases hhead

theorem Traces.last : ∃ root, grants.getLast? = some root ∧ root.parentGrantId = none := by
  rcases h with ⟨grant,-,-,hpath⟩ | ⟨-,delegation,-,hpath⟩
  · exact hpath.last
  · obtain ⟨grant,hpath⟩ := hpath.grantPath
    exact hpath.last

end

theorem Resolved.inScope (h : Resolved store request delegations grants)
    (hvalid : (verifyAuthority store now request).valid = true) :
    (∀ d ∈ delegations, isInScope request.resourceScope d.resourceScopes = true) ∧
      ∀ g, grants.head? = some g → isInScope request.resourceScope g.resourceScopes = true := by
  have hscope := verifyAuthority_valid_iff.1 hvalid delegationScopePolicy
    (by simp [createDefaultAuthorityPolicyChain])
  obtain ⟨grant,hhead,hseen,-⟩ := h.root
  simp only [delegationScopePolicy,policyContext,terminalScopes,h.delegations_seen, hseen] at hscope
  rw [hhead]
  cases delegations with
  | nil =>
    simp only [List.head?_nil,map_none,map_some,none_or] at hscope
    split_ifs at hscope with hin
    refine ⟨by simp,?_⟩
    intro g hg
    rw [← some.inj hg]
    simpa using hin
  | cons delegation rest =>
    simp only [List.head?_cons,map_some,some_or] at hscope
    split_ifs at hscope with hin
    rw [map_eq_none_iff] at hscope
    obtain ⟨hall,hgrant⟩ := inScope_of_contained hscope fun d hd => by
      obtain rfl : delegation = d := by simpa using hd
      simpa using hin
    exact ⟨hall,fun g hg => hgrant g hg (by simp)⟩

/-- No grant on the path names the empty id as its parent. -/
def ParentsNamed (store : AuthorityGraphStore) (request : AuthorityChainRequest) : Prop :=
  ∀ delegations grants, Traces store request delegations grants → ∀ g ∈ grants, g.parentGrantId ≠ some ""

/-- A valid decision rests on a sound path, whatever records the store holds, unless a grant on
that path names the empty id as its parent. -/
theorem valid_authority_sound (hvalid : (verifyAuthority store now request).valid = true)
    (hnamed : ParentsNamed store request) :
    ∃ delegations grants, SoundPath store now request delegations grants := by
  obtain ⟨delegations,grants,hresolved⟩ := resolved_of_valid hvalid
  have hgrants := hresolved.grants_seen (hnamed _ _ hresolved.traces)
  have hdelegations := hresolved.delegations_seen
  obtain ⟨hscopes,hgrantScopes⟩ := hresolved.inScope hvalid
  have hpass := verifyAuthority_valid_iff.1 hvalid
  have hself := hpass selfIssuancePolicy (by simp [createDefaultAuthorityPolicyChain])
  have hissuer := hpass issuerAuthorityPolicy (by simp [createDefaultAuthorityPolicyChain])
  have hrevoked := hpass ancestorRevocationPolicy (by simp [createDefaultAuthorityPolicyChain])
  have hexpired := hpass ancestorExpirationPolicy (by simp [createDefaultAuthorityPolicyChain])
  have hwithheld := hpass nonDelegableActionPolicy (by simp [createDefaultAuthorityPolicyChain])
  have hdomain := hpass crossDomainAuthorityPolicy (by simp [createDefaultAuthorityPolicyChain])
  simp only [selfIssuancePolicy,firstBad_eq_none,policyContext,hgrants,hdelegations] at hself
  simp only [ancestorRevocationPolicy,firstBad_eq_none,policyContext,hgrants, hdelegations] at hrevoked
  simp only [ancestorExpirationPolicy,firstBad_eq_none,policyContext,hgrants, hdelegations] at hexpired
  obtain ⟨root,hlast,hroot⟩ := hresolved.traces.last
  have hdomainId : (resolveAuthorityChain store request).trustDomainId = request.trustDomainId := by
    unfold resolveAuthorityChain
    split
    · rfl
    · split
      · rfl
      · split_ifs <;> rfl
  simp only [issuerAuthorityPolicy,policyContext,hgrants,hlast,hroot,hdomainId] at hissuer
  split at hissuer
  · cases hissuer
  · rename_i hmisissued
    refine ⟨delegations,grants,hresolved.traces,hresolved.traces.delegation_covers,
      hresolved.traces.grant_covers,hresolved.walked.once,hresolved.walked.horizon,
      ⟨root,hlast,hroot,?_⟩,hresolved.walked.derived,?_,?_,?_,?_,?_,
      misissued_eq_none hmisissued,hscopes,hgrantScopes,?_⟩
    · by_contra hunregistered
      simp [hunregistered] at hissuer
    · exact fun g hg => ⟨hrevoked.1 g hg,hexpired.1 g hg⟩
    · exact fun d hd => ⟨hrevoked.2 d hd,hexpired.2 d hd⟩
    · exact fun g hg => by simpa using hself.1 g hg
    · exact fun d hd => by simpa using hself.2 d hd
    · rcases crossDomainAuthorityPolicy_passed hdomain with haccepted | ⟨hwithin,hwithin'⟩
      · exact .inl haccepted
      · simp only [policyContext,hgrants] at hwithin
        simp only [policyContext,hdelegations] at hwithin'
        exact .inr ⟨hwithin,hwithin'⟩
    · intro hdelegated
      simp only [nonDelegableActionPolicy,policyContext,withheldActions,hgrants,hdelegations,
        List.isEmpty_iff,hdelegated,if_false,map_eq_none_iff,List.find?_eq_none,
        mem_append,List.mem_map] at hwithheld
      constructor
      · intro d hd actions hactions
        have := hwithheld _ (.inl ⟨d,hd,rfl⟩)
        simpa [hactions] using this
      · intro g hg actions hactions
        have := hwithheld _ (.inr ⟨g,hg,rfl⟩)
        simpa [hactions] using this

def sampleRootGrant : AuthorityGrant where
  id := "grant-root"
  issuerActorId := "org"
  subjectActorId := "agent"
  trustDomainId := "domain"
  actions := ["pay"]
  resourceScopes := ["bank"]
  canDelegate := true
  maxDelegationDepth := some 1
  nonDelegableActions := none
  status := .active
  expiresAt := none
  parentGrantId := none

def samplePayRequest (actorId : String) : AuthorityChainRequest where
  actorId := actorId
  principalActorId := none
  trustDomainId := "domain"
  action := "pay"
  resourceScope := "bank"

/-- A store of grants and delegations in which `org` is the root issuer of its domain. -/
def sampleStore (grants : List AuthorityGrant) (delegations : List DelegationGrant)
    (hgrants : (grants.map (·.id)).Nodup) (hdelegations : (delegations.map (·.id)).Nodup) :
    AuthorityGraphStore where
  grants := grants
  delegations := delegations
  isRootIssuer trustDomainId actorId := trustDomainId == "domain" && actorId == "org"
  isCrossDomainAuthorityAccepted _ := false
  grants_nodup := hgrants
  delegations_nodup := hdelegations

def rootedStore : AuthorityGraphStore :=
  sampleStore [sampleRootGrant] [] (by decide) (by decide)

theorem valid_authority_sound_root : ∃ delegations grants,
    SoundPath rootedStore "2026-01-01T00:00:00.000Z" (samplePayRequest "agent") delegations
      grants := by
  refine valid_authority_sound (by decide) ?_
  rintro delegations grants (⟨grant,hmatch,-,hpath⟩ | ⟨hnone,-⟩)
  · obtain rfl : sampleRootGrant = grant := Option.some.inj hmatch
    cases hpath with
    | root hroot =>
      intro g hg
      rw [List.mem_singleton.1 hg,hroot]
      exact nofun
    | parent hparent => cases hparent
  · cases hnone

/-- Issued by an actor who holds nothing, under a parent with the empty id. -/
def forgedGrant : AuthorityGrant :=
  { sampleRootGrant with
    id := "grant-forged"
    issuerActorId := "mallory"
    parentGrantId := some "" }

/-- The record under the empty id: revoked, and issued by no root issuer. -/
def blankGrant : AuthorityGrant :=
  { sampleRootGrant with
    id := ""
    issuerActorId := "mallory"
    subjectActorId := "nobody"
    status := .revoked }

def forgedStore : AuthorityGraphStore :=
  sampleStore [forgedGrant, blankGrant] [] (by decide) (by decide)

/-- The policies never see the record under the empty id, and the lineage ends at it. -/
theorem forged_authority_valid :
    (verifyAuthority forgedStore "2026-01-01T00:00:00.000Z" (samplePayRequest "agent")).valid = true ∧
    ¬ ∃ delegations grants, SoundPath forgedStore "2026-01-01T00:00:00.000Z"
      (samplePayRequest "agent") delegations grants := by
  refine ⟨by decide,?_⟩
  rintro ⟨delegations,grants,hsound⟩
  have hlive : ∀ g ∈ grants, g.status.isWithdrawn = false := fun g hg => (hsound.grants_live g hg).1
  rcases hsound.traces with ⟨grant,hmatch,-,hpath⟩ | ⟨hnone,-⟩
  · obtain rfl : forgedGrant = grant := Option.some.inj hmatch
    cases hpath with
    | root hroot => cases hroot
    | parent hparent hget hrest =>
      obtain rfl := Option.some.inj hparent
      obtain rfl : blankGrant = _ := Option.some.inj hget
      have hblank : blankGrant ∈ forgedGrant :: _ :=
        mem_cons_of_mem _ (List.mem_of_head? hrest.head)
      exact absurd (hlive _ hblank) (by decide)
  · cases hnone

/-- Each child carries only actions of its parent, whose scopes cover the resource. -/
def GrantsNarrow (resource : String) (grants : List AuthorityGrant) : Prop :=
  grants.IsChain fun child parent =>
    (∀ action ∈ child.actions, action ∈ parent.actions) ∧ isInScope resource parent.resourceScopes = true

/-- The delegations chained to the acting one are no more than the grant they derive from
permits. -/
def WithinDepth (delegations : List DelegationGrant) (grants : List AuthorityGrant) : Prop :=
  delegations ≠ [] → ∀ g, grants.head? = some g → (delegations.length : Int) ≤ g.maxDelegationDepth.getD 0

structure NarrowPath (store : AuthorityGraphStore) (request : AuthorityChainRequest)
    (delegations : List DelegationGrant) (grants : List AuthorityGrant) : Prop where
  traces : Traces store request delegations grants
  delegations_narrow : ∀ d ∈ delegations, ∃ source,
    resolveSource store d.sourceAuthorityGrantId = some source ∧
      (∀ action ∈ d.actions, action ∈ source.actions) ∧
      isInScope request.resourceScope source.resourceScopes = true
  grants_narrow : GrantsNarrow request.resourceScope grants
  depth : WithinDepth delegations grants

theorem GrantPath.unique (h : GrantPath store grant grants) (h' : GrantPath store grant grants') :
    grants = grants' := by
  induction h generalizing grants' with
  | root hroot =>
    cases h' with
    | root => rfl
    | parent hparent =>
      rw [hroot] at hparent
      cases hparent
  | parent hparent hget hrest ih =>
    cases h' with
    | root hroot =>
      rw [hroot] at hparent
      cases hparent
    | parent hparent' hget' hrest' =>
      rw [hparent] at hparent'
      obtain rfl := some.inj hparent'
      rw [hget] at hget'
      obtain rfl := some.inj hget'
      rw [ih hrest']

theorem DelegationPath.unique (h : DelegationPath store delegation delegations grants)
    (h' : DelegationPath store delegation delegations' grants') :
    delegations = delegations' ∧ grants = grants' := by
  induction h generalizing delegations' grants' with
  | grant hget hrest =>
    cases h' with
    | grant hget' hrest' =>
      rw [hget] at hget'
      obtain rfl := some.inj hget'
      exact ⟨rfl,hrest.unique hrest'⟩
    | delegation hnone =>
      rw [hget] at hnone
      cases hnone
  | delegation hnone hget hrest ih =>
    cases h' with
    | grant hget' =>
      rw [hnone] at hget'
      cases hget'
    | delegation hnone' hget' hrest' =>
      rw [hget] at hget'
      obtain rfl := some.inj hget'
      obtain ⟨rfl,rfl⟩ := ih hrest'
      exact ⟨rfl,rfl⟩

theorem Traces.unique (h : Traces store request delegations grants)
    (h' : Traces store request delegations' grants') :
    delegations = delegations' ∧ grants = grants' := by
  rcases h with ⟨grant,hmatch,rfl,hpath⟩ | ⟨hnone,delegation,hmatch,hpath⟩
  · rcases h' with ⟨grant',hmatch',rfl,hpath'⟩ | ⟨hnone',-⟩
    · rw [hmatch] at hmatch'
      obtain rfl := some.inj hmatch'
      exact ⟨rfl,hpath.unique hpath'⟩
    · rw [hmatch] at hnone'
      cases hnone'
  · rcases h' with ⟨grant',hmatch',-⟩ | ⟨-,delegation',hmatch',hpath'⟩
    · rw [hnone] at hmatch'
      cases hmatch'
    · rw [hmatch] at hmatch'
      obtain rfl := some.inj hmatch'
      exact hpath.unique hpath'

theorem resolveSource_mem_scopes (h : DelegationPath store delegation delegations grants)
    (hdelegations : ∀ d ∈ delegations, isInScope resource d.resourceScopes = true)
    (hgrants : ∀ g, grants.head? = some g → isInScope resource g.resourceScopes = true) :
    ∀ d ∈ delegations, ∀ source, resolveSource store d.sourceAuthorityGrantId = some source →
      isInScope resource source.resourceScopes = true := by
  induction h with
  | grant hget hrest =>
    intro d hd source hsource
    obtain rfl := mem_singleton.1 hd
    simp only [resolveSource,hget,some.injEq] at hsource
    rw [← hsource]
    exact hgrants _ hrest.head
  | delegation hnone hget hrest ih =>
    intro d hd source hsource
    rcases mem_cons.1 hd with rfl | hd
    · simp only [resolveSource,hnone,hget,map_some,some.injEq] at hsource
      rw [← hsource]
      exact hdelegations _ (mem_cons_of_mem _ (mem_of_head? hrest.head))
    · exact ih (fun e he => hdelegations e (mem_cons_of_mem _ he)) hgrants d hd source hsource

/-- A grant beyond its parent: it adds the action `pay` and the resource `bank`. -/
def wideGrant : AuthorityGrant :=
  { sampleRootGrant with
    id := "grant-wide"
    issuerActorId := "reader"
    parentGrantId := some "grant-read" }

def readGrant : AuthorityGrant :=
  { sampleRootGrant with
    id := "grant-read"
    subjectActorId := "reader"
    actions := ["read"]
    resourceScopes := ["library"] }

def firstHop (id delegator delegate source : String) : DelegationGrant where
  id := id
  delegatorActorId := delegator
  delegateActorId := delegate
  principalActorId := "agent"
  trustDomainId := "domain"
  sourceAuthorityGrantId := source
  actions := ["pay"]
  resourceScopes := ["bank"]
  delegationDepth := 1
  canRedelegate := true
  maxDelegationDepth := some 1
  nonDelegableActions := none
  status := .active
  expiresAt := none

def widenedStore : AuthorityGraphStore :=
  sampleStore [readGrant, wideGrant]
    [firstHop "delegation-1" "agent" "helper" "grant-wide",
      firstHop "delegation-2" "helper" "runner" "delegation-1"] (by decide) (by decide)

end Frontera.AuthorityGraph
