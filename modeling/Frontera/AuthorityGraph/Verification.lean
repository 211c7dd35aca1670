import Frontera.AuthorityGraph.Graph

/-! The ten policies in their order, each as the denial it answers, if it does, and the decision
taken over a resolved chain. -/

namespace Frontera.AuthorityGraph

inductive AuthorityDecisionType where
  | authorityValid | authorityMissing | issuerNotAuthorized | delegationNotAllowed
  | delegationDepthExceeded | scopeExpansionDetected | nonDelegableAction | ancestorRevoked
  | ancestorExpired | selfIssuanceDetected | delegationLineageBroken | crossDomainAuthorityDenied
deriving DecidableEq

structure AuthorityPolicyContext where
  now : String
  chain : AuthorityChain
  (rootIssuerAccepted crossDomainAccepted : Bool)
  lineage : DelegationLineageAssessment

/-- What a policy that does not pass says. -/
structure PolicyDenial where
  (policyId reasonCode reason : String)
  decisionType : AuthorityDecisionType

/-- `evaluate`; `none` is an outcome that passed. -/
abbrev AuthorityPolicy := AuthorityChainRequest → AuthorityPolicyContext → Option PolicyDenial

def authorityChainRequiredPolicy : AuthorityPolicy := fun request context =>
  match context.chain.status with
  | .invalid =>
      some ⟨"authority_chain_required","AUTHORITY_CHAIN_MISSING",
        "No authority chain could be resolved for actor " ++ request.actorId ++ " to perform " ++
          request.action ++ ".",.authorityMissing⟩
  | .partially =>
      some ⟨"authority_chain_required","AUTHORITY_CHAIN_MISSING",
        "Actor " ++ request.actorId ++ " holds authority in trust domain " ++
          request.trustDomainId ++ ", but none of it covers " ++ request.action ++ ".",
        .authorityMissing⟩
  | .valid => none

/-- A policy that refuses the first grant, and then the first delegation, that is `bad`. -/
def firstBad (badGrant : AuthorityGrant → Bool) (badDelegation : DelegationGrant → Bool)
    (ofGrant : AuthorityGrant → PolicyDenial) (ofDelegation : DelegationGrant → PolicyDenial)
    (chain : AuthorityChain) : Option PolicyDenial :=
  match chain.grants.find? badGrant with
  | some grant => some (ofGrant grant)
  | none => (chain.delegations.find? badDelegation).map ofDelegation

def selfIssuancePolicy : AuthorityPolicy := fun _ context =>
  firstBad (fun grant => grant.issuerActorId == grant.subjectActorId)
    (fun delegation => delegation.delegatorActorId == delegation.delegateActorId)
    (fun grant => ⟨"self_issuance_denied","SELF_ISSUED_AUTHORITY_GRANT",
      "Authority grant " ++ grant.id ++ " was issued by actor " ++ grant.issuerActorId ++
        " to itself.",.selfIssuanceDetected⟩)
    (fun delegation => ⟨"self_issuance_denied","SELF_ISSUED_DELEGATION_GRANT",
      "Delegation grant " ++ delegation.id ++ " was delegated by actor " ++
        delegation.delegatorActorId ++ " to itself.",.selfIssuanceDetected⟩)
    context.chain

/-- The first grant whose issuer is not the subject of the grant after it. -/
def misissued : List AuthorityGrant → Option (AuthorityGrant × AuthorityGrant)
  | child :: parent :: rest =>
      if child.issuerActorId ≠ parent.subjectActorId then some (child, parent)
      else misissued (parent :: rest)
  | _ => none

def issuerAuthorityPolicy : AuthorityPolicy := fun _ context =>
  match misissued context.chain.grants with
  | some (child, parent) =>
      some ⟨"issuer_authority_required","ISSUER_DOES_NOT_HOLD_PARENT_AUTHORITY",
        "Grant " ++ child.id ++ " was issued by " ++ child.issuerActorId ++
          ", who does not hold parent grant " ++ parent.id ++ ".",.issuerNotAuthorized⟩
  | none =>
      match context.chain.grants.getLast? with
      | none => none
      | some rootGrant =>
          if rootGrant.parentGrantId = none && !context.rootIssuerAccepted then
            some ⟨"issuer_authority_required","ROOT_ISSUER_NOT_ACCEPTED",
              "Grant " ++ rootGrant.id ++ " was issued by " ++ rootGrant.issuerActorId ++
                ", who is not a registered root issuer for trust domain " ++
                context.chain.trustDomainId ++ ".",.issuerNotAuthorized⟩
          else none

def GrantStatus.isWithdrawn : GrantStatus → Bool
  | .revoked => true
  | .suspended => true
  | _ => false

def ancestorRevocationPolicy : AuthorityPolicy := fun _ context =>
  firstBad (fun grant => grant.status.isWithdrawn) (fun delegation => delegation.status.isWithdrawn)
    (fun grant => ⟨"ancestor_revocation_denied","ANCESTOR_AUTHORITY_GRANT_REVOKED",
      "Authority grant " ++ grant.id ++ " is " ++ grant.status.text ++
        ", invalidating everything derived from it.",.ancestorRevoked⟩)
    (fun delegation => ⟨"ancestor_revocation_denied","ANCESTOR_DELEGATION_GRANT_REVOKED",
      "Delegation grant " ++ delegation.id ++ " is " ++ delegation.status.text ++
        ", invalidating everything derived from it.",.ancestorRevoked⟩)
    context.chain

/-- Expired by status, or by an instant that is not after `now` (as texts). -/
def isExpired (now : String) (status : GrantStatus) (expiresAt : Option String) : Bool :=
  status == .expired || expiresAt.any fun instant => !stringLt now instant

def ancestorExpirationPolicy : AuthorityPolicy := fun _ context =>
  firstBad (fun grant => isExpired context.now grant.status grant.expiresAt)
    (fun delegation => isExpired context.now delegation.status delegation.expiresAt)
    (fun grant => ⟨"ancestor_expiration_denied","ANCESTOR_AUTHORITY_GRANT_EXPIRED",
      "Authority grant " ++ grant.id ++ " has expired, invalidating everything derived from it.",
      .ancestorExpired⟩)
    (fun delegation => ⟨"ancestor_expiration_denied","ANCESTOR_DELEGATION_GRANT_EXPIRED",
      "Delegation grant " ++ delegation.id ++
        " has expired, invalidating everything derived from it.",.ancestorExpired⟩)
    context.chain

/-- `describe` -/
def describe (breach : DelegationLineageBreach) : PolicyDenial :=
  let denial := PolicyDenial.mk "delegation_lineage_valid"
  match breach with
  | .sourceMissing delegationGrantId sourceAuthorityGrantId =>
      denial "DELEGATION_SOURCE_AUTHORITY_MISSING"
        ("Delegation grant " ++ delegationGrantId ++ " derives from " ++ sourceAuthorityGrantId ++
          ", which this deployment holds no record of.") .delegationLineageBroken
  | .cycle delegationGrantId =>
      denial "DELEGATION_LINEAGE_CYCLE"
        ("Delegation grant " ++ delegationGrantId ++
          " is reached from itself, so its authority has no origin.") .delegationLineageBroken
  | .delegatorNotSourceHolder delegationGrantId delegatorActorId sourceHolderActorId =>
      denial "DELEGATOR_DOES_NOT_HOLD_SOURCE_AUTHORITY"
        ("Delegation grant " ++ delegationGrantId ++ " was issued by " ++ delegatorActorId ++
          ", but its source authority is held by " ++ sourceHolderActorId ++ ".")
        .issuerNotAuthorized
  | .actionExpanded delegationGrantId action =>
      denial "DELEGATION_ACTION_EXCEEDS_PARENT"
        ("Delegation grant " ++ delegationGrantId ++ " carries action " ++ action ++
          ", which its source authority does not permit.") .scopeExpansionDetected
  | .sourceNotDelegable delegationGrantId sourceAuthorityGrantId =>
      denial "SOURCE_AUTHORITY_NOT_DELEGABLE"
        ("Delegation grant " ++ delegationGrantId ++ " derives from " ++ sourceAuthorityGrantId ++
          ", which does not permit being delegated.") .delegationNotAllowed
  | .depthExceedsSource depth maxDelegationDepth =>
      denial "DELEGATION_DEPTH_EXCEEDS_SOURCE_AUTHORITY"
        ("The chain reaches depth " ++ toString depth ++ ", beyond the " ++
          toString maxDelegationDepth ++ " its root authority grant permits.")
        .delegationDepthExceeded
  | .beyondPolicyHorizon hops =>
      denial "DELEGATION_LINEAGE_BEYOND_POLICY_HORIZON"
        ("The lineage is " ++ toString hops ++
          " hops deep, beyond what the resolver materializes for the other policies to judge.")
        .delegationLineageBroken

def delegationLineagePolicy : AuthorityPolicy := fun request context =>
  match context.lineage.breach with
  | some breach => some (describe breach)
  | none =>
      if context.lineage.rooted then none
      else
        some ⟨"delegation_lineage_valid","DELEGATION_LINEAGE_UNROOTED",
          "The delegation chain behind " ++ request.actorId ++
            " does not terminate at a recognized authority grant.",.delegationLineageBroken⟩

def isInScope (requested : String) (granted : List String) : Bool :=
  granted.any fun scope =>
    requested == scope || (scope ++ ":").toList.isPrefixOf requested.toList

/-- The first delegation with a scope outside the record it is judged against: the delegation
after it, or else the first grant. -/
def exceedsParent (firstGrant : Option AuthorityGrant) : List DelegationGrant → Option DelegationGrant
  | [] => none
  | [delegation] =>
      match firstGrant with
      | none => none
      | some parent =>
          if !delegation.resourceScopes.all (isInScope · parent.resourceScopes) then some delegation
          else none
  | delegation :: parent :: rest =>
      if !delegation.resourceScopes.all (isInScope · parent.resourceScopes) then some delegation
      else exceedsParent firstGrant (parent :: rest)

/-- The scopes of the record that acts. -/
def terminalScopes (chain : AuthorityChain) : Option (List String) :=
  (chain.delegations.head?.map (·.resourceScopes)).or (chain.grants.head?.map (·.resourceScopes))

def delegationScopePolicy : AuthorityPolicy := fun request context =>
  match terminalScopes context.chain with
  | none => none
  | some scopes =>
      if !isInScope request.resourceScope scopes then
        some ⟨"delegation_scope_contained","RESOURCE_SCOPE_NOT_GRANTED",
          "Resource " ++ request.resourceScope ++
            " is outside the resource scopes granted to actor " ++ request.actorId ++ ".",
          .scopeExpansionDetected⟩
      else
        (exceedsParent context.chain.grants.head? context.chain.delegations).map fun delegation =>
          ⟨"delegation_scope_contained","DELEGATION_SCOPE_EXCEEDS_PARENT",
            "Delegation grant " ++ delegation.id ++
              " carries resource scopes not contained in its source authority.",
            .scopeExpansionDetected⟩

def delegationDepthPolicy : AuthorityPolicy := fun _ context =>
  match context.chain.delegations.find? fun d => d.delegationDepth > d.maxDelegationDepth.getD 0 with
  | some delegation =>
      some ⟨"delegation_depth_limited","DELEGATION_DEPTH_EXCEEDED",
        "Delegation grant " ++ delegation.id ++ " has depth " ++
          toString delegation.delegationDepth ++ ", exceeding its limit of " ++
          toString (delegation.maxDelegationDepth.getD 0) ++ ".",.delegationDepthExceeded⟩
  | none =>
      (context.chain.delegations.tail.find? fun parent => !parent.canRedelegate).map fun parent =>
        ⟨"delegation_depth_limited","REDELEGATION_NOT_PERMITTED",
          "Delegation grant " ++ parent.id ++ " does not permit further redelegation.",
          .delegationNotAllowed⟩

/-- The ids of the records on the chain with the actions each withholds, delegations first. -/
def withheldActions (chain : AuthorityChain) : List (String × Option (List String)) :=
  chain.delegations.map (fun d => (d.id, d.nonDelegableActions)) ++
    chain.grants.map (fun g => (g.id, g.nonDelegableActions))

def nonDelegableActionPolicy : AuthorityPolicy := fun request context =>
  if context.chain.delegations.isEmpty then none
  else
    ((withheldActions context.chain).find? fun entity =>
      entity.2.any fun actions => actions.contains request.action).map fun entity =>
        ⟨"non_delegable_action_denied","ACTION_NON_DELEGABLE",
          "Action " ++ request.action ++ " is marked non-delegable by " ++ entity.1 ++
            " and cannot be exercised through delegation.",.nonDelegableAction⟩

def crossDomainAuthorityPolicy : AuthorityPolicy := fun request context =>
  if context.crossDomainAccepted then none
  else
    firstBad (fun grant => grant.trustDomainId != request.trustDomainId)
      (fun delegation => delegation.trustDomainId != request.trustDomainId)
      (fun grant => ⟨"cross_domain_authority_denied","AUTHORITY_CROSSES_TRUST_DOMAIN",
        grant.id ++ " belongs to trust domain " ++ grant.trustDomainId ++ ", not " ++
          request.trustDomainId ++ ".",.crossDomainAuthorityDenied⟩)
      (fun delegation => ⟨"cross_domain_authority_denied","AUTHORITY_CROSSES_TRUST_DOMAIN",
        delegation.id ++ " belongs to trust domain " ++ delegation.trustDomainId ++ ", not " ++
          request.trustDomainId ++ ".",.crossDomainAuthorityDenied⟩)
      context.chain

def createDefaultAuthorityPolicyChain : List AuthorityPolicy :=
  [ authorityChainRequiredPolicy, selfIssuancePolicy, issuerAuthorityPolicy,
    ancestorRevocationPolicy, ancestorExpirationPolicy, delegationLineagePolicy,
    delegationScopePolicy, delegationDepthPolicy, nonDelegableActionPolicy, crossDomainAuthorityPolicy ]

/-- An `AuthorityDecision` without its ids and its proof. -/
structure AuthorityDecision where
  type : AuthorityDecisionType
  valid : Bool
  (reasonCode reason actorId : String)
  principalActorId : Option String
  trustDomainId : String
  chain : AuthorityChain
  evaluatedAt : String

def policyContext (store : AuthorityGraphStore) (now : String) (chain : AuthorityChain)
    (trustDomainId : String) : AuthorityPolicyContext where
  now := now
  chain := chain
  rootIssuerAccepted :=
    match chain.grants.getLast? with
    | some rootGrant => store.isRootIssuer chain.trustDomainId rootGrant.issuerActorId
    | none => false
  crossDomainAccepted := store.isCrossDomainAuthorityAccepted trustDomainId
  lineage := assess store chain

def verifyAuthority (store : AuthorityGraphStore) (now : String) (request : AuthorityChainRequest) :
    AuthorityDecision :=
  let chain := resolveAuthorityChain store request
  let context := policyContext store now chain request.trustDomainId
  let denial := createDefaultAuthorityPolicyChain.findSome? fun policy => policy request context
  let type := (denial.map (·.decisionType)).getD .authorityValid
  { type := type
    valid := type == .authorityValid
    reasonCode := (denial.map (·.reasonCode)).getD "AUTHORITY_CHAIN_VALID"
    reason := (denial.map (·.reason)).getD
      "Every authority policy passed for the resolved chain."
    actorId := request.actorId
    principalActorId := request.principalActorId.or chain.principalActorId
    trustDomainId := request.trustDomainId
    chain := chain
    evaluatedAt := now }

variable {request : AuthorityChainRequest} {context : AuthorityPolicyContext}

variable {badGrant : AuthorityGrant → Bool} {badDelegation : DelegationGrant → Bool}
  {ofGrant : AuthorityGrant → PolicyDenial} {ofDelegation : DelegationGrant → PolicyDenial}
  {chain : AuthorityChain} {denial : PolicyDenial}

theorem firstBad_eq_none : firstBad badGrant badDelegation ofGrant ofDelegation chain = none ↔
      (∀ g ∈ chain.grants, badGrant g = false) ∧ ∀ d ∈ chain.delegations, badDelegation d = false := by
  unfold firstBad
  cases hgrant : chain.grants.find? badGrant with
  | some grant =>
    simp only [reduceCtorEq,false_iff,not_and]
    intro hgood
    have hbad := List.find?_some hgrant
    rw [hgood grant (List.mem_of_find?_eq_some hgrant)] at hbad
    cases hbad
  | none =>
    have hgood : ∀ g ∈ chain.grants, badGrant g = false := by simpa using hgrant
    simp only [Option.map_eq_none_iff,List.find?_eq_none,Bool.not_eq_true]
    exact ⟨fun h => ⟨hgood,h⟩,fun h => h.2⟩

theorem firstBad_eq_some
    (h : firstBad badGrant badDelegation ofGrant ofDelegation chain = some denial) :
    (∃ g, denial = ofGrant g) ∨ ∃ d, denial = ofDelegation d := by
  unfold firstBad at h
  split at h
  · cases h
    exact .inl ⟨_,rfl⟩
  · obtain ⟨d,-,rfl⟩ := Option.map_eq_some_iff.1 h
    exact .inr ⟨d,rfl⟩

theorem denial_ne_valid {policy : AuthorityPolicy}
    (hp : policy ∈ createDefaultAuthorityPolicyChain) (h : policy request context = some denial) :
    denial.decisionType ≠ .authorityValid := by
  simp only [createDefaultAuthorityPolicyChain,List.mem_cons,List.not_mem_nil,or_false] at hp
  rcases hp with rfl | rfl | rfl | rfl | rfl | rfl | rfl | rfl | rfl | rfl
  · unfold authorityChainRequiredPolicy at h
    split at h <;> cases h <;> exact AuthorityDecisionType.noConfusion
  · rw [selfIssuancePolicy] at h
    rcases firstBad_eq_some h with ⟨g,rfl⟩ | ⟨d,rfl⟩ <;> exact AuthorityDecisionType.noConfusion
  · unfold issuerAuthorityPolicy at h
    split at h
    · cases h
      exact AuthorityDecisionType.noConfusion
    · split at h
      · cases h
      · split_ifs at h
        cases h
        exact AuthorityDecisionType.noConfusion
  · rw [ancestorRevocationPolicy] at h
    rcases firstBad_eq_some h with ⟨g,rfl⟩ | ⟨d,rfl⟩ <;> exact AuthorityDecisionType.noConfusion
  · rw [ancestorExpirationPolicy] at h
    rcases firstBad_eq_some h with ⟨g,rfl⟩ | ⟨d,rfl⟩ <;> exact AuthorityDecisionType.noConfusion
  · unfold delegationLineagePolicy at h
    split at h
    · cases h
      rename_i breach _
      cases breach <;> exact AuthorityDecisionType.noConfusion
    · split_ifs at h
      cases h
      exact AuthorityDecisionType.noConfusion
  · unfold delegationScopePolicy at h
    split at h
    · cases h
    · split_ifs at h
      · cases h
        exact AuthorityDecisionType.noConfusion
      · obtain ⟨d,-,rfl⟩ := Option.map_eq_some_iff.1 h
        exact AuthorityDecisionType.noConfusion
  · unfold delegationDepthPolicy at h
    split at h
    · cases h
      exact AuthorityDecisionType.noConfusion
    · obtain ⟨d,-,rfl⟩ := Option.map_eq_some_iff.1 h
      exact AuthorityDecisionType.noConfusion
  · unfold nonDelegableActionPolicy at h
    split_ifs at h
    obtain ⟨d,-,rfl⟩ := Option.map_eq_some_iff.1 h
    exact AuthorityDecisionType.noConfusion
  · unfold crossDomainAuthorityPolicy at h
    split_ifs at h
    rcases firstBad_eq_some h with ⟨g,rfl⟩ | ⟨d,rfl⟩ <;> exact AuthorityDecisionType.noConfusion

theorem crossDomainAuthorityPolicy_passed
    (h : crossDomainAuthorityPolicy request context = none) :
    context.crossDomainAccepted = true ∨
      (∀ g ∈ context.chain.grants, g.trustDomainId = request.trustDomainId) ∧
        ∀ d ∈ context.chain.delegations, d.trustDomainId = request.trustDomainId := by
  unfold crossDomainAuthorityPolicy at h
  split_ifs at h with haccepted
  · exact .inl haccepted
  · obtain ⟨hgrants,hdelegations⟩ := firstBad_eq_none.1 h
    exact .inr ⟨fun g hg => by simpa using hgrants g hg, fun d hd => by simpa using hdelegations d hd⟩

theorem verifyAuthority_valid_iff {store : AuthorityGraphStore} {now : String}
    {request : AuthorityChainRequest} :
    (verifyAuthority store now request).valid = true ↔
      ∀ policy ∈ createDefaultAuthorityPolicyChain, policy request (policyContext store now
        (resolveAuthorityChain store request) request.trustDomainId) = none := by
  unfold verifyAuthority
  cases hdenial : createDefaultAuthorityPolicyChain.findSome? fun policy =>
      policy request (policyContext store now (resolveAuthorityChain store request)
        request.trustDomainId) with
  | none =>
    have hpass := List.findSome?_eq_none_iff.1 hdenial
    simpa [hdenial] using hpass
  | some denial =>
    obtain ⟨policy,hmem,hpolicy⟩ := List.exists_of_findSome?_eq_some hdenial
    have hne := denial_ne_valid hmem hpolicy
    simp only [hdenial,Option.map_some,Option.getD_some,beq_iff_eq,hne,false_iff,not_forall]
    exact ⟨policy,hmem,by simp [hpolicy]⟩

end Frontera.AuthorityGraph
