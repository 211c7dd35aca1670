import Frontera.Platform

/-! Grants and delegations under their ids, the resolution of a chain of authority for a request,
and the walk that proves its lineage. The two walks bound their hops alike: a walk here is given the
number of records it may still visit. -/

namespace Frontera.AuthorityGraph

inductive GrantStatus where
  | active | expired | suspended | revoked
deriving DecidableEq

def GrantStatus.text : GrantStatus → String
  | active => "active"
  | expired => "expired"
  | suspended => "suspended"
  | revoked => "revoked"

/-- What is read of an `AuthorityGrant`. -/
structure AuthorityGrant where
  (id issuerActorId subjectActorId trustDomainId : String)
  (actions resourceScopes : List String)
  canDelegate : Bool
  maxDelegationDepth : Option Int
  nonDelegableActions : Option (List String)
  status : GrantStatus
  (expiresAt parentGrantId : Option String)

/-- What is read of a `DelegationGrant`. -/
structure DelegationGrant where
  (id delegatorActorId delegateActorId principalActorId trustDomainId : String)
  sourceAuthorityGrantId : String
  (actions resourceScopes : List String)
  delegationDepth : Int
  canRedelegate : Bool
  maxDelegationDepth : Option Int
  nonDelegableActions : Option (List String)
  status : GrantStatus
  expiresAt : Option String

/-- The maps of the store, in the order of insertion; a map holds one record under an id. -/
structure AuthorityGraphStore where
  grants : List AuthorityGrant
  delegations : List DelegationGrant
  isRootIssuer : String → String → Bool
  isCrossDomainAuthorityAccepted : String → Bool
  grants_nodup : (grants.map (·.id)).Nodup
  delegations_nodup : (delegations.map (·.id)).Nodup

namespace AuthorityGraphStore

def getGrant (store : AuthorityGraphStore) (authorityGrantId : String) : Option AuthorityGrant :=
  store.grants.find? fun grant => grant.id == authorityGrantId

def getDelegation (store : AuthorityGraphStore) (delegationGrantId : String) : Option DelegationGrant :=
  store.delegations.find? fun delegation => delegation.id == delegationGrantId

def getGrantsBySubjectActor (store : AuthorityGraphStore) (actorId : String) : List AuthorityGrant :=
  store.grants.filter fun grant => grant.subjectActorId == actorId

def getDelegationsByDelegateActor (store : AuthorityGraphStore) (actorId : String) : List DelegationGrant :=
  store.delegations.filter fun delegation => delegation.delegateActorId == actorId

theorem getGrant_id {store : AuthorityGraphStore} {id : String} {grant : AuthorityGrant}
    (h : store.getGrant id = some grant) : grant.id = id := by
  simpa using List.find?_some h

theorem getDelegation_id {store : AuthorityGraphStore} {id : String} {delegation : DelegationGrant}
    (h : store.getDelegation id = some delegation) : delegation.id = id := by
  simpa using List.find?_some h

end AuthorityGraphStore

structure AuthorityChainRequest where
  actorId : String
  principalActorId : Option String
  (trustDomainId action resourceScope : String)

inductive AuthorityChainStatus where
  | valid | invalid | partially

/-- An `AuthorityChain` without its id and instant. -/
structure AuthorityChain where
  (trustDomainId actorId : String)
  principalActorId : Option String
  grants : List AuthorityGrant
  delegations : List DelegationGrant
  rootIssuerActorId : Option String
  terminalActorId : String
  depth : Nat
  status : AuthorityChainStatus

def maxAncestryHops : Nat := 50

variable (store : AuthorityGraphStore)

/-- The loop of `collectGrantAncestry` with `hops` turns left. An empty `parentGrantId` ends it
as an absent one does: the loop tests the text for truth. -/
def collectGrantAncestryFrom : Nat → AuthorityGrant → List AuthorityGrant
  | 0, grant => [grant]
  | hops + 1, grant =>
      match grant.parentGrantId with
      | none => [grant]
      | some parentGrantId =>
          if parentGrantId = "" then [grant]
          else
            match store.getGrant parentGrantId with
            | none => [grant]
            | some parent => grant :: collectGrantAncestryFrom hops parent

def collectGrantAncestry (grant : AuthorityGrant) : List AuthorityGrant :=
  collectGrantAncestryFrom store maxAncestryHops grant

/-- The loop of `collectDelegationAncestry` with `hops` turns left. -/
def collectDelegationAncestryFrom : Nat → DelegationGrant → List AuthorityGrant × List DelegationGrant
  | 0, delegation => ([], [delegation])
  | hops + 1, delegation =>
      match store.getGrant delegation.sourceAuthorityGrantId with
      | some sourceGrant => (collectGrantAncestry store sourceGrant, [delegation])
      | none =>
          match store.getDelegation delegation.sourceAuthorityGrantId with
          | some sourceDelegation =>
              let collected := collectDelegationAncestryFrom hops sourceDelegation
              (collected.1, delegation :: collected.2)
          | none => ([], [delegation])

def collectDelegationAncestry (delegation : DelegationGrant) : List AuthorityGrant × List DelegationGrant :=
  collectDelegationAncestryFrom store maxAncestryHops delegation

def buildChain (request : AuthorityChainRequest) (grants : List AuthorityGrant)
    (delegations : List DelegationGrant) (status : AuthorityChainStatus) : AuthorityChain where
  trustDomainId := request.trustDomainId
  actorId := request.actorId
  principalActorId := request.principalActorId.or (delegations.head?.map (·.principalActorId))
  grants := grants
  delegations := delegations
  rootIssuerActorId := grants.getLast?.map (·.issuerActorId)
  terminalActorId := request.actorId
  depth := delegations.length
  status := status

def actorGrants (request : AuthorityChainRequest) : List AuthorityGrant :=
  (store.getGrantsBySubjectActor request.actorId).filter
    fun grant => grant.trustDomainId == request.trustDomainId

def actorDelegations (request : AuthorityChainRequest) : List DelegationGrant :=
  (store.getDelegationsByDelegateActor request.actorId).filter
    fun delegation => delegation.trustDomainId == request.trustDomainId

def matchingGrant (request : AuthorityChainRequest) : Option AuthorityGrant :=
  (actorGrants store request).find? fun grant => grant.actions.contains request.action

def matchingDelegation (request : AuthorityChainRequest) : Option DelegationGrant :=
  (actorDelegations store request).find? fun delegation =>
    delegation.actions.contains request.action

def resolveAuthorityChain (request : AuthorityChainRequest) : AuthorityChain :=
  match matchingGrant store request with
  | some grant => buildChain request (collectGrantAncestry store grant) [] .valid
  | none =>
      match matchingDelegation store request with
      | some delegation =>
          let collected := collectDelegationAncestry store delegation
          buildChain request collected.1 collected.2 .valid
      | none =>
          if (actorGrants store request).length > 0 || (actorDelegations store request).length > 0
          then buildChain request (actorGrants store request) (actorDelegations store request) .partially
          else buildChain request [] [] .invalid

inductive DelegationLineageBreach where
  | sourceMissing (delegationGrantId sourceAuthorityGrantId : String)
  | cycle (delegationGrantId : String)
  | delegatorNotSourceHolder (delegationGrantId delegatorActorId sourceHolderActorId : String)
  | actionExpanded (delegationGrantId action : String)
  | sourceNotDelegable (delegationGrantId sourceAuthorityGrantId : String)
  | depthExceedsSource (depth maxDelegationDepth : Int)
  | beyondPolicyHorizon (hops : Nat)

structure DelegationLineageAssessment where
  rooted : Bool
  breach : Option DelegationLineageBreach
  chainRefs : List String

def noDelegationLineage : DelegationLineageAssessment := ⟨true,none,[]⟩

def breached (chainRefs : List String) (breach : DelegationLineageBreach) : DelegationLineageAssessment :=
  ⟨false,some breach,chainRefs⟩

/-- The authority a hop derives from. -/
inductive DelegationLineageSource where
  | authorityGrant (grant : AuthorityGrant)
  | delegationGrant (delegation : DelegationGrant)

namespace DelegationLineageSource

def id : DelegationLineageSource → String
  | authorityGrant grant => grant.id
  | delegationGrant delegation => delegation.id

def holderActorId : DelegationLineageSource → String
  | authorityGrant grant => grant.subjectActorId
  | delegationGrant delegation => delegation.delegateActorId

def actions : DelegationLineageSource → List String
  | authorityGrant grant => grant.actions
  | delegationGrant delegation => delegation.actions

def resourceScopes : DelegationLineageSource → List String
  | authorityGrant grant => grant.resourceScopes
  | delegationGrant delegation => delegation.resourceScopes

def canDelegateFurther : DelegationLineageSource → Bool
  | authorityGrant grant => grant.canDelegate
  | delegationGrant delegation => delegation.canRedelegate

end DelegationLineageSource

def resolveSource (sourceAuthorityGrantId : String) : Option DelegationLineageSource :=
  match store.getGrant sourceAuthorityGrantId with
  | some grant => some (.authorityGrant grant)
  | none => (store.getDelegation sourceAuthorityGrantId).map .delegationGrant

/-- The loop of `assertGrantRooted`, which may visit `hops` more records. `visited` holds
exactly the ids in `chainRefs`. -/
def assertGrantRooted : Nat → String → List String → DelegationLineageAssessment
  | 0, _, chainRefs => breached chainRefs (.beyondPolicyHorizon (maxAncestryHops + 1))
  | hops + 1, currentId, chainRefs =>
      if chainRefs.contains currentId then breached chainRefs (.cycle currentId)
      else
        let refs := chainRefs ++ [currentId]
        match store.getGrant currentId with
        | none => breached refs (.sourceMissing currentId currentId)
        | some grant =>
            match grant.parentGrantId with
            | none => ⟨true,none,refs⟩
            | some parentId =>
                match store.getGrant parentId with
                | none => breached refs (.sourceMissing grant.id parentId)
                | some _ => assertGrantRooted hops parentId refs

/-- The loop over the delegation hops, which may visit `hops` more records. -/
def assessDelegation (terminalDepth : Int) :
    Nat → DelegationGrant → List String → DelegationLineageAssessment
  | 0, _, chainRefs => breached chainRefs (.beyondPolicyHorizon (maxAncestryHops + 1))
  | hops + 1, current, chainRefs =>
      if chainRefs.contains current.id then breached chainRefs (.cycle current.id)
      else
        let refs := chainRefs ++ [current.id]
        match resolveSource store current.sourceAuthorityGrantId with
        | none => breached refs (.sourceMissing current.id current.sourceAuthorityGrantId)
        | some source =>
            if current.delegatorActorId ≠ source.holderActorId then
              breached refs (.delegatorNotSourceHolder current.id current.delegatorActorId
                source.holderActorId)
            else if !source.canDelegateFurther then
              breached refs (.sourceNotDelegable current.id source.id)
            else
              match current.actions.find? fun action => !source.actions.contains action with
              | some action => breached refs (.actionExpanded current.id action)
              | none =>
                  match source with
                  | .authorityGrant grant =>
                      let ceiling := grant.maxDelegationDepth.getD 0
                      if terminalDepth > ceiling then
                        breached refs (.depthExceedsSource terminalDepth ceiling)
                      else assertGrantRooted store hops grant.id refs
                  | .delegationGrant delegation =>
                      match store.getDelegation delegation.id with
                      | some next => assessDelegation terminalDepth hops next refs
                      | none =>
                          breached refs (.sourceMissing (refs.getLast?.getD "") delegation.id)

def assess (chain : AuthorityChain) : DelegationLineageAssessment :=
  match chain.delegations.head? with
  | some delegation =>
      assessDelegation store delegation.delegationDepth (maxAncestryHops + 1) delegation []
  | none =>
      match chain.grants.head? with
      | none => noDelegationLineage
      | some grant => assertGrantRooted store (maxAncestryHops + 1) grant.id []

end Frontera.AuthorityGraph
