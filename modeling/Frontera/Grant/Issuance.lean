import Frontera.Grant.BoundedGrant
import Frontera.Data.OrderedMap

/-! `issueGrant` checks a source, derives the grant and hands it to the authoritative store with a
guard that the store runs at the commit boundary, against the source as it is re-read there. -/

namespace Frontera.Grant

open Frontera.Data

section Validity

variable (P : Platform)

inductive GrantValidityResolution where
  | accepted (expiresAt : String) (effectiveCeiling : Option GrantValidityCeiling)
  | refused (effectiveCeiling : Option GrantValidityCeiling) (reasonCodes : List GrantReasonCode)

/-- The order of two ceilings: by instant, then by the name of the source. -/
def ceilingPrecedes (left right : GrantValidityCeiling) : Bool :=
  match P.dateParse left.notAfter, P.dateParse right.notAfter with
  | some leftInstant, some rightInstant =>
      if leftInstant = rightInstant then P.localeCompare left.source.text right.source.text != .gt
      else decide (leftInstant < rightInstant)
  -- `NaN` from the comparator counts as no difference
  | _, _ => true

def orderedCeilings (ceilings : List GrantValidityCeiling) : List GrantValidityCeiling :=
  ceilings.insertionSort fun left right => ceilingPrecedes P left right = true

def effectiveGrantValidityCeiling (ceilings : List GrantValidityCeiling) : Option GrantValidityCeiling :=
  let parseable := ceilings.filter fun ceiling => (P.dateParse ceiling.notAfter).isSome
  if parseable.length ≠ ceilings.length then none else (orderedCeilings P parseable).head?

def resolveGrantValidity (issuedAt : String) (requestedExpiresAt : Option String)
    (ceilings : List GrantValidityCeiling) : GrantValidityResolution :=
  match requestedExpiresAt with
  | none => .refused none [.validityInvalid]
  | some requestedExpiresAt =>
      if requestedExpiresAt = "" then .refused none [.validityInvalid]
      else
        match P.dateParse issuedAt, P.dateParse requestedExpiresAt with
        | some issued, some requested =>
            if requested ≤ issued then .refused none [.validityInvalid]
            else if ceilings.any fun ceiling => (P.dateParse ceiling.notAfter).isNone then
              .refused none [.validityInvalid]
            else
              match effectiveGrantValidityCeiling P ceilings with
              | none => .accepted requestedExpiresAt none
              | some effectiveCeiling =>
                  if !(compareGrantBound P (.window effectiveCeiling.notAfter)
                      (.window requestedExpiresAt)).permits then
                    .refused (some effectiveCeiling) [.scopeBroadening]
                  else .accepted requestedExpiresAt (some effectiveCeiling)
        | _, _ => .refused none [.validityInvalid]

variable {P}

theorem resolveGrantValidity_accepted {issuedAt requested expiresAt : String}
    {ceilings : List GrantValidityCeiling} {effectiveCeiling : Option GrantValidityCeiling}
    (h : resolveGrantValidity P issuedAt (some requested) ceilings = .accepted expiresAt effectiveCeiling) :
    expiresAt = requested ∧ ∃ issued expiry, P.dateParse issuedAt = some issued ∧
      P.dateParse requested = some expiry ∧ issued < expiry := by
  simp only [resolveGrantValidity] at h
  by_cases hempty : requested = ""
  · rw [if_pos hempty] at h
    cases h
  rw [if_neg hempty] at h
  cases hissued : P.dateParse issuedAt with
  | none => simp [hissued] at h
  | some issued =>
    cases hrequested : P.dateParse requested with
    | none => simp [hissued,hrequested] at h
    | some expiry =>
      simp only [hissued,hrequested] at h
      by_cases hlate : expiry ≤ issued
      · rw [if_pos hlate] at h
        cases h
      refine ⟨?_,issued,expiry,rfl,rfl,by omega⟩
      rw [if_neg hlate] at h
      cases hceiling : effectiveGrantValidityCeiling P ceilings with
      | none =>
        simp only [hceiling] at h
        split_ifs at h
        simp only [GrantValidityResolution.accepted.injEq] at h
        exact h.1.symm
      | some ceiling =>
        simp only [hceiling] at h
        split_ifs at h
        simp only [GrantValidityResolution.accepted.injEq] at h
        exact h.1.symm

end Validity

structure GrantCommitPrecondition where
  permitted : Bool
  reasonCodes : List GrantReasonCode

structure InMemoryBoundedGrantStore where
  grants : OrderedMap String BoundedGrant
  revocations : OrderedMap String GrantRevocation

inductive IssueBoundedGrantOutcome where
  | issued (grant : BoundedGrant)
  | alreadyIssued (grant : BoundedGrant)
  | refused (reasonCodes : List GrantReasonCode)

structure RevokeBoundedGrantInput where
  grantId : String
  /-- `none` is a text outside the vocabulary. -/
  reason : Option GrantRevocationReason
  (revokedAt issuerRef : String)

inductive RevokeBoundedGrantOutcome where
  | revoked (revocation : GrantRevocation)
  | alreadyRevoked (revocation : GrantRevocation)
  | refused (reasonCodes : List GrantReasonCode)

namespace InMemoryBoundedGrantStore

def empty : InMemoryBoundedGrantStore := ⟨.empty,.empty⟩

/-- `issue`; the guard answers inside the critical section. -/
def issue (store : InMemoryBoundedGrantStore) (grant : BoundedGrant)
    (commitGuard : GrantCommitPrecondition) :
    IssueBoundedGrantOutcome × InMemoryBoundedGrantStore :=
  if !isWellFormedBoundedGrantSemantics grant.scope grant.semanticsFormat then
    (.refused [.semanticsFormatInvalid], store)
  else
    match store.grants.get grant.id with
    | some existing => (.alreadyIssued existing, store)
    | none =>
        if (store.revocations.get grant.id).isSome then (.refused [.revoked], store)
        else if !commitGuard.permitted then
          (.refused (if commitGuard.reasonCodes.isEmpty then [.eligibilityChanged]
            else commitGuard.reasonCodes), store)
        else (.issued grant, { store with grants := store.grants.set grant.id grant })

def revoke (store : InMemoryBoundedGrantStore) (input : RevokeBoundedGrantInput) :
    RevokeBoundedGrantOutcome × InMemoryBoundedGrantStore :=
  match input.reason with
  | none => (.refused [.revoked], store)
  | some reason =>
      if (store.grants.get input.grantId).isNone then (.refused [.notFound], store)
      else
        match store.revocations.get input.grantId with
        | some existing => (.alreadyRevoked existing, store)
        | none =>
            let revocation := ⟨input.grantId,input.revokedAt,reason,input.issuerRef⟩
            (.revoked revocation,
              { store with revocations := store.revocations.set input.grantId revocation })

theorem issue_cases (store : InMemoryBoundedGrantStore) (grant : BoundedGrant)
    (commitGuard : GrantCommitPrecondition) :
    (∃ reasonCodes, store.issue grant commitGuard = (.refused reasonCodes, store)) ∨
      (∃ existing, store.grants.get grant.id = some existing ∧
        store.issue grant commitGuard = (.alreadyIssued existing, store)) ∨
      (store.grants.get grant.id = none ∧ commitGuard.permitted = true ∧ store.issue grant commitGuard =
          (.issued grant, { store with grants := store.grants.set grant.id grant })) := by
  unfold issue
  by_cases hsemantics : isWellFormedBoundedGrantSemantics grant.scope grant.semanticsFormat = true
  · rw [if_neg (by simp [hsemantics])]
    cases hheld : store.grants.get grant.id with
    | some existing => exact .inr (.inl ⟨existing,rfl,rfl⟩)
    | none =>
      by_cases hrevoked : (store.revocations.get grant.id).isSome = true
      · exact .inl ⟨_,if_pos hrevoked⟩
      · simp only [if_neg hrevoked]
        cases hguard : commitGuard.permitted with
        | false => exact .inl ⟨_,rfl⟩
        | true => exact .inr (.inr ⟨trivial,rfl,rfl⟩)
  · rw [if_pos (by simp [hsemantics])]
    exact .inl ⟨_,rfl⟩

theorem revoke_grants (store : InMemoryBoundedGrantStore) (input : RevokeBoundedGrantInput) :
    (store.revoke input).2.grants = store.grants := by
  unfold revoke
  cases input.reason with
  | none => rfl
  | some reason =>
    by_cases hheld : (store.grants.get input.grantId).isNone = true
    · simp only [if_pos hheld]
    · simp only [if_neg hheld]
      cases store.revocations.get input.grantId <;> rfl

end InMemoryBoundedGrantStore

structure GrantIssuanceRequest where
  source : GrantSourceAuthorization
  requestedBounds : Option RequestedGrantBounds := none
  subject : String
  correlation : GrantCorrelation
  (issuedAt expiresAt : String)
  additionalValidityCeilings : Option (List GrantValidityCeiling) := none
  authorityBindingDigest : Option String := none

structure GrantIssuanceRefusal where
  reasonCodes : List GrantReasonCode
  violations : List GrantAttenuationViolation := []
  effectiveValidityCeiling : Option GrantValidityCeiling := none

inductive GrantIssuanceOutcome where
  | issued (grant : BoundedGrant) (bounds : List GrantBoundAttenuation)
      (effectiveValidityCeiling : Option GrantValidityCeiling)
  | alreadyIssued (grant : BoundedGrant) (bounds : List GrantBoundAttenuation)
      (effectiveValidityCeiling : Option GrantValidityCeiling)
  | refused (refusal : GrantIssuanceRefusal)

/-- What the checks before the store produce. -/
structure DerivedGrant where
  grant : BoundedGrant
  bounds : List GrantBoundAttenuation
  effectiveValidityCeiling : Option GrantValidityCeiling

/-- Re-reads the authoritative source at commit time. -/
abbrev RevalidateSource := GrantCorrelation → Option GrantSourceAuthorization

variable (P : Platform)

/-- The marker a grant over this scope carries. -/
def semanticsFormatOf (scope : GrantScope) : Option String :=
  if grantScopeCarriesSemantics scope then some grantSemanticsFormatV1 else none

/-- The artifact, identified and sealed. -/
def grantOf (request : GrantIssuanceRequest) (scope : GrantScope) (expiresAt : String) : BoundedGrant :=
  let withoutDigest : BoundedGrant := {
    id := boundedGrantId P request.correlation request.subject scope expiresAt
      request.authorityBindingDigest (semanticsFormatOf scope)
    correlation := request.correlation
    subject := request.subject
    scope := scope
    issuedAt := request.issuedAt
    expiresAt := expiresAt
    sourceDigest := grantSourceDigest P request.source
    authorityBindingDigest := request.authorityBindingDigest
    semanticsFormat := semanticsFormatOf scope
    digest := "" }
  { withoutDigest with digest := boundedGrantDigest P withoutDigest }

/-- The checks of `issueGrant` that run before the store is touched. -/
def deriveGrant (request : GrantIssuanceRequest) : Except GrantIssuanceRefusal DerivedGrant :=
  if !isWellFormedGrantCorrelation request.correlation ||
      !grantCorrelationMatches request.source.correlation request.correlation then
    .error { reasonCodes := [.correlationInvalid] }
  else if !(grantEligibilityReasons P request.source).isEmpty then
    .error { reasonCodes := grantEligibilityReasons P request.source }
  else if request.subject ≠ request.source.subject then
    .error { reasonCodes := [.subjectInvalid] }
  else
    match attenuateGrantScope P request.source.scope (request.requestedBounds.getD {}) with
    | .refused violations _ =>
        .error { reasonCodes := (violations.map (·.reasonCode)).eraseDups, violations := violations }
    | .attenuated scope bounds =>
        -- the settling invariant, re-derived of the artifact
        if !grantScopeIsWithin P request.source.scope scope then
          .error { reasonCodes := [.scopeBroadening] }
        else
          match resolveGrantValidity P request.issuedAt (some request.expiresAt)
              (request.source.validityCeilings ++ request.additionalValidityCeilings.getD []) with
          | .refused effectiveCeiling reasonCodes =>
              .error {
                reasonCodes := if reasonCodes.isEmpty then [.validityInvalid] else reasonCodes
                effectiveValidityCeiling := effectiveCeiling }
          | .accepted expiresAt effectiveCeiling =>
              if !isWellFormedBoundedGrantSemantics scope (semanticsFormatOf scope) then
                .error { reasonCodes := [.semanticsFormatInvalid] }
              else .ok ⟨grantOf P request scope expiresAt,bounds,effectiveCeiling⟩

/-- The re-check the store runs at the commit boundary. -/
def commitGuard (revalidateSource : Option RevalidateSource) (request : GrantIssuanceRequest)
    (grant : BoundedGrant) : GrantCommitPrecondition :=
  match revalidateSource with
  | none => ⟨true,[]⟩
  | some revalidateSource =>
      match revalidateSource request.correlation with
      | none => ⟨false,[.correlationInvalid]⟩
      | some current =>
          if !(grantEligibilityReasons P current).isEmpty then
            ⟨false,grantEligibilityReasons P current⟩
          else if current.subject ≠ request.subject then ⟨false,[.subjectInvalid]⟩
          else if !grantScopeIsWithin P current.scope grant.scope then ⟨false,[.scopeBroadening]⟩
          else
            match resolveGrantValidity P request.issuedAt (some grant.expiresAt)
                (current.validityCeilings ++ request.additionalValidityCeilings.getD []) with
            | .refused _ reasonCodes => ⟨false,reasonCodes⟩
            | .accepted _ _ => ⟨true,[]⟩

def issueGrant (revalidateSource : Option RevalidateSource) (store : InMemoryBoundedGrantStore)
    (request : GrantIssuanceRequest) : GrantIssuanceOutcome × InMemoryBoundedGrantStore :=
  match deriveGrant P request with
  | .error refusal => (.refused refusal, store)
  | .ok derived =>
      match store.issue derived.grant (commitGuard P revalidateSource request derived.grant) with
      | (.refused reasonCodes, store') => (.refused { reasonCodes := reasonCodes }, store')
      | (.issued grant, store') =>
          (.issued grant derived.bounds derived.effectiveValidityCeiling, store')
      | (.alreadyIssued grant, store') =>
          (.alreadyIssued grant derived.bounds derived.effectiveValidityCeiling, store')

variable {P}

/-- What the checks before the store have established of a derived grant. -/
structure DerivedFrom (P : Platform) (request : GrantIssuanceRequest) (derived : DerivedGrant)
    (scope : GrantScope) : Prop where
  correlation : isWellFormedGrantCorrelation request.correlation = true
  correlation_eq : request.source.correlation = request.correlation
  eligible : grantEligibilityReasons P request.source = []
  subject : request.subject = request.source.subject
  attenuated : attenuateGrantScope P request.source.scope (request.requestedBounds.getD {}) =
    .attenuated scope derived.bounds
  within : grantScopeIsWithin P request.source.scope scope = true
  validity : resolveGrantValidity P request.issuedAt (some request.expiresAt)
      (request.source.validityCeilings ++ request.additionalValidityCeilings.getD []) =
    .accepted request.expiresAt derived.effectiveValidityCeiling
  semantics : isWellFormedBoundedGrantSemantics scope (semanticsFormatOf scope) = true
  grant_eq : derived.grant = grantOf P request scope request.expiresAt

variable {request : GrantIssuanceRequest} {derived : DerivedGrant} {scope : GrantScope}

theorem deriveGrant_ok (h : deriveGrant P request = .ok derived) :
    ∃ scope, DerivedFrom P request derived scope := by
  unfold deriveGrant at h
  by_cases hcorrelation : (!isWellFormedGrantCorrelation request.correlation ||
      !grantCorrelationMatches request.source.correlation request.correlation) = true
  · rw [if_pos hcorrelation] at h
    cases h
  rw [if_neg hcorrelation] at h
  by_cases heligible : grantEligibilityReasons P request.source = []
  swap
  · rw [if_pos (by simp [heligible])] at h
    cases h
  rw [if_neg (by simp [heligible])] at h
  by_cases hsubject : request.subject = request.source.subject
  swap
  · rw [if_pos hsubject] at h
    cases h
  rw [if_neg (not_not.2 hsubject)] at h
  cases hattenuated : attenuateGrantScope P request.source.scope
      (request.requestedBounds.getD {}) with
  | refused violations bounds =>
    simp only [hattenuated] at h
    cases h
  | attenuated scope bounds =>
    simp only [hattenuated] at h
    by_cases hwithin : grantScopeIsWithin P request.source.scope scope = true
    swap
    · rw [if_pos (by simp [hwithin])] at h
      cases h
    rw [if_neg (by simp [hwithin])] at h
    cases hvalidity : resolveGrantValidity P request.issuedAt (some request.expiresAt)
        (request.source.validityCeilings ++ request.additionalValidityCeilings.getD []) with
    | refused effectiveCeiling reasonCodes =>
      simp only [hvalidity] at h
      cases h
    | accepted expiresAt effectiveCeiling =>
      simp only [hvalidity] at h
      by_cases hsemantics : isWellFormedBoundedGrantSemantics scope (semanticsFormatOf scope) = true
      swap
      · rw [if_pos (by simp [hsemantics])] at h
        cases h
      rw [if_neg (by simp [hsemantics])] at h
      cases h
      obtain ⟨rfl,-⟩ := resolveGrantValidity_accepted hvalidity
      simp only [Bool.or_eq_true,Bool.not_eq_true',not_or,Bool.not_eq_false] at hcorrelation
      exact ⟨scope,hcorrelation.1,grantCorrelationMatches_iff.1 hcorrelation.2,heligible,hsubject,hattenuated,hwithin,hvalidity,
        hsemantics,rfl⟩

theorem DerivedFrom.deriveGrant_eq (h : DerivedFrom P request derived scope) :
    deriveGrant P request = .ok derived := by
  rw [deriveGrant,if_neg (by simp [h.correlation,grantCorrelationMatches_iff.2 h.correlation_eq]),
    if_neg (by simp [h.eligible]),if_neg (not_not.2 h.subject),h.attenuated]
  simp only
  rw [if_neg (by simp [h.within]),h.validity]
  simp only
  rw [if_neg (by simp [h.semantics]),← h.grant_eq]

theorem issueGrant_cases (P : Platform) (revalidateSource : Option RevalidateSource)
    (store : InMemoryBoundedGrantStore) (request : GrantIssuanceRequest) :
    (∃ refusal, issueGrant P revalidateSource store request = (.refused refusal, store)) ∨
      ∃ derived, deriveGrant P request = .ok derived ∧
        ((∃ existing, store.grants.get derived.grant.id = some existing ∧
          issueGrant P revalidateSource store request =
            (.alreadyIssued existing derived.bounds derived.effectiveValidityCeiling, store)) ∨
        (store.grants.get derived.grant.id = none ∧
          (commitGuard P revalidateSource request derived.grant).permitted = true ∧
          issueGrant P revalidateSource store request =
            (.issued derived.grant derived.bounds derived.effectiveValidityCeiling,
              { store with grants := store.grants.set derived.grant.id derived.grant }))) := by
  unfold issueGrant
  cases hderive : deriveGrant P request with
  | error refusal => exact .inl ⟨refusal,rfl⟩
  | ok derived =>
    simp only
    rcases store.issue_cases derived.grant (commitGuard P revalidateSource request derived.grant)
      with ⟨reasonCodes,hissue⟩ | ⟨existing,hheld,hissue⟩ | ⟨hheld,hguard,hissue⟩
    · rw [hissue]
      exact .inl ⟨{ reasonCodes := reasonCodes },rfl⟩
    · rw [hissue]
      exact .inr ⟨derived,rfl,.inl ⟨existing,hheld,rfl⟩⟩
    · rw [hissue]
      exact .inr ⟨derived,rfl,.inr ⟨hheld,hguard,rfl⟩⟩

theorem issueGrant_empty {revalidateSource : Option RevalidateSource}
    (h : DerivedFrom P request derived scope)
    (hguard : (commitGuard P revalidateSource request derived.grant).permitted = true) :
    issueGrant P revalidateSource .empty request =
      (.issued derived.grant derived.bounds derived.effectiveValidityCeiling,
        ⟨Data.OrderedMap.empty.set derived.grant.id derived.grant,.empty⟩) := by
  have hsemantics : isWellFormedBoundedGrantSemantics derived.grant.scope
      derived.grant.semanticsFormat = true := by
    rw [h.grant_eq]
    exact h.semantics
  simp [issueGrant,h.deriveGrant_eq,InMemoryBoundedGrantStore.issue,hsemantics,hguard,
    InMemoryBoundedGrantStore.empty]

def sampleIssuance (source : GrantSourceAuthorization) : GrantIssuanceRequest where
  source := source
  subject := "agent-1"
  correlation := sampleCorrelation
  issuedAt := sampleInstant
  expiresAt := sampleLaterInstant

end Frontera.Grant
