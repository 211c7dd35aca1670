import Frontera.Grant.Issuance
import Frontera.Grant.SourceEncoding
import Frontera.Text.Literals

/-! A store that only ever received grants from `issueGrant` answers a re-delivered issuance with a
grant that some earlier issuance derived. The identity they share is taken over less than the
source, so the two sources need not agree. -/

namespace Frontera.Grant

variable {P : Platform}

/-- One call at the service, with what the source re-reads as at that moment. -/
inductive GrantServiceCall where
  | issueGrant (revalidateSource : Option RevalidateSource) (request : GrantIssuanceRequest)
  | revokeGrant (input : RevokeBoundedGrantInput)
  | read (grantId : String)

namespace InMemoryBoundedGrantStore

def apply (P : Platform) (store : InMemoryBoundedGrantStore) : GrantServiceCall → InMemoryBoundedGrantStore
  | .issueGrant revalidateSource request => (issueGrant P revalidateSource store request).2
  | .revokeGrant input => (store.revoke input).2
  | .read _ => store

/-- The store after these calls, from an empty one. -/
def after (P : Platform) (calls : List GrantServiceCall) : InMemoryBoundedGrantStore :=
  calls.foldl (apply P) .empty

theorem after_concat (calls : List GrantServiceCall) (call : GrantServiceCall) :
    after P (calls ++ [call]) = (after P calls).apply P call := by
  simp [after]

end InMemoryBoundedGrantStore

open InMemoryBoundedGrantStore

/-- Among the calls there is an issuance of this request that answered `issued` with this
grant. -/
def IssuedIn (P : Platform) (calls : List GrantServiceCall) (request : GrantIssuanceRequest)
    (grant : BoundedGrant) : Prop :=
  ∃ before later revalidateSource bounds ceiling,
    calls = before ++ .issueGrant revalidateSource request :: later ∧
    (issueGrant P revalidateSource (after P before) request).1 = .issued grant bounds ceiling

variable {request : GrantIssuanceRequest} {grant : BoundedGrant} {derived : DerivedGrant}
  {scope : GrantScope}

theorem IssuedIn.concat {calls : List GrantServiceCall} (h : IssuedIn P calls request grant)
    (call : GrantServiceCall) : IssuedIn P (calls ++ [call]) request grant := by
  obtain ⟨before,later,revalidateSource,bounds,ceiling,rfl,hissued⟩ := h
  exact ⟨before,later ++ [call],revalidateSource,bounds,ceiling,by simp,hissued⟩

theorem sourceDigest_of_issued {revalidateSource : Option RevalidateSource}
    {store : InMemoryBoundedGrantStore} {bounds : List GrantBoundAttenuation}
    {ceiling : Option GrantValidityCeiling}
    (h : (issueGrant P revalidateSource store request).1 = .issued grant bounds ceiling) :
    grant.sourceDigest = grantSourceDigest P request.source := by
  rcases issueGrant_cases P revalidateSource store request with
    ⟨refusal,hrefused⟩ | ⟨derived,hderive,⟨existing,-,halready⟩ | ⟨-,-,hissued⟩⟩
  · rw [hrefused] at h
    cases h
  · rw [halready] at h
    cases h
  · rw [hissued] at h
    cases h
    obtain ⟨scope,hfrom⟩ := deriveGrant_ok hderive
    rw [hfrom.grant_eq]
    rfl

theorem held_issuedIn (calls : List GrantServiceCall) {grantId : String}
    (h : (after P calls).grants.get grantId = some grant) :
    ∃ request, IssuedIn P calls request grant := by
  induction calls using List.reverseRecOn with
  | nil => cases h
  | append_singleton calls call ih =>
    have hkept : (after P calls).grants.get grantId = some grant →
        ∃ request, IssuedIn P (calls ++ [call]) request grant := by
      intro hheld
      obtain ⟨request,hissued⟩ := ih hheld
      exact ⟨request,hissued.concat call⟩
    rw [after_concat] at h
    cases call with
    | revokeGrant input => exact hkept (by rwa [apply,revoke_grants] at h)
    | read id => exact hkept h
    | issueGrant revalidateSource request =>
      simp only [apply] at h
      rcases issueGrant_cases P revalidateSource (after P calls) request with
        ⟨refusal,hrefused⟩ | ⟨derived,-,⟨existing,-,halready⟩ | ⟨hnone,-,hissued⟩⟩
      · rw [hrefused] at h
        exact hkept h
      · rw [halready] at h
        exact hkept h
      · rw [hissued,Data.OrderedMap.get_set_of_get_none hnone] at h
        split_ifs at h with hid
        · cases h
          exact ⟨request,calls,[],revalidateSource,derived.bounds,
            derived.effectiveValidityCeiling,rfl,by rw [hissued]⟩
        · exact hkept h

/-- The same request over a source that names another context and another approval. -/
def GrantIssuanceRequest.reDigested (request : GrantIssuanceRequest)
    (contextDigest approvalDigest : Option String) : GrantIssuanceRequest :=
  { request with source :=
    { request.source with contextDigest := contextDigest, approvalDigest := approvalDigest } }

theorem deriveGrant_reDigested (h : DerivedFrom P request derived scope)
    (contextDigest approvalDigest : Option String) :
    DerivedFrom P (request.reDigested contextDigest approvalDigest)
      ⟨grantOf P (request.reDigested contextDigest approvalDigest) scope request.expiresAt,
        derived.bounds,derived.effectiveValidityCeiling⟩ scope :=
  ⟨h.correlation,h.correlation_eq,h.eligible,h.subject,h.attenuated,h.within,h.validity, h.semantics,rfl⟩

def issuanceDigests : List (String × String) :=
  [("\x7b\"action\":\"payment.execute\",\"decisionId\":\"decision-1\",\"requestId\":\"req" ++
      "uest-1\",\"resourceScope\":\"invoice-1\",\"expiresAt\":\"2026-01-01T00:00:01.000Z\",\"" ++
      "scope\":\x7b\"action\":\x7b\"kind\":\"identity\",\"value\":\"payment.execute\"\x7d,\"" ++
      "amount\":\x7b\"kind\":\"ceiling\",\"limit\":\"100\",\"unit\":\"USD\"\x7d,\"resources\"" ++
      ":\x7b\"kind\":\"set\",\"values\":[\"invoice-1\",\"invoice-2\"]\x7d\x7d,\"subject\":\"" ++
      "agent-1\"\x7d",
      "72dd055ebd8a7748389219db2fbb2e2059b4922c276bdf984990b0e106d18885"),
    ("\x7b\"allBlockingObligationsSatisfied\":true,\"authorizationPermitsExercise\":true,\"" ++
      "correlation\":\x7b\"action\":\"payment.execute\",\"decisionId\":\"decision-1\",\"req" ++
      "uestId\":\"request-1\",\"resourceScope\":\"invoice-1\"\x7d,\"evaluatedAt\":\"2026-01" ++
      "-01T00:00:00.000Z\",\"scope\":\x7b\"action\":\x7b\"kind\":\"identity\",\"value\":\"p" ++
      "ayment.execute\"\x7d,\"amount\":\x7b\"kind\":\"ceiling\",\"limit\":\"100\",\"unit\":\"" ++
      "USD\"\x7d,\"resources\":\x7b\"kind\":\"set\",\"values\":[\"invoice-1\",\"invoice-2\"" ++
      "]\x7d\x7d,\"validityCeilings\":[],\"subject\":\"agent-1\"\x7d",
      "70ec09f93a846fd39b0ecb575c164a10204e41f0a82ecb40694b0636e0b166a9"),
    ("\x7b\"allBlockingObligationsSatisfied\":true,\"authorizationPermitsExercise\":true,\"" ++
      "contextDigest\":\"sha256:5994471abb01112afcc18159f6cc74b4f511b99806da59b3caf5a9c173c" ++
      "acfc5\",\"correlation\":\x7b\"action\":\"payment.execute\",\"decisionId\":\"decision" ++
      "-1\",\"requestId\":\"request-1\",\"resourceScope\":\"invoice-1\"\x7d,\"evaluatedAt\"" ++
      ":\"2026-01-01T00:00:00.000Z\",\"scope\":\x7b\"action\":\x7b\"kind\":\"identity\",\"v" ++
      "alue\":\"payment.execute\"\x7d,\"amount\":\x7b\"kind\":\"ceiling\",\"limit\":\"100\"" ++
      ",\"unit\":\"USD\"\x7d,\"resources\":\x7b\"kind\":\"set\",\"values\":[\"invoice-1\",\"" ++
      "invoice-2\"]\x7d\x7d,\"validityCeilings\":[],\"subject\":\"agent-1\"\x7d",
      "cac524631c170a00f2626260e6c586d173c164931361a5a0fdf25d78bfdba352"),
    ("\x7b\"correlation\":\x7b\"action\":\"payment.execute\",\"decisionId\":\"decision-1\"" ++
      ",\"requestId\":\"request-1\",\"resourceScope\":\"invoice-1\"\x7d,\"digest\":\"\",\"e" ++
      "xpiresAt\":\"2026-01-01T00:00:01.000Z\",\"id\":\"aoc.grant:72dd055ebd8a7748389219db2" ++
      "fbb2e20\",\"issuedAt\":\"2026-01-01T00:00:00.000Z\",\"scope\":\x7b\"action\":\x7b\"k" ++
      "ind\":\"identity\",\"value\":\"payment.execute\"\x7d,\"amount\":\x7b\"kind\":\"ceili" ++
      "ng\",\"limit\":\"100\",\"unit\":\"USD\"\x7d,\"resources\":\x7b\"kind\":\"set\",\"val" ++
      "ues\":[\"invoice-1\",\"invoice-2\"]\x7d\x7d,\"sourceDigest\":\"sha256:70ec09f93a846f" ++
      "d39b0ecb575c164a10204e41f0a82ecb40694b0636e0b166a9\",\"subject\":\"agent-1\"\x7d",
      "eb017db617b2ddafd340786e87df216e1f72f765869b2b6006c50f655f3018d3")]

def issuancePlatform : Platform := tabulatedPlatform issuanceDigests

theorem issuancePlatform_injective : Function.Injective issuancePlatform.sha256 :=
  Text.tabulatedHash_injective_literals (.cons rfl (.cons rfl (.cons rfl (.cons rfl .nil))))
    (by decide) (by decide)

def sampleContextDigest : String :=
  "sha256:5994471abb01112afcc18159f6cc74b4f511b99806da59b3caf5a9c173cacfc5"

def issuanceDerived : DerivedGrant :=
  ⟨grantOf issuancePlatform (sampleIssuance sampleSource) (canonicalGrantScope sampleScope)
    sampleLaterInstant,[⟨.axis .action,.equal,false,true⟩,
      ⟨.axis .amount,.equal,false,true⟩, ⟨.axis .resources,.equal,false,true⟩],none⟩

theorem issuance_derived : DerivedFrom issuancePlatform (sampleIssuance sampleSource)
    issuanceDerived (canonicalGrantScope sampleScope) := by
  constructor <;> rfl

theorem issueGrant_again {request' : GrantIssuanceRequest} {derived' : DerivedGrant}
    {scope' : GrantScope} (h : DerivedFrom P request derived scope)
    (h' : DerivedFrom P request' derived' scope') (hid : derived'.grant.id = derived.grant.id) :
    issueGrant P none (after P [.issueGrant none request]) request' =
      (.alreadyIssued derived.grant derived'.bounds derived'.effectiveValidityCeiling,
        after P [.issueGrant none request]) := by
  have hfirst := @issueGrant_empty P request derived scope none h rfl
  have hafter : after P [.issueGrant none request] =
      ⟨Data.OrderedMap.empty.set derived.grant.id derived.grant,.empty⟩ := by
    rw [after,List.foldl_cons,List.foldl_nil,apply,hfirst]
  have hheld : (after P [.issueGrant none request]).grants.get derived'.grant.id = some derived.grant := by
    rw [hafter,Data.OrderedMap.get_set_of_get_none (Data.OrderedMap.get_empty _),if_pos hid]
  have hsemantics : isWellFormedBoundedGrantSemantics derived'.grant.scope
      derived'.grant.semanticsFormat = true := by
    rw [h'.grant_eq]
    exact h'.semantics
  simp [issueGrant,h'.deriveGrant_eq,InMemoryBoundedGrantStore.issue,hsemantics,hheld]

/-- A re-delivered issuance answers with a grant issued by an earlier request. Its source
digest is that of the re-delivered source exactly when the two requests agree on every
field of the canonical source text; and a source's context and approval digests never
enter the identity. -/
theorem alreadyIssued_sourceDigest_iff (P : Platform) (hinjective : Function.Injective P.sha256)
    (calls : List GrantServiceCall) (revalidateSource : Option RevalidateSource)
    (request : GrantIssuanceRequest) (grant : BoundedGrant) (bounds : List GrantBoundAttenuation)
    (ceiling : Option GrantValidityCeiling)
    (h : (issueGrant P revalidateSource (after P calls) request).1 = .alreadyIssued grant bounds ceiling) :
    (∃ earlier, IssuedIn P calls earlier grant) ∧ (∀ earlier, IssuedIn P calls earlier grant →
        (grant.sourceDigest = grantSourceDigest P request.source ↔
          SameAuthority P earlier.source request.source)) ∧
      ∀ contextDigest approvalDigest, ∃ derived derived', deriveGrant P request = .ok derived ∧
        deriveGrant P (request.reDigested contextDigest approvalDigest) = .ok derived' ∧
        derived'.grant.id = derived.grant.id := by
  rcases issueGrant_cases P revalidateSource (after P calls) request with
    ⟨refusal,hrefused⟩ | ⟨derived,hderive,⟨existing,hheld,halready⟩ | ⟨-,-,hissued⟩⟩
  · rw [hrefused] at h
    cases h
  · rw [halready] at h
    cases h
    refine ⟨held_issuedIn calls hheld,fun earlier hearlier => ?_,fun context approval => ?_⟩
    · obtain ⟨before,later,_,_,_,-,hearlierIssued⟩ := hearlier
      rw [sourceDigest_of_issued hearlierIssued,grantSourceDigest_inj hinjective]
    · obtain ⟨scope,hfrom⟩ := deriveGrant_ok hderive
      refine ⟨derived,_,hderive, (deriveGrant_reDigested hfrom context approval).deriveGrant_eq,?_⟩
      rw [hfrom.grant_eq]
      rfl
  · rw [hissued] at h
    cases h

theorem alreadyIssued_sourceDigest_iff_sample : (issueGrant issuancePlatform none
        (after issuancePlatform [.issueGrant none (sampleIssuance sampleSource)])
        (sampleIssuance sampleSource)).1 =
      .alreadyIssued issuanceDerived.grant issuanceDerived.bounds none ∧
    issuanceDerived.grant.sourceDigest = grantSourceDigest issuancePlatform sampleSource := by
  have hagain := congrArg Prod.fst (issueGrant_again issuance_derived issuance_derived rfl)
  obtain ⟨-,hdigest,-⟩ := alreadyIssued_sourceDigest_iff issuancePlatform
    issuancePlatform_injective _ none _ _ _ _ hagain
  have hissued := congrArg Prod.fst (@issueGrant_empty issuancePlatform _ _ _ none
    issuance_derived rfl)
  refine ⟨hagain,(hdigest (sampleIssuance sampleSource) ?_).2 ?_⟩
  · exact ⟨[],[],none,_,_,rfl,hissued⟩
  · constructor <;> rfl

/-- Two sources that differ only in the context they rely on share a grant identity, and the
second is answered with the grant of the first, which carries the digest of the first. -/
theorem alreadyIssued_other_context : ¬ (∀ calls revalidateSource request grant bounds ceiling,
      (issueGrant issuancePlatform revalidateSource (after issuancePlatform calls) request).1 =
        .alreadyIssued grant bounds ceiling →
      grant.sourceDigest = grantSourceDigest issuancePlatform request.source) := by
  intro hclaim
  have hother := deriveGrant_reDigested issuance_derived (some sampleContextDigest) none
  have hagain := congrArg Prod.fst (issueGrant_again issuance_derived hother rfl)
  have hdigest : grantSourceDigest issuancePlatform sampleSource = grantSourceDigest
      issuancePlatform ((sampleIssuance sampleSource).reDigested (some sampleContextDigest)
        none).source := hclaim _ none _ _ _ _ hagain
  have hsame := (grantSourceDigest_inj issuancePlatform_injective).1 hdigest
  cases hsame.contextDigest

end Frontera.Grant
