import Frontera.Grant.BoundedGrant

/-! `serializeGrantSourceAuthorization` determines every field it is taken over, the scope and the
ceilings up to their canonical order. Under an injective hash two sources have one digest exactly
when they agree on those fields. -/

namespace Frontera.Grant

open Frontera.Text List

theorem join_stringify_inj {values values' : List String} {r s : String} :
    join "," (values.map stringify) ++ ("]\x7d" ++ r) =
      join "," (values'.map stringify) ++ ("]\x7d" ++ s) ↔ values = values' ∧ r = s := by
  constructor
  · exact join_append_inj stringify_prefixFree (by decide)
      fun a r s => stringify_ne_unquoted (by decide) r s
  · rintro ⟨rfl,rfl⟩
    rfl

theorem serializeBound_identity (value : String) : serializeBound (.identity value) =
    "\x7b\"kind\":\"identity\",\"value\":" ++ stringify value ++ "\x7d" := rfl

theorem serializeBound_set (values : List String) : serializeBound (.set values) =
    "\x7b\"kind\":\"set\",\"values\":[" ++ join "," (values.map stringify) ++ "]\x7d" := rfl

theorem serializeBound_ceiling (limit unit : String) : serializeBound (.ceiling limit unit) =
    "\x7b\"kind\":\"ceiling\",\"limit\":" ++ stringify limit ++ ",\"unit\":" ++
      stringify unit ++ "\x7d" := rfl

theorem serializeBound_window (notAfter : String) : serializeBound (.window notAfter) =
    "\x7b\"kind\":\"window\",\"notAfter\":" ++ stringify notAfter ++ "\x7d" := rfl

theorem serializeBound_kind {a b : GrantBound} {r s : String}
    (h : serializeBound a ++ r = serializeBound b ++ s) : a.kind = b.kind := by
  by_contra hkind
  revert h
  cases a <;> cases b <;> try exact absurd rfl hkind
  all_goals
    simp only [serializeBound_identity,serializeBound_set,serializeBound_ceiling,
      serializeBound_window,String.append_assoc]
    exact append_ne_append (by decide) _ _

theorem serializeBound_append_inj {a b : GrantBound} {r s : String} :
    serializeBound a ++ r = serializeBound b ++ s ↔ a = b ∧ r = s := by
  constructor
  · intro h
    have hkind := serializeBound_kind h
    cases a <;> cases b <;> try cases hkind
    · simpa only [serializeBound_identity,String.append_assoc,String.append_right_inj,
        stringify_append_inj,GrantBound.identity.injEq] using h
    · simpa only [serializeBound_set,String.append_assoc,String.append_right_inj,
        join_stringify_inj,GrantBound.set.injEq] using h
    · simpa only [serializeBound_ceiling,String.append_assoc,String.append_right_inj,
        stringify_append_inj,GrantBound.ceiling.injEq,and_assoc] using h
    · simpa only [serializeBound_window,String.append_assoc,String.append_right_inj,
        stringify_append_inj,GrantBound.window.injEq] using h
  · rintro ⟨rfl,rfl⟩
    rfl

theorem booleanText_comma_inj {a b : Bool} {r s : String} :
    booleanText a ++ ("," ++ r) = booleanText b ++ ("," ++ s) ↔ a = b ∧ r = s := by
  cases a <;> cases b <;>
    simp only [booleanText,Bool.false_eq_true,if_true,if_false,String.append_right_inj,
      true_and,reduceCtorEq,false_and,iff_false]
  all_goals exact append_ne_append (by decide) _ _

theorem serializeGovernedParameterBound_maximum (limit : Int) :
    serializeGovernedParameterBound (.maximum limit) =
      "\x7b\"kind\":\"maximum\",\"limit\":" ++ toString limit ++ ",\"type\":\"integer\"\x7d" := rfl

theorem serializeGovernedParameterBound_exact (value : GovernedParameterValue) :
    serializeGovernedParameterBound (.exact value) =
      "\x7b\"kind\":\"exact\",\"type\":" ++ stringify value.typeText ++
        ",\"value\":" ++ serializeGovernedParameterValue value ++ "\x7d" := rfl

theorem serializeGovernedParameterValue_brace {a b : GovernedParameterValue} {r s : String}
    (htype : a.typeText = b.typeText)
    (h : serializeGovernedParameterValue a ++ ("\x7d" ++ r) =
      serializeGovernedParameterValue b ++ ("\x7d" ++ s)) : a = b ∧ r = s := by
  have hunlike : ("integer" : String) ≠ "token" ∧ ("integer" : String) ≠ "boolean" ∧
      ("token" : String) ≠ "boolean" := by decide
  cases a with
  | integer value =>
    cases b with
    | integer value' =>
      simpa only [serializeGovernedParameterValue,integer_brace_inj,
        GovernedParameterValue.integer.injEq] using h
    | token text => exact absurd htype hunlike.1
    | boolean flag => exact absurd htype hunlike.2.1
  | token text =>
    cases b with
    | integer value => exact absurd htype.symm hunlike.1
    | token text' =>
      simpa only [serializeGovernedParameterValue,stringify_append_inj,String.append_right_inj,
        GovernedParameterValue.token.injEq] using h
    | boolean flag => exact absurd htype hunlike.2.2
  | boolean flag =>
    cases b with
    | integer value => exact absurd htype.symm hunlike.2.1
    | token text => exact absurd htype.symm hunlike.2.2
    | boolean flag' =>
      cases flag <;> cases flag'
      · exact ⟨rfl,by simpa [serializeGovernedParameterValue] using h⟩
      · exact absurd h (append_ne_append (by decide) _ _)
      · exact absurd h (append_ne_append (by decide) _ _)
      · exact ⟨rfl,by simpa [serializeGovernedParameterValue] using h⟩

theorem serializeGovernedParameterBound_append_inj {a b : GovernedParameterBound} {r s : String}
    (h : serializeGovernedParameterBound a ++ r = serializeGovernedParameterBound b ++ s) :
    a = b ∧ r = s := by
  have hdiffer : ∀ (limit : Int) (value : GovernedParameterValue) (t u : String),
      serializeGovernedParameterBound (.maximum limit) ++ t ≠
        serializeGovernedParameterBound (.exact value) ++ u := by
    intro limit value t u
    simp only [serializeGovernedParameterBound_maximum,serializeGovernedParameterBound_exact,
      String.append_assoc]
    exact append_ne_append (by decide) _ _
  cases a with
  | maximum limit =>
    cases b with
    | exact value => exact absurd h (hdiffer _ _ _ _)
    | maximum limit' =>
      simp only [serializeGovernedParameterBound_maximum,String.append_assoc, String.append_right_inj] at h
      obtain ⟨rfl,hrest⟩ := integer_append_inj (by decide) (by decide) h
      exact ⟨rfl,(String.append_right_inj _).1 hrest⟩
  | exact value =>
    cases b with
    | maximum limit => exact absurd h.symm (hdiffer _ _ _ _)
    | exact value' =>
      simp only [serializeGovernedParameterBound_exact,String.append_assoc,
        String.append_right_inj,stringify_append_inj] at h
      obtain ⟨rfl,hrest⟩ := serializeGovernedParameterValue_brace h.1 h.2
      exact ⟨rfl,hrest⟩

theorem serializeGrantParameterBound_eq (dimension : String) (bound : GovernedParameterBound) :
    serializeGrantParameterBound ⟨dimension,bound⟩ =
      "\x7b\"dimension\":" ++ stringify dimension ++ "," ++
        String.ofList ((serializeGovernedParameterBound bound).toList.drop 1) := rfl

theorem serializeGrantParameterBound_append_inj {a b : GrantParameterBound} {r s : String}
    (h : serializeGrantParameterBound a ++ r = serializeGrantParameterBound b ++ s) :
    a = b ∧ r = s := by
  have hhead : ∀ bound, (serializeGovernedParameterBound bound).toList.head? = some '\x7b' := by
    intro bound
    cases bound with
    | maximum limit =>
      rw [serializeGovernedParameterBound_maximum,String.append_assoc,String.toList_append,
        List.head?_append]
      rfl
    | exact value =>
      rw [serializeGovernedParameterBound_exact,String.append_assoc,String.append_assoc,
        String.append_assoc,String.toList_append,List.head?_append]
      rfl
  have hopen : ∀ bound, serializeGovernedParameterBound bound =
      "\x7b" ++ String.ofList ((serializeGovernedParameterBound bound).toList.drop 1) := by
    intro bound
    have hfirst := hhead bound
    apply String.toList_injective
    cases htext : (serializeGovernedParameterBound bound).toList with
    | nil =>
      rw [htext] at hfirst
      cases hfirst
    | cons c rest =>
      rw [htext,List.head?_cons,Option.some.injEq] at hfirst
      simp [hfirst]
  obtain ⟨dimension,bound⟩ := a
  obtain ⟨dimension',bound'⟩ := b
  simp only [serializeGrantParameterBound_eq,String.append_assoc,String.append_right_inj,
    stringify_append_inj] at h
  obtain ⟨rfl,hrest⟩ := h
  obtain ⟨rfl,rfl⟩ := @serializeGovernedParameterBound_append_inj bound bound' r s (by
    rw [hopen bound,hopen bound',String.append_assoc,String.append_assoc,hrest])
  exact ⟨rfl,rfl⟩

/-- What a serialized scope lists. -/
inductive ScopeItem where
  | axis (key : GrantBoundKey) (bound : GrantBound)
  | parameters (list : GrantParameterBounds)

def ScopeItem.text : ScopeItem → String
  | .axis key bound => stringify key.text ++ ":" ++ serializeBound bound
  | .parameters list =>
      "\"parameters\":[" ++ join "," (list.map serializeGrantParameterBound) ++ "]"

theorem ScopeItem.text_axis (key : GrantBoundKey) (bound : GrantBound) :
    (ScopeItem.axis key bound).text = stringify key.text ++ ":" ++ serializeBound bound := rfl

theorem ScopeItem.text_parameters (list : GrantParameterBounds) : (ScopeItem.parameters list).text =
      "\"parameters\":[" ++ join "," (list.map serializeGrantParameterBound) ++ "]" := rfl

def axisItems (scope : GrantScope) (key : GrantBoundKey) : List ScopeItem :=
  (grantScopeBound scope key).toList.map (.axis key)

def scopeItems (scope : GrantScope) : List ScopeItem :=
  axisItems scope .action ++ axisItems scope .actionClass ++ axisItems scope .amount ++
    axisItems scope .counterparty ++ axisItems scope .governanceProfile ++
    axisItems scope .organization ++ scope.parameters.toList.map .parameters ++
    axisItems scope .resourceClass ++ axisItems scope .resources

theorem serializeGrantScope_eq (scope : GrantScope) : serializeGrantScope scope =
    "\x7b" ++ join "," ((scopeItems (canonicalGrantScope scope)).map ScopeItem.text) ++ "\x7d" := by
  have haxis : ∀ (scope : GrantScope) key,
      serializeAxis scope key = (axisItems scope key).map ScopeItem.text := by
    intro scope key
    unfold serializeAxis axisItems
    cases grantScopeBound scope key <;> rfl
  have hparameters : ∀ scope : GrantScope, serializeParameters scope =
      (scope.parameters.toList.map ScopeItem.parameters).map ScopeItem.text := by
    intro scope
    unfold serializeParameters
    cases scope.parameters <;> rfl
  simp only [serializeGrantScope,scopeItems,map_append,haxis,hparameters]

theorem GrantBoundKey.text_inj {key key' : GrantBoundKey} (h : key.text = key'.text) : key = key' := by
  revert h
  cases key <;> cases key' <;> decide

theorem parametersText_eq : ("\"parameters\":[" : String) = stringify "parameters" ++ ":[" := by
  decide

theorem ScopeItem.text_append_inj {a b : ScopeItem} {r s : String}
    (h : a.text ++ r = b.text ++ s) : a = b ∧ r = s := by
  have hkey : ∀ key : GrantBoundKey, key.text ≠ "parameters" := by
    intro key
    cases key <;> decide
  have hentries : PrefixFree fun entry => (serializeGrantParameterBound entry).toList :=
    prefixFree_of_append_inj fun _ _ _ _ => serializeGrantParameterBound_append_inj
  cases a with
  | axis key bound =>
    cases b with
    | axis key' bound' =>
      simp only [ScopeItem.text_axis,String.append_assoc,stringify_append_inj,
        String.append_right_inj,serializeBound_append_inj] at h
      obtain ⟨htext,rfl,rfl⟩ := h
      rw [GrantBoundKey.text_inj htext]
      exact ⟨rfl,rfl⟩
    | parameters list =>
      simp only [ScopeItem.text_axis,ScopeItem.text_parameters,parametersText_eq,
        String.append_assoc,stringify_append_inj] at h
      exact absurd h.1 (hkey key)
  | parameters list =>
    cases b with
    | axis key bound =>
      simp only [ScopeItem.text_axis,ScopeItem.text_parameters,parametersText_eq,
        String.append_assoc,stringify_append_inj] at h
      exact absurd h.1.symm (hkey key)
    | parameters list' =>
      simp only [ScopeItem.text_parameters,String.append_assoc,String.append_right_inj] at h
      obtain ⟨rfl,rfl⟩ := join_append_inj hentries (by decide)
        (fun entry t u => by
          rw [serializeGrantParameterBound_eq entry.dimension entry.bound,String.append_assoc,
            String.append_assoc,String.append_assoc]
          exact append_ne_append (by decide) _ _) h
      exact ⟨rfl,rfl⟩

theorem mem_scopeItems_axis {scope : GrantScope} {key : GrantBoundKey} {bound : GrantBound} :
    .axis key bound ∈ scopeItems scope ↔ grantScopeBound scope key = some bound := by
  have haxis : ∀ key', .axis key bound ∈ axisItems scope key' ↔
      key' = key ∧ grantScopeBound scope key = some bound := by
    intro key'
    simp only [axisItems,mem_map,Option.mem_toList,ScopeItem.axis.injEq]
    constructor
    · rintro ⟨_,hbound,rfl,rfl⟩
      exact ⟨rfl,hbound⟩
    · rintro ⟨rfl,hbound⟩
      exact ⟨bound,hbound,rfl,rfl⟩
  have hparameters : .axis key bound ∉ scope.parameters.toList.map ScopeItem.parameters := by simp
  simp only [scopeItems,mem_append,haxis,hparameters,or_false]
  cases key <;> simp

theorem mem_scopeItems_parameters {scope : GrantScope} {list : GrantParameterBounds} :
    .parameters list ∈ scopeItems scope ↔ scope.parameters = some list := by
  simp [scopeItems,axisItems]

theorem scopeItems_injective : Function.Injective scopeItems := by
  intro scope scope' h
  have haxes : ∀ key, grantScopeBound scope key = grantScopeBound scope' key := by
    intro key
    apply Option.ext
    intro bound
    rw [← mem_scopeItems_axis,h,mem_scopeItems_axis]
  have hparameters : scope.parameters = scope'.parameters := by
    apply Option.ext
    intro list
    rw [← mem_scopeItems_parameters,h,mem_scopeItems_parameters]
  obtain ⟨⟩ := scope
  obtain ⟨⟩ := scope'
  simp only [GrantScope.mk.injEq]
  exact ⟨haxes .action,haxes .actionClass,haxes .amount,haxes .counterparty,
    haxes .governanceProfile,haxes .organization,hparameters,haxes .resourceClass, haxes .resources⟩

theorem serializeGrantScope_append_inj {a b : GrantScope} {r s : String} :
    serializeGrantScope a ++ r = serializeGrantScope b ++ s ↔
      canonicalGrantScope a = canonicalGrantScope b ∧ r = s := by
  constructor
  · intro h
    rw [serializeGrantScope_eq,serializeGrantScope_eq] at h
    simp only [String.append_assoc,String.append_right_inj] at h
    have hitems : PrefixFree fun item => (ScopeItem.text item).toList :=
      prefixFree_of_append_inj fun _ _ _ _ => ScopeItem.text_append_inj
    have hopen : ∀ item t u, ScopeItem.text item ++ t ≠ "\x7d" ++ u := by
      intro item t u
      cases item with
      | axis key bound =>
        rw [ScopeItem.text_axis,String.append_assoc,String.append_assoc]
        exact stringify_ne_unquoted (by decide) _ _
      | parameters list =>
        rw [ScopeItem.text_parameters,String.append_assoc,String.append_assoc]
        exact append_ne_append (by decide) _ _
    obtain ⟨hlist,rfl⟩ := join_append_inj hitems (by decide) hopen h
    exact ⟨scopeItems_injective hlist,rfl⟩
  · rintro ⟨hscope,rfl⟩
    rw [serializeGrantScope_eq,serializeGrantScope_eq,hscope]

theorem serializeGrantCorrelation_brace {a b : GrantCorrelation} {r s : String} :
    serializeGrantCorrelation a ++ ("\x7d" ++ r) = serializeGrantCorrelation b ++ ("\x7d" ++ s) ↔
      a = b ∧ r = s := by
  obtain ⟨requestId,decisionId,action,resourceScope⟩ := a
  obtain ⟨requestId',decisionId',action',resourceScope'⟩ := b
  simp only [serializeGrantCorrelation,join_cons_cons,join_singleton,String.append_assoc,
    String.append_right_inj,stringify_append_inj,GrantCorrelation.mk.injEq]
  tauto

theorem leadingField_append_inj {key lit : String} {a b : Option String} {r s : String}
    (hlit : ((stringify key).toList.zip lit.toList).any (fun p => p.1 != p.2) = true) :
    leadingField key a ++ (lit ++ r) = leadingField key b ++ (lit ++ s) ↔ a = b ∧ r = s := by
  cases a with
  | none =>
    cases b with
    | none => simp only [leadingField,String.append_right_inj,true_and]
    | some text =>
      simp only [leadingField,String.append_assoc,String.empty_append,reduceCtorEq,false_and, iff_false]
      exact fun h => append_ne_append hlit _ _ h.symm
  | some text =>
    cases b with
    | none =>
      simp only [leadingField,String.append_assoc,String.empty_append,reduceCtorEq,false_and, iff_false]
      exact append_ne_append hlit _ _
    | some text' =>
      simp only [leadingField,String.append_assoc,String.append_right_inj,stringify_append_inj,
        Option.some.injEq]

theorem join_optionalField (key : String) (value : Option String) (x y : String)
    (rest : List String) :
    join "," (x :: (optionalField key value ++ y :: rest)) =
      x ++ "," ++ leadingField key value ++ join "," (y :: rest) := by
  cases value <;> simp [optionalField,leadingField,String.append_assoc]

def GrantValidityCeiling.serialize (ceiling : GrantValidityCeiling) : String :=
  "\x7b\"notAfter\":" ++ stringify ceiling.notAfter ++ ",\"source\":" ++
    stringify ceiling.source.text ++ "\x7d"

theorem GrantValidityCeiling.serialize_eq (source : GrantValidityCeilingSource)
    (notAfter : String) : GrantValidityCeiling.serialize ⟨source,notAfter⟩ =
      "\x7b\"notAfter\":" ++ stringify notAfter ++ ",\"source\":" ++ stringify source.text ++
        "\x7d" := rfl

theorem GrantValidityCeiling.serialize_append_inj {a b : GrantValidityCeiling} {r s : String}
    (h : a.serialize ++ r = b.serialize ++ s) : a = b ∧ r = s := by
  obtain ⟨source,notAfter⟩ := a
  obtain ⟨source',notAfter'⟩ := b
  simp only [GrantValidityCeiling.serialize_eq,String.append_assoc,String.append_right_inj,
    stringify_append_inj] at h
  obtain ⟨rfl,htext,rfl⟩ := h
  have hsource : source = source' := by
    revert htext
    cases source <;> cases source' <;> decide
  exact ⟨by rw [hsource],rfl⟩

theorem join_ceilings_inj {a b : List GrantValidityCeiling} {r s : String} :
    join "," (a.map GrantValidityCeiling.serialize) ++ ("]" ++ r) =
      join "," (b.map GrantValidityCeiling.serialize) ++ ("]" ++ s) ↔ a = b ∧ r = s := by
  constructor
  · refine join_append_inj
      (prefixFree_of_append_inj fun _ _ _ _ => GrantValidityCeiling.serialize_append_inj)
      (by decide) fun ceiling t u => ?_
    rw [GrantValidityCeiling.serialize_eq ceiling.source ceiling.notAfter]
    simp only [String.append_assoc]
    exact append_ne_append (by decide) _ _
  · rintro ⟨rfl,rfl⟩
    rfl

/-- Two sources agree on every field of the canonical source text. -/
structure SameAuthority (P : Platform) (a b : GrantSourceAuthorization) : Prop where
  allBlockingObligationsSatisfied : a.allBlockingObligationsSatisfied = b.allBlockingObligationsSatisfied
  approvalDigest : a.approvalDigest = b.approvalDigest
  authorizationPermitsExercise : a.authorizationPermitsExercise = b.authorizationPermitsExercise
  contextDigest : a.contextDigest = b.contextDigest
  correlation : a.correlation = b.correlation
  evaluatedAt : a.evaluatedAt = b.evaluatedAt
  scope : canonicalGrantScope a.scope = canonicalGrantScope b.scope
  validityCeilings :
    orderedValidityCeilings P a.validityCeilings = orderedValidityCeilings P b.validityCeilings
  subject : a.subject = b.subject

variable {P : Platform}

theorem serializeGrantSourceAuthorization_eq (P : Platform) (source : GrantSourceAuthorization) :
    serializeGrantSourceAuthorization P source =
      "\"allBlockingObligationsSatisfied\":" ++
        (booleanText source.allBlockingObligationsSatisfied ++ ("," ++
          (leadingField "approvalDigest" source.approvalDigest ++ ("\"authorizationPermitsExercise\":" ++
              (booleanText source.authorizationPermitsExercise ++ ("," ++
                (leadingField "contextDigest" source.contextDigest ++ ("\"correlation\":\x7b" ++
                    (serializeGrantCorrelation source.correlation ++ ("\x7d" ++ ("," ++
                      ("\"evaluatedAt\":" ++ (stringify source.evaluatedAt ++ ("," ++
                        ("\"scope\":" ++ (serializeGrantScope source.scope ++ ("," ++
                          ("\"validityCeilings\":[" ++
                            (join "," ((orderedValidityCeilings P source.validityCeilings).map
                              GrantValidityCeiling.serialize) ++ ("]" ++ ("," ++
                                ("\"subject\":" ++ stringify source.subject)))))))))))))))))))))) := by
  have hceiling : (fun ceiling : GrantValidityCeiling => "\x7b\"notAfter\":" ++
      stringify ceiling.notAfter ++ ",\"source\":" ++ stringify ceiling.source.text ++ "\x7d") =
        GrantValidityCeiling.serialize := rfl
  have hfields : ∀ (x y : String) (k l : String) (u v : Option String) (rest : List String)
      (z : String), join "," ([x] ++ optionalField k u ++ [y] ++ optionalField l v ++ z :: rest) =
        x ++ ("," ++ (leadingField k u ++ (y ++ ("," ++ (leadingField l v ++ join "," (z :: rest)))))) := by
    intro x y k l u v rest z
    simp only [append_assoc,cons_append,nil_append]
    rw [join_optionalField]
    cases v <;> simp only [optionalField,leadingField,nil_append,cons_append,
      join_cons_cons,String.append_assoc,String.empty_append]
  rw [serializeGrantSourceAuthorization,hfields,hceiling]
  simp only [join_cons_cons,join_singleton,String.append_assoc]

theorem serializeGrantSourceAuthorization_inj {a b : GrantSourceAuthorization} :
    serializeGrantSourceAuthorization P a = serializeGrantSourceAuthorization P b ↔
      SameAuthority P a b := by
  rw [serializeGrantSourceAuthorization_eq,serializeGrantSourceAuthorization_eq]
  constructor
  · intro h
    simp only [String.append_right_inj,booleanText_comma_inj,serializeGrantCorrelation_brace,
      stringify_append_inj,stringify_inj,serializeGrantScope_append_inj,join_ceilings_inj,
      @leadingField_append_inj "approvalDigest" "\"authorizationPermitsExercise\":" _ _ _ _
        (by decide),
      @leadingField_append_inj "contextDigest" "\"correlation\":\x7b" _ _ _ _
        (by decide)] at h
    obtain ⟨h1,h2,h3,h4,h5,h6,h7,h8,h9⟩ := h
    exact ⟨h1,h2,h3,h4,h5,h6,h7,h8,h9⟩
  · rintro ⟨h1,h2,h3,h4,h5,h6,h7,h8,h9⟩
    have hscope : serializeGrantScope a.scope = serializeGrantScope b.scope := by
      rw [serializeGrantScope_eq,serializeGrantScope_eq,h7]
    rw [h1,h2,h3,h4,h5,h6,hscope,h8,h9]

theorem grantSourceDigest_inj (hinjective : Function.Injective P.sha256)
    {a b : GrantSourceAuthorization} :
    grantSourceDigest P a = grantSourceDigest P b ↔ SameAuthority P a b := by
  rw [← serializeGrantSourceAuthorization_inj]
  constructor
  · intro h
    have htext := Platform.digestOf_injective hinjective h
    rw [String.append_assoc,String.append_assoc,String.append_right_inj, String.append_left_inj] at htext
    exact htext
  · intro h
    rw [grantSourceDigest,grantSourceDigest,h]

end Frontera.Grant
