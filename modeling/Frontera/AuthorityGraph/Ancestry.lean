import Frontera.AuthorityGraph.Verification

/-! The records a decision rests on, as a path of the graph: from the acting record through the
sources of delegations to a grant, and through parents to a grant without one. The strict walk
proves that the path exists and is short; the forgiving walk then has collected exactly its records,
unless a grant on it names the empty id as its parent. -/

namespace Frontera.AuthorityGraph

open List

/-- The parents of a grant, up to one that names none. -/
inductive GrantPath (store : AuthorityGraphStore) : AuthorityGrant → List AuthorityGrant → Prop where
  | root {grant} (hroot : grant.parentGrantId = none) : GrantPath store grant [grant]
  | parent {grant parentId parent rest} (hparent : grant.parentGrantId = some parentId)
      (hget : store.getGrant parentId = some parent) (hrest : GrantPath store parent rest) :
      GrantPath store grant (grant :: rest)

/-- The sources of a delegation, up to a grant and along its parents. -/
inductive DelegationPath (store : AuthorityGraphStore) :
    DelegationGrant → List DelegationGrant → List AuthorityGrant → Prop where
  | grant {delegation grant grants}
      (hget : store.getGrant delegation.sourceAuthorityGrantId = some grant)
      (hrest : GrantPath store grant grants) : DelegationPath store delegation [delegation] grants
  | delegation {delegation source rest grants}
      (hnone : store.getGrant delegation.sourceAuthorityGrantId = none)
      (hget : store.getDelegation delegation.sourceAuthorityGrantId = some source)
      (hrest : DelegationPath store source rest grants) :
      DelegationPath store delegation (delegation :: rest) grants

variable {store : AuthorityGraphStore}

namespace GrantPath

variable {grant : AuthorityGrant} {grants : List AuthorityGrant}

section

variable (h : GrantPath store grant grants)
include h

theorem head : grants.head? = some grant := by
  cases h <;> rfl

theorem last : ∃ root, grants.getLast? = some root ∧ root.parentGrantId = none := by
  induction h with
  | root hroot => exact ⟨_,rfl,hroot⟩
  | parent hparent hget hrest ih =>
    obtain ⟨root,hlast,hroot⟩ := ih
    refine ⟨root,?_,hroot⟩
    rw [List.getLast?_cons,hlast]
    rfl

theorem collected (hnamed : ∀ g ∈ grants, g.parentGrantId ≠ some "") {hops : Nat}
    (hlength : grants.length ≤ hops + 1) : collectGrantAncestryFrom store hops grant = grants := by
  induction h generalizing hops with
  | root hroot => cases hops <;> simp [collectGrantAncestryFrom,hroot]
  | @parent grant parentId parent rest hparent hget hrest ih =>
    cases hops with
    | zero =>
      cases hrest <;> simp at hlength
    | succ hops =>
      have hne : parentId ≠ "" := by
        rintro rfl
        exact hnamed grant mem_cons_self hparent
      have hcollected := ih (fun g hg => hnamed g (mem_cons_of_mem grant hg))
        (by simpa using hlength)
      simp [collectGrantAncestryFrom,hparent,hne,hget,hcollected]

end

end GrantPath

namespace DelegationPath

variable {delegation : DelegationGrant} {delegations : List DelegationGrant}
  {grants : List AuthorityGrant}

section

variable (h : DelegationPath store delegation delegations grants)
include h

theorem head : delegations.head? = some delegation := by
  cases h <;> rfl

theorem grantPath : ∃ grant, GrantPath store grant grants := by
  induction h with
  | grant hget hrest => exact ⟨_,hrest⟩
  | delegation hnone hget hrest ih => exact ih

theorem collected {hops : Nat} (hlength : delegations.length ≤ hops) :
    ∃ grant, GrantPath store grant grants ∧ collectDelegationAncestryFrom store hops delegation =
        (collectGrantAncestry store grant, delegations) := by
  induction h generalizing hops with
  | @grant delegation grant grants hget hrest =>
    cases hops with
    | zero => simp at hlength
    | succ hops => exact ⟨grant,hrest,by simp [collectDelegationAncestryFrom,hget]⟩
  | @delegation delegation source rest grants hnone hget hrest ih =>
    cases hops with
    | zero => simp at hlength
    | succ hops =>
      obtain ⟨grant,hpath,hcollected⟩ := ih (by simpa using hlength)
      exact ⟨grant,hpath,by simp [collectDelegationAncestryFrom,hnone,hget,hcollected]⟩

end

end DelegationPath

variable {hops : Nat} {refs : List String} {terminalDepth : Int} {current : DelegationGrant}

theorem assertGrantRooted_rooted {currentId : String}
    (h : (assertGrantRooted store hops currentId refs).rooted = true) :
    ∃ grant grants, store.getGrant currentId = some grant ∧ GrantPath store grant grants ∧
      grants.length ≤ hops ∧ (grants.map (·.id)).Nodup ∧ ∀ g ∈ grants, g.id ∉ refs := by
  induction hops generalizing currentId refs with
  | zero => cases h
  | succ hops ih =>
    unfold assertGrantRooted at h
    split_ifs at h with hvisited
    · cases h
    · split at h
      · cases h
      · rename_i grant hget
        have hid := AuthorityGraphStore.getGrant_id hget
        have hfresh : grant.id ∉ refs := by
          rw [hid]
          simpa using hvisited
        split at h
        · rename_i hroot
          refine ⟨grant,[grant],hget,.root hroot,by simp,by simp,?_⟩
          simpa using hfresh
        · rename_i parentId hparent
          split at h
          · cases h
          · rename_i parent hgetParent
            obtain ⟨parent',grants,hget',hpath,hlength,hnodup,hrefs⟩ := ih h
            refine ⟨grant,grant :: grants,hget,.parent hparent hget' hpath,by simpa using hlength, ?_,?_⟩
            · rw [map_cons,nodup_cons]
              refine ⟨?_,hnodup⟩
              intro hmem
              obtain ⟨g,hg,hsame⟩ := mem_map.1 hmem
              exact hrefs g hg (by simp [hsame,hid])
            · intro g hg
              rcases mem_cons.1 hg with rfl | hg
              · exact hfresh
              · exact fun hmem => hrefs g hg (mem_append_left _ hmem)

/-- A delegation is a legitimate derivation of its source. -/
def Derives (store : AuthorityGraphStore) (delegation : DelegationGrant) : Prop :=
  ∃ source, resolveSource store delegation.sourceAuthorityGrantId = some source ∧
    delegation.delegatorActorId = source.holderActorId ∧ source.canDelegateFurther = true ∧
    ∀ action ∈ delegation.actions, action ∈ source.actions

theorem resolveSource_cases {id : String} {source : DelegationLineageSource}
    (h : resolveSource store id = some source) :
    (∃ grant, source = .authorityGrant grant ∧ store.getGrant id = some grant) ∨
      ∃ delegation, source = .delegationGrant delegation ∧ store.getGrant id = none ∧
        store.getDelegation id = some delegation := by
  unfold resolveSource at h
  split at h
  · cases h
    exact .inl ⟨_,rfl,by assumption⟩
  · rename_i hnone
    obtain ⟨delegation,hget,rfl⟩ := Option.map_eq_some_iff.1 h
    exact .inr ⟨delegation,rfl,hnone,hget⟩

theorem assessDelegation_hop
    (h : (assessDelegation store terminalDepth (hops + 1) current refs).rooted = true) :
    current.id ∉ refs ∧ Derives store current ∧
      ((∃ grant, store.getGrant current.sourceAuthorityGrantId = some grant ∧
          terminalDepth ≤ grant.maxDelegationDepth.getD 0 ∧
          (assertGrantRooted store hops grant.id (refs ++ [current.id])).rooted = true) ∨
        ∃ delegation, store.getGrant current.sourceAuthorityGrantId = none ∧
          store.getDelegation current.sourceAuthorityGrantId = some delegation ∧
          (assessDelegation store terminalDepth hops delegation (refs ++ [current.id])).rooted = true) := by
  unfold assessDelegation at h
  split_ifs at h with hvisited
  · cases h
  · refine ⟨by simpa using hvisited,?_⟩
    split at h
    · cases h
    · rename_i source hsource
      split_ifs at h with hholder hdelegable
      · cases h
      · cases h
      · split at h
        · cases h
        · rename_i hactions
          constructor
          · refine ⟨source,hsource,by simpa using hholder,by simpa using hdelegable,?_⟩
            intro action hmem
            have hcontained := List.find?_eq_none.1 hactions action hmem
            simpa using hcontained
          · rcases resolveSource_cases hsource with ⟨grant,rfl,hget⟩ | ⟨delegation,rfl,hnone,hget⟩
            · simp only at h
              split_ifs at h with hdepth
              · cases h
              · exact .inl ⟨grant,hget,by omega,h⟩
            · simp only [AuthorityGraphStore.getDelegation_id hget,hget] at h
              exact .inr ⟨delegation,hnone,hget,h⟩

/-- The path the strict walk has found: its records are distinct and outside those visited
before, and its delegations are legitimate. -/
structure Walked (store : AuthorityGraphStore) (hops : Nat) (refs : List String)
    (delegations : List DelegationGrant) (grants : List AuthorityGrant) : Prop where
  horizon : delegations.length + grants.length ≤ hops
  once : (delegations.map (·.id) ++ grants.map (·.id)).Nodup
  fresh : ∀ id ∈ delegations.map (·.id) ++ grants.map (·.id), id ∉ refs
  derived : ∀ d ∈ delegations, Derives store d

theorem Walked.cons {delegations : List DelegationGrant} {grants : List AuthorityGrant}
    (h : Walked store hops (refs ++ [current.id]) delegations grants) (hfresh : current.id ∉ refs)
    (hderives : Derives store current) :
    Walked store (hops + 1) refs (current :: delegations) grants where
  horizon := by
    have := h.horizon
    rw [length_cons]
    omega
  once := by
    rw [map_cons,cons_append,nodup_cons]
    exact ⟨fun hmem => h.fresh current.id hmem (by simp),h.once⟩
  fresh := by
    intro id hid
    rw [map_cons,cons_append,mem_cons] at hid
    rcases hid with rfl | hid
    · exact hfresh
    · exact fun hmem => h.fresh id hid (mem_append_left _ hmem)
  derived := by
    intro d hd
    rcases mem_cons.1 hd with rfl | hd
    · exact hderives
    · exact h.derived d hd

theorem assessDelegation_rooted
    (h : (assessDelegation store terminalDepth hops current refs).rooted = true) :
    ∃ delegations grants grant, DelegationPath store current delegations grants ∧
      grants.head? = some grant ∧ terminalDepth ≤ grant.maxDelegationDepth.getD 0 ∧
      Walked store hops refs delegations grants := by
  induction hops generalizing current refs with
  | zero => cases h
  | succ hops ih =>
    obtain ⟨hfresh,hderives,⟨grant,hget,hdepth,hrooted⟩ | ⟨source,hnone,hget,hrooted⟩⟩ :=
      assessDelegation_hop h
    · obtain ⟨grant',grants,hget',hpath,hlength,hnodup,hrefs⟩ := assertGrantRooted_rooted hrooted
      obtain rfl : grant' = grant := by
        rw [AuthorityGraphStore.getGrant_id hget,hget] at hget'
        exact (Option.some.inj hget').symm
      have hwalked : Walked store hops (refs ++ [current.id]) [] grants := by
        refine ⟨by simpa using hlength,by simpa using hnodup,?_,by simp⟩
        intro id hid
        obtain ⟨g,hg,rfl⟩ := mem_map.1 (by simpa using hid)
        exact hrefs g hg
      exact ⟨[current],grants,grant',.grant hget hpath,hpath.head,hdepth, hwalked.cons hfresh hderives⟩
    · obtain ⟨delegations,grants,grant,hpath,hhead,hdepth,hwalked⟩ := ih hrooted
      exact ⟨current :: delegations,grants,grant,.delegation hnone hget hpath,hhead,hdepth,
        hwalked.cons hfresh hderives⟩

end Frontera.AuthorityGraph
