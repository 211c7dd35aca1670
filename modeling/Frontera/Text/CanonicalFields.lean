import Frontera.Text.JsonValue

/-! Two objects with the same distinct keys have the same canonical form only when they agree field
by field. -/

namespace Frontera.Text.Json

open List

variable {S : Type} [DecidableEq S]

variable {fields : List (S × Json S)} {le : S → S → Bool} {fields' : List (S × Json S)}

private theorem map_lookup (h : (fields.map Prod.fst).Nodup) :
    (fields.map Prod.fst).map (lookup fields) = fields.map fun f => some f.2 := by
  rw [map_map]
  refine map_congr_left fun f hf => ?_
  have hfind : fields.find? (fun g => g.1 = f.1) = some f := by
    cases hfound : fields.find? fun g => g.1 = f.1 with
    | none => exact absurd (by simp) (List.find?_eq_none.1 hfound f hf)
    | some g =>
      have hkey : g.1 = f.1 := by simpa using List.find?_some hfound
      rw [inj_on_of_nodup_map h (mem_of_find?_eq_some hfound) hf hkey]
  rw [Function.comp_apply,lookup,hfind]
  rfl

section

variable (hkeys : fields.map Prod.fst = fields'.map Prod.fst) (hnodup : (fields.map Prod.fst).Nodup)
include hkeys hnodup

theorem canonical_obj_inj (h : canonical le (obj fields) = canonical le (obj fields')) :
    (fields.map fun f => canonical le f.2) = fields'.map fun f => canonical le f.2 := by
  have hnodup' : (fields'.map Prod.fst).Nodup := hkeys ▸ hnodup
  have hvalues {fields : List (S × Json S)} (hnodup : (fields.map Prod.fst).Nodup) :
      (fields.map Prod.fst).map (fun key => get (canonical le (obj fields)) key) =
        fields.map fun f => some (canonical le f.2) := by
    have hlookup := congrArg (List.map (Option.map (canonical le))) (map_lookup hnodup)
    simp only [map_map] at hlookup ⊢
    refine Eq.trans (map_congr_left fun f _ => ?_) hlookup
    exact get_canonical le hnodup f.1
  have hsome := hvalues hnodup
  rw [h,hkeys,hvalues hnodup'] at hsome
  have hall := congrArg (List.filterMap id) hsome
  simpa [filterMap_map] using hall.symm

theorem canonicalSerialize_obj_inj [Literal S]
    (h : canonicalSerialize le (obj fields) = canonicalSerialize le (obj fields')) :
    (fields.map fun f => canonical le f.2) = fields'.map fun f => canonical le f.2 := by
  have hparsed : (parse (canonicalSerialize le (obj fields)) : Option (Json S)) =
      parse (canonicalSerialize le (obj fields')) := congrArg parse h
  rw [parse_canonicalSerialize,parse_canonicalSerialize,Option.some_inj] at hparsed
  exact canonical_obj_inj hkeys hnodup hparsed

end

end Frontera.Text.Json
