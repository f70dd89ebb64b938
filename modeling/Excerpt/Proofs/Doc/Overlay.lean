import Excerpt.Doc.Overlay
import Excerpt.Proofs.Doc.Entries

/-!
# What an overlay leaves under a key

A mapping that is built by setting string keys has distinct keys (`Entries.Distinct`). When such a mapping is laid over
another one, each key is decided on its own: `get?_overlay` says what stands under it afterwards, from what stood there
and what the overlay gives.
-/

namespace Excerpt.Doc

namespace Entries

variable {es : Entries} {k l : String} {v : Doc}

/-- A mapping whose keys are strings, each of which stands once. -/
def Distinct (es : Entries) : Prop :=
  ∃ ps : List (String × Doc), (ps.map Prod.fst).Nodup ∧ es = ofStrings ps

theorem distinct_nil : Distinct [] :=
  ⟨[], List.nodup_nil, rfl⟩

/-- Setting a key that stands in a mapping keeps the keys. -/
theorem exists_set_ofStrings (v : Doc) : ∀ {ps : List (String × Doc)}, k ∈ ps.map Prod.fst →
    ∃ qs, (ofStrings ps).set k v = ofStrings qs ∧ qs.map Prod.fst = ps.map Prod.fst
  | p :: ps, h => by
    by_cases hk : p.1 = k
    · refine ⟨(p.1, v) :: ps, ?_, rfl⟩
      have hsame : (Scalar.str p.1).sameKey (.str k) = true := (Scalar.sameKey_str _ k).mpr (congrArg Scalar.str hk)
      change insert (.str k) v ((.str p.1, p.2) :: ofStrings ps) = _
      rw [insert, if_pos hsame]
      rfl
    · obtain ⟨qs, hqs, hkeys⟩ := exists_set_ofStrings v (List.mem_of_ne_of_mem (Ne.symm hk) h)
      refine ⟨p :: qs, ?_, by rw [List.map_cons, List.map_cons, hkeys]⟩
      have hother : ¬ (Scalar.str p.1).sameKey (.str k) = true :=
        fun hsame => hk (Scalar.str.inj ((Scalar.sameKey_str _ k).mp hsame))
      change insert (.str k) v ((.str p.1, p.2) :: ofStrings ps) = _
      rw [insert, if_neg hother]
      exact congrArg _ hqs

theorem Distinct.set (h : es.Distinct) (k : String) (v : Doc) : (es.set k v).Distinct := by
  obtain ⟨ps, hnodup, rfl⟩ := h
  by_cases hk : k ∈ ps.map Prod.fst
  · obtain ⟨qs, hqs, hkeys⟩ := exists_set_ofStrings v hk
    exact ⟨qs, hkeys ▸ hnodup, hqs⟩
  · refine ⟨ps ++ [(k, v)], ?_, ?_⟩
    · rw [List.map_append, List.nodup_append]
      exact ⟨hnodup, by simp, fun a ha b hb => ne_of_mem_of_not_mem ha (List.mem_singleton.mp hb ▸ hk)⟩
    · rw [set_of_get?_eq_none (get?_ofStrings_eq_none hk), ofStrings, ofStrings, List.map_append]
      rfl

end Entries

open Entries

variable {k : String}

theorem get?_overlay_ofStrings : ∀ {ps : List (String × Doc)}, (ps.map Prod.fst).Nodup → ∀ base : Entries,
    Entries.get? (overlay base (ofStrings ps)) k =
      ((ofStrings ps).get? k).elim (base.get? k) (overlayValue (base.get? k))
  | [], _, base => by rw [ofStrings, List.map_nil, overlay]; rfl
  | p :: ps, h, base => by
    obtain ⟨hp, hnodup⟩ := List.nodup_cons.mp h
    have hcons : ofStrings (p :: ps) = (.str p.1, p.2) :: ofStrings ps := rfl
    rw [hcons, overlay, get?_cons]
    by_cases hk : p.1 = k
    · have hrest : (ofStrings ps).get? k = none := get?_ofStrings_eq_none (hk ▸ hp)
      rw [if_pos (congrArg Scalar.str hk), Option.elim_some, hk]
      split
      · rename_i d hd
        rw [get?_overlay_ofStrings hnodup, hrest]
        exact (get?_set_self k d base).trans hd.symm
      · rename_i hd
        rw [get?_overlay_ofStrings hnodup, hrest]
        exact (get?_unset_self base k).trans hd.symm
    · have hne : k ≠ p.1 := Ne.symm hk
      rw [if_neg fun h => hk (Scalar.str.inj h)]
      split
      · rename_i d _
        have hbase : Entries.get? (Entries.insert (.str p.1) d base) k = base.get? k := get?_set_of_ne hne base
        rw [get?_overlay_ofStrings hnodup, hbase]
      · have hbase : Entries.get? (Entries.erase (.str p.1) base) k = base.get? k := get?_unset_of_ne hne base
        rw [get?_overlay_ofStrings hnodup, hbase]

/-- What stands under a key after an overlay: what stood there, unless the overlay gives a value for the key. -/
theorem get?_overlay {es : Entries} (h : es.Distinct) (base : Entries) (k : String) :
    Entries.get? (overlay base es) k = (es.get? k).elim (base.get? k) (overlayValue (base.get? k)) := by
  obtain ⟨ps, hnodup, rfl⟩ := h
  exact get?_overlay_ofStrings hnodup base

end Excerpt.Doc
