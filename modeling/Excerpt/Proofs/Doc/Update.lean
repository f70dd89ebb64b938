import Excerpt.Proofs.Doc.Overlay

/-!
# What an update leaves under a key

An update sets the keys of its changes one after the other. If the changes have distinct keys, what stands under a key
afterwards is what they give for it, or else what stood there (`get?_update`). Such an update of a mapping with distinct
keys has distinct keys again (`Distinct.update`), so updates can be made in one go or one by one.
-/

namespace Excerpt.Doc.Entries

variable {es changes : Entries} {k : String}

theorem get?_ofStrings_of_mem {p : String × Doc} : ∀ {ps : List (String × Doc)}, (ps.map Prod.fst).Nodup → p ∈ ps →
    (ofStrings ps).get? p.1 = some p.2
  | q :: ps, h, hp => by
    obtain ⟨hq, hnodup⟩ := List.nodup_cons.mp h
    rw [ofStrings, List.map_cons, get?_cons]
    rcases List.mem_cons.mp hp with rfl | hp
    · exact if_pos rfl
    · have hne : q.1 ≠ p.1 := fun hqp => hq (hqp ▸ List.mem_map_of_mem hp)
      rw [if_neg fun h => hne (Scalar.str.inj h)]
      exact get?_ofStrings_of_mem hnodup hp

theorem update_ofStrings_cons (es : Entries) (p : String × Doc) (ps : List (String × Doc)) :
    es.update (ofStrings (p :: ps)) = (es.set p.1 p.2).update (ofStrings ps) := rfl

/-- After an update a key has the value that it is given, or else the old one. -/
theorem get?_update_ofStrings : ∀ {ps : List (String × Doc)}, (ps.map Prod.fst).Nodup → ∀ es : Entries,
    (es.update (ofStrings ps)).get? k = ((ofStrings ps).get? k).or (es.get? k)
  | [], _, _ => rfl
  | p :: ps, h, es => by
    obtain ⟨hp, hnodup⟩ := List.nodup_cons.mp h
    have hcons : ofStrings (p :: ps) = (.str p.1, p.2) :: ofStrings ps := rfl
    rw [update_ofStrings_cons, get?_update_ofStrings hnodup, hcons, get?_cons]
    by_cases hk : p.1 = k
    · subst hk
      rw [get?_ofStrings_eq_none hp, get?_set_self, if_pos rfl]
      rfl
    · rw [get?_set_of_ne (Ne.symm hk), if_neg fun h => hk (Scalar.str.inj h)]

/-- What stands under a key after an update: what the changes give, or else what stood there. -/
theorem get?_update (h : changes.Distinct) (es : Entries) (k : String) :
    (es.update changes).get? k = (changes.get? k).or (es.get? k) := by
  obtain ⟨ps, hnodup, rfl⟩ := h
  exact get?_update_ofStrings hnodup es

/-- An update puts no key in twice. -/
theorem distinct_update_ofStrings : ∀ (ps : List (String × Doc)) {es : Entries}, es.Distinct →
    (es.update (ofStrings ps)).Distinct
  | [], _, h => h
  | p :: ps, _, h => distinct_update_ofStrings ps (h.set p.1 p.2)

theorem Distinct.update (h : es.Distinct) (hchanges : changes.Distinct) : (es.update changes).Distinct := by
  obtain ⟨ps, -, rfl⟩ := hchanges
  exact distinct_update_ofStrings ps h

end Excerpt.Doc.Entries
