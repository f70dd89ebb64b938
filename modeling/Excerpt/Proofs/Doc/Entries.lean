import Excerpt.Rule.Decoded

/-!
# Looking up and changing entries

What the value under a string key is after an entry has been set or taken out: the new value or none under its own key,
the old value under every other (`get?_set_self`, `get?_set_of_ne`, `get?_unset_self`, `get?_unset_of_ne`,
`get?_unsetAll`). A new key is put at the end, so pairs with distinct keys are a mapping as they stand
(`ofPairs_ofStrings`).
-/

namespace Excerpt

/-- A text is no other key than itself. -/
theorem Scalar.sameKey_str (k : Scalar) (s : String) : k.sameKey (.str s) = true ↔ k = .str s := by
  rw [sameKey]
  cases k <;> simp [magnitude?]

namespace Doc.Entries

variable {k l : String} {v : Doc}

/-- The first entry with a key counts. -/
theorem get?_cons (e : Scalar × Doc) (es : Doc.Entries) (k : String) :
    get? (e :: es) k = if e.1 = .str k then some e.2 else get? es k := by
  obtain ⟨k', v⟩ := e
  rw [get?, find?]
  by_cases h : k' = .str k
  · rw [if_pos ((Scalar.sameKey_str k' k).mpr h), if_pos h]
  · rw [if_neg (mt (Scalar.sameKey_str k' k).mp h), if_neg h]
    rfl

theorem get?_set_self (k : String) (v : Doc) : ∀ es : Doc.Entries, (es.set k v).get? k = some v
  | [] => by rw [set, insert, get?_cons, if_pos rfl]
  | (k', v') :: es => by
    rw [set, insert]
    by_cases h : k' = .str k
    · rw [if_pos ((Scalar.sameKey_str k' k).mpr h), get?_cons, if_pos h]
    · rw [if_neg (mt (Scalar.sameKey_str k' k).mp h), get?_cons, if_neg h]
      exact get?_set_self k v es

/-- Putting a value under one key leaves the other ones. -/
theorem get?_set_of_ne (h : l ≠ k) : ∀ es : Doc.Entries, (es.set k v).get? l = es.get? l
  | [] => by
    rw [set, insert, get?_cons, if_neg (by simpa using Ne.symm h)]
  | (k', v') :: es => by
    rw [set, insert]
    by_cases hk : k' = .str k
    · have hl : k' ≠ .str l := by simpa [hk] using Ne.symm h
      rw [if_pos ((Scalar.sameKey_str k' k).mpr hk), get?_cons, get?_cons, if_neg hl, if_neg hl]
    · rw [if_neg (mt (Scalar.sameKey_str k' k).mp hk), get?_cons, get?_cons]
      split
      · rfl
      · exact get?_set_of_ne h es

theorem get?_unset_self (es : Doc.Entries) (k : String) : (es.unset k).get? k = none := by
  induction es with
  | nil => rfl
  | cons e es ih =>
    rw [unset, erase, List.filter_cons]
    split
    · rename_i h
      have hk : e.1 ≠ .str k := mt (Scalar.sameKey_str e.1 k).mpr (by simpa using h)
      rw [get?_cons, if_neg hk]
      exact ih
    · exact ih

theorem get?_unset_of_ne (h : l ≠ k) (es : Doc.Entries) : (es.unset k).get? l = es.get? l := by
  induction es with
  | nil => rfl
  | cons e es ih =>
    rw [unset, erase, List.filter_cons]
    split
    · rw [get?_cons, get?_cons]
      split
      · rfl
      · exact ih
    · rename_i hk
      have hk' : e.1 = .str k := (Scalar.sameKey_str e.1 k).mp (by simpa using hk)
      rw [get?_cons, if_neg (by simpa [hk'] using Ne.symm h)]
      exact ih

/-- Keys are taken away one by one, and the others keep their values. -/
theorem get?_unsetAll : ∀ {ks : List String} (es : Doc.Entries), l ∉ ks → (es.unsetAll ks).get? l = es.get? l
  | [], _, _ => rfl
  | k :: ks, es, h => by
    rw [List.mem_cons, not_or] at h
    rw [unsetAll, List.foldl_cons]
    exact (get?_unsetAll (es.unset k) h.2).trans (get?_unset_of_ne h.1 es)

theorem get?_unsetAll_of_mem : ∀ {ks : List String} (es : Doc.Entries), k ∈ ks → (es.unsetAll ks).get? k = none
  | l :: ks, es, h => by
    rw [unsetAll, List.foldl_cons]
    by_cases hk : k ∈ ks
    · exact get?_unsetAll_of_mem _ hk
    · rcases List.mem_cons.mp h with rfl | h
      · exact (get?_unsetAll _ hk).trans (get?_unset_self es k)
      · exact (hk h).elim

/-! ## String keys -/

/-- A key that is not there is put at the end. -/
theorem set_of_get?_eq_none {k : String} {v : Doc} : ∀ {es : Doc.Entries}, es.get? k = none →
    es.set k v = es ++ [(.str k, v)]
  | [], _ => rfl
  | e :: es, h => by
    rw [get?_cons] at h
    split at h
    · cases h
    · rename_i hk
      rw [set, insert, if_neg (mt (Scalar.sameKey_str e.1 k).mp hk)]
      exact congrArg _ (set_of_get?_eq_none h)

/-- The mapping of pairs with string keys. -/
def ofStrings (ps : List (String × Doc)) : Doc.Entries :=
  ps.map fun p => (.str p.1, p.2)

theorem get?_ofStrings_eq_none {k : String} : ∀ {ps : List (String × Doc)}, k ∉ ps.map Prod.fst →
    (ofStrings ps).get? k = none
  | [], _ => rfl
  | p :: ps, h => by
    rw [List.map_cons, List.mem_cons, not_or] at h
    rw [ofStrings, List.map_cons, get?_cons, if_neg (by simpa using Ne.symm h.1)]
    exact get?_ofStrings_eq_none h.2

/-- Entries with different keys are put in one behind the other. -/
theorem foldl_insert_ofStrings : ∀ (ps qs : List (String × Doc)), ((qs ++ ps).map Prod.fst).Nodup →
    (ofStrings ps).foldl (fun es p => Doc.Entries.insert p.1 p.2 es) (ofStrings qs) = ofStrings (qs ++ ps)
  | [], qs, _ => by rw [List.append_nil]; rfl
  | p :: ps, qs, h => by
    have hp : p.1 ∉ qs.map Prod.fst := by
      rw [List.map_append, List.nodup_append] at h
      exact fun hm => h.2.2 _ hm _ List.mem_cons_self rfl
    have hset : Doc.Entries.insert (.str p.1) p.2 (ofStrings qs) = ofStrings (qs ++ [p]) :=
      (set_of_get?_eq_none (get?_ofStrings_eq_none hp)).trans (by simp [ofStrings])
    have hcons : ofStrings (p :: ps) = (.str p.1, p.2) :: ofStrings ps := rfl
    rw [hcons, List.foldl_cons, hset, foldl_insert_ofStrings ps (qs ++ [p]) (by rwa [← List.append_cons]),
      ← List.append_cons]

/-- Pairs with distinct keys are a mapping as they stand. -/
theorem ofPairs_ofStrings {ps : List (String × Doc)} (h : (ps.map Prod.fst).Nodup) :
    ofPairs (ofStrings ps) = ofStrings ps :=
  foldl_insert_ofStrings ps [] h

end Doc.Entries

end Excerpt
