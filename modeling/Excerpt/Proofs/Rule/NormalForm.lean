import Excerpt.Proofs.Rule.Normalized

/-!
# A normal form is in normal form

In the normal form of a field rule each key is a string in snake case and stands once, and what belongs to a list stands
under the plural key, as a list (`Normal.InForm`). One entry keeps this (`Normal.InForm.addEntry`), so all of them do.
Such entries are put one behind the other as they stand (`Normal.InForm.addEntries_eq`), and the normal form of a normal
form is the same.
-/

namespace Excerpt

open Doc (Entries)

theorem snakeKey_snakeKey (k : String) : snakeKey (snakeKey k) = snakeKey k := by
  rw [snakeKey, snakeKey, String.toList_ofList, Text.snakeCase_snakeCase]

/-- Neither a hyphen nor a capital of ASCII is in a key in snake case. -/
theorem not_hyphen_of_mem_snakeKey {k : String} {c : Char} (hk : snakeKey k = k) (hc : c ∈ k.toList) :
    c ≠ '-' ∧ c.isUpper = false := by
  rw [← hk, snakeKey, String.toList_ofList] at hc
  refine ⟨?_, (Text.lowered_snakeCase _ c hc).isCapital_eq_false⟩
  rintro rfl
  exact Text.hyphen_not_mem_snakeCase _ hc

theorem ListAttr.snakeKey_key (a : ListAttr) : snakeKey a.key = a.key := by
  cases a <;> decide +kernel

namespace Doc.Entries

variable {es : Entries} {k : String} {v : Doc} {e : Scalar × Doc}

theorem mem_set : ∀ {es : Entries}, e ∈ es.set k v → e ∈ es ∨ e = (.str k, v)
  | [], h => .inr (List.mem_singleton.mp h)
  | f :: es, h => by
    rw [set, insert] at h
    split at h
    · rename_i hk
      rcases List.mem_cons.mp h with rfl | h
      · exact .inr (congrArg (·, v) ((Scalar.sameKey_str f.1 k).mp hk))
      · exact .inl (List.mem_cons_of_mem f h)
    · rcases List.mem_cons.mp h with rfl | h
      · exact .inl List.mem_cons_self
      · exact (mem_set h).imp_left (List.mem_cons_of_mem f)

end Doc.Entries

namespace Normal

variable {es es' ps : Entries} {k : Scalar} {d : Doc}

/-- An entry of a normal form: its key is in snake case, and the plural one of its list if it belongs to one, with a
list. -/
def EntryInForm (e : Scalar × Doc) : Prop :=
  ∃ t, e.1 = .str t ∧ snakeKey t = t ∧ ∀ l : ListAttr, t ∈ l.keys → t = l.key ∧ ∃ ds, e.2 = .list ds

/-- The entries of a normal form. -/
structure InForm (es : Entries) : Prop where
  distinct : es.Distinct
  entries : ∀ e ∈ es, EntryInForm e

theorem inForm_nil : InForm [] :=
  ⟨Entries.distinct_nil, fun _ h => nomatch h⟩

theorem entryInForm_list (l : ListAttr) (ds : List Doc) : EntryInForm (.str l.key, .list ds) := by
  refine ⟨l.key, rfl, l.snakeKey_key, fun m hm => ⟨?_, ds, rfl⟩⟩
  by_contra hne
  have hml : m ≠ l := fun h => hne (h ▸ rfl)
  exact (ListAttr.not_mem_keys hml l.key (l.spell_mem_keys .snake)).1 hm

theorem InForm.addEntry (h : InForm es) (he : Normal.addEntry es k d = .ok es') : InForm es' := by
  refine ⟨distinct_addEntry h.distinct he, fun e hmem => ?_⟩
  obtain ⟨t, -, ⟨l, -, rfl⟩ | ⟨hno, rfl⟩⟩ := addEntry_eq_ok he
  · rcases Entries.mem_set hmem with hold | rfl
    · exact h.entries e hold
    · exact entryInForm_list l _
  · rcases Entries.mem_set hmem with hold | rfl
    · exact h.entries e hold
    · exact ⟨snakeKey t, rfl, snakeKey_snakeKey t, fun l hl => (hno l hl).elim⟩

theorem InForm.addEntries (h : InForm es) (he : Normal.addEntries es ps = .ok es') : InForm es' :=
  addEntries_preserves InForm.addEntry h he

/-- An entry of a normal form is put behind the others as it stands. -/
theorem EntryInForm.addEntry_eq {t : String} (h : EntryInForm (.str t, d)) (ht : es.get? t = none) :
    addEntry es (.str t) d = .ok (es ++ [(.str t, d)]) := by
  obtain ⟨u, hu, hsnake, hlist⟩ := h
  obtain rfl : t = u := Scalar.str.inj hu
  have hend : es.set t d = es ++ [(.str t, d)] := Entries.set_of_get?_eq_none ht
  rw [addEntry, hsnake]
  split
  · rename_i l hl
    obtain ⟨rfl, ds, rfl⟩ := hlist l (ListAttr.ofKey?_eq_some.mp hl)
    have hitems : itemsAt es l.key = [] := by rw [itemsAt, ht]; rfl
    rw [hitems, List.nil_append]
    exact congrArg _ hend
  · rw [hend]

theorem addEntries_ofStrings : ∀ (ps qs : List (String × Doc)), ((qs ++ ps).map Prod.fst).Nodup →
    (∀ e ∈ Entries.ofStrings ps, EntryInForm e) →
    Normal.addEntries (Entries.ofStrings qs) (Entries.ofStrings ps) = .ok (Entries.ofStrings (qs ++ ps))
  | [], qs, _, _ => by rw [List.append_nil]; rfl
  | p :: ps, qs, hkeys, h => by
    have hcons : Entries.ofStrings (p :: ps) = (.str p.1, p.2) :: Entries.ofStrings ps := rfl
    have hp : p.1 ∉ qs.map Prod.fst := by
      rw [List.map_append, List.nodup_append] at hkeys
      exact fun hm => hkeys.2.2 _ hm _ List.mem_cons_self rfl
    rw [hcons, List.forall_mem_cons] at h
    have hfirst := h.1.addEntry_eq (Entries.get?_ofStrings_eq_none hp)
    have hsnoc : Entries.ofStrings qs ++ [(.str p.1, p.2)] = Entries.ofStrings (qs ++ [p]) := by
      simp [Entries.ofStrings]
    rw [hcons, addEntries, hfirst, hsnoc]
    have hrest := addEntries_ofStrings ps (qs ++ [p]) (by rwa [← List.append_cons]) h.2
    rw [← List.append_cons] at hrest
    exact hrest

/-- The entries of a normal form are in normal form as they stand. -/
theorem InForm.addEntries_eq (h : InForm es) : Normal.addEntries [] es = .ok es := by
  obtain ⟨ps, hkeys, rfl⟩ := h.distinct
  exact addEntries_ofStrings ps [] hkeys h.entries

/-- A mapping with string keys has a normal form, which is its own. -/
theorem exists_inForm (h : ∀ e ∈ es, ∃ t, e.1 = .str t) :
    ∃ es', Normal.addEntries [] es = .ok es' ∧ Normal.addEntries [] es' = .ok es' ∧ InForm es' := by
  obtain ⟨es', hes'⟩ := exists_addEntries h []
  have hform := inForm_nil.addEntries hes'
  exact ⟨es', hes', hform.addEntries_eq, hform⟩

/-- **The normal form of a field rule is in normal form.** Any value has one, if it is no mapping with another key than
a string. The keys in it are free of hyphens and capitals, and the key of a list is the plural one in snake case, with a
list under it. -/
theorem field_field (h : ∀ es, d = .map es → ∀ e ∈ es, ∃ t, e.1 = .str t) :
    ∃ d', field d = .ok d' ∧ field d' = .ok d' ∧ ∀ es, d' = .map es → ∀ e ∈ es, ∃ t, e.1 = .str t ∧
      (∀ c ∈ t.toList, c ≠ '-' ∧ c.isUpper = false) ∧ ∀ l : ListAttr, t ∈ l.keys →
        t = l.key ∧ ∃ ds, e.2 = .list ds := by
  cases hd : mapping? d with
  | none =>
    have hfield := field_of_mapping?_eq_none hd
    refine ⟨d, hfield, hfield, fun es hes => ?_⟩
    rw [hes] at hd
    cases hd
  | some es =>
    have hkeys : ∀ e ∈ es, ∃ t, e.1 = .str t := by
      rw [mapping?.eq_def] at hd
      split at hd
      · cases hd
        exact h es rfl
      · cases hd
        exact List.forall_mem_singleton.mpr ⟨_, rfl⟩
      · cases hd
        exact List.forall_mem_singleton.mpr ⟨_, rfl⟩
      · cases hd
    obtain ⟨es', hes', hagain, hform⟩ := exists_inForm hkeys
    refine ⟨.map es', ?_, ?_, ?_⟩
    · rw [field_of_mapping? hd, hes']
      rfl
    · change (Normal.addEntries [] es').map Doc.map = _
      rw [hagain]
      rfl
    · rintro es'' he e hmem
      obtain rfl := Doc.map.inj he
      obtain ⟨t, ht, hsnake, hlist⟩ := hform.entries e hmem
      exact ⟨t, ht, fun c hc => not_hyphen_of_mem_snakeKey hsnake hc, hlist⟩

/-- A mapping with several spellings of one key, in any order. -/
theorem field_field_spellings :
    let d : Doc := .ofFields [("Selectors", .str "h1"), ("datePatterns", .null), ("selector", .strings ["h2"]),
      ("textCase", .str "upper"), ("date-pattern", .str "%Y"), ("text-case", .str "lower")]
    let d' : Doc :=
      .ofFields [("selectors", .strings ["h1", "h2"]), ("date_patterns", .strings ["%Y"]), ("text_case", .str "lower")]
    (∀ es, d = .map es → ∀ e ∈ es, ∃ t, e.1 = .str t) ∧ field d = .ok d' ∧ field d' = .ok d' := by
  intro d d'
  have hkeys : ∀ es, d = .map es → ∀ e ∈ es, ∃ t, e.1 = .str t := by
    rintro es he e hmem
    obtain rfl := Doc.map.inj he
    obtain ⟨p, -, rfl⟩ := List.mem_map.mp hmem
    exact ⟨p.1, rfl⟩
  have hfield : field d = .ok d' := rfl
  obtain ⟨d'', hd, hagain, -⟩ := field_field hkeys
  obtain rfl : d' = d'' := Except.ok.inj (hfield.symm.trans hd)
  exact ⟨hkeys, hfield, hagain⟩

end Normal

end Excerpt
