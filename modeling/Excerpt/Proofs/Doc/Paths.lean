import Excerpt.Doc.Overlay
import Mathlib.Data.List.Basic

/-!
# What an overlay leaves at a path

A path of keys leads from a mapping down through the mappings in it (`Doc.at?`). What an overlay ought to leave at a
path is told from what the two mappings hold at the path and at its beginnings (`Doc.Overlaid`): an empty value removes,
any other value that is no mapping replaces, and where the upper mapping says nothing the lower one stays.

`Doc.overlaid_iff` says when it does so. An empty value removes what the lower mapping holds in a mapping; one that
stands where the lower mapping has none is put into the result (`Doc.Stray`). Hence the result is free of empty values,
and the same overlay once more changes nothing, just if there is no such value.
-/

namespace Excerpt

/-! ## Keys -/

namespace Scalar

theorem sameKey_iff {a b : Scalar} :
    a.sameKey b = true ↔ a.magnitude? = b.magnitude? ∧ (a.magnitude? = none → a = b) := by
  rw [sameKey]
  cases a.magnitude? <;> cases b.magnitude? <;> simp

@[simp] theorem sameKey_self (k : Scalar) : k.sameKey k = true :=
  sameKey_iff.mpr ⟨rfl, fun _ => rfl⟩

theorem sameKey_comm (a b : Scalar) : a.sameKey b = b.sameKey a := by
  have hmove : ∀ {a b : Scalar}, a.sameKey b = true → b.sameKey a = true := fun h => by
    obtain ⟨hm, he⟩ := sameKey_iff.mp h
    exact sameKey_iff.mpr ⟨hm.symm, fun hb => (he (hm.trans hb)).symm⟩
  exact Bool.eq_iff_iff.mpr ⟨hmove, hmove⟩

/-- Keys that are the same are the same as the same keys. -/
theorem sameKey_congr {a b : Scalar} (h : a.sameKey b = true) (c : Scalar) : a.sameKey c = b.sameKey c := by
  have hmove : ∀ {a b : Scalar}, a.sameKey b = true → b.sameKey c = true → a.sameKey c = true := fun hab hbc => by
    obtain ⟨hm, he⟩ := sameKey_iff.mp hab
    obtain ⟨hm', he'⟩ := sameKey_iff.mp hbc
    exact sameKey_iff.mpr ⟨hm.trans hm', fun ha => (he ha).trans (he' (hm ▸ ha))⟩
  exact Bool.eq_iff_iff.mpr ⟨hmove ((sameKey_comm b a).trans h), hmove h⟩

end Scalar

namespace Doc

namespace Entries

variable {k l : Scalar} {v : Doc}

theorem find?_insert (k l : Scalar) (v : Doc) : ∀ es : Entries,
    find? l (insert k v es) = if k.sameKey l then some v else find? l es
  | [] => rfl
  | (k', v') :: es => by
    rw [insert]
    by_cases hk : k'.sameKey k = true
    · rw [if_pos hk, find?, find?, Scalar.sameKey_congr hk l]
      split <;> rfl
    · rw [if_neg hk, find?, find?, find?_insert k l v es]
      by_cases hl : k'.sameKey l = true
      · have hkl : ¬ k.sameKey l = true :=
          fun h => hk ((Scalar.sameKey_congr hl k).trans ((Scalar.sameKey_comm l k).trans h))
        rw [if_pos hl, if_neg hkl, if_pos hl]
      · rw [if_neg hl, if_neg hl]

theorem find?_erase (k l : Scalar) : ∀ es : Entries,
    find? l (erase k es) = if k.sameKey l then none else find? l es
  | [] => by simp [erase, find?]
  | (k', v') :: es => by
    have ih := find?_erase k l es
    rw [erase] at ih
    rw [erase, List.filter_cons]
    cases hk : k'.sameKey k with
    | true =>
      rw [if_neg (by simp), ih, find?, Scalar.sameKey_congr hk l]
      split <;> rfl
    | false =>
      rw [if_pos (by simp), find?, find?, ih]
      by_cases hl : k'.sameKey l = true
      · have hkl : k.sameKey l = false := by
          rw [Scalar.sameKey_comm, ← Scalar.sameKey_congr hl k, hk]
        rw [if_pos hl, hkl, if_neg Bool.false_ne_true, if_pos hl]
      · rw [if_neg hl, if_neg hl]

/-- Putting in what stands under the key changes nothing. -/
theorem insert_of_find? : ∀ {es : Entries}, find? k es = some v → insert k v es = es
  | [], h => by cases h
  | (k', v') :: es, h => by
    rw [find?] at h
    rw [insert]
    split at h
    · rename_i hk
      rw [if_pos hk, Option.some.inj h]
    · rename_i hk
      rw [if_neg hk, insert_of_find? h]

/-- Taking out a key that is not there changes nothing. -/
theorem erase_of_find?_eq_none : ∀ {es : Entries}, find? k es = none → erase k es = es
  | [], _ => rfl
  | (k', v') :: es, h => by
    rw [find?] at h
    split at h
    · cases h
    · rename_i hk
      have ih := erase_of_find?_eq_none h
      rw [erase] at ih
      rw [erase, List.filter_cons, if_pos (by simpa using hk), ih]

theorem find?_of_mem {es : Entries} (h : es.Pairwise fun a b => a.1.sameKey b.1 = false) {e : Scalar × Doc}
    (he : e ∈ es) :
    find? e.1 es = some e.2 := by
  induction es with
  | nil => cases he
  | cons f es ih =>
    obtain ⟨hf, hes⟩ := List.pairwise_cons.mp h
    rw [find?]
    rcases List.mem_cons.mp he with rfl | he
    · rw [if_pos (Scalar.sameKey_self _)]
    · rw [hf e he, if_neg Bool.false_ne_true]
      exact ih hes he

theorem exists_mem_of_find? : ∀ {es : Entries}, find? k es = some v → ∃ e ∈ es, e.2 = v
  | (k', v') :: es, h => by
    rw [find?] at h
    split at h
    · exact ⟨(k', v'), List.mem_cons_self, Option.some.inj h⟩
    · obtain ⟨e, he, hv⟩ := exists_mem_of_find? h
      exact ⟨e, List.mem_cons_of_mem _ he, hv⟩

end Entries

/-! ## Paths -/

/-- Whether a document is a mapping. -/
def isMap : Doc → Bool
  | .map _ => true
  | _ => false

theorem exists_of_isMap : ∀ {d : Doc}, d.isMap = true → ∃ es, d = .map es
  | .map es, _ => ⟨es, rfl⟩

/-- What stands at a path of keys, each leading into a mapping. -/
def at? : Doc → List Scalar → Option Doc
  | d, [] => some d
  | .map es, k :: p => (Entries.find? k es).bind (at? · p)
  | _, _ :: _ => none

/-- A document in whose mappings each key stands once. -/
def Keyed (d : Doc) : Prop :=
  ∀ p es, d.at? p = some (.map es) → es.Pairwise fun a b => a.1.sameKey b.1 = false

/-- A document without empty values at its paths. -/
def NullFree (d : Doc) : Prop :=
  ∀ p, d.at? p ≠ some .null

variable {base es : Entries} {old : Option Doc} {d v : Doc} {k : Scalar} {p q r : List Scalar}

theorem at?_append (d : Doc) (p q : List Scalar) : d.at? (p ++ q) = (d.at? p).bind (at? · q) := by
  induction p generalizing d with
  | nil => rfl
  | cons k p ih =>
    cases d with
    | map es =>
      rw [List.cons_append, at?, at?, Option.bind_assoc]
      exact Option.bind_congr fun e _ => ih e
    | scalar | list => rfl

/-- Nothing stands below a value that is no mapping. -/
theorem at?_of_covered (h : d.at? q = some v) (hv : v.isMap = false) (hp : q <+: p) (hne : q ≠ p) : d.at? p = none := by
  obtain ⟨r, rfl⟩ := hp
  rw [at?_append, h, Option.bind_some]
  cases r with
  | nil => exact (hne (List.append_nil q).symm).elim
  | cons k r =>
    cases v with
    | map es => cases hv
    | scalar | list => rfl

theorem at?_of_none (h : d.at? q = none) (hp : q <+: p) : d.at? p = none := by
  obtain ⟨r, rfl⟩ := hp
  rw [at?_append, h]
  rfl

theorem exists_map_of_at?_cons (h : d.at? (k :: p) = some v) :
    ∃ es e, d = .map es ∧ Entries.find? k es = some e ∧ e.at? p = some v := by
  cases d with
  | map es =>
    obtain ⟨e, he, hv⟩ := Option.bind_eq_some_iff.mp h
    exact ⟨es, e, rfl, he, hv⟩
  | scalar | list => cases h

theorem Keyed.pairwise (h : (Doc.map es).Keyed) : es.Pairwise fun a b => a.1.sameKey b.1 = false :=
  h [] es rfl

theorem Keyed.of_find? (h : (Doc.map es).Keyed) (hv : Entries.find? k es = some v) : v.Keyed := by
  intro p es' hp
  refine h (k :: p) es' ?_
  rw [at?, hv]
  exact hp

theorem keyed_of_isMap_eq_false (hd : d.isMap = false) : d.Keyed := by
  intro p es hp
  cases p with
  | nil =>
    obtain rfl : d = .map es := Option.some.inj hp
    cases hd
  | cons k p =>
    obtain ⟨es', -, rfl, -⟩ := exists_map_of_at?_cons hp
    cases hd

theorem keyed_map (h : es.Pairwise fun a b => a.1.sameKey b.1 = false) (hv : ∀ e ∈ es, e.2.Keyed) :
    (Doc.map es).Keyed := by
  intro p ds hp
  cases p with
  | nil =>
    obtain rfl : es = ds := Doc.map.inj (Option.some.inj hp)
    exact h
  | cons k p =>
    obtain ⟨es', v, he, hfind, hat⟩ := exists_map_of_at?_cons hp
    obtain rfl := Doc.map.inj he
    obtain ⟨e, hmem, rfl⟩ := Entries.exists_mem_of_find? hfind
    exact hv e hmem p ds hat

theorem nullFree_of_isMap_eq_false (hd : d.isMap = false) (hne : d ≠ .null) : d.NullFree := by
  intro p hp
  cases p with
  | nil => exact hne (Option.some.inj hp)
  | cons k p =>
    obtain ⟨es', -, rfl, -⟩ := exists_map_of_at?_cons hp
    cases hd

theorem nullFree_map (hv : ∀ e ∈ es, e.2.NullFree) : (Doc.map es).NullFree := by
  intro p hp
  cases p with
  | nil => cases hp
  | cons k p =>
    obtain ⟨es', v, he, hfind, hat⟩ := exists_map_of_at?_cons hp
    obtain rfl := Doc.map.inj he
    obtain ⟨e, hmem, rfl⟩ := Entries.exists_mem_of_find? hfind
    exact hv e hmem p hat

/-- What an overlay ought to leave at a path: nothing at or below an empty value, a value that is no mapping in its
place and nothing below it, and the values of the lower mapping where the upper one has none. -/
structure Overlaid (base upper merged : Doc) (p : List Scalar) : Prop where
  removed : (∃ q, q <+: p ∧ upper.at? q = some .null) → merged.at? p = none
  replaced : ∀ d, upper.at? p = some d → d.isMap = false → d ≠ .null → merged.at? p = some d
  covered : (∃ q d, q <+: p ∧ q ≠ p ∧ upper.at? q = some d ∧ d.isMap = false) → merged.at? p = none
  kept : upper.at? p = none → (∀ q d, q <+: p → upper.at? q = some d → d.isMap = true) →
    ∀ d, d.isMap = false → (merged.at? p = some d ↔ base.at? p = some d)

/-- An empty value at the path where the lower mapping has no mapping to take anything out of. -/
def Stray (base upper : Doc) (p : List Scalar) : Prop :=
  upper.at? p = some .null ∧ ∃ r k, p = r ++ [k] ∧ ∀ es, base.at? r ≠ some (.map es)

/-! ## One value over another -/

theorem Entries.find?_congr {k l : Scalar} (h : k.sameKey l = true) : ∀ es : Entries, find? k es = find? l es
  | [] => rfl
  | e :: es => by
    rw [find?, find?, Scalar.sameKey_comm, Scalar.sameKey_congr h, Scalar.sameKey_comm, find?_congr h es]

theorem Entries.find?_eq_none {k : Scalar} : ∀ {es : Entries}, (∀ e ∈ es, k.sameKey e.1 = false) → find? k es = none
  | [], _ => rfl
  | e :: es, h => by
    rw [List.forall_mem_cons] at h
    rw [find?, Scalar.sameKey_comm, h.1, if_neg Bool.false_ne_true, find?_eq_none h.2]

/-- What stands under a key after an overlay: what stood there, unless the overlay gives a value for the key. -/
theorem find?_overlay {l : Scalar} : ∀ {es : Entries}, (es.Pairwise fun a b => a.1.sameKey b.1 = false) →
    ∀ base : Entries, Entries.find? l (overlay base es) =
      (Entries.find? l es).elim (Entries.find? l base) (overlayValue (Entries.find? l base))
  | [], _, base => by rw [overlay]; rfl
  | (k, v) :: es, h, base => by
    obtain ⟨hk, hes⟩ := List.pairwise_cons.mp h
    rw [overlay, Entries.find?]
    by_cases hkl : k.sameKey l = true
    · have hnone : Entries.find? l es = none := Entries.find?_eq_none fun e he => by
        rw [← Scalar.sameKey_congr hkl]
        exact hk e he
      rw [if_pos hkl, Option.elim_some, ← Entries.find?_congr hkl base]
      split
      · rename_i d hd
        rw [find?_overlay hes, hnone, Option.elim_none, Entries.find?_insert, if_pos hkl, hd]
      · rename_i hd
        rw [find?_overlay hes, hnone, Option.elim_none, Entries.find?_erase, if_pos hkl, hd]
    · rw [if_neg hkl]
      split
      · rw [find?_overlay hes, Entries.find?_insert, if_neg hkl]
      · rw [find?_overlay hes, Entries.find?_erase, if_neg hkl]

/-- A value over anything but a mapping takes its place. -/
theorem overlayValue_of_not_map (hold : ∀ base, old ≠ some (.map base)) (hv : v ≠ .null) :
    overlayValue old v = some v := by
  cases v with
  | map es =>
    rw [overlayValue.eq_def]
    dsimp only
    split
    · exact (hold _ rfl).elim
    · rfl
  | list ds => rfl
  | scalar s =>
    cases s with
    | null => exact (hv rfl).elim
    | _ => rfl

/-- A value that is no mapping takes the place of any. -/
theorem overlayValue_of_isMap_eq_false (hv : v.isMap = false) (hne : v ≠ .null) : overlayValue old v = some v := by
  cases v with
  | map es => cases hv
  | list ds => rfl
  | scalar s =>
    cases s with
    | null => exact (hne rfl).elim
    | _ => rfl

/-- A mapping over a mapping is followed key by key. -/
theorem at?_overlay_cons (hes : (Doc.map es).Keyed) (base : Entries) (k : Scalar) (p : List Scalar) :
    (overlayValue (some (.map base)) (.map es)).bind (at? · (k :: p)) =
      ((Entries.find? k es).elim (Entries.find? k base) (overlayValue (Entries.find? k base))).bind (at? · p) := by
  rw [← find?_overlay hes.pairwise]
  rfl

theorem map_ne_null (es : Entries) : Doc.map es ≠ .null :=
  nofun

theorem ne_null_of_at?_cons (h : v.at? (k :: p) = some d) : v ≠ .null := by
  rintro rfl
  cases h

/-! ## What the upper mapping says -/

/-- A value that is not empty stands where the upper mapping holds it. -/
theorem at?_overlayValue_of_leaf (hv : v.Keyed) (h : v.at? p = some d) (hd : d.isMap = false) (hne : d ≠ .null) :
    (overlayValue old v).bind (at? · p) = some d := by
  induction p generalizing old v with
  | nil =>
    obtain rfl : v = d := Option.some.inj h
    rw [overlayValue_of_isMap_eq_false hd hne]
    rfl
  | cons k p ih =>
    by_cases hold : ∃ base, old = some (.map base)
    · obtain ⟨base, rfl⟩ := hold
      obtain ⟨es, e, rfl, he, hp⟩ := exists_map_of_at?_cons h
      rw [at?_overlay_cons hv, he]
      exact ih (hv.of_find? he) hp
    · rw [overlayValue_of_not_map (not_exists.mp hold) (ne_null_of_at?_cons h)]
      exact h

/-- Where the upper mapping holds a mapping there is one. -/
theorem exists_map_of_overlayValue (hv : v.Keyed) (h : v.at? p = some (.map es)) :
    ∃ es', (overlayValue old v).bind (at? · p) = some (.map es') := by
  induction p generalizing old v with
  | nil =>
    obtain rfl : v = .map es := Option.some.inj h
    by_cases hold : ∃ base, old = some (.map base)
    · obtain ⟨base, rfl⟩ := hold
      exact ⟨overlay base es, rfl⟩
    · rw [overlayValue_of_not_map (not_exists.mp hold) (map_ne_null es)]
      exact ⟨es, rfl⟩
  | cons k p ih =>
    by_cases hold : ∃ base, old = some (.map base)
    · obtain ⟨base, rfl⟩ := hold
      obtain ⟨es, e, rfl, he, hp⟩ := exists_map_of_at?_cons h
      rw [at?_overlay_cons hv, he]
      exact ih (hv.of_find? he) hp
    · rw [overlayValue_of_not_map (not_exists.mp hold) (ne_null_of_at?_cons h)]
      exact ⟨es, h⟩

/-- An empty value takes out what a mapping holds. -/
theorem at?_overlayValue_of_null (hv : v.Keyed) (h : v.at? (r ++ [k]) = some .null)
    (hold : old.bind (at? · r) = some (.map base)) : (overlayValue old v).bind (at? · (r ++ [k])) = none := by
  induction r generalizing old v with
  | nil =>
    obtain ⟨es, e, rfl, he, hp⟩ := exists_map_of_at?_cons h
    obtain rfl : e = .null := Option.some.inj hp
    obtain ⟨o, rfl, ho⟩ := Option.bind_eq_some_iff.mp hold
    obtain rfl : o = .map base := Option.some.inj ho
    rw [List.nil_append, at?_overlay_cons hv, he]
    rfl
  | cons l r ih =>
    obtain ⟨es, e, rfl, he, hp⟩ := exists_map_of_at?_cons h
    obtain ⟨o, rfl, ho⟩ := Option.bind_eq_some_iff.mp hold
    obtain ⟨bs, b, rfl, hb, hbase⟩ := exists_map_of_at?_cons ho
    rw [List.cons_append, at?_overlay_cons hv, he]
    refine ih (hv.of_find? he) hp ?_
    rw [hb]
    exact hbase

/-- An empty value stays where there is no mapping to take anything out of. -/
theorem at?_overlayValue_of_stray (hv : v.Keyed) (h : v.at? (r ++ [k]) = some .null)
    (hold : ∀ base, old.bind (at? · r) ≠ some (.map base)) :
    (overlayValue old v).bind (at? · (r ++ [k])) = some .null := by
  induction r generalizing old v with
  | nil =>
    have hnot : ∀ base, old ≠ some (.map base) := by
      rintro base rfl
      exact hold base rfl
    rw [overlayValue_of_not_map hnot (ne_null_of_at?_cons h)]
    exact h
  | cons l r ih =>
    by_cases hmap : ∃ base, old = some (.map base)
    · obtain ⟨base, rfl⟩ := hmap
      obtain ⟨es, e, rfl, he, hp⟩ := exists_map_of_at?_cons h
      rw [List.cons_append, at?_overlay_cons hv, he]
      exact ih (hv.of_find? he) hp hold
    · rw [overlayValue_of_not_map (not_exists.mp hmap) (ne_null_of_at?_cons h)]
      exact h

/-! ## What the upper mapping leaves -/

/-- Where the upper mapping says nothing, all stays as it is. -/
theorem at?_overlayValue_of_none (hv : v.Keyed) (h : v.at? p = none)
    (hq : ∀ q e, q <+: p → v.at? q = some e → e.isMap = true) :
    (overlayValue old v).bind (at? · p) = old.bind (at? · p) := by
  induction p generalizing old v with
  | nil => cases h
  | cons k p ih =>
    have hmap := hq [] v List.nil_prefix rfl
    cases v with
    | scalar | list => cases hmap
    | map es =>
      by_cases hold : ∃ base, old = some (.map base)
      · obtain ⟨base, rfl⟩ := hold
        rw [at?_overlay_cons hv]
        cases he : Entries.find? k es with
        | none => rfl
        | some e =>
          have hstep : ∀ q, (Doc.map es).at? (k :: q) = e.at? q := fun q => by
            rw [at?, he]
            rfl
          refine ih (hv.of_find? he) (hstep p ▸ h) fun q e' hprefix hq' => ?_
          exact hq (k :: q) e' (List.cons_prefix_cons.mpr ⟨rfl, hprefix⟩) ((hstep q).trans hq')
      · -- Neither holds anything at the path: the lower one is no mapping, and its place is taken by the upper one.
        rw [overlayValue_of_not_map (not_exists.mp hold) (map_ne_null es), Option.bind_some, h]
        refine (Option.eq_none_iff_forall_ne_some.mpr fun d hd => ?_).symm
        obtain ⟨o, rfl, ho⟩ := Option.bind_eq_some_iff.mp hd
        obtain ⟨bs, -, rfl, -⟩ := exists_map_of_at?_cons ho
        exact hold ⟨bs, rfl⟩

/-! ## The same overlay once more -/

/-- An overlay that gives for each of its keys what stands there changes nothing. -/
theorem overlay_eq_self :
    ∀ {es : Entries}, (∀ e ∈ es, overlayValue (Entries.find? e.1 base) e.2 = Entries.find? e.1 base) →
    overlay base es = base
  | [], _ => by rw [overlay]
  | (k, v) :: es, h => by
    rw [List.forall_mem_cons] at h
    rw [overlay, h.1]
    split
    · rename_i d hd
      rw [Entries.insert_of_find? hd]
      exact overlay_eq_self h.2
    · rename_i hnone
      rw [Entries.erase_of_find?_eq_none hnone]
      exact overlay_eq_self h.2

/-- Every empty value of the upper mapping stands where the lower one has a mapping. -/
def Fits (old : Option Doc) (upper : Doc) : Prop :=
  ∀ r k, upper.at? (r ++ [k]) = some .null → ∃ es, old.bind (at? · r) = some (.map es)

theorem Fits.of_find? (h : Fits (some (.map base)) (.map es)) (hv : Entries.find? k es = some v) :
    Fits (Entries.find? k base) v := by
  intro r l hl
  refine h (k :: r) l ?_
  rw [List.cons_append, at?, hv]
  exact hl

/-- Over anything but a mapping only values without empty ones fit. -/
theorem Fits.of_not_map (h : Fits old (.map es)) (hold : ∀ base, old ≠ some (.map base))
    (hv : Entries.find? k es = some v) : v ≠ .null ∧ Fits none v := by
  have hno : ∀ r, (Doc.map es).at? (k :: r) ≠ some .null := fun r hr => by
    obtain ⟨q, l, hq⟩ : ∃ q l, k :: r = q ++ [l] := ⟨_, _, (List.dropLast_append_getLast (List.cons_ne_nil k r)).symm⟩
    obtain ⟨bs, hbs⟩ := h q l (hq ▸ hr)
    obtain ⟨o, rfl, ho⟩ := Option.bind_eq_some_iff.mp hbs
    cases q with
    | nil => exact hold bs (ho ▸ rfl)
    | cons m q =>
      obtain ⟨bs', -, rfl, -⟩ := exists_map_of_at?_cons ho
      exact hold bs' rfl
  refine ⟨?_, fun r l hl => (hno (r ++ [l]) ?_).elim⟩
  · rintro rfl
    refine hno [] ?_
    rw [at?, hv]
    rfl
  · rw [at?, hv]
    exact hl

/-- Laying a value that fits over a result of its own changes nothing. -/
theorem overlayValue_overlayValue : ∀ (v : Doc) {old : Option Doc}, v.Keyed → Fits old v →
    overlayValue (overlayValue old v) v = overlayValue old v
  | .scalar s, _, _, _ => by cases s <;> rfl
  | .list _, _, _, _ => rfl
  | .map es, old, hv, hfits => by
    have hfind : ∀ e ∈ es, Entries.find? e.1 es = some e.2 := fun e he => Entries.find?_of_mem hv.pairwise he
    by_cases hold : ∃ base, old = some (.map base)
    · obtain ⟨base, rfl⟩ := hold
      change some (Doc.map (overlay (overlay base es) es)) = some (.map (overlay base es))
      rw [overlay_eq_self fun e he => ?_]
      rw [find?_overlay hv.pairwise, hfind e he]
      exact overlayValue_overlayValue e.2 (hv.of_find? (hfind e he)) (hfits.of_find? (hfind e he))
    · rw [overlayValue_of_not_map (not_exists.mp hold) (map_ne_null es)]
      change some (Doc.map (overlay es es)) = some (.map es)
      rw [overlay_eq_self fun e he => ?_]
      obtain ⟨hne, hfit⟩ := hfits.of_not_map (not_exists.mp hold) (hfind e he)
      have halone : overlayValue none e.2 = some e.2 := overlayValue_of_not_map (fun _ => nofun) hne
      have hself := overlayValue_overlayValue e.2 (hv.of_find? (hfind e he)) hfit
      rwa [halone, ← hfind e he] at hself
termination_by v => sizeOf v
decreasing_by
  all_goals
    have hsize := List.sizeOf_lt_of_mem he
    obtain ⟨k, v⟩ := e
    simp only [Prod.mk.sizeOf_spec, map.sizeOf_spec] at hsize ⊢
    omega

/-! ## Overlays of mappings -/

theorem at?_map_overlay (base es : Entries) (p : List Scalar) :
    (Doc.map (overlay base es)).at? p = (overlayValue (some (.map base)) (.map es)).bind (at? · p) := rfl

section Mappings

variable (hes : (Doc.map es).Keyed)
include hes

/-- An empty value takes out what stands at its path, unless it is put there itself. -/
theorem at?_overlay_of_null (h : (Doc.map es).at? p = some .null) :
    (¬ Stray (.map base) (.map es) p → (Doc.map (overlay base es)).at? p = none) ∧
      (Stray (.map base) (.map es) p → (Doc.map (overlay base es)).at? p = some .null) := by
  rw [at?_map_overlay]
  rcases List.eq_nil_or_concat' p with rfl | ⟨r, k, rfl⟩
  · cases h
  · constructor
    · intro hstray
      obtain ⟨bs, hbs⟩ : ∃ bs, (Doc.map base).at? r = some (.map bs) := by
        by_contra hno
        exact hstray ⟨h, r, k, rfl, not_exists.mp hno⟩
      exact at?_overlayValue_of_null hes h hbs
    · rintro ⟨-, r', k', hp, hno⟩
      obtain ⟨rfl, -⟩ := List.append_inj' hp rfl
      exact at?_overlayValue_of_stray hes h hno

theorem at?_overlay_of_leaf (h : (Doc.map es).at? p = some d) (hd : d.isMap = false) (hne : d ≠ .null) :
    (Doc.map (overlay base es)).at? p = some d := by
  rw [at?_map_overlay]
  exact at?_overlayValue_of_leaf hes h hd hne

theorem exists_map_overlay {ds : Entries} (h : (Doc.map es).at? p = some (.map ds)) :
    ∃ es', (Doc.map (overlay base es)).at? p = some (.map es') := by
  obtain ⟨es', hes'⟩ := exists_map_of_overlayValue hes h
  exact ⟨es', (at?_map_overlay base es p).trans hes'⟩

theorem at?_overlay_of_none (h : (Doc.map es).at? p = none)
    (hq : ∀ q e, q <+: p → (Doc.map es).at? q = some e → e.isMap = true) :
    (Doc.map (overlay base es)).at? p = (Doc.map base).at? p := by
  rw [at?_map_overlay]
  exact at?_overlayValue_of_none hes h hq

/-- Below what the upper mapping holds as a value there is nothing. -/
theorem at?_overlay_of_covered (h : (Doc.map es).at? q = some d) (hd : d.isMap = false) (hp : q <+: p) (hne : q ≠ p) :
    (Doc.map (overlay base es)).at? p = none := by
  by_cases hnull : d = .null
  · subst hnull
    by_cases hstray : Stray (.map base) (.map es) q
    · exact at?_of_covered ((at?_overlay_of_null hes h).2 hstray) hd hp hne
    · exact at?_of_none ((at?_overlay_of_null hes h).1 hstray) hp
  · exact at?_of_covered (at?_overlay_of_leaf hes h hd hnull) hd hp hne

theorem overlaid_iff_not_stray (p : List Scalar) :
    Overlaid (.map base) (.map es) (.map (overlay base es)) p ↔ ¬ Stray (.map base) (.map es) p := by
  constructor
  · intro h hstray
    have hnone := h.removed ⟨p, List.prefix_rfl, hstray.1⟩
    rw [(at?_overlay_of_null hes hstray.1).2 hstray] at hnone
    cases hnone
  · intro hstray
    refine ⟨?_, fun d hp hd hne => at?_overlay_of_leaf hes hp hd hne, ?_, fun hp hq d _ => ?_⟩
    · rintro ⟨q, hq, hnull⟩
      by_cases hqp : q = p
      · subst hqp
        exact (at?_overlay_of_null hes hnull).1 hstray
      · exact at?_overlay_of_covered hes hnull rfl hq hqp
    · rintro ⟨q, d, hq, hqp, hd, hmap⟩
      exact at?_overlay_of_covered hes hd hmap hq hqp
    · rw [at?_overlay_of_none hes hp hq]

/-- The result is free of empty values if none is stray. -/
theorem nullFree_overlay (hbase : (Doc.map base).NullFree) (h : ∀ p, ¬ Stray (.map base) (.map es) p) :
    (Doc.map (overlay base es)).NullFree := by
  intro p hp
  cases hupper : (Doc.map es).at? p with
  | none =>
    by_cases hq : ∀ q e, q <+: p → (Doc.map es).at? q = some e → e.isMap = true
    · rw [at?_overlay_of_none hes hupper hq] at hp
      exact hbase p hp
    · push Not at hq
      obtain ⟨q, e, hprefix, he, hmap⟩ := hq
      have hne : q ≠ p := by
        rintro rfl
        cases he.symm.trans hupper
      rw [at?_overlay_of_covered hes he (Bool.eq_false_iff.mpr hmap) hprefix hne] at hp
      cases hp
  | some d =>
    by_cases hnull : d = .null
    · subst hnull
      rw [(at?_overlay_of_null hes hupper).1 (h p)] at hp
      cases hp
    · cases hmap : d.isMap with
      | false => exact hnull (Option.some.inj ((at?_overlay_of_leaf hes hupper hmap hnull).symm.trans hp))
      | true =>
        obtain ⟨ds, rfl⟩ := exists_of_isMap hmap
        obtain ⟨es', hes'⟩ := exists_map_overlay hes hupper
        rw [hes'] at hp
        cases hp

/-- The same overlay once more changes nothing if no empty value is stray. -/
theorem overlay_overlay (h : ∀ p, ¬ Stray (.map base) (.map es) p) :
    overlay (overlay base es) es = overlay base es := by
  have hfits : Fits (some (.map base)) (.map es) := fun r k hk => by
    by_contra hno
    exact h _ ⟨hk, r, k, rfl, not_exists.mp hno⟩
  exact Doc.map.inj (Option.some.inj (overlayValue_overlayValue (.map es) hes hfits))

/-- The second time, a stray value is taken out. -/
theorem not_stray_overlay (h : Stray (.map base) (.map es) p) : ¬ Stray (.map (overlay base es)) (.map es) p := by
  rintro ⟨-, r, k, rfl, hno⟩
  obtain ⟨ds, hds⟩ : ∃ ds, (Doc.map es).at? r = some (.map ds) := by
    have hp := h.1
    rw [at?_append] at hp
    obtain ⟨e, he, hk⟩ := Option.bind_eq_some_iff.mp hp
    obtain ⟨ds, -, rfl, -⟩ := exists_map_of_at?_cons hk
    exact ⟨ds, he⟩
  obtain ⟨es', hes'⟩ := exists_map_overlay hes hds
  exact hno es' hes'

/-- **What an overlay leaves at each path.** It leaves what it ought to just where no empty value is stray. The result
is free of empty values just if none is, and so the same overlay once more changes nothing. -/
theorem overlaid_iff (hbase : (Doc.map base).NullFree) :
    (∀ p, Overlaid (.map base) (.map es) (.map (overlay base es)) p ↔ ¬ Stray (.map base) (.map es) p) ∧
      ((Doc.map (overlay base es)).NullFree ↔ ∀ p, ¬ Stray (.map base) (.map es) p) ∧
      (overlay (overlay base es) es = overlay base es ↔ ∀ p, ¬ Stray (.map base) (.map es) p) := by
  refine ⟨overlaid_iff_not_stray hes, ⟨fun h p hstray => ?_, nullFree_overlay hes hbase⟩,
    ⟨fun h p hstray => ?_, overlay_overlay hes⟩⟩
  · exact h p ((at?_overlay_of_null hes hstray.1).2 hstray)
  · have hfirst := (at?_overlay_of_null hes hstray.1).2 hstray
    have hsecond := (at?_overlay_of_null hes hstray.1).1 (not_stray_overlay hes hstray)
    rw [h, hfirst] at hsecond
    cases hsecond

end Mappings

/-- A site keeps the selectors of a template, takes out a text case and an author, and adds a body. -/
theorem overlaid_iff_site :
    let base : Entries := [(.str "title", .ofFields [("selectors", .strings ["h1"]), ("text_case", .str "upper")]),
      (.str "author", .str ".author")]
    let es : Entries :=
      [(.str "title", .ofFields [("text_case", .null), ("optional", .bool true)]), (.str "author", .null),
        (.str "body", .ofFields [("selectors", .strings ["article"])])]
    (Doc.map base).NullFree ∧ (Doc.map es).Keyed ∧
      (∀ p, Overlaid (.map base) (.map es) (.map (overlay base es)) p) ∧ (Doc.map (overlay base es)).NullFree ∧
      overlay base es = [(.str "title", .ofFields [("selectors", .strings ["h1"]), ("optional", .bool true)]),
        (.str "body", .ofFields [("selectors", .strings ["article"])])] := by
  intro base es
  have hbase : (Doc.map base).NullFree := by
    refine nullFree_map ?_
    simp only [base, List.forall_mem_cons, List.not_mem_nil, false_implies, implies_true, and_true]
    refine ⟨nullFree_map ?_, nullFree_of_isMap_eq_false rfl nofun⟩
    simp only [List.map_cons, List.map_nil, List.forall_mem_cons, List.not_mem_nil, false_implies,
      implies_true, and_true]
    exact ⟨nullFree_of_isMap_eq_false rfl nofun, nullFree_of_isMap_eq_false rfl nofun⟩
  have hes : (Doc.map es).Keyed := by
    refine keyed_map (by decide) ?_
    simp only [es, List.forall_mem_cons, List.not_mem_nil, false_implies, implies_true, and_true]
    refine ⟨keyed_map (by decide) ?_, keyed_of_isMap_eq_false rfl, keyed_map (by decide) ?_⟩
    · simp only [List.map_cons, List.map_nil, List.forall_mem_cons, List.not_mem_nil, false_implies,
        implies_true, and_true]
      exact ⟨keyed_of_isMap_eq_false rfl, keyed_of_isMap_eq_false rfl⟩
    · simp only [List.map_cons, List.map_nil, List.forall_mem_cons, List.not_mem_nil, false_implies,
        implies_true, and_true]
      exact keyed_of_isMap_eq_false rfl
  obtain ⟨hpath, hfree, hagain⟩ := overlaid_iff hes hbase
  have hstray := hagain.mp rfl
  exact ⟨hbase, hes, fun p => (hpath p).mpr (hstray p), hfree.mpr hstray, rfl⟩

/-- An empty value in a mapping that comes new into the result stays in it. -/
theorem overlay_keeps_null :
    ¬ ∀ base es : Entries, (Doc.map base).NullFree → (Doc.map es).Keyed →
      (∀ p, Overlaid (.map base) (.map es) (.map (overlay base es)) p) ∧ (Doc.map (overlay base es)).NullFree ∧
        overlay (overlay base es) es = overlay base es := by
  intro h
  let es : Entries := [(.str "a", .ofFields [("b", .null)])]
  have hbase : (Doc.map []).NullFree := nullFree_map (by simp)
  have hes : (Doc.map es).Keyed := by
    refine keyed_map (by decide) ?_
    simp only [es, List.forall_mem_cons, List.not_mem_nil, false_implies, implies_true, and_true]
    exact keyed_map (by decide) (by simpa using keyed_of_isMap_eq_false rfl)
  have hnull : (Doc.map (overlay [] es)).at? [.str "a", .str "b"] = some .null := rfl
  exact (h [] es hbase hes).2.1 _ hnull

end Doc

end Excerpt
