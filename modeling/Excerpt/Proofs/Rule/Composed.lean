import Excerpt.Proofs.Doc.Update
import Excerpt.Proofs.Rule.Overlaid
import Excerpt.Proofs.Rule.WrittenOrder
import Mathlib.Data.List.Nodup

/-!
# Deriving a field rule twice

A field rule is derived by updating its written form and reading the result. If the changes name attributes by their
snake-case keys, each attribute is read from what the changes give for it, or else from its written form
(`FieldRule.derive_eq_ok`), and the written form is read as what it was written from.

`FieldRule.derive_derive` is what follows for two sets of changes: deriving by one after the other is the same as
deriving by the first with the second laid over it.
-/

namespace Excerpt

open Doc (Entries)

namespace FieldAttr

/-- A mapping that gives an attribute under its own key alone gives the value that stands there. -/
theorem given_of_only {a : FieldAttr} {es : Entries} {d : Doc} (h : es.get? a.key = some d)
    (hothers : ∀ k ∈ a.spellings, k ≠ a.key → es.get? k = none) : a.given es = a.add none d := by
  obtain ⟨before, after, hkeys⟩ := List.append_of_mem (a.spell_mem_spellings .snake)
  change a.spellings = before ++ a.key :: after at hkeys
  have hnodup := a.nodup_spellings
  rw [hkeys, List.nodup_append, List.nodup_cons] at hnodup
  obtain ⟨-, ⟨hafter, -⟩, hdisjoint⟩ := hnodup
  have hnone : ∀ k ∈ before ++ after, es.get? k = none := by
    intro k hk
    rcases List.mem_append.mp hk with hk | hk
    · exact hothers k (hkeys ▸ List.mem_append_left _ hk) (hdisjoint k hk a.key List.mem_cons_self)
    · exact hothers k (hkeys ▸ List.mem_append_right _ (List.mem_cons_of_mem _ hk)) (ne_of_mem_of_not_mem hk hafter)
  have hfront : before.filterMap es.get? = [] :=
    List.filterMap_eq_nil_iff.mpr fun k hk => hnone k (List.mem_append_left _ hk)
  have hback : after.filterMap es.get? = [] :=
    List.filterMap_eq_nil_iff.mpr fun k hk => hnone k (List.mem_append_right _ hk)
  rw [a.given_eq_foldl, hkeys, List.filterMap_append, List.filterMap_cons, h, hfront, hback]
  rfl

/-- No second key of an attribute is the key of another one. -/
theorem ne_key_of_mem (a b : FieldAttr) : ∀ k ∈ a.spellings, k ≠ a.key → k ≠ b.key := by
  have hall : ∀ a ∈ all, ∀ b ∈ all, ∀ k ∈ a.spellings, k ≠ a.key → k ≠ b.key := by decide
  exact hall a a.mem_all b b.mem_all

theorem key_injective : Function.Injective key := by
  have hall : ∀ a ∈ all, ∀ b ∈ all, a.key = b.key → a = b := by decide
  exact fun a b h => hall a a.mem_all b b.mem_all h

end FieldAttr

namespace FieldRule

/-- Changes that name attributes by their snake-case keys, plural for lists, each of them once. -/
structure Keyed (changes : Entries) : Prop where
  distinct : changes.Distinct
  only : ∀ a : FieldAttr, ∀ k ∈ a.spellings, k ≠ a.key → changes.get? k = none

/-- Changes to attributes, each under its own key. -/
def changes (cs : List (FieldAttr × Doc)) : Entries :=
  Entries.ofStrings (cs.map fun c => (c.1.key, c.2))

theorem keyed_changes {cs : List (FieldAttr × Doc)} (h : (cs.map Prod.fst).Nodup) : Keyed (changes cs) := by
  have hkeys : (cs.map fun c => (c.1.key, c.2)).map Prod.fst = (cs.map Prod.fst).map FieldAttr.key := by
    rw [List.map_map, List.map_map]
    rfl
  refine ⟨⟨_, hkeys ▸ List.Nodup.map FieldAttr.key_injective h, rfl⟩,
    fun a k hk hne => Entries.get?_ofStrings_eq_none ?_⟩
  rw [hkeys]
  intro hmem
  obtain ⟨b, -, hb⟩ := List.mem_map.mp hmem
  exact a.ne_key_of_mem b k hk hne hb.symm

theorem Keyed.update {A B : Entries} (hA : Keyed A) (hB : Keyed B) : Keyed (A.update B) := by
  refine ⟨hA.distinct.update hB.distinct, fun a k hk hne => ?_⟩
  rw [Entries.get?_update hB.distinct, hA.only a k hk hne, hB.only a k hk hne]
  rfl

/-- Changes to a field rule keep their keys. -/
theorem changed_eq (f : FieldRule) {changes : Entries} (h : changes.Distinct) : schema.changed f changes =
    .map ((Entries.ofStrings (f.toEntries .snake)).update changes) := by
  obtain ⟨ps, -, rfl⟩ := h
  have hkeys : (ps.map fun p => (schema.changeKey p.1, p.2)) = ps := List.map_id ps
  rw [Schema.changed_ofStrings, hkeys]
  rfl

/-- What an attribute of a derived field rule is read from: its change, or else its written form. -/
def source (f : FieldRule) (changes : Entries) (a : FieldAttr) : Doc :=
  (changes.get? a.key).getD (a.write (a.get f))

theorem given_changed {changes : Entries} (h : Keyed changes) (f : FieldRule) (a : FieldAttr) :
    a.given ((Entries.ofStrings (f.toEntries .snake)).update changes) = a.add none (f.source changes a) := by
  refine FieldAttr.given_of_only ?_ fun k hk hne => ?_
  · have hwritten : (Entries.ofStrings (f.toEntries .snake)).get? a.key = some (a.write (a.get f)) :=
      get?_written .snake f a
    rw [Entries.get?_update h.distinct, hwritten, source]
    cases changes.get? a.key <;> rfl
  · have hwritten : (Entries.ofStrings (f.toEntries .snake)).get? k = none := by
      refine Entries.get?_ofStrings_eq_none ?_
      rw [map_fst_toEntries]
      intro hk'
      obtain ⟨b, -, hb⟩ := List.mem_map.mp hk'
      exact a.ne_key_of_mem b k hk hne hb.symm
    rw [Entries.get?_update h.distinct, hwritten, h.only a k hk hne]
    rfl

/-- **What a derived field rule is**: each attribute is read from its change, or else from its written form. -/
theorem derive_eq_ok {changes : Entries} (h : Keyed changes) {f g : FieldRule} : schema.derive f changes = .ok g ↔
    (∀ a : FieldAttr, a.read (f.source changes a) = .ok (a.get g)) ∧ (g.selectors = [] → g.optional = true) := by
  have hattr : ∀ a : FieldAttr,
      a.readGiven (a.given ((Entries.ofStrings (f.toEntries .snake)).update changes)) = .ok (a.get g) ↔
        a.read (f.source changes a) = .ok (a.get g) := by
    intro a
    rw [given_changed h, FieldAttr.readGiven_add]
  rw [Schema.derive, changed_eq f h.distinct, Schema.read_eq_ok]
  exact ofDoc_map_eq_ok.trans (by rw [forall_congr' hattr])

theorem sound_of_made {f : FieldRule} (h : schema.Made f) : f.Sound := by
  obtain ⟨d, hd⟩ := h.exists_ofDoc
  exact sound_of_ofDoc hd

/-- What is read for an attribute after both sets of changes, from one rule or from the other. -/
theorem read_source_iff {r r₁ : FieldRule} {A B : Entries} (hB : Keyed B)
    (hA : ∀ a : FieldAttr, a.read (r.source A a) = .ok (a.get r₁)) (h₁ : r₁.Sound) (a : FieldAttr) (v : a.Value) :
    a.read (r₁.source B a) = .ok v ↔ a.read (r.source (A.update B) a) = .ok v := by
  rw [source, source, Entries.get?_update hB.distinct]
  cases B.get? a.key with
  | some d => exact Iff.rfl
  | none =>
    change a.read (a.write (a.get r₁)) = .ok v ↔ a.read (r.source A a) = .ok v
    rw [h₁.1 a, hA a]

/-- **Derivations compose.** Let a field rule be derived by some changes `A`. Deriving the result by `B` gives a field
rule if and only if deriving the first rule by `A` with `B` laid over it gives one, and then the same. Its attributes
are those of the first rule where neither names them, and where `B` names them what `B` alone is read as. -/
theorem derive_derive {r r₁ : FieldRule} (hr : schema.Made r) {A B : Entries} (hA : Keyed A) (hB : Keyed B)
    (h : schema.derive r A = .ok r₁) :
    (∀ r₂, schema.derive r₁ B = .ok r₂ ↔ schema.derive r (A.update B) = .ok r₂) ∧
    ∀ r₂, schema.derive r₁ B = .ok r₂ →
      (∀ a : FieldAttr, A.get? a.key = none → B.get? a.key = none → a.get r₂ = a.get r) ∧
      ∀ (a : FieldAttr) (d : Doc), B.get? a.key = some d →
        a.read d = .ok (a.get r₂) ∧ ∀ alone, schema.read (.map B) = .ok alone → a.get r₂ = a.get alone := by
  have h₁ := sound_of_made (.derived hr h)
  have hattr := ((derive_eq_ok hA).mp h).1
  refine ⟨fun r₂ => ?_, fun r₂ h₂ => ?_⟩
  · rw [derive_eq_ok hB, derive_eq_ok (hA.update hB)]
    exact and_congr_left fun _ => forall_congr' fun a => read_source_iff hB hattr h₁ a _
  · have hread := ((derive_eq_ok hB).mp h₂).1
    refine ⟨fun a ha hb => ?_, fun a d hd => ?_⟩
    · have hfirst := hattr a
      have hsecond := hread a
      rw [source, ha, Option.getD_none, (sound_of_made hr).1 a] at hfirst
      rw [source, hb, Option.getD_none, h₁.1 a, ← hfirst] at hsecond
      exact (Decoded.ok.inj hsecond).symm
    · have hvalue := hread a
      rw [source, hd, Option.getD_some] at hvalue
      refine ⟨hvalue, fun alone halone => ?_⟩
      have hgiven := (ofDoc_map_eq_ok.mp (Schema.read_eq_ok.mp halone)).1 a
      rw [FieldAttr.given_of_only hd (hB.only a), FieldAttr.readGiven_add, hvalue] at hgiven
      exact Decoded.ok.inj hgiven

/-- A heading with one filter, found by an element or by a `meta` element. -/
def filteredHeading (expr : String) (source : Source) (textCase : TextCase) : FieldRule where
  name := ""
  selectors := [⟨expr, source, .text, none, none, none, [], none, false⟩]
  extractors := []
  textCase := textCase
  datePatterns := []
  filters := [⟨"Ad.*", .all, false⟩]
  conditions := []
  basePath := ""
  removeParameters := true
  trailingSlash := false
  optional := false

/-- The second changes replace the selectors of the first ones and leave the text case; the filter stays. -/
theorem derive_derive_selectors :
    let A := changes [(.list .selectors, .list [.str "h2"]), (.textCase, .str "UPPER")]
    let B := changes [(.list .selectors, .ofFields [("expr", .str "og:title"), ("source", .str "meta")])]
    let r := filteredHeading "h1" .page .none
    let r₁ := filteredHeading "h2" .page .upper
    let r₂ := filteredHeading "og:title" .metadata .upper
    (schema.Made r ∧ Keyed A ∧ Keyed B ∧ schema.derive r A = .ok r₁) ∧
      schema.derive r₁ B = .ok r₂ ∧ schema.derive r (A.update B) = .ok r₂ ∧ r₂.filters = r.filters := by
  intro A B r r₁ r₂
  have hr : schema.Made r := .read (d := .ofFields [("selector", .str "h1"), ("filter", .str "Ad.*")]) rfl
  have hA : Keyed A := keyed_changes (by decide)
  have hB : Keyed B := keyed_changes (by decide)
  have h₁ : schema.derive r A = .ok r₁ := by decide +kernel
  have h₂ : schema.derive r₁ B = .ok r₂ := by decide +kernel
  obtain ⟨hsame, hvalues⟩ := derive_derive hr hA hB h₁
  exact ⟨⟨hr, hA, hB, h₁⟩, h₂, (hsame r₂).mp h₂, (hvalues r₂ h₂).1 (.list .filters) rfl rfl⟩

end FieldRule

end Excerpt
