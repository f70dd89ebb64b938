import Excerpt.Proofs.Rule.Composed

/-!
# Deriving a list under any of its keys

A list of a rule may be given under several keys, the last of which is the one that it is written under. A derivation
lays a value over the written form and reads the result, so a value under the written key takes the place of the old
items, and a value under any other key is put in front of them (`FieldRule.derive_list`, `Selector.derive_excludes`).

`derive_replaces_list_iff` says when the old items are gone.
-/

namespace Excerpt

open Doc (Entries)
open Decoded (listOf)

/-! ## Items of lists -/

namespace ListAttr

/-- What the items of a list attribute are. -/
def Item : ListAttr → Type
  | .selectors => Selector
  | .extractors => Extractor
  | .datePatterns => String
  | .filters => Filter
  | .conditions => Condition

/-- The reader of an item. -/
def readItem : (a : ListAttr) → Doc → Decoded a.Item
  | .selectors => Selector.ofDoc
  | .extractors => Extractor.ofDoc
  | .datePatterns => Decoded.string
  | .filters => Filter.ofDoc
  | .conditions => Condition.ofDoc

/-- The writer of an item. -/
def writeItem : (a : ListAttr) → a.Item → Doc
  | .selectors => Selector.toDoc
  | .extractors => Extractor.toDoc
  | .datePatterns => Doc.str
  | .filters => Filter.toDoc
  | .conditions => Condition.toDoc

/-- The items of a list attribute of a field rule. -/
def items (f : FieldRule) : (a : ListAttr) → List a.Item
  | .selectors => f.selectors
  | .extractors => f.extractors
  | .datePatterns => f.datePatterns
  | .filters => f.filters
  | .conditions => f.conditions

/-- The field rule with other items of a list attribute. -/
def withItems (f : FieldRule) : (a : ListAttr) → List a.Item → FieldRule
  | .selectors, ss => { f with selectors := ss }
  | .extractors, xs => { f with extractors := xs }
  | .datePatterns, ps => { f with datePatterns := ps }
  | .filters, fs => { f with filters := fs }
  | .conditions, cs => { f with conditions := cs }

variable (a : ListAttr) (f : FieldRule)

theorem items_withItems (xs : List a.Item) : a.items (a.withItems f xs) = xs := by
  cases a <;> rfl

theorem get_withItems_of_ne (xs : List a.Item) {b : FieldAttr} (h : b ≠ .list a) :
    b.get (a.withItems f xs) = b.get f := by
  cases b with
  | list c => cases a <;> cases c <;> first | rfl | exact (h rfl).elim
  | _ => cases a <;> rfl

theorem read_eq_ok_iff {d : Doc} : (FieldAttr.list a).read d = .ok (FieldAttr.get f (.list a)) ↔
    listOf a.readItem d = .ok (a.items f) := by
  cases a <;> exact Iff.rfl

theorem write_get : (FieldAttr.list a).write (FieldAttr.get f (.list a)) = .list ((a.items f).map a.writeItem) := by
  cases a <;> rfl

/-- The keys of a list attribute belong to no other attribute. -/
theorem not_mem_spellings {b : FieldAttr} (h : b ≠ .list a) : ∀ k ∈ a.keys, k ∉ b.spellings := by
  have hall : ∀ a ∈ all, ∀ b ∈ FieldAttr.all, b ≠ .list a → ∀ k ∈ a.keys, k ∉ b.spellings := by decide
  exact hall a a.mem_all b b.mem_all h

end ListAttr

namespace Decoded

variable {α : Type} {read : Doc → Decoded α} {ds es : List Doc} {as bs : List α}

/-- Items one after the other are read one after the other. -/
theorem items_append (has : items read ds = .ok as) (hbs : items read es = .ok bs) :
    items read (ds ++ es) = .ok (as ++ bs) :=
  items_eq_ok.mpr (List.rel_append (items_eq_ok.mp has) (items_eq_ok.mp hbs))

end Decoded

/-! ## Field rules -/

namespace FieldRule

variable {r : FieldRule} {a : ListAttr} {k : String} {v : Doc}

/-- The mapping that a derivation by a single change reads. -/
def laid (r : FieldRule) (k : String) (v : Doc) : Entries :=
  (Entries.ofStrings (r.toEntries .snake)).set k v

theorem derive_single (r : FieldRule) (k : String) (v : Doc) :
    schema.derive r [(.str k, v)] = schema.read (.map (r.laid k v)) := rfl

/-- What stands under the keys of a list: the change, and the old items under the written key. -/
theorem get?_laid {l : String} (hl : l ∈ a.keys) : (r.laid k v).get? l =
    if l = k then some v else if l = a.key then some (.list ((a.items r).map a.writeItem)) else none := by
  rw [laid]
  split
  · rename_i hlk
    rw [hlk, Entries.get?_set_self]
  · rename_i hlk
    rw [Entries.get?_set_of_ne hlk]
    split
    · rename_i hkey
      rw [hkey, ← a.write_get]
      exact get?_written .snake r (.list a)
    · rename_i hkey
      exact get?_written_of_ne .snake r hl hkey

/-- What is given for a list after a change under one of its keys: a change under the written key hides the old items,
any other is put in front of them. -/
theorem given_laid (hk : k ∈ a.keys) : (FieldAttr.list a).given (r.laid k v) =
    some (.list (v.toItems ++ if k = a.key then [] else (a.items r).map a.writeItem)) := by
  have hvalues : a.keys.filterMap (r.laid k v).get? =
      v :: if k = a.key then [] else [.list ((a.items r).map a.writeItem)] := by
    rw [List.filterMap_congr fun l hl => get?_laid hl]
    revert hk
    cases a <;> simp only [ListAttr.keys, ListAttr.key, List.mem_cons, List.not_mem_nil, or_false] <;>
      rintro (rfl | rfl | rfl | rfl) <;> rfl
  rw [FieldAttr.given_eq_foldl, show (FieldAttr.list a).spellings = a.keys from rfl, hvalues]
  split
  · rw [List.append_nil]
    rfl
  · rfl

/-- **A derivation of a list**: under the written key, the items of the value take the place of the old ones; under any
other key of the list, they are put in front of them. All other attributes stay. -/
theorem derive_list (hr : r.Sound) (hk : k ∈ a.keys) {xs : List a.Item} (hv : listOf a.readItem v = .ok xs)
    (hfits : a = .selectors → xs = [] → r.optional = true) :
    schema.derive r [(.str k, v)] = .ok (a.withItems r (if k = a.key then xs else xs ++ a.items r)) := by
  rw [derive_single, Schema.read_eq_ok]
  refine ofDoc_map_eq_ok.mpr ⟨fun b => ?_, ?_⟩
  · by_cases hb : b = .list a
    · subst hb
      rw [given_laid hk]
      refine (a.read_eq_ok_iff _).mpr ?_
      rw [a.items_withItems]
      split
      · rwa [List.append_nil]
      · have hold : Decoded.items a.readItem ((a.items r).map a.writeItem) = .ok (a.items r) := by
          have hsound := (a.read_eq_ok_iff r).mp (hr.1 (.list a))
          rwa [a.write_get] at hsound
        exact Decoded.items_append hv hold
    · have hsame : b.given (r.laid k v) = b.given (Entries.ofStrings (r.toEntries .snake)) :=
        FieldAttr.given_congr fun l hl =>
          Entries.get?_set_of_ne (fun h : l = k => a.not_mem_spellings hb k hk (h ▸ hl)) _
      rw [hsame, given_written, a.get_withItems_of_ne r _ hb]
      exact hr.1 b
  · cases a with
    | selectors =>
      intro hnil
      change (if k = ListAttr.key .selectors then xs else xs ++ ListAttr.selectors.items r) = [] at hnil
      refine hfits rfl ?_
      split at hnil
      · exact hnil
      · exact (List.append_eq_nil_iff.mp hnil).1
    | _ => exact hr.2

end FieldRule

/-! ## Selectors -/

namespace Selector

variable {s : Selector} {k : String} {v : Doc}

/-- The mapping that a derivation by a single change reads. -/
def laid (s : Selector) (k : String) (v : Doc) : Entries :=
  (Entries.ofStrings s.toEntries).set k v

theorem derive_single (s : Selector) (k : String) (v : Doc) :
    schema.derive s [(.str k, v)] = schema.read (.map (s.laid k v)) := rfl

/-- Merging the excludes changes nothing under other keys. -/
theorem get?_mergeExcludes {l : String} (hl : l ∉ excludeKeys) (es : Entries) :
    (mergeExcludes es).get? l = es.get? l := by
  have hne : l ≠ "excludes" := fun h => hl (h ▸ by decide)
  rw [mergeExcludes]
  split
  · exact Entries.get?_unsetAll es hl
  · exact Entries.get?_unsetAll es hl
  · rw [Entries.get?_set_of_ne hne, Entries.get?_unsetAll es hl]

/-- The excludes are read from the items under both keys. -/
theorem attrOr_mergeExcludes {es : Entries} {xs : List Exclude}
    (h : Decoded.items Exclude.ofDoc ((es.merged? excludeKeys).getD []) = .ok xs) :
    (mergeExcludes es).attrOr "excludes" [] (listOf Exclude.ofDoc) = .ok xs := by
  have hunset : (es.unsetAll excludeKeys).attr? "excludes" = none := by
    have hnone : ∀ l ∈ excludeKeys, (es.unsetAll excludeKeys).get? l = none :=
      fun l hl => Entries.get?_unsetAll_of_mem es hl
    rw [Entries.attr?, show KeyStyle.kebab.spell "excludes" = "excludes" from rfl, hnone "excludes" (by decide)]
    rfl
  rw [mergeExcludes]
  split
  · rename_i hmerged
    rw [hmerged] at h
    rw [Entries.attrOr, hunset]
    exact h
  · rename_i hmerged
    rw [hmerged] at h
    rw [Entries.attrOr, hunset]
    exact h
  · rename_i ds _ hmerged
    rw [hmerged] at h
    have hset : ((es.unsetAll excludeKeys).set "excludes" (.list ds)).attr? "excludes" =
        some ("excludes", .list ds) := by
      rw [Entries.attr?, show KeyStyle.kebab.spell "excludes" = "excludes" from rfl, Entries.get?_set_self]
    exact (Entries.attrOr_of_attr? hset).mpr h

theorem merged?_laid (hk : k ∈ excludeKeys) : (s.laid k v).merged? excludeKeys =
    some (v.toItems ++ if k = "excludes" then [] else s.excludes.map Exclude.toDoc) := by
  rcases List.mem_pair.mp hk with rfl | rfl
  · exact congrArg some (congrArg (v.toItems ++ ·) (List.append_nil _))
  · rfl

/-- An attribute other than the excludes is read from what was written for it. -/
theorem attr?_laid (hk : k ∈ excludeKeys) {key : String}
    (hkey : key ∈ ["expr", "source", "output", "attribute", "multiple", "separator", "size", "background"]) :
    (mergeExcludes (s.laid k v)).attr? key = (mergeExcludes (Entries.ofStrings s.toEntries)).attr? key := by
  refine Entries.attr?_congr fun style => ?_
  have hother : style.spell key ∉ excludeKeys := by
    revert key
    cases style <;> decide
  rw [get?_mergeExcludes hother, get?_mergeExcludes hother, laid,
    Entries.get?_set_of_ne (ne_of_mem_of_not_mem hk hother).symm]

/-- The excludes that are read after a change. -/
theorem items_merged_laid (hk : k ∈ excludeKeys) {xs : List Exclude} (hv : listOf Exclude.ofDoc v = .ok xs) :
    Decoded.items Exclude.ofDoc (((s.laid k v).merged? excludeKeys).getD []) =
      .ok (if k = "excludes" then xs else xs ++ s.excludes) := by
  have hold : Decoded.items Exclude.ofDoc (s.excludes.map Exclude.toDoc) = .ok s.excludes :=
    Decoded.items_eq_ok.mpr (List.forall₂_map_left_iff.mpr (List.forall₂_same.mpr fun x _ =>
      Exclude.restores (show Exclude.ofDoc (.str x.expr) = .ok x from rfl)))
  rw [merged?_laid hk]
  split
  · rwa [List.append_nil]
  · exact Decoded.items_append hv hold

theorem checked_eq_self_iff :
    checked s = .ok s ↔ (s.isCss = true → ∃ chains, Css.parse s.expr.toList = .ok chains) := by
  rw [checked]
  by_cases hcss : s.isCss = true
  · rw [if_pos hcss, forall_prop_of_true hcss]
    cases Css.parse s.expr.toList with
    | ok chains => exact iff_of_true rfl ⟨chains, rfl⟩
    | error d =>
      refine iff_of_false (fun h => ?_) (by simp)
      cases d <;> cases h
  · rw [if_neg hcss]
    exact iff_of_true rfl fun h => absurd h hcss

theorem checked_withExcludes (h : checked s = .ok s) (xs : List Exclude) :
    checked { s with excludes := xs } = .ok { s with excludes := xs } := by
  have hparse := checked_eq_self_iff.mp h
  exact checked_eq_self_iff.mpr hparse

/-- **A derivation of excludes**: under the written key, the excludes of the value take the place of the old ones; under
the other key, they are put in front of them. All other attributes stay. -/
theorem derive_excludes (hs : schema.Made s) (hk : k ∈ excludeKeys) {xs : List Exclude}
    (hv : listOf Exclude.ofDoc v = .ok xs) : schema.derive s [(.str k, v)] =
      .ok { s with excludes := if k = "excludes" then xs else xs ++ s.excludes } := by
  obtain ⟨d, hd⟩ := hs.exists_ofDoc
  have hwritten : ofEntries (mergeExcludes (Entries.ofStrings s.toEntries)) = .ok s := restores hd
  obtain ⟨h1, h2, h3, h4, h5, h6, -, h8, h9, hchecked⟩ := ofEntries_eq_ok.mp hwritten
  rw [derive_single, Schema.read_eq_ok]
  refine ofEntries_eq_ok.mpr ⟨?_, ?_, ?_, ?_, ?_, ?_, attrOr_mergeExcludes (items_merged_laid hk hv), ?_,
    ?_, checked_withExcludes hchecked _⟩
  · rw [Entries.attr, attr?_laid hk (by decide)]
    exact h1
  all_goals rw [Entries.attrOr, attr?_laid hk (by decide)]
  · exact h2
  · exact h3
  · exact h4
  · exact h5
  · exact h6
  · exact h8
  · exact h9

end Selector

/-! ## Replacing a list -/

/-- **When a derivation replaces a list**: a value that can be read for a list of a rule, given under one of the keys of
the list, takes the place of the old items and leaves everything else alone if and only if the key is the one that the
list is written under, or there were no items. This holds of the lists of field rules, where a rule that is not optional
needs selectors, and of the excludes of selectors. -/
theorem derive_replaces_list_iff {r : FieldRule} (hr : FieldRule.schema.Made r) {s : Selector}
    (hs : Selector.schema.Made s) (k : String) (v : Doc) :
    (∀ {a : ListAttr} {xs : List a.Item}, k ∈ a.keys → listOf a.readItem v = .ok xs →
      (a = .selectors → xs = [] → r.optional = true) →
      ((∃ r', FieldRule.schema.derive r [(.str k, v)] = .ok r' ∧ a.items r' = xs ∧
          ∀ b : FieldAttr, b ≠ .list a → b.get r' = b.get r) ↔
        k = a.key ∨ a.items r = [])) ∧
    ∀ {xs : List Exclude}, k ∈ Selector.excludeKeys → listOf Exclude.ofDoc v = .ok xs →
      (Selector.schema.derive s [(.str k, v)] = .ok { s with excludes := xs } ↔ k = "excludes" ∨ s.excludes = []) := by
  constructor
  · intro a xs hk hv hfits
    have hderive := FieldRule.derive_list (FieldRule.sound_of_made hr) hk hv hfits
    constructor
    · rintro ⟨r', hr', hitems, -⟩
      rw [hderive] at hr'
      cases hr'
      rw [a.items_withItems] at hitems
      split at hitems
      · rename_i hkey
        exact .inl hkey
      · exact .inr (List.append_right_eq_self.mp hitems)
    · intro h
      refine ⟨_, hderive, ?_, fun b hb => a.get_withItems_of_ne r _ hb⟩
      rw [a.items_withItems]
      split
      · rfl
      · rename_i hkey
        rw [h.resolve_left hkey, List.append_nil]
  · intro xs hk hv
    rw [Selector.derive_excludes hs hk hv, Except.ok.injEq, Selector.mk.injEq]
    simp only [true_and, and_true]
    split
    · rename_i hkey
      exact iff_of_true rfl (.inl hkey)
    · rename_i hkey
      rw [or_iff_right hkey]
      exact List.append_right_eq_self

/-- A selector with the excludes of its expressions. -/
def paragraphSelector (excludes : List String) : Selector :=
  ⟨"p", .page, .text, none, none, none, excludes.map Exclude.mk, none, false⟩

/-- A heading gets another filter under the written key, and not under the singular one; so does the exclude of a
selector. -/
theorem derive_replaces_list_iff_filters :
    let r := FieldRule.filteredHeading "h1" .page .none
    let s := paragraphSelector ["a"]
    let filters : List Filter := [⟨"Buy.*", .all, false⟩]
    (FieldRule.schema.Made r ∧ Selector.schema.Made s ∧
      listOf (ListAttr.readItem .filters) (.str "Buy.*") = .ok filters ∧
      listOf Exclude.ofDoc (.str "b") = .ok [⟨"b"⟩]) ∧
    (∃ r', FieldRule.schema.derive r [(.str "filters", .str "Buy.*")] = .ok r' ∧ r'.filters = filters) ∧
    (¬ ∃ r', FieldRule.schema.derive r [(.str "filter", .str "Buy.*")] = .ok r' ∧ ListAttr.items r' .filters = filters ∧
      ∀ b : FieldAttr, b ≠ .list .filters → b.get r' = b.get r) ∧
    Selector.schema.derive s [(.str "excludes", .str "b")] = .ok (paragraphSelector ["b"]) := by
  intro r s filters
  have hr : FieldRule.schema.Made r := .read (d := .ofFields [("selector", .str "h1"), ("filter", .str "Ad.*")]) rfl
  have hs : Selector.schema.Made s := .read (d := .ofFields [("expr", .str "p"), ("exclude", .str "a")]) rfl
  have hfilters : listOf (ListAttr.readItem .filters) (.str "Buy.*") = .ok filters := by rfl
  have hexclude : listOf Exclude.ofDoc (.str "b") = .ok [⟨"b"⟩] := by rfl
  have hplural :=
    ((derive_replaces_list_iff hr hs "filters" (.str "Buy.*")).1 (by decide) hfilters (by simp)).mpr (.inl rfl)
  have hsingular := mt ((derive_replaces_list_iff hr hs "filter" (.str "Buy.*")).1 (by decide) hfilters (by simp)).mp
    (by decide)
  exact ⟨⟨hr, hs, hfilters, hexclude⟩, hplural.imp fun r' h => ⟨h.1, h.2.1⟩, hsingular,
    ((derive_replaces_list_iff hr hs "excludes" (.str "b")).2 (by decide) hexclude).mpr (.inl rfl)⟩

/-- A selector under the singular key comes in front of the old one. -/
theorem derive_keeps_old_selector :
    ¬ ∀ (r : FieldRule) (a : ListAttr) (k : String) (v : Doc) (xs : List a.Item), FieldRule.schema.Made r → k ∈ a.keys →
      listOf a.readItem v = .ok xs → xs ≠ [] → ∃ r', FieldRule.schema.derive r [(.str k, v)] = .ok r' ∧
      a.items r' = xs := by
  intro h
  let r := FieldRule.filteredHeading "h1" .page .none
  have hr : FieldRule.schema.Made r := .read (d := .ofFields [("selector", .str "h1"), ("filter", .str "Ad.*")]) rfl
  have hread : listOf (ListAttr.readItem .selectors) (.str "h2") =
      .ok [⟨"h2", .page, .text, none, none, none, [], none, false⟩] := by rfl
  obtain ⟨r', hr', hitems⟩ := h r .selectors "selector" (.str "h2") _ hr (by decide) hread (by simp)
  have hboth :
      (FieldRule.schema.derive r [(.str "selector", .str "h2")]).toOption.map (·.selectors.length) = some 2 := by
    decide +kernel
  rw [hr'] at hboth
  change some (ListAttr.items r' .selectors).length = some 2 at hboth
  rw [hitems] at hboth
  exact absurd hboth (by decide)

end Excerpt
