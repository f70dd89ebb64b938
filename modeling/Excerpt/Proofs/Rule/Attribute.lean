import Excerpt.Proofs.Rule.Named
import Excerpt.Proofs.Rule.Restored

/-!
# The attributes of field rules

A field rule is read and written attribute by attribute. An attribute has a key, a default, a reader and a writer
(`FieldAttr`), and what a mapping gives for it is the value under its key, or for a list the items under all its keys
(`FieldAttr.given`). `FieldRule.ofDoc_map_eq_ok` says that a field rule is read from a mapping exactly if each of its
attributes is read from what the mapping gives for it.

From there follows that a field rule that has been read is read again from its written form, in either style of keys
(`FieldRule.restores`).
-/

namespace Excerpt

open Doc (Entries)
open Decoded

/-- An attribute of field rules. -/
inductive FieldAttr where
  | name
  | textCase
  | basePath
  | removeParameters
  | trailingSlash
  | optional
  | list (a : ListAttr)
deriving DecidableEq

namespace FieldAttr

/-- What an attribute holds. -/
def Value : FieldAttr → Type
  | .name => String
  | .textCase => TextCase
  | .basePath => String
  | .removeParameters => Bool
  | .trailingSlash => Bool
  | .optional => Bool
  | .list .selectors => List Selector
  | .list .extractors => List Extractor
  | .list .datePatterns => List String
  | .list .filters => List Filter
  | .list .conditions => List Condition

/-- The snake-case key of an attribute. -/
def key : FieldAttr → String
  | .name => "name"
  | .textCase => "text_case"
  | .basePath => "base_path"
  | .removeParameters => "remove_parameters"
  | .trailingSlash => "trailing_slash"
  | .optional => "optional"
  | .list a => a.key

/-- The keys that an attribute may be given under: where two are given, the later one goes first for a value, and the
earlier one for the items of a list. -/
def spellings : FieldAttr → List String
  | .list a => a.keys
  | .name => ["name"]
  | .optional => ["optional"]
  | a => [a.key, KeyStyle.kebab.spell a.key]

/-- The value of an attribute that a document does not give. -/
def default : (a : FieldAttr) → a.Value
  | .name => ""
  | .textCase => TextCase.none
  | .basePath => ""
  | .removeParameters => true
  | .trailingSlash => false
  | .optional => false
  | .list .selectors => []
  | .list .extractors => []
  | .list .datePatterns => []
  | .list .filters => []
  | .list .conditions => []

/-- The reader of an attribute. -/
def read : (a : FieldAttr) → Doc → Decoded a.Value
  | .name => Decoded.string
  | .textCase => Decoded.member TextCase.members TextCase.name
  | .basePath => Decoded.string
  | .removeParameters => Decoded.bool
  | .trailingSlash => Decoded.bool
  | .optional => Decoded.bool
  | .list .selectors => listOf Selector.ofDoc
  | .list .extractors => listOf Extractor.ofDoc
  | .list .datePatterns => listOf Decoded.string
  | .list .filters => listOf Filter.ofDoc
  | .list .conditions => listOf Condition.ofDoc

/-- The writer of an attribute. -/
def write : (a : FieldAttr) → a.Value → Doc
  | .name => Doc.str
  | .textCase => fun c => .str (TextCase.name c)
  | .basePath => Doc.str
  | .removeParameters => Doc.bool
  | .trailingSlash => Doc.bool
  | .optional => Doc.bool
  | .list .selectors => fun ss => .list (List.map Selector.toDoc ss)
  | .list .extractors => fun xs => .list (List.map Extractor.toDoc xs)
  | .list .datePatterns => fun ps => .list (List.map Doc.str ps)
  | .list .filters => fun fs => .list (List.map Filter.toDoc fs)
  | .list .conditions => fun cs => .list (List.map Condition.toDoc cs)

/-- The attribute of a field rule. -/
def get (f : FieldRule) : (a : FieldAttr) → a.Value
  | .name => f.name
  | .textCase => f.textCase
  | .basePath => f.basePath
  | .removeParameters => f.removeParameters
  | .trailingSlash => f.trailingSlash
  | .optional => f.optional
  | .list .selectors => f.selectors
  | .list .extractors => f.extractors
  | .list .datePatterns => f.datePatterns
  | .list .filters => f.filters
  | .list .conditions => f.conditions

/-- What a mapping gives for an attribute: the items under all keys of a list, or else the value under the key. -/
def given (es : Entries) : FieldAttr → Option Doc
  | .list a => (es.merged? a.keys).map .list
  | a => (es.attr? a.key).map Prod.snd

/-- An attribute that holds no list. -/
def IsScalar (a : FieldAttr) : Prop :=
  ∀ l, a ≠ .list l

theorem IsScalar.given_eq {a : FieldAttr} (h : a.IsScalar) (es : Entries) :
    a.given es = (es.attr? a.key).map Prod.snd := by
  cases a with
  | list l => exact (h l rfl).elim
  | _ => rfl

/-- The key of an attribute that holds no list is no key of a list. -/
theorem IsScalar.not_mem_keys {a : FieldAttr} (h : a.IsScalar) (style : KeyStyle) (l : ListAttr) :
    style.spell a.key ∉ l.keys ∧ style.spell a.key ≠ l.key := by
  cases a with
  | list l => exact (h l rfl).elim
  | _ => cases style <;> cases l <;> decide

/-- An attribute read from what is given for it, or its default. -/
def readGiven (a : FieldAttr) : Option Doc → Decoded a.Value
  | some d => a.read d
  | none => .ok a.default

/-- The reader of an attribute reads back what it has read. -/
theorem restores (a : FieldAttr) : Restores a.read a.write := by
  cases a with
  | name => exact restores_string
  | textCase => exact fun _ c _ => TextCase.read_name c
  | basePath => exact restores_string
  | removeParameters => exact restores_bool
  | trailingSlash => exact restores_bool
  | optional => exact restores_bool
  | list a =>
    cases a with
    | selectors => exact Selector.restores.listOf
    | extractors => exact Extractor.restores.listOf
    | datePatterns => exact restores_string.listOf
    | filters => exact Filter.restores.listOf
    | conditions => exact Condition.restores.listOf

/-- Every default passes the reader of its attribute. -/
theorem read_default (a : FieldAttr) : a.read (a.write a.default) = .ok a.default := by
  cases a with
  | list a => cases a <;> rfl
  | _ => rfl

end FieldAttr

/-! ## Merged lists -/

namespace Doc.Entries

variable {k : String} {ks : List String} {es es' : Entries}

/-- The value of an attribute depends on the values under its two keys. -/
theorem attr?_congr {key : String} (h : ∀ style : KeyStyle, es.get? (style.spell key) = es'.get? (style.spell key)) :
    es.attr? key = es'.attr? key := by
  have hkebab := h .kebab
  have hsnake : es.get? key = es'.get? key := h .snake
  rw [attr?, attr?, hkebab, hsnake]

theorem attr?_map_snd (es : Entries) (key : String) :
    (es.attr? key).map Prod.snd = (es.get? (KeyStyle.kebab.spell key)).or (es.get? key) := by
  rw [attr?]
  cases es.get? (KeyStyle.kebab.spell key) <;> cases es.get? key <;> rfl

/-- Merging reads nothing but the values under the keys. -/
theorem merged?_congr (h : ∀ k ∈ ks, es.get? k = es'.get? k) : es.merged? ks = es'.merged? ks := by
  have hany : ks.any es.has = ks.any es'.has := by
    rw [Bool.eq_iff_iff, List.any_eq_true, List.any_eq_true]
    constructor <;> rintro ⟨k, hk, hhas⟩ <;> exact ⟨k, hk, by simpa [has, h k hk] using hhas⟩
  have hitems : ks.flatMap (fun k => ((es.get? k).map Doc.toItems).getD []) =
      ks.flatMap fun k => ((es'.get? k).map Doc.toItems).getD [] := by
    rw [List.flatMap_def, List.flatMap_def, List.map_congr_left fun k hk => by rw [h k hk]]
  rw [merged?, merged?, hany, hitems]

/-- The items under the one key that is there. -/
theorem flatMap_items_of_only {k₀ : String} {ds : List Doc} : ∀ {ks : List String}, ks.Nodup → k₀ ∈ ks →
    es.get? k₀ = some (.list ds) → (∀ k ∈ ks, k ≠ k₀ → es.get? k = none) →
    ks.flatMap (fun k => ((es.get? k).map Doc.toItems).getD []) = ds
  | k :: ks, hnodup, hk, h, hothers => by
    obtain ⟨hne, hnodup⟩ := List.nodup_cons.mp hnodup
    have hrest : ∀ l ∈ ks, l ≠ k₀ → es.get? l = none := fun l hl => hothers l (List.mem_cons_of_mem k hl)
    rw [List.flatMap_cons]
    by_cases hkk : k = k₀
    · subst hkk
      have hnil : ks.flatMap (fun l => ((es.get? l).map Doc.toItems).getD []) = [] := by
        rw [List.flatMap_eq_nil_iff]
        intro l hl
        rw [hrest l hl (ne_of_mem_of_not_mem hl hne)]
        rfl
      rw [hnil, h, List.append_nil]
      rfl
    · rw [hothers k List.mem_cons_self hkk]
      exact flatMap_items_of_only hnodup (List.mem_of_ne_of_mem (Ne.symm hkk) hk) h hrest

theorem merged?_of_only {k₀ : String} {ds : List Doc} (hnodup : ks.Nodup) (hk : k₀ ∈ ks)
    (h : es.get? k₀ = some (.list ds)) (hothers : ∀ k ∈ ks, k ≠ k₀ → es.get? k = none) :
    es.merged? ks = some ds := by
  have hany : ks.any es.has = true := List.any_eq_true.mpr ⟨k₀, hk, by rw [has, h]; rfl⟩
  rw [merged?, if_pos hany, flatMap_items_of_only hnodup hk h hothers]

theorem get?_eq_none_of_merged? (h : es.merged? ks = none) (hk : k ∈ ks) : es.get? k = none := by
  rw [merged?] at h
  split at h
  · cases h
  · rename_i hany
    rw [List.any_eq_true] at hany
    by_contra hne
    exact hany ⟨k, hk, by rwa [has, Option.isSome_iff_ne_none]⟩

end Doc.Entries

namespace ListAttr

/-- No two list attributes share a key. -/
theorem not_mem_keys {a b : ListAttr} (h : b ≠ a) : ∀ k ∈ a.keys, k ∉ b.keys ∧ k ≠ b.key := by
  revert h
  cases a <;> cases b <;> decide

theorem spell_mem_keys (a : ListAttr) (style : KeyStyle) : style.spell a.key ∈ a.keys := by
  cases style <;> cases a <;> decide

theorem nodup_keys (a : ListAttr) : a.keys.Nodup := by
  cases a <;> decide

theorem mem_all (a : ListAttr) : a ∈ all := by
  cases a <;> decide

end ListAttr

namespace FieldAttr

theorem spell_mem_spellings (style : KeyStyle) (a : FieldAttr) : style.spell a.key ∈ a.spellings := by
  cases a with
  | list l => exact l.spell_mem_keys style
  | _ => cases style <;> decide

/-- What a mapping gives for an attribute depends on the values under its spellings. -/
theorem given_congr {es es' : Entries} {a : FieldAttr} (h : ∀ k ∈ a.spellings, es.get? k = es'.get? k) :
    a.given es = a.given es' := by
  cases a with
  | list l => exact congrArg (Option.map Doc.list) (Entries.merged?_congr h)
  | _ =>
    exact congrArg (Option.map Prod.snd) (Entries.attr?_congr fun style => h _ (spell_mem_spellings style _))

/-- All attributes, in written order. -/
def all : List FieldAttr :=
  [.name, .list .selectors, .list .extractors, .textCase, .list .datePatterns, .list .filters, .list .conditions,
    .basePath, .removeParameters, .trailingSlash, .optional]

theorem mem_all (a : FieldAttr) : a ∈ all := by
  cases a with
  | list l => cases l <;> decide
  | _ => decide

theorem write_list (a : ListAttr) (v : (FieldAttr.list a).Value) : ∃ ds, (FieldAttr.list a).write v = .list ds := by
  cases a <;> exact ⟨_, rfl⟩

theorem name_not_mem {a : FieldAttr} (h : a ≠ .name) : "name" ∉ a.spellings := by
  cases a with
  | name => exact (h rfl).elim
  | list l => cases l <;> decide
  | _ => decide

end FieldAttr

/-- A list is written under none of its other keys. -/
theorem ListAttr.not_mem_written (style : KeyStyle) (a : ListAttr) :
    ∀ k ∈ a.keys, k ≠ style.spell a.key → k ∉ FieldAttr.all.map fun b => style.spell b.key := by
  cases style <;> cases a <;> decide

namespace FieldRule

variable {es : Entries} {a : ListAttr} {k : String}

theorem get?_foldl_mergeList_of_not_mem {as : List ListAttr} (ha : a ∉ as) (hk : k ∈ a.keys) (es : Entries) :
    (as.foldl mergeList es).get? k = es.get? k :=
  get?_foldl_mergeList es fun _ hb => ListAttr.not_mem_keys (ne_of_mem_of_not_mem hb ha) k hk

/-- After a list attribute has been merged, its items stand under its key alone. -/
theorem get?_mergeList_self (es : Entries) (hk : k ∈ a.keys) :
    (mergeList es a).get? k = if k = a.key then (es.merged? a.keys).map .list else none := by
  rw [mergeList]
  cases h : es.merged? a.keys with
  | none => simp [Entries.get?_eq_none_of_merged? h hk]
  | some ds =>
    by_cases hkey : k = a.key
    · rw [if_pos hkey, hkey]
      exact Entries.get?_set_self _ _ _
    · rw [if_neg hkey]
      exact (Entries.get?_set_of_ne hkey _).trans (Entries.get?_unsetAll_of_mem es hk)

theorem get?_mergeLists (es : Entries) (hk : k ∈ a.keys) :
    (mergeLists es).get? k = if k = a.key then (es.merged? a.keys).map .list else none := by
  obtain ⟨before, after, hall⟩ := List.append_of_mem a.mem_all
  have hnodup : (before ++ a :: after).Nodup := hall ▸ by decide
  have hbefore : a ∉ before := fun h => (List.nodup_append.mp hnodup).2.2 a h a List.mem_cons_self rfl
  have hafter : a ∉ after := (List.nodup_cons.mp (List.nodup_append.mp hnodup).2.1).1
  have hmerged : (before.foldl mergeList es).merged? a.keys = es.merged? a.keys :=
    Entries.merged?_congr fun l hl => get?_foldl_mergeList_of_not_mem hbefore hl es
  rw [mergeLists, hall, List.foldl_append, List.foldl_cons, get?_foldl_mergeList_of_not_mem hafter hk,
    get?_mergeList_self _ hk, hmerged]

theorem attr?_mergeLists_of_scalar {a : FieldAttr} (ha : a.IsScalar) (es : Entries) :
    ((mergeLists es).attr? a.key).map Prod.snd = a.given es := by
  have hget : ∀ style : KeyStyle, (mergeLists es).get? (style.spell a.key) = es.get? (style.spell a.key) :=
    fun style => get?_foldl_mergeList es fun b _ => ha.not_mem_keys style b
  rw [ha.given_eq, Entries.attr?_congr hget]

/-- The value of an attribute in the merged mapping is what the mapping gives for it. -/
theorem attr?_mergeLists (es : Entries) (a : FieldAttr) :
    ((mergeLists es).attr? a.key).map Prod.snd = a.given es := by
  cases a with
  | list a =>
    have hkey : a.key ∈ a.keys := a.spell_mem_keys .snake
    change (Entries.attr? _ a.key).map Prod.snd = (es.merged? a.keys).map .list
    rw [Entries.attr?, get?_mergeLists es (a.spell_mem_keys .kebab), get?_mergeLists es hkey, if_pos rfl]
    split
    · rename_i d hd
      split at hd
      · exact hd.symm
      · cases hd
    · cases es.merged? a.keys <;> rfl
  | _ => exact attr?_mergeLists_of_scalar (fun l h => by cases h) es

/-- What a field rule is read from, attribute by attribute. -/
theorem ofEntries_eq_ok_iff_forall {f : FieldRule} : ofEntries es = .ok f ↔
    (∀ a : FieldAttr, es.attrOr a.key a.default a.read = .ok (a.get f)) ∧ (f.selectors = [] → f.optional = true) := by
  refine ofEntries_eq_ok.trans ?_
  constructor
  · rintro ⟨h1, h2, h3, h4, h5, h6, h7, h8, h9, h10, h11, hs⟩
    refine ⟨?_, hs⟩
    intro a
    cases a with
    | name => exact h1
    | textCase => exact h4
    | basePath => exact h8
    | removeParameters => exact h9
    | trailingSlash => exact h10
    | optional => exact h11
    | list a =>
      cases a with
      | selectors => exact h2
      | extractors => exact h3
      | datePatterns => exact h5
      | filters => exact h6
      | conditions => exact h7
  · rintro ⟨h, hs⟩
    exact ⟨h .name, h (.list .selectors), h (.list .extractors), h .textCase, h (.list .datePatterns),
      h (.list .filters), h (.list .conditions), h .basePath, h .removeParameters, h .trailingSlash, h .optional, hs⟩

/-- What a field rule is read from: what the mapping gives for each attribute. -/
theorem ofDoc_map_eq_ok {f : FieldRule} : ofDoc (.map es) = .ok f ↔
    (∀ a : FieldAttr, a.readGiven (a.given es) = .ok (a.get f)) ∧ (f.selectors = [] → f.optional = true) := by
  have hattr : ∀ a : FieldAttr,
      (mergeLists es).attrOr a.key a.default a.read = .ok (a.get f) ↔ a.readGiven (a.given es) = .ok (a.get f) := by
    intro a
    rw [← attr?_mergeLists es a]
    cases h : (mergeLists es).attr? a.key with
    | none => rw [Entries.attrOr, h]; rfl
    | some e => exact Entries.attrOr_of_attr? h
  rw [ofDoc, ofEntries_eq_ok_iff_forall, forall_congr' hattr]

/-! ## Reading again -/

/-- A field rule each of whose attributes is read again from its written form, and that has a selector or may do
without. -/
def Sound (f : FieldRule) : Prop :=
  (∀ a : FieldAttr, a.read (a.write (a.get f)) = .ok (a.get f)) ∧ (f.selectors = [] → f.optional = true)

theorem sound_of_ofEntries {f : FieldRule} (h : ofEntries es = .ok f) : f.Sound := by
  obtain ⟨hattr, hs⟩ := ofEntries_eq_ok_iff_forall.mp h
  exact ⟨fun a => Entries.attrOr_restores a.restores a.read_default (hattr a), hs⟩

theorem sound_of_ofDoc {d : Doc} {f : FieldRule} (h : ofDoc d = .ok f) : f.Sound := by
  rw [ofDoc.eq_def] at h
  split at h
  · exact sound_of_ofEntries h
  · exact sound_of_ofEntries h
  · exact sound_of_ofEntries h
  · cases h

/-- The written form holds each attribute under its key. -/
theorem get?_written (style : KeyStyle) (f : FieldRule) (a : FieldAttr) :
    (Entries.ofStrings (f.toEntries style)).get? (style.spell a.key) = some (a.write (a.get f)) := by
  cases style <;> cases a with
  | list a => cases a <;> rfl
  | _ => rfl

theorem toEntries_eq (style : KeyStyle) (f : FieldRule) :
    f.toEntries style = FieldAttr.all.map fun a => (style.spell a.key, a.write (a.get f)) := by
  cases style <;> rfl

/-- The written form has no other key than those of the attributes. -/
theorem map_fst_toEntries (style : KeyStyle) (f : FieldRule) :
    (f.toEntries style).map Prod.fst = FieldAttr.all.map fun a => style.spell a.key := by
  rw [toEntries_eq, List.map_map]
  rfl

theorem get?_written_of_ne (style : KeyStyle) (f : FieldRule) {k : String} (hk : k ∈ a.keys)
    (hne : k ≠ style.spell a.key) : (Entries.ofStrings (f.toEntries style)).get? k = none := by
  refine Entries.get?_ofStrings_eq_none ?_
  rw [map_fst_toEntries]
  exact a.not_mem_written style k hk hne

/-- The written form gives each attribute as it is. -/
theorem given_written (style : KeyStyle) (f : FieldRule) (a : FieldAttr) :
    a.given (Entries.ofStrings (f.toEntries style)) = some (a.write (a.get f)) := by
  cases a with
  | list a =>
    obtain ⟨ds, hds⟩ := FieldAttr.write_list a (FieldAttr.get f (.list a))
    have hget := get?_written style f (.list a)
    rw [hds] at hget
    rw [hds, FieldAttr.given, Entries.merged?_of_only a.nodup_keys (a.spell_mem_keys style) hget fun k hk hne =>
      get?_written_of_ne style f hk hne]
    rfl
  | _ => cases style <;> rfl

theorem Sound.ofDoc_toDoc {f : FieldRule} (h : f.Sound) (style : KeyStyle) : ofDoc (f.toDoc style) = .ok f := by
  refine ofDoc_map_eq_ok.mpr ⟨?_, h.2⟩
  intro a
  have hgiven := given_written style f a
  rw [Entries.ofStrings] at hgiven
  rw [hgiven]
  exact h.1 a

/-- A field rule is read back from its written form, in either style of keys. -/
theorem restores (style : KeyStyle) : Restores ofDoc (toDoc style) :=
  fun _ _ h => (sound_of_ofDoc h).ofDoc_toDoc style

end FieldRule

end Excerpt
