import Excerpt.Proofs.Rule.WrittenOrder

/-!
# Reading and loading in every order of keys

A rule mapping that is written in the order of the spellings is loaded as it is read, whatever its values
(`RuleMapping.ruleSetOf_of_inOrder`). Under keys in any other order there are values for which loading and reading
differ (`Load.agree_iff_inOrder`, `Load.disagree_of_kebab_first`). Together this is `Load.ruleSetOf_eq_ok_iff_read`.

The values that show this tell under which key they stand (`FieldAttr.sample`), so that the attributes of a field rule
show in which order they have been added up (`FieldAttr.tags`).
-/

namespace Excerpt

open Doc (Entries)
open Decoded

/-! ## Values that tell their key -/

namespace FieldAttr

/-- A value for the key of an attribute: the key itself, or what of two spellings it is. -/
def sample (k : String) : Doc :=
  if k ∈ ["remove_parameters", "trailing_slash", "optional"] then .bool true
  else if k ∈ ["remove-parameters", "trailing-slash"] then .bool false
  else if k = "text_case" then .str "upper"
  else if k = "text-case" then .str "lower"
  else .str k

/-- The keys whose samples the value of an attribute is made of. -/
def tags : (a : FieldAttr) → a.Value → List String
  | .name, v => [v]
  | .textCase, v => [if TextCase.name v = "upper" then "text_case" else "text-case"]
  | .basePath, v => [v]
  | .removeParameters, v => [bif v then "remove_parameters" else "remove-parameters"]
  | .trailingSlash, v => [bif v then "trailing_slash" else "trailing-slash"]
  | .optional, _ => ["optional"]
  | .list .selectors, v => List.map Selector.expr v
  | .list .extractors, v => List.map Extractor.expr v
  | .list .datePatterns, v => v
  | .list .filters, v => List.map Filter.expr v
  | .list .conditions, v => List.map Condition.expr v

/-- Of the keys that an attribute is given under, those whose values are kept. -/
def kept : FieldAttr → List String → List String
  | .list _, ks => ks
  | _, ks => ks.getLast?.toList

theorem toItems_sample (k : String) : (sample k).toItems = [sample k] := by
  rw [sample]
  split
  · rfl
  · split
    · rfl
    · split
      · rfl
      · split <;> rfl

theorem items_samples {α : Type} {read : Doc → Decoded α} {x : String → α} {ks : List String}
    (h : ∀ k ∈ ks, read (sample k) = .ok (x k)) : items read (ks.map sample) = .ok (ks.map x) := by
  refine items_eq_ok.mpr ?_
  induction ks with
  | nil => exact .nil
  | cons k ks ih => exact .cons (h k List.mem_cons_self) (ih fun l hl => h l (List.mem_cons_of_mem k hl))

theorem read_list_samples (l : ListAttr) {ks : List String} (hks : ∀ k ∈ ks, k ∈ l.keys) :
    ∃ v, (FieldAttr.list l).read (.list (ks.map sample)) = .ok v ∧ (FieldAttr.list l).tags v = ks := by
  cases l with
  | selectors =>
    have h : ∀ k ∈ ListAttr.selectors.keys, Selector.ofDoc (sample k) =
        .ok ⟨k, .page, .text, none, none, none, [], none, false⟩ := by decide +kernel
    refine ⟨_, items_samples fun k hk => h k (hks k hk), ?_⟩
    exact (List.map_map).trans (List.map_id ks)
  | extractors =>
    have h : ∀ k ∈ ListAttr.extractors.keys, Extractor.ofDoc (sample k) =
        .ok ⟨k, Extractor.defaultFormat, .first, ""⟩ := by decide +kernel
    refine ⟨_, items_samples fun k hk => h k (hks k hk), ?_⟩
    exact (List.map_map).trans (List.map_id ks)
  | datePatterns =>
    have h : ∀ k ∈ ListAttr.datePatterns.keys, Decoded.string (sample k) = .ok k := by decide +kernel
    refine ⟨_, items_samples fun k hk => h k (hks k hk), List.map_id ks⟩
  | filters =>
    have h : ∀ k ∈ ListAttr.filters.keys, Filter.ofDoc (sample k) = .ok ⟨k, .all, false⟩ := by decide +kernel
    refine ⟨_, items_samples fun k hk => h k (hks k hk), ?_⟩
    exact (List.map_map).trans (List.map_id ks)
  | conditions =>
    have h : ∀ k ∈ ListAttr.conditions.keys, Condition.ofDoc (sample k) = .ok ⟨k, .accept⟩ := by decide +kernel
    refine ⟨_, items_samples fun k hk => h k (hks k hk), ?_⟩
    exact (List.map_map).trans (List.map_id ks)

theorem IsScalar.read_sample {a : FieldAttr} (ha : a.IsScalar) :
    ∀ k ∈ a.spellings, ∃ v, a.read (sample k) = .ok v ∧ a.tags v = [k] := by
  cases a with
  | list l => exact (ha l rfl).elim
  | name => exact fun k hk => List.mem_singleton.mp hk ▸ ⟨_, rfl, rfl⟩
  | optional => exact fun k hk => List.mem_singleton.mp hk ▸ ⟨_, rfl, rfl⟩
  | _ => exact fun k hk => (List.mem_pair.mp hk).elim (fun h => h ▸ ⟨_, rfl, rfl⟩) (fun h => h ▸ ⟨_, rfl, rfl⟩)

/-- The samples under keys of an attribute can be read, and show the keys that are kept. -/
theorem read_samples (a : FieldAttr) {ks : List String} (hks : ∀ k ∈ ks, k ∈ a.spellings) :
    ∃ v, a.readGiven ((ks.map sample).foldl a.add none) = .ok v ∧ (ks ≠ [] → a.tags v = a.kept ks) := by
  by_cases hne : ks = []
  · exact ⟨a.default, by rw [hne]; rfl, fun h => (h hne).elim⟩
  · rcases a.isScalar_or with ha | ⟨l, rfl⟩
    · obtain ⟨k, hk⟩ := Option.ne_none_iff_exists'.mp (mt List.getLast?_eq_none_iff.mp hne)
      obtain ⟨v, hv, htags⟩ := ha.read_sample k (hks k (List.mem_of_getLast? hk))
      refine ⟨v, ?_, fun _ => ?_⟩
      · rw [foldl_add_scalar ha, List.getLast?_map, hk]
        exact hv
      · rw [htags]
        cases a with
        | list l => exact (ha l rfl).elim
        | _ => exact (congrArg Option.toList hk).symm
    · obtain ⟨v, hv, htags⟩ := read_list_samples l hks
      have hitems : (ks.map sample).flatMap Doc.toItems = ks.map sample := by
        rw [List.flatMap_map, ← List.flatMap_pure_eq_map]
        exact List.flatMap_congr fun k _ => toItems_sample k
      refine ⟨v, ?_, fun _ => htags⟩
      rw [foldl_add_of_ne_nil l (mt List.map_eq_nil_iff.mp hne), hitems]
      exact hv

/-! ## Keys and orders -/

theorem sublist_pair {x y : String} {ks : List String} (hnodup : ks.Nodup) (hks : ∀ k ∈ ks, k ∈ [x, y])
    (hlast : x ∈ ks → y ∈ ks → ks.getLast? = some y) : ks.Sublist [x, y] := by
  match ks, hnodup, hks, hlast with
  | [], _, _, _ => exact List.nil_sublist _
  | [k], _, hks, _ => exact List.singleton_sublist.mpr (hks k List.mem_cons_self)
  | k :: l :: rest, hnodup, hks, hlast =>
    obtain ⟨hk, hnodup⟩ := List.nodup_cons.mp hnodup
    obtain ⟨hl, -⟩ := List.nodup_cons.mp hnodup
    have hkl : k ≠ l := fun h => hk (h ▸ List.mem_cons_self)
    have hk' := List.mem_pair.mp (hks k List.mem_cons_self)
    have hl' := List.mem_pair.mp (hks l (List.mem_cons_of_mem k List.mem_cons_self))
    have hrest : rest = [] := by
      rw [List.eq_nil_iff_forall_not_mem]
      intro m hm
      have hm' := List.mem_pair.mp (hks m (List.mem_cons_of_mem k (List.mem_cons_of_mem l hm)))
      have hmk : m ≠ k := fun h => hk (h ▸ List.mem_cons_of_mem l hm)
      have hml : m ≠ l := fun h => hl (h ▸ hm)
      grind
    subst hrest
    have hlast' : l = y := by
      simp only [List.mem_cons, List.not_mem_nil, or_false, List.getLast?_cons_cons, List.getLast?_singleton,
        Option.some.injEq] at hlast
      grind
    have hfirst : k = x := by grind
    rw [hfirst, hlast']

theorem sublist_single {x : String} {ks : List String} (hnodup : ks.Nodup) (hks : ∀ k ∈ ks, k ∈ [x]) :
    ks.Sublist [x] := by
  match ks, hnodup, hks with
  | [], _, _ => exact List.nil_sublist _
  | [k], _, hks => exact List.singleton_sublist.mpr (hks k List.mem_cons_self)
  | k :: l :: rest, hnodup, hks =>
    have hk := List.mem_singleton.mp (hks k List.mem_cons_self)
    have hl := List.mem_singleton.mp (hks l (List.mem_cons_of_mem k List.mem_cons_self))
    exact ((List.nodup_cons.mp hnodup).1 (hk.trans hl.symm ▸ List.mem_cons_self)).elim

theorem getLast?_of_sublist_pair {x y : String} {ls : List String} (h : ls.Sublist [x, y]) (hxy : x ≠ y) (hx : x ∈ ls)
    (hy : y ∈ ls) : ls.getLast? = some y := by
  cases h with
  | cons _ h => exact (hxy (List.mem_singleton.mp (h.subset hx))).elim
  | @cons_cons l _ _ h =>
    have hl : l = [y] := by
      rcases List.mem_cons.mp hy with hy | hy
      · exact (hxy hy.symm).elim
      · exact h.antisymm (List.singleton_sublist.mpr hy)
    rw [hl]
    rfl

/-- Keys of an attribute of which the same are kept as in the order of the spellings are in that order. -/
theorem sublist_of_kept_eq (a : FieldAttr) {ks ls : List String} (hnodup : ks.Nodup) (hks : ∀ k ∈ ks, k ∈ a.spellings)
    (hls : ls.Sublist a.spellings) (hsame : ∀ k ∈ ks, k ∈ ls) (h : a.kept ks = a.kept ls) : ks.Sublist a.spellings := by
  have hpair : ∀ x y : String, ls.Sublist [x, y] → (∀ k ∈ ks, k ∈ [x, y]) → x ≠ y →
      ks.getLast?.toList = ls.getLast?.toList → ks.Sublist [x, y] := by
    intro x y hls hks hxy h
    refine sublist_pair hnodup hks fun hx hy => ?_
    rw [getLast?_of_sublist_pair hls hxy (hsame x hx) (hsame y hy)] at h
    exact Option.toList_eq_singleton_iff.mp h
  cases a with
  | list l =>
    have heq : ks = ls := h
    exact heq ▸ hls
  | name => exact sublist_single hnodup hks
  | optional => exact sublist_single hnodup hks
  | _ => exact hpair _ _ hls hks (by decide) h

/-- The field rule with given attributes. -/
def build (v : (a : FieldAttr) → a.Value) : FieldRule where
  name := v .name
  selectors := v (.list .selectors)
  extractors := v (.list .extractors)
  textCase := v .textCase
  datePatterns := v (.list .datePatterns)
  filters := v (.list .filters)
  conditions := v (.list .conditions)
  basePath := v .basePath
  removeParameters := v .removeParameters
  trailingSlash := v .trailingSlash
  optional := v .optional

theorem get_build_named (v : (a : FieldAttr) → a.Value) (name : String) {a : FieldAttr} (ha : a ≠ .name) :
    a.get { build v with name := name } = v a := by
  cases a with
  | name => exact (ha rfl).elim
  | list l => cases l <;> rfl
  | _ => rfl

end FieldAttr

/-! ## Samples of one slot -/

/-- Samples under some keys. -/
def samples (ks : List String) : List (String × Doc) :=
  ks.map fun k => (k, FieldAttr.sample k)

section Samples

variable {ks : List String}

theorem get?_samples (ks : List String) (k : String) :
    (Entries.ofStrings (samples ks)).get? k = if k ∈ ks then some (FieldAttr.sample k) else none := by
  induction ks with
  | nil => rfl
  | cons l ks ih =>
    have hcons : Entries.ofStrings (samples (l :: ks)) =
        (.str l, FieldAttr.sample l) :: Entries.ofStrings (samples ks) := rfl
    rw [hcons, Entries.get?_cons, ih]
    by_cases hlk : l = k
    · rw [if_pos (congrArg Scalar.str hlk), if_pos (hlk ▸ List.mem_cons_self), hlk]
    · rw [if_neg fun h => hlk (Scalar.str.inj h)]
      simp [Ne.symm hlk]

/-- Samples are read in the order of the spellings. -/
theorem given_samples (ks : List String) (a : FieldAttr) : a.given (Entries.ofStrings (samples ks)) =
    ((a.spellings.filter fun k => k ∈ ks).map FieldAttr.sample).foldl a.add none := by
  rw [a.given_eq_foldl]
  congr 1
  generalize a.spellings = ls
  induction ls with
  | nil => rfl
  | cons l ls ih =>
    rw [List.filterMap_cons, get?_samples, List.filter_cons, ih]
    by_cases hl : l ∈ ks <;> simp [hl]

/-- Samples add up in the order in which they are written. -/
theorem under_samples (hks : ∀ k ∈ ks, ∃ a : FieldAttr, k ∈ a.spellings) (a : FieldAttr) :
    (Entries.ofStrings (samples ks)).under a.accepts = (ks.filter fun k => k ∈ a.spellings).map FieldAttr.sample := by
  rw [samples, Entries.under_ofStrings_map, FieldAttr.filter_accepts_eq hks]

/-- A slot with selectors is read from samples, and its attributes show the order of the spellings. -/
theorem exists_ofDoc_samples (s : Slot) (hsel : ∃ k ∈ ks, k ∈ ListAttr.selectors.keys) : ∃ f : FieldRule,
    FieldRule.ofDoc (RuleSet.named s (.map (Entries.ofStrings (samples ks)))) = .ok f ∧
    ∀ a : FieldAttr, a ≠ .name → (a.spellings.filter fun k => k ∈ ks) ≠ [] →
      a.tags (a.get f) = a.kept (a.spellings.filter fun k => k ∈ ks) := by
  have hread : ∀ a : FieldAttr, ∃ v, a.readGiven (a.given (Entries.ofStrings (samples ks))) = .ok v ∧
      ((a.spellings.filter fun k => k ∈ ks) ≠ [] → a.tags v = a.kept (a.spellings.filter fun k => k ∈ ks)) := by
    intro a
    rw [given_samples]
    exact a.read_samples fun k hk => (List.mem_filter.mp hk).1
  choose v hv htags using hread
  have hselectors : (ListAttr.selectors.keys.filter fun k => k ∈ ks) ≠ [] := by
    obtain ⟨k, hk, hmem⟩ := hsel
    exact List.ne_nil_of_mem (List.mem_filter.mpr ⟨hmem, decide_eq_true hk⟩)
  refine ⟨{ FieldAttr.build v with name := s.key },
    RuleSet.ofDoc_named_map_eq_ok.mpr ⟨rfl, fun a ha => ?_, fun hnil => ?_⟩, fun a ha => ?_⟩
  · rw [FieldAttr.get_build_named v s.key ha]
    exact hv a
  · have hexprs : List.map Selector.expr (v (.list .selectors)) = ListAttr.selectors.keys.filter fun k => k ∈ ks :=
      htags (.list .selectors) hselectors
    rw [show v (.list .selectors) = [] from hnil] at hexprs
    exact (hselectors hexprs.symm).elim
  · rw [FieldAttr.get_build_named v s.key ha]
    exact htags a

end Samples

/-- The slot of a rule set that is loaded is read from the normal form of the last value for it. -/
theorem RuleMapping.read_last {es : Entries} (h : RuleMapping es) {r : RuleSet}
    (hload : Load.ruleSetOf none es = .ok r) {s : Slot}
    {d : Doc} (hlast : (es.under s.accepts).getLast? = some d) : ∃ d', Normal.field d = .ok d' ∧
      Decoded.optional (fun d => FieldRule.ofDoc (RuleSet.named s d)) d' = .ok (r.field s) := by
  obtain ⟨es', hes'⟩ := h.exists_addSlots
  rw [h.ruleSetOf_eq hes', Schema.read_eq_ok] at hload
  have hslot := (RuleSet.ofEntries_eq_ok.mp hload).2 s
  rw [(Normal.slotsFolded_nil.addSlots hes').readSlot_eq_ok] at hslot
  rcases Normal.get?_addSlots hes' s with ⟨e, d', he, hfield, hget⟩ | ⟨hnil, -⟩
  · cases hlast.symm.trans he
    rcases hslot with ⟨hnone, -⟩ | ⟨v, hv, hread⟩
    · cases hget.symm.trans hnone
    · cases hget.symm.trans hv
      exact ⟨d', hfield, hread⟩
  · rw [hnil] at hlast
    cases hlast

namespace RuleSet

variable {s : Slot} {ps : List (String × Doc)} {f : FieldRule} {r : RuleSet}

/-- A rule mapping with one slot is read as a rule set with one slot. -/
theorem read_entries (h : FieldRule.ofDoc (named s (.map (Entries.ofStrings ps))) = .ok f) :
    RuleSet.schema.read (.map (s.entries ps)) = .ok ⟨none, fun t => if t = s then some f else none⟩ := by
  refine Schema.read_eq_ok.mpr (ofEntries_eq_ok.mpr ⟨?_, fun t => ?_⟩)
  · have hroot : (s.entries ps).attr? "root" = none := by cases s <;> rfl
    rw [Entries.attrOr, hroot]
  · rw [readSlot_eq_ok, Slot.attr?_of_writtenAs (s.writtenAs_entries t ps), Slot.under_entries]
    by_cases hts : t = s
    · subst hts
      rw [if_pos rfl]
      exact .inr ⟨_, rfl, optional_eq_ok.mpr (.inr ⟨rfl, f, h, if_pos rfl⟩)⟩
    · rw [if_neg hts]
      exact .inl ⟨rfl, if_neg hts⟩

/-- What a rule set that is loaded from a mapping with one slot has been read from. -/
theorem given_of_ruleSetOf_entries (h : RuleMapping (s.entries ps)) (hload : Load.ruleSetOf none (s.entries ps) = .ok r)
    (hf : r.field s = some f) (a : FieldAttr) (ha : a ≠ .name) :
    a.readGiven (((Entries.ofStrings ps).under a.accepts).foldl a.add none) = .ok (a.get f) := by
  have hlast : ((s.entries ps).under s.accepts).getLast? = some (.map (Entries.ofStrings ps)) := by
    rw [Slot.under_entries, if_pos rfl]
    rfl
  obtain ⟨d', hfield, hread⟩ := h.read_last hload hlast
  obtain ⟨inner, hinner, rfl⟩ := Normal.field_eq_ok_of_mapping? rfl hfield
  rw [hf] at hread
  rcases optional_eq_ok.mp hread with ⟨hnull, -⟩ | ⟨-, g, hg, heq⟩
  · cases hnull
  · cases heq
    rw [← Normal.given_addEntries hinner]
    exact (ofDoc_named_map_eq_ok.mp hg).2.1 a ha

end RuleSet

namespace Load

/-- **No other order will do.** Given the keys of a slot with selectors, loading and reading agree whatever the values
are if and only if the keys of each attribute are written in the order of its spellings. -/
theorem agree_iff_inOrder (s : Slot) {ks : List String} (hnodup : ks.Nodup)
    (hks : ∀ k ∈ ks, ∃ a : FieldAttr, k ∈ a.spellings) (hsel : ∃ k ∈ ks, k ∈ ListAttr.selectors.keys) :
    (∀ (value : String → Doc) (r : RuleSet), ruleSetOf none (s.entries (ks.map fun k => (k, value k))) = .ok r ↔
        RuleSet.schema.read (.map (s.entries (ks.map fun k => (k, value k)))) = .ok r) ↔
      ∀ a : FieldAttr, (ks.filter fun k => k ∈ a.spellings).Sublist a.spellings := by
  have hfst : ∀ value : String → Doc, (ks.map fun k => (k, value k)).map Prod.fst = ks := by
    intro value
    rw [List.map_map]
    exact List.map_id ks
  have hmapping : ∀ value : String → Doc, RuleMapping (s.entries (ks.map fun k => (k, value k))) :=
    fun value => ruleMapping_entries (by rwa [hfst]) (by rwa [hfst])
  constructor
  · intro h a
    obtain ⟨f, hf, htags⟩ := exists_ofDoc_samples s hsel
    have hread := RuleSet.read_entries hf
    have hload := (h FieldAttr.sample _).mpr hread
    have hks' : ∀ k ∈ ks.filter fun k => k ∈ a.spellings, k ∈ a.spellings :=
      fun k hk => of_decide_eq_true (List.mem_filter.mp hk).2
    have hsame : ∀ k ∈ ks.filter fun k => k ∈ a.spellings, k ∈ a.spellings.filter fun k => k ∈ ks :=
      fun k hk => List.mem_filter.mpr ⟨hks' k hk, decide_eq_true (List.mem_filter.mp hk).1⟩
    by_cases ha : a = .name
    · subst ha
      exact FieldAttr.sublist_single (hnodup.filter _) hks'
    by_cases hne : (ks.filter fun k => k ∈ a.spellings) = []
    · exact hne ▸ List.nil_sublist _
    · obtain ⟨v, hv, hvtags⟩ := a.read_samples hks'
      have hget := RuleSet.given_of_ruleSetOf_entries (hmapping FieldAttr.sample) hload (if_pos rfl) a ha
      rw [show (ks.map fun k => (k, FieldAttr.sample k)) = samples ks from rfl, under_samples hks, hv] at hget
      refine a.sublist_of_kept_eq (hnodup.filter _) hks' List.filter_sublist hsame ?_
      obtain ⟨k, hk⟩ := List.exists_mem_of_ne_nil _ hne
      rw [← hvtags hne, Decoded.ok.inj hget]
      exact htags a ha (List.ne_nil_of_mem (hsame k hk))
  · intro h value r
    have horder : InOrder (s.entries (ks.map fun k => (k, value k))) := by
      refine inOrder_entries_iff.mpr fun a => ?_
      rw [hfst, FieldAttr.filter_accepts_eq hks]
      exact h a
    exact (hmapping value).ruleSetOf_of_inOrder horder r

end Load

/-! ## Two keys of one slot -/

/-- A rule mapping with one slot that is given under both keys, the kebab-case one coming first and being empty. -/
def Slot.emptyFirst (s : Slot) : Entries :=
  [(.str s.key, .null), (.str s.snakeKey, .map [(.str "optional", .bool true)])]

section EmptyFirst

variable {s : Slot}

theorem Slot.under_emptyFirst (s t : Slot) : s.emptyFirst.under t.accepts =
    if t = s then [.null, .map [(.str "optional", .bool true)]] else [] := by
  rw [emptyFirst, Entries.under_cons, Entries.under_cons]
  by_cases hts : t = s
  · rw [if_pos hts, hts, if_pos s.accepts_key, if_pos s.accepts_snakeKey]
    rfl
  · rw [if_neg hts, if_neg fun ht => hts (eq_of_accepts ht s.accepts_key),
      if_neg fun ht => hts (eq_of_accepts ht s.accepts_snakeKey)]
    rfl

theorem ruleMapping_emptyFirst (h : s.key ≠ s.snakeKey) : RuleMapping s.emptyFirst := by
  have hspellings : s.spellings = [s.snakeKey, s.key] := if_neg h
  refine ⟨⟨[(s.key, .null), (s.snakeKey, .map [(.str "optional", .bool true)])], by simpa using h, rfl⟩, ?_, ?_⟩
  · intro k hk
    refine .inr ⟨s, ?_⟩
    rcases List.mem_pair.mp hk with rfl | rfl
    · exact ⟨s.key, by simp [hspellings], rfl⟩
    · exact ⟨s.snakeKey, by simp [hspellings], rfl⟩
  · intro t inner hinner
    have heq : inner = [(.str "optional", .bool true)] := by
      rw [Slot.under_emptyFirst] at hinner
      split at hinner
      · exact (List.mem_pair.mp hinner).elim (fun h => by cases h) Doc.map.inj
      · cases hinner
    subst heq
    exact ⟨⟨[("optional", .bool true)], List.pairwise_singleton _ _, rfl⟩,
      fun k hk => ⟨.optional, "optional", by decide, List.mem_singleton.mp hk⟩⟩

/-- Reading takes the value under the kebab-case key. -/
theorem RuleSet.read_emptyFirst (s : Slot) : RuleSet.schema.read (.map s.emptyFirst) = .ok ⟨none, fun _ => none⟩ := by
  refine Schema.read_eq_ok.mpr (ofEntries_eq_ok.mpr ⟨?_, fun t => ?_⟩)
  · have hroot : s.emptyFirst.attr? "root" = none := by cases s <;> rfl
    rw [Entries.attrOr, hroot]
  · rw [readSlot_eq_ok]
    by_cases hts : t = s
    · have hkebab : s.emptyFirst.get? t.key = some .null := by rw [hts, Slot.emptyFirst, Entries.get?_cons, if_pos rfl]
      rw [Entries.attr?_map_snd, t.spell_snakeKey, hkebab]
      exact .inr ⟨.null, rfl, rfl⟩
    · have hnil : s.emptyFirst.under t.accepts = [] := (s.under_emptyFirst t).trans (if_neg hts)
      have hwritten : s.emptyFirst.WrittenAs t.accepts t.spellings := by
        rw [Entries.WrittenAs, List.map_eq_nil_iff.mp hnil]
        exact List.nil_sublist _
      rw [Slot.attr?_of_writtenAs hwritten, hnil]
      exact .inl ⟨rfl, rfl⟩

/-- Loading takes the value that is written last. -/
theorem Load.field_ne_none_of_emptyFirst (h : s.key ≠ s.snakeKey) {r : RuleSet}
    (hload : ruleSetOf none s.emptyFirst = .ok r) : r.field s ≠ none := by
  have hlast : (s.emptyFirst.under s.accepts).getLast? = some (.map [(.str "optional", .bool true)]) := by
    rw [Slot.under_emptyFirst, if_pos rfl]
    rfl
  obtain ⟨d', hfield, hread⟩ := (ruleMapping_emptyFirst h).read_last hload hlast
  cases hfield
  rcases optional_eq_ok.mp hread with ⟨hnull, -⟩ | ⟨-, f, -, hf⟩
  · cases hnull
  · simp [hf]

/-- **Nor will the other order of the keys of a slot.** A slot that is empty under its kebab-case key and given under
its snake-case key after that is read as absent, but not loaded as absent. -/
theorem Load.disagree_of_kebab_first (h : s.key ≠ s.snakeKey) : RuleMapping s.emptyFirst ∧
    ∃ r, RuleSet.schema.read (.map s.emptyFirst) = .ok r ∧ ruleSetOf none s.emptyFirst ≠ .ok r :=
  ⟨ruleMapping_emptyFirst h, _, RuleSet.read_emptyFirst s, fun hload => field_ne_none_of_emptyFirst h hload rfl⟩

end EmptyFirst

/-! ## Reading and loading -/

/-- **When reading and loading agree.** A rule mapping that is written in the order of the spellings is loaded as the
rule set that it is read as, or neither can be. No other order will do: given the keys of a slot with selectors, the two
agree whatever the values are just if the keys of each attribute are in that order; and given both keys of a slot, the
kebab-case one first, there are values for which they differ. -/
theorem Load.ruleSetOf_eq_ok_iff_read (es : Entries) (s : Slot) :
    (RuleMapping es → InOrder es → ∀ r : RuleSet,
      ruleSetOf none es = .ok r ↔ RuleSet.schema.read (.map es) = .ok r) ∧
    (∀ ks : List String, ks.Nodup → (∀ k ∈ ks, ∃ a : FieldAttr, k ∈ a.spellings) →
      (∃ k ∈ ks, k ∈ ListAttr.selectors.keys) →
      ((∀ (value : String → Doc) (r : RuleSet), ruleSetOf none (s.entries (ks.map fun k => (k, value k))) = .ok r ↔
          RuleSet.schema.read (.map (s.entries (ks.map fun k => (k, value k)))) = .ok r) ↔
        ∀ a : FieldAttr, (ks.filter fun k => k ∈ a.spellings).Sublist a.spellings)) ∧
    (s.key ≠ s.snakeKey → RuleMapping s.emptyFirst ∧
      ∃ r, RuleSet.schema.read (.map s.emptyFirst) = .ok r ∧ ruleSetOf none s.emptyFirst ≠ .ok r) :=
  ⟨fun h ho r => h.ruleSetOf_of_inOrder ho r, fun _ => agree_iff_inOrder s, fun h => disagree_of_kebab_first h⟩

/-- The expressions of the selectors of titles. -/
def RuleSet.titleSelectors (r : RuleSet) : List String :=
  ((r.field .title).map fun f => f.selectors.map Selector.expr).getD []

theorem exists_spelling_selectors : ∀ k ∈ ListAttr.selectors.keys, ∃ a : FieldAttr, k ∈ a.spellings :=
  fun _ hk => ⟨.list .selectors, hk⟩

namespace Load

/-- Selectors under both keys, the singular one first. -/
theorem ruleSetOf_singular_first :
    let es := Slot.title.entries [("selector", .str "h1"), ("selectors", .list [.str "h2"])]
    RuleMapping es ∧ InOrder es ∧
      ∃ r, ruleSetOf none es = .ok r ∧ RuleSet.schema.read (.map es) = .ok r ∧ r.titleSelectors = ["h1", "h2"] := by
  intro es
  have hmapping : RuleMapping es := ruleMapping_entries (by decide) exists_spelling_selectors
  have horder : InOrder es := by
    refine inOrder_entries_iff.mpr fun a => ?_
    change (ListAttr.selectors.keys.filter _).Sublist a.spellings
    rw [FieldAttr.filter_accepts_eq exists_spelling_selectors]
    cases a with
    | list l => cases l <;> decide
    | _ => decide
  have hread : (RuleSet.schema.read (.map es)).toOption.map RuleSet.titleSelectors = some ["h1", "h2"] := by
    decide +kernel
  obtain ⟨r, hr, hsel⟩ := exists_of_toOption hread
  exact ⟨hmapping, horder, r, ((ruleSetOf_eq_ok_iff_read es .title).1 hmapping horder r).mpr hr, hr, hsel⟩

/-- Selectors under both keys, the plural one first: loading and reading do not give them in the same order. -/
theorem ruleSetOf_plural_first :
    let es := Slot.title.entries [("selectors", .list [.str "h2"]), ("selector", .str "h1")]
    RuleMapping es ∧ ∃ r r', ruleSetOf none es = .ok r ∧ RuleSet.schema.read (.map es) = .ok r' ∧
      r.titleSelectors = ["h2", "h1"] ∧ r'.titleSelectors = ["h1", "h2"] := by
  intro es
  have hmapping : RuleMapping es := ruleMapping_entries (by decide) fun k hk =>
    exists_spelling_selectors k (List.mem_pair.mpr (List.mem_pair.mp hk).symm)
  have hload : (ruleSetOf none es).toOption.map RuleSet.titleSelectors = some ["h2", "h1"] := by decide +kernel
  have hread : (RuleSet.schema.read (.map es)).toOption.map RuleSet.titleSelectors = some ["h1", "h2"] := by
    decide +kernel
  obtain ⟨r, hr, hsel⟩ := exists_of_toOption hload
  obtain ⟨r', hr', hsel'⟩ := exists_of_toOption hread
  exact ⟨hmapping, r, r', hr, hr', hsel, hsel'⟩

end Load

end Excerpt
