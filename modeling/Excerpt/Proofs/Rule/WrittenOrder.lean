import Excerpt.Rule.Load
import Excerpt.Proofs.Rule.Normalized
import Excerpt.Proofs.Rule.Rebuilt

/-!
# Reading a rule mapping and loading it

A rule mapping can be read as it stands, or be loaded: brought into normal form and then read. Either way the values
that are given for an attribute under several keys add up (`FieldAttr.add`). Reading takes the keys in the order of the
spellings (`FieldAttr.given_eq_foldl`), the normal form in the order in which they are written
(`Normal.given_addEntries`). The slots are alike: of two values, reading takes the one under the kebab-case key and the
normal form the one written last.

So the two agree on a mapping that is written in the order of the spellings (`RuleMapping.ruleSetOf_of_inOrder`).
-/

namespace Excerpt

open Doc (Entries)

/-! ## The order of keys -/

namespace Doc.Entries

variable {es : Entries} {k : String} {p : Scalar → Bool} {ks : List String}

/-- The keys with a property are among some keys and stand in their order. -/
def WrittenAs (es : Entries) (p : Scalar → Bool) (ks : List String) : Prop :=
  ((es.filter fun e => p e.1).map Prod.fst).Sublist (ks.map .str)

theorem get?_filter (hk : p (.str k) = true) (es : Entries) :
    Entries.get? (es.filter fun e => p e.1) k = es.get? k := by
  induction es with
  | nil => rfl
  | cons e es ih =>
    rw [List.filter_cons, get?_cons]
    by_cases he : e.1 = .str k
    · rw [if_pos (he ▸ hk), if_pos he, get?_cons, if_pos he]
    · rw [if_neg he]
      split
      · rw [get?_cons, if_neg he, ih]
      · exact ih

theorem get?_eq_none_of_not_mem : ∀ {es : Entries}, Scalar.str k ∉ es.map Prod.fst → es.get? k = none
  | [], _ => rfl
  | e :: es, h => by
    rw [List.map_cons, List.mem_cons, not_or] at h
    rw [get?_cons, if_neg (Ne.symm h.1)]
    exact get?_eq_none_of_not_mem h.2

/-- The values of a mapping whose keys stand in the order of a list, by the keys of the list. -/
theorem map_snd_eq_filterMap : ∀ {ks : List String} {es : Entries}, ks.Nodup →
    (es.map Prod.fst).Sublist (ks.map Scalar.str) → es.map Prod.snd = ks.filterMap es.get?
  | [], es, _, h => by
    rw [List.map_nil, List.sublist_nil, List.map_eq_nil_iff] at h
    rw [h]
    rfl
  | k :: ks, es, hnodup, h => by
    obtain ⟨hk, hnodup⟩ := List.nodup_cons.mp hnodup
    have hkey : ∀ {fs : Entries}, (fs.map Prod.fst).Sublist (ks.map Scalar.str) → Scalar.str k ∉ fs.map Prod.fst := by
      intro fs hfs hmem
      obtain ⟨l, hl, heq⟩ := List.mem_map.mp (hfs.subset hmem)
      exact hk (Scalar.str.inj heq ▸ hl)
    cases es with
    | nil =>
      have hnone : ∀ l ∈ k :: ks, Entries.get? [] l = none := fun _ _ => rfl
      exact (List.filterMap_eq_nil_iff.mpr hnone).symm
    | cons e es =>
      rw [List.map_cons, List.map_cons, List.cons_sublist_cons'] at h
      rcases h with h | ⟨he, h⟩
      · have hnone : Entries.get? (e :: es) k = none := get?_eq_none_of_not_mem (hkey h)
        rw [List.filterMap_cons_none hnone]
        exact map_snd_eq_filterMap hnodup h
      · have hsome : Entries.get? (e :: es) k = some e.2 := by rw [get?_cons, if_pos he]
        have hrest : ks.filterMap (Entries.get? (e :: es)) = ks.filterMap (Entries.get? es) := by
          refine List.filterMap_congr fun l hl => ?_
          have hne : e.1 ≠ .str l := fun h => hk (Scalar.str.inj (he.symm.trans h) ▸ hl)
          rw [get?_cons, if_neg hne]
        rw [List.map_cons, List.filterMap_cons_some hsome, hrest, map_snd_eq_filterMap hnodup h]

/-- Written in the order of some keys, the values are those under the keys in their order. -/
theorem WrittenAs.under_eq (h : es.WrittenAs p ks) (hnodup : ks.Nodup) (hp : ∀ k ∈ ks, p (.str k) = true) :
    es.under p = ks.filterMap es.get? := by
  rw [under, map_snd_eq_filterMap hnodup h]
  exact List.filterMap_congr fun k hk => get?_filter (hp k hk) es

theorem writtenAs_ofStrings {ps : List (String × Doc)} : (ofStrings ps).WrittenAs p ks ↔
    ((ps.map Prod.fst).filter fun k => p (.str k)).Sublist ks := by
  have hkeys : ((ofStrings ps).filter fun e => p e.1).map Prod.fst =
      ((ps.map Prod.fst).filter fun k => p (.str k)).map .str := by
    rw [ofStrings, List.filter_map, List.filter_map, List.map_map, List.map_map]
    rfl
  rw [WrittenAs, hkeys]
  refine ⟨fun h => ?_, fun h => h.map _⟩
  obtain ⟨ls, hls, heq⟩ := List.sublist_map_iff.mp h
  rwa [List.map_injective_iff.mpr (fun _ _ => Scalar.str.inj) heq]

/-- In a mapping with distinct keys, the last value under a key is the one that is found. -/
theorem Distinct.getLast?_under (h : es.Distinct) (k : String) :
    (es.under fun l => l = .str k).getLast? = es.get? k := by
  obtain ⟨ps, hnodup, rfl⟩ := h
  induction ps with
  | nil => rfl
  | cons p ps ih =>
    obtain ⟨hp, hnodup⟩ := List.nodup_cons.mp hnodup
    change (Entries.under _ ((.str p.1, p.2) :: ofStrings ps)).getLast? = get? ((.str p.1, p.2) :: ofStrings ps) k
    rw [under_cons, get?_cons]
    by_cases hk : p.1 = k
    · have hnone : get? (ofStrings ps) k = none := get?_ofStrings_eq_none (hk ▸ hp)
      rw [if_pos (congrArg Scalar.str hk), if_pos (decide_eq_true (congrArg Scalar.str hk)), List.getLast?_cons,
        ih hnodup, hnone]
      rfl
    · have hne : Scalar.str p.1 ≠ .str k := fun h => hk (Scalar.str.inj h)
      rw [if_neg hne, if_neg (mt of_decide_eq_true hne), ih hnodup]

end Doc.Entries

/-! ## The order of reading -/

theorem getLast?_filterMap_pair {α β : Type} (f : α → Option β) (k l : α) :
    ([k, l].filterMap f).getLast? = (f l).or (f k) := by
  cases hk : f k <;> cases hl : f l <;> simp [hk, hl]

theorem getLast?_filterMap_single {α β : Type} (f : α → Option β) (k : α) : ([k].filterMap f).getLast? = f k := by
  cases hk : f k <;> simp [hk]

namespace FieldAttr

theorem foldl_add_list (l : ListAttr) : ∀ (ds acc : List Doc),
    ds.foldl (FieldAttr.list l).add (some (.list acc)) = some (.list (acc ++ ds.flatMap Doc.toItems))
  | [], acc => by rw [List.flatMap_nil, List.append_nil]; rfl
  | d :: ds, acc => by
    have hadd : (FieldAttr.list l).add (some (.list acc)) d = some (.list (acc ++ d.toItems)) := rfl
    rw [List.foldl_cons, hadd, foldl_add_list l ds, List.flatMap_cons, List.append_assoc]

/-- The values that are given for a list are joined. -/
theorem foldl_add_of_ne_nil (l : ListAttr) {ds : List Doc} (h : ds ≠ []) :
    ds.foldl (FieldAttr.list l).add none = some (.list (ds.flatMap Doc.toItems)) := by
  obtain ⟨d, ds, rfl⟩ := List.exists_cons_of_ne_nil h
  have hadd : (FieldAttr.list l).add none d = some (.list d.toItems) := rfl
  rw [List.foldl_cons, hadd, foldl_add_list, List.flatMap_cons]

/-- Of the values that are given for any other attribute the last one is kept. -/
theorem foldl_add_scalar {a : FieldAttr} (ha : a.IsScalar) : ∀ (ds : List Doc) (old : Option Doc),
    ds.foldl a.add old = ds.getLast?.or old
  | [], old => rfl
  | d :: ds, old => by
    rw [List.foldl_cons, ha.add_eq, foldl_add_scalar ha ds, List.getLast?_cons]
    cases ds.getLast? <;> rfl

theorem merged?_eq_foldl (l : ListAttr) (es : Entries) :
    (es.merged? l.keys).map Doc.list = (l.keys.filterMap es.get?).foldl (FieldAttr.list l).add none := by
  have hitems : l.keys.flatMap (fun k => ((es.get? k).map Doc.toItems).getD []) =
      (l.keys.filterMap es.get?).flatMap Doc.toItems := by
    generalize l.keys = ks
    induction ks with
    | nil => rfl
    | cons k ks ih =>
      rw [List.flatMap_cons, ih, List.filterMap_cons]
      cases es.get? k <;> rfl
  rw [Entries.merged?, hitems]
  cases hds : l.keys.filterMap es.get? with
  | nil =>
    have hany : ¬ l.keys.any es.has = true := by
      rw [List.any_eq_true]
      rintro ⟨k, hk, hhas⟩
      rw [Entries.has, List.filterMap_eq_nil_iff.mp hds k hk] at hhas
      cases hhas
    rw [if_neg hany]
    rfl
  | cons d ds =>
    have hany : l.keys.any es.has = true := by
      obtain ⟨k, hk, hget⟩ := List.mem_filterMap.mp (hds ▸ List.mem_cons_self : d ∈ l.keys.filterMap es.get?)
      exact List.any_eq_true.mpr ⟨k, hk, by rw [Entries.has, hget]; rfl⟩
    rw [if_pos hany, foldl_add_of_ne_nil l (List.cons_ne_nil d ds)]
    rfl

/-- What a mapping gives for an attribute is what the values under its spellings add up to. -/
theorem given_eq_foldl (a : FieldAttr) (es : Entries) :
    a.given es = (a.spellings.filterMap es.get?).foldl a.add none := by
  rcases a.isScalar_or with ha | ⟨l, rfl⟩
  · have hsame : ∀ key : String, KeyStyle.kebab.spell key = key →
        (es.get? (KeyStyle.kebab.spell key)).or (es.get? key) = ([key].filterMap es.get?).getLast? := by
      intro key hkey
      rw [hkey, getLast?_filterMap_single, Option.or_self]
    rw [foldl_add_scalar ha, Option.or_none, ha.given_eq, Entries.attr?_map_snd]
    cases a with
    | list l => exact (ha l rfl).elim
    | name => exact hsame "name" (by decide)
    | optional => exact hsame "optional" (by decide)
    | _ => exact (getLast?_filterMap_pair es.get? _ _).symm
  · exact merged?_eq_foldl l es

end FieldAttr

/-! ## Rule mappings -/

/-- The keys that a slot may be given under, the later one going first. -/
def Slot.spellings (s : Slot) : List String :=
  if s.key = s.snakeKey then [s.key] else [s.snakeKey, s.key]

/-- A mapping whose keys are names of slots in kebab or snake case, with names of attributes as keys of the slots; it
may have a root. -/
structure RuleMapping (es : Entries) : Prop where
  distinct : es.Distinct
  keys : ∀ k ∈ es.map Prod.fst, k = .str "root" ∨ ∃ s : Slot, ∃ t ∈ s.spellings, k = .str t
  attributes : ∀ (s : Slot) (inner : Entries), .map inner ∈ es.under s.accepts →
    inner.Distinct ∧ ∀ k ∈ inner.map Prod.fst, ∃ a : FieldAttr, ∃ t ∈ a.spellings, k = .str t

/-- A rule mapping that is written in the order of the spellings: of two keys of a slot the snake-case one comes first,
and in the mapping of a slot the keys of each attribute keep their order. -/
structure InOrder (es : Entries) : Prop where
  slots : ∀ s : Slot, es.WrittenAs s.accepts s.spellings
  attributes : ∀ (s : Slot) (inner : Entries), (es.under s.accepts).getLast? = some (.map inner) →
    ∀ a : FieldAttr, inner.WrittenAs a.accepts a.spellings

theorem FieldAttr.nodup_spellings (a : FieldAttr) : a.spellings.Nodup := by
  cases a with
  | list l => exact l.nodup_keys
  | _ => decide

theorem FieldAttr.accepts_of_mem (a : FieldAttr) : ∀ k ∈ a.spellings, a.accepts (.str k) = true := by
  cases a with
  | list l => cases l <;> decide +kernel
  | _ => decide +kernel

/-- Of the names of attributes, an attribute accepts its spellings. -/
theorem FieldAttr.accepts_iff_mem {a b : FieldAttr} {k : String} (hk : k ∈ b.spellings) :
    a.accepts (.str k) = true ↔ k ∈ a.spellings :=
  ⟨fun ha => eq_of_accepts ha (b.accepts_of_mem k hk) ▸ hk, a.accepts_of_mem k⟩

theorem FieldAttr.filter_accepts_eq {ks : List String} (hks : ∀ k ∈ ks, ∃ b : FieldAttr, k ∈ b.spellings)
    (a : FieldAttr) :
    (ks.filter fun k => a.accepts (.str k)) = ks.filter fun k => k ∈ a.spellings := by
  refine List.filter_congr fun k hk => ?_
  obtain ⟨b, hb⟩ := hks k hk
  rw [Bool.eq_iff_iff, decide_eq_true_iff]
  exact accepts_iff_mem hb

/-- Written in the order of the spellings, a mapping gives what its normal form gives. -/
theorem Normal.given_eq_of_writtenAs {es es' : Entries} {a : FieldAttr} (h : es.WrittenAs a.accepts a.spellings)
    (hes' : Normal.addEntries [] es = .ok es') : a.given es' = a.given es := by
  rw [given_addEntries hes', h.under_eq a.nodup_spellings a.accepts_of_mem, a.given_eq_foldl]

namespace Slot

theorem nodup_spellings (s : Slot) : s.spellings.Nodup := by
  rw [spellings]
  split
  · exact List.pairwise_singleton _ _
  · rename_i hne
    simpa using Ne.symm hne

theorem accepts_of_mem (s : Slot) : ∀ k ∈ s.spellings, s.accepts (.str k) = true := by
  intro k hk
  have hcases : k = s.key ∨ k = s.snakeKey := by
    rw [spellings] at hk
    split at hk
    · exact .inl (List.mem_singleton.mp hk)
    · exact (List.mem_pair.mp hk).symm
  rcases hcases with rfl | rfl
  · exact s.accepts_key
  · exact s.accepts_snakeKey

/-- What a slot is read from is what stands under the last of its spellings. -/
theorem attr?_eq_getLast? (s : Slot) (es : Entries) :
    (es.attr? s.snakeKey).map Prod.snd = (s.spellings.filterMap es.get?).getLast? := by
  rw [Entries.attr?_map_snd, s.spell_snakeKey, spellings]
  split
  · rename_i hkey
    rw [← hkey, Option.or_self, getLast?_filterMap_single]
  · rw [getLast?_filterMap_pair]

/-- Written in the order of its spellings, a slot is read from the last value for it. -/
theorem attr?_of_writtenAs {s : Slot} {es : Entries} (h : es.WrittenAs s.accepts s.spellings) :
    (es.attr? s.snakeKey).map Prod.snd = (es.under s.accepts).getLast? := by
  rw [s.attr?_eq_getLast?, h.under_eq s.nodup_spellings s.accepts_of_mem]

end Slot

/-! ## Reading and loading -/

namespace Normal

variable {es es' : Entries} {s : Slot} {f? : Option FieldRule}

/-- The normal form of the document of a slot is read like the document. -/
theorem optional_field {d d' : Doc} (h : field d = .ok d')
    (ho : ∀ inner : Entries, d = .map inner → ∀ a : FieldAttr, inner.WrittenAs a.accepts a.spellings) :
    Decoded.optional (fun d => FieldRule.ofDoc (RuleSet.named s d)) d' = .ok f? ↔
      Decoded.optional (fun d => FieldRule.ofDoc (RuleSet.named s d)) d = .ok f? := by
  cases d with
  | map inner =>
    obtain ⟨inner', hinner, rfl⟩ := field_eq_ok_of_mapping? rfl h
    have hgiven : ∀ a : FieldAttr, a.given inner' = a.given inner :=
      fun a => given_eq_of_writtenAs (ho inner rfl a) hinner
    have hread : ∀ f, FieldRule.ofDoc (RuleSet.named s (.map inner')) = .ok f ↔
        FieldRule.ofDoc (RuleSet.named s (.map inner)) = .ok f := by
      intro f
      simp only [RuleSet.ofDoc_named_map_eq_ok, hgiven]
    simp only [Decoded.optional_eq_ok, hread]
    exact Iff.rfl
  | list ds =>
    cases h
    exact Iff.rfl
  | scalar v => cases v <;> cases h <;> exact Iff.rfl

/-- A slot is read from the normal form of a mapping that is written in order as it is from the mapping. -/
theorem readSlot_addSlots (ho : InOrder es) (h : addSlots [] es = .ok es') :
    RuleSet.readSlot es' s = .ok f? ↔ RuleSet.readSlot es s = .ok f? := by
  rw [(slotsFolded_nil.addSlots h).readSlot_eq_ok, RuleSet.readSlot_eq_ok, Slot.attr?_of_writtenAs (ho.slots s)]
  rcases get?_addSlots h s with ⟨d, d', hd, hfield, hget⟩ | ⟨hnil, hget⟩
  · have hread : Decoded.optional (fun d => FieldRule.ofDoc (RuleSet.named s d)) d' = .ok f? ↔
        Decoded.optional (fun d => FieldRule.ofDoc (RuleSet.named s d)) d = .ok f? :=
      optional_field hfield fun inner hinner => ho.attributes s inner (hinner ▸ hd)
    simp [hget, hd, hread]
  · have hnone : es'.get? s.snakeKey = none := hget
    simp [hnone, hnil]

end Normal

namespace RuleMapping

variable {es : Entries}

theorem get?_fieldsKey (h : RuleMapping es) : es.get? Normal.fieldsKey = none := by
  have hslots : ∀ s : Slot, s.accepts (.str Normal.fieldsKey) = false := by
    intro s
    cases s <;> decide
  refine Entries.get?_eq_none_of_not_mem fun hmem => ?_
  rcases h.keys _ hmem with hroot | ⟨s, t, ht, hkey⟩
  · exact absurd hroot (by decide)
  · exact Bool.false_ne_true ((hslots s).symm.trans (hkey ▸ s.accepts_of_mem t ht))

theorem exists_addSlots (h : RuleMapping es) : ∃ es', Normal.addSlots [] es = .ok es' := by
  have hdistinct : ∀ {fs : Entries}, fs.Distinct → ∀ e ∈ fs, ∃ t, e.1 = .str t := by
    rintro _ ⟨ps, -, rfl⟩ e he
    obtain ⟨p, -, rfl⟩ := List.mem_map.mp he
    exact ⟨p.1, rfl⟩
  refine Normal.exists_addSlots (hdistinct h.distinct) (fun s d hd inner hinner => ?_) []
  rw [Normal.mapping?.eq_def] at hinner
  split at hinner
  · cases hinner
    exact hdistinct (h.attributes s _ hd).1
  · cases hinner
    exact fun e he => ⟨_, congrArg Prod.fst (List.mem_singleton.mp he)⟩
  · cases hinner
    exact fun e he => ⟨_, congrArg Prod.fst (List.mem_singleton.mp he)⟩
  · cases hinner

/-- A rule mapping is loaded by reading its normal form. -/
theorem ruleSetOf_eq (h : RuleMapping es) {es' : Entries} (hes' : Normal.addSlots [] es = .ok es') :
    Load.ruleSetOf none es = RuleSet.schema.read (.map es') := by
  have hslots : Normal.slots es = .ok es' := by
    rw [Normal.slots, h.get?_fieldsKey]
    exact hes'
  rw [Load.ruleSetOf, hslots]
  rfl

/-- A rule set is read from the normal form of a mapping that is written in order as it is from the mapping. -/
theorem ofEntries_addSlots (h : RuleMapping es) (ho : InOrder es) {es' : Entries}
    (hes' : Normal.addSlots [] es = .ok es')
    (r : RuleSet) : RuleSet.ofEntries es' = .ok r ↔ RuleSet.ofEntries es = .ok r := by
  have hroot : es'.get? "root" = es.get? "root" := by
    rw [Normal.get?_addSlots_of_not_slot Slot.accepts_root hes', h.distinct.getLast?_under]
    exact Option.or_none
  have hattr : es'.attr? "root" = es.attr? "root" := Entries.attr?_congr fun style => by cases style <;> exact hroot
  rw [RuleSet.ofEntries_eq_ok, RuleSet.ofEntries_eq_ok, Entries.attrOr, Entries.attrOr, hattr]
  exact and_congr_right fun _ => forall_congr' fun s => Normal.readSlot_addSlots ho hes'

/-- A rule mapping that is written in the order of the spellings is loaded as the rule set that it is read as, or
neither can be. -/
theorem ruleSetOf_of_inOrder (h : RuleMapping es) (ho : InOrder es) (r : RuleSet) :
    Load.ruleSetOf none es = .ok r ↔ RuleSet.schema.read (.map es) = .ok r := by
  obtain ⟨es', hes'⟩ := h.exists_addSlots
  rw [h.ruleSetOf_eq hes', Schema.read_eq_ok, Schema.read_eq_ok]
  exact h.ofEntries_addSlots ho hes' r

end RuleMapping

/-! ## One slot -/

/-- A rule mapping with one slot, given under its kebab-case key as a mapping. -/
def Slot.entries (s : Slot) (ps : List (String × Doc)) : Entries :=
  [(.str s.key, .map (Entries.ofStrings ps))]

theorem Slot.under_entries (s t : Slot) (ps : List (String × Doc)) :
    (s.entries ps).under t.accepts = if t = s then [.map (Entries.ofStrings ps)] else [] := by
  rw [entries, Entries.under_cons]
  by_cases hts : t = s
  · rw [if_pos hts, hts, if_pos s.accepts_key]
    rfl
  · rw [if_neg hts, if_neg fun ht => hts (eq_of_accepts ht s.accepts_key)]
    rfl

theorem Slot.key_mem_spellings (s : Slot) : s.key ∈ s.spellings := by
  rw [spellings]
  split <;> simp

variable {s : Slot} {ps : List (String × Doc)}

theorem ruleMapping_entries (hnodup : (ps.map Prod.fst).Nodup)
    (hkeys : ∀ k ∈ ps.map Prod.fst, ∃ a : FieldAttr, k ∈ a.spellings) : RuleMapping (s.entries ps) := by
  refine ⟨⟨[(s.key, .map (Entries.ofStrings ps))], List.pairwise_singleton _ _, rfl⟩, fun k hk => ?_,
    fun t inner hinner => ?_⟩
  · exact .inr ⟨s, s.key, s.key_mem_spellings, List.mem_singleton.mp hk⟩
  · rw [Slot.under_entries] at hinner
    split at hinner
    · cases Doc.map.inj (List.mem_singleton.mp hinner)
      refine ⟨⟨ps, hnodup, rfl⟩, fun k hk => ?_⟩
      obtain ⟨e, he, rfl⟩ := List.mem_map.mp hk
      obtain ⟨p, hp, rfl⟩ := List.mem_map.mp he
      obtain ⟨a, ha⟩ := hkeys p.1 (List.mem_map_of_mem hp)
      exact ⟨a, p.1, ha, rfl⟩
    · cases hinner

theorem Slot.writtenAs_entries (s t : Slot) (ps : List (String × Doc)) :
    (s.entries ps).WrittenAs t.accepts t.spellings := by
  rw [Entries.WrittenAs, entries, List.filter_cons]
  split
  · rename_i ht
    have hts : t = s := eq_of_accepts ht s.accepts_key
    exact List.singleton_sublist.mpr (List.mem_map_of_mem (hts ▸ s.key_mem_spellings))
  · exact List.nil_sublist _

/-- A mapping of one slot is in order if the keys of each attribute are. -/
theorem inOrder_entries_iff : InOrder (s.entries ps) ↔
    ∀ a : FieldAttr, ((ps.map Prod.fst).filter fun k => a.accepts (.str k)).Sublist a.spellings := by
  simp only [← Entries.writtenAs_ofStrings]
  refine ⟨fun h => h.attributes s _ ?_, fun h => ⟨fun t => s.writtenAs_entries t ps, fun t inner hinner a => ?_⟩⟩
  · rw [Slot.under_entries, if_pos rfl]
    rfl
  · rw [Slot.under_entries] at hinner
    split at hinner
    · cases hinner
      exact h a
    · cases hinner

end Excerpt
