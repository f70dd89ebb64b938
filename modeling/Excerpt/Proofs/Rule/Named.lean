import Excerpt.Rule.RuleSet
import Excerpt.Proofs.Doc.Entries
import Excerpt.Proofs.Rule.Decoded

/-!
# The names of field rules

A field rule that a rule set reads for a slot is named after the slot, whatever name its document gives: the name is put
into the mapping before it is read (`name_of_ofDoc_named`), and merging the list attributes leaves it there. So every
rule set that is read from a document is `Named` (`Built.named`).
-/

namespace Excerpt

open Doc (Entries)

namespace FieldRule

theorem checked_eq_ok {f g : FieldRule} : checked g = .ok f ↔ g = f ∧ (f.selectors = [] → f.optional = true) := by
  rw [checked]
  split
  · rename_i h
    refine iff_of_false (by simp [Decoded.fail]) ?_
    rintro ⟨rfl, hs⟩
    simp_all
  · rename_i h
    constructor
    · rintro ⟨⟩
      exact ⟨rfl, by simpa using h⟩
    · rintro ⟨rfl, -⟩
      rfl

/-- What a field rule is read from, attribute by attribute. -/
theorem ofEntries_eq_ok {es : Entries} {f : FieldRule} : ofEntries es = .ok f ↔
    es.attrOr "name" "" Decoded.string = .ok f.name ∧
    readList es .selectors Selector.ofDoc = .ok f.selectors ∧
    readList es .extractors Extractor.ofDoc = .ok f.extractors ∧
    es.attrOr "text_case" .none (Decoded.member TextCase.members TextCase.name) = .ok f.textCase ∧
    readList es .datePatterns Decoded.string = .ok f.datePatterns ∧
    readList es .filters Filter.ofDoc = .ok f.filters ∧
    readList es .conditions Condition.ofDoc = .ok f.conditions ∧
    es.attrOr "base_path" "" Decoded.string = .ok f.basePath ∧
    es.attrOr "remove_parameters" true Decoded.bool = .ok f.removeParameters ∧
    es.attrOr "trailing_slash" false Decoded.bool = .ok f.trailingSlash ∧
    es.attrOr "optional" false Decoded.bool = .ok f.optional ∧
    (f.selectors = [] → f.optional = true) := by
  rw [ofEntries, Decoded.andThen_eq_ok]
  simp only [checked_eq_ok, Decoded.seq_eq_ok, Decoded.map_eq_ok]
  constructor
  · rintro ⟨_, ⟨_, _, ⟨_, _, ⟨_, _, ⟨_, _, ⟨_, _, ⟨_, _, ⟨_, _, ⟨_, _, ⟨_, _, ⟨_, _, ⟨_, h1, rfl⟩, h2, rfl⟩, h3, rfl⟩,
      h4, rfl⟩, h5, rfl⟩, h6, rfl⟩, h7, rfl⟩, h8, rfl⟩, h9, rfl⟩, h10, rfl⟩, h11, rfl⟩, rfl, hs⟩
    exact ⟨h1, h2, h3, h4, h5, h6, h7, h8, h9, h10, h11, hs⟩
  · rintro ⟨h1, h2, h3, h4, h5, h6, h7, h8, h9, h10, h11, hs⟩
    exact ⟨_, ⟨_, _, ⟨_, _, ⟨_, _, ⟨_, _, ⟨_, _, ⟨_, _, ⟨_, _, ⟨_, _, ⟨_, _, ⟨_, _, ⟨_, h1, rfl⟩, h2, rfl⟩, h3, rfl⟩,
      h4, rfl⟩, h5, rfl⟩, h6, rfl⟩, h7, rfl⟩, h8, rfl⟩, h9, rfl⟩, h10, rfl⟩, h11, rfl⟩, rfl, hs⟩

/-- Merging list attributes changes the keys of lists only. -/
theorem get?_mergeList {l : String} (es : Entries) {a : ListAttr} (hk : l ∉ a.keys) (ha : l ≠ a.key) :
    (mergeList es a).get? l = es.get? l := by
  rw [mergeList]
  split
  · rfl
  · rw [Entries.get?_set_of_ne ha, Entries.get?_unsetAll es hk]

theorem get?_foldl_mergeList {l : String} : ∀ {as : List ListAttr} (es : Entries),
    (∀ a ∈ as, l ∉ a.keys ∧ l ≠ a.key) → (as.foldl mergeList es).get? l = es.get? l
  | [], _, _ => rfl
  | a :: as, es, h => by
    obtain ⟨hk, ha⟩ := h a List.mem_cons_self
    rw [List.foldl_cons, get?_foldl_mergeList _ fun b hb => h b (List.mem_cons_of_mem a hb), get?_mergeList es hk ha]

theorem get?_name_mergeLists (es : Entries) : (mergeLists es).get? "name" = es.get? "name" :=
  get?_foldl_mergeList es (by decide)

theorem name_of_ofEntries {es : Entries} {f : FieldRule} {name : String} (hn : es.get? "name" = some (.str name))
    (h : ofEntries es = .ok f) : f.name = name := by
  have hattr : es.attr? "name" = some ("name", .str name) := by
    rw [Entries.attr?, show KeyStyle.kebab.spell "name" = "name" from rfl, hn]
  have h1 := (ofEntries_eq_ok.mp h).1
  rw [Entries.attrOr, hattr] at h1
  exact (Decoded.ok.inj (Decoded.under_eq_ok.mp h1)).symm

end FieldRule

namespace RuleSet

/-- A field rule read for a slot has the name of the slot. -/
theorem name_of_ofDoc_named {s : Slot} {d : Doc} {f : FieldRule} (h : FieldRule.ofDoc (named s d) = .ok f) :
    f.name = s.key := by
  have hmap : ∀ es : Entries, FieldRule.ofDoc (.map (es.set "name" (.str s.key))) = .ok f → f.name = s.key := by
    intro es h
    refine FieldRule.name_of_ofEntries ?_ h
    rw [FieldRule.get?_name_mergeLists, Entries.get?_set_self]
  cases d with
  | map es => exact hmap es h
  | list ds => exact hmap _ h
  | scalar v =>
    cases v with
    | str e => exact hmap _ h
    | _ => cases h

theorem name_of_readSlot {es : Entries} {s : Slot} {f : FieldRule} (h : readSlot es s = .ok (some f)) :
    f.name = s.key := by
  rw [readSlot, Entries.attrOr] at h
  split at h
  · rcases Decoded.optional_eq_ok.mp (Decoded.under_eq_ok.mp h) with ⟨-, hf⟩ | ⟨-, g, hg, hf⟩
    · cases hf
    · cases hf
      exact name_of_ofDoc_named hg
  · cases h

theorem readSlot_of_mem {es : Entries} {s : Slot} {f? : Option FieldRule} : ∀ {ss : List Slot}
    {fields : List (Slot × Option FieldRule)}, readSlots es ss = .ok fields → (s, f?) ∈ fields → readSlot es s = .ok f?
  | [], _, h, hm => by
    cases h
    cases hm
  | t :: ts, _, h, hm => by
    rw [readSlots] at h
    obtain ⟨_, rest, h1, hrest, rfl⟩ := Decoded.seq_eq_ok.mp h
    obtain ⟨g?, hg, rfl⟩ := Decoded.map_eq_ok.mp h1
    rcases List.mem_cons.mp hm with h | h
    · cases h
      exact hg
    · exact readSlot_of_mem hrest h

/-- A rule set whose field rules have the names of their slots. -/
def Named (r : RuleSet) : Prop :=
  ∀ s f, r.field s = some f → f.name = s.key

/-- A rule set that is read from a document. Loading and deriving rule sets come down to that. -/
def Built (r : RuleSet) : Prop :=
  ∃ d, ofDoc d = .ok r

theorem Built.named {r : RuleSet} (h : r.Built) : r.Named := by
  obtain ⟨d, hd⟩ := h
  intro s f hf
  cases d with
  | map es =>
    obtain ⟨_, fields, h1, hfields, rfl⟩ := Decoded.seq_eq_ok.mp hd
    obtain ⟨root, -, rfl⟩ := Decoded.map_eq_ok.mp h1
    have hm : (s, some f) ∈ fields := by
      have hl : fields.lookup s = some (some f) := Option.join_eq_some_iff.mp hf
      obtain ⟨l₁, l₂, hs, -⟩ := List.lookup_eq_some_iff.mp hl
      rw [hs]
      exact List.mem_append_right _ List.mem_cons_self
    exact name_of_readSlot (readSlot_of_mem hfields hm)
  | list ds => cases hd
  | scalar v => cases hd

end RuleSet

end Excerpt
