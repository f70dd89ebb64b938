import Excerpt.Proofs.Rule.Attribute

/-!
# The field rules of slots

A rule set is read slot by slot (`RuleSet.ofEntries_eq_ok`). The field rule of a slot takes its name from the slot and
every other attribute from what the mapping of the slot gives for it (`RuleSet.ofDoc_named_map_eq_ok`).

A rule set that has been read is read again from its written form, in either style of keys (`RuleSet.restores`).
-/

namespace Excerpt

open Doc (Entries)
open Decoded

namespace RuleSet

open FieldRule (Sound)

variable {es : Entries} {s : Slot} {f : FieldRule}

theorem given_set_name (es : Entries) (v : Doc) {a : FieldAttr} (ha : a ≠ .name) :
    a.given (es.set "name" v) = a.given es :=
  FieldAttr.given_congr fun _ hk => Entries.get?_set_of_ne (ne_of_mem_of_not_mem hk (FieldAttr.name_not_mem ha)) es

theorem given_name (es : Entries) (v : Doc) : FieldAttr.given (es.set "name" v) .name = some v := by
  have hattr : (es.set "name" v).attr? "name" = some ("name", v) := by
    rw [Entries.attr?, show KeyStyle.kebab.spell "name" = "name" from rfl, Entries.get?_set_self]
  exact congrArg (Option.map Prod.snd) hattr

/-- The field rule of a slot has the name of the slot, and its other attributes are read from what the mapping gives. -/
theorem ofDoc_named_map_eq_ok : FieldRule.ofDoc (named s (.map es)) = .ok f ↔
    f.name = s.key ∧ (∀ a : FieldAttr, a ≠ .name → a.readGiven (a.given es) = .ok (a.get f)) ∧
      (f.selectors = [] → f.optional = true) := by
  rw [named, FieldRule.ofDoc_map_eq_ok]
  constructor
  · rintro ⟨h, hs⟩
    refine ⟨?_, fun a ha => ?_, hs⟩
    · have hname := h .name
      rw [given_name] at hname
      exact (Decoded.ok.inj hname).symm
    · rw [← given_set_name es (.str s.key) ha]
      exact h a
  · rintro ⟨hname, h, hs⟩
    refine ⟨fun a => ?_, hs⟩
    by_cases ha : a = .name
    · subst ha
      rw [given_name]
      exact congrArg Decoded.ok hname.symm
    · rw [given_set_name es _ ha]
      exact h a ha

/-- The field rule of a slot is read back from its written form. -/
theorem ofDoc_named_toDoc (style : KeyStyle) (hf : f.Sound) (hname : f.name = s.key) :
    FieldRule.ofDoc (named s (f.toDoc style)) = .ok f := by
  obtain ⟨h, hs⟩ := FieldRule.ofDoc_map_eq_ok.mp (hf.ofDoc_toDoc style)
  exact ofDoc_named_map_eq_ok.mpr ⟨hname, fun a _ => h a, hs⟩

/-! ## Rule sets -/

theorem mem_slots (s : Slot) : s ∈ Slot.all := by
  cases s <;> decide

/-- A slot is read from what the mapping gives for it. -/
theorem readSlot_eq_ok {f? : Option FieldRule} : readSlot es s = .ok f? ↔
    ((es.attr? s.snakeKey).map Prod.snd = none ∧ f? = none) ∨
      ∃ d, (es.attr? s.snakeKey).map Prod.snd = some d ∧
        Decoded.optional (fun d => FieldRule.ofDoc (named s d)) d = .ok f? := by
  rw [readSlot]
  cases hs : es.attr? s.snakeKey with
  | none => simp [Entries.attrOr, hs, eq_comm]
  | some e =>
    rw [Entries.attrOr_of_attr? hs]
    simp

theorem readSlots_eq_ok {g : Slot → Option FieldRule} : ∀ {ss : List Slot}, (∀ s ∈ ss, readSlot es s = .ok (g s)) →
    readSlots es ss = .ok (ss.map fun s => (s, g s))
  | [], _ => rfl
  | s :: ss, h => by
    rw [readSlots, h s List.mem_cons_self, readSlots_eq_ok fun t ht => h t (List.mem_cons_of_mem s ht)]
    rfl

theorem lookup_of_readSlots {s : Slot} : ∀ {ss : List Slot} {fields : List (Slot × Option FieldRule)},
    readSlots es ss = .ok fields → s ∈ ss → ∃ f?, fields.lookup s = some f? ∧ readSlot es s = .ok f?
  | t :: ts, _, h, hs => by
    rw [readSlots] at h
    obtain ⟨_, rest, h1, hrest, rfl⟩ := seq_eq_ok.mp h
    obtain ⟨f?, hf, rfl⟩ := map_eq_ok.mp h1
    by_cases hst : s = t
    · subst hst
      exact ⟨f?, List.lookup_cons_self, hf⟩
    · rw [List.lookup_cons, beq_false_of_ne hst]
      exact lookup_of_readSlots hrest (List.mem_of_ne_of_mem hst hs)

/-- What a rule set is read from: its root and its slots. -/
theorem ofEntries_eq_ok {r : RuleSet} : ofEntries es = .ok r ↔
    es.attrOr "root" none (Decoded.optional Selector.ofDoc) = .ok r.root ∧ ∀ s, readSlot es s = .ok (r.field s) := by
  rw [ofEntries]
  simp only [seq_eq_ok, map_eq_ok]
  constructor
  · rintro ⟨_, fields, ⟨root, hroot, rfl⟩, hfields, rfl⟩
    refine ⟨hroot, fun s => ?_⟩
    obtain ⟨f?, hlookup, hf⟩ := lookup_of_readSlots hfields (mem_slots s)
    rw [hf]
    exact (congrArg (fun o : Option (Option FieldRule) => Decoded.ok o.join) hlookup).symm
  · rintro ⟨hroot, hfield⟩
    refine ⟨_, _, ⟨r.root, hroot, rfl⟩, readSlots_eq_ok fun s _ => hfield s, ?_⟩
    obtain ⟨root, field⟩ := r
    refine congrArg (RuleSet.mk root) (funext fun s => ?_)
    cases s <;> rfl

/-! ## Reading again -/

/-- A rule set each of whose parts is read again from its written form, with the names of slots. -/
structure Sound (r : RuleSet) : Prop where
  root : ∀ s, r.root = some s → Selector.ofDoc s.toDoc = .ok s
  field : ∀ s f, r.field s = some f → f.Sound
  named : r.Named

/-- The field rule that a slot is read from is sound. -/
theorem sound_of_readSlot (h : readSlot es s = .ok (some f)) : f.Sound := by
  rw [readSlot, Entries.attrOr] at h
  split at h
  · rcases optional_eq_ok.mp (under_eq_ok.mp h) with ⟨-, hf⟩ | ⟨-, g, hg, hf⟩
    · cases hf
    · cases hf
      exact FieldRule.sound_of_ofDoc hg
  · cases h

theorem Built.sound {r : RuleSet} (h : r.Built) : r.Sound := by
  obtain ⟨es, hes⟩ : ∃ es, ofEntries es = .ok r := by
    obtain ⟨d, hd⟩ := h
    cases d with
    | map es => exact ⟨es, hd⟩
    | list ds => cases hd
    | scalar v => cases hd
  refine ⟨?_, ?_, h.named⟩
  · intro s hs
    have hroot := (ofEntries_eq_ok.mp hes).1
    rw [hs, Entries.attrOr] at hroot
    split at hroot
    · rcases optional_eq_ok.mp (under_eq_ok.mp hroot) with ⟨-, h⟩ | ⟨-, t, ht, h⟩
      · cases h
      · cases h
        exact Selector.restores ht
    · cases hroot
  · intro s f hf
    have hfield := (ofEntries_eq_ok.mp hes).2 s
    rw [hf] at hfield
    exact sound_of_readSlot hfield

/-- What a written rule set holds for a slot. -/
theorem attr?_written (style : KeyStyle) (r : RuleSet) (s : Slot) :
    Entries.attr? (Entries.ofStrings (r.toEntries style)) s.snakeKey =
      some (style.spell s.snakeKey, ((r.field s).map (FieldRule.toDoc style)).getD .null) := by
  cases style <;> cases s <;> rfl

theorem Sound.read_root {r : RuleSet} (h : r.Sound) :
    Decoded.optional Selector.ofDoc ((r.root.map Selector.toDoc).getD .null) = .ok r.root := by
  cases hroot : r.root with
  | none => rfl
  | some s => exact optional_eq_ok.mpr (.inr ⟨rfl, s, h.root s hroot, rfl⟩)

theorem Sound.ofDoc_toDoc {r : RuleSet} (h : r.Sound) (style : KeyStyle) : ofDoc (r.toDoc style) = .ok r := by
  change ofEntries (Entries.ofStrings (r.toEntries style)) = .ok r
  refine ofEntries_eq_ok.mpr ⟨?_, fun s => ?_⟩
  · exact (Entries.attrOr_of_attr? (k := "root") rfl).mpr h.read_root
  · refine (Entries.attrOr_of_attr? (attr?_written style r s)).mpr ?_
    cases hfield : r.field s with
    | none => rfl
    | some f =>
      exact optional_eq_ok.mpr (.inr ⟨rfl, f, ofDoc_named_toDoc style (h.field s f hfield) (h.named s f hfield), rfl⟩)

/-- A rule set is read back from its written form, in either style of keys. -/
theorem restores (style : KeyStyle) : Restores ofDoc (toDoc style) :=
  fun d _ h => (Built.sound ⟨d, h⟩).ofDoc_toDoc style

end RuleSet

end Excerpt
