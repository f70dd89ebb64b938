import Excerpt.Rule.Load
import Excerpt.Proofs.Rule.Normalized
import Excerpt.Proofs.Rule.Rebuilt

/-!
# Rule documents over templates

A rule document over a template decides each slot on its own, and in a slot that it gives as a mapping each attribute
(`Slot.Overlaid`). Both sides go through the normal form first: the template as it is written, with a value for every
attribute, and the document with what it happens to give, under whatever key. In normal form the two meet under the same
keys (`Normal.readGiven_overlay`).

`Load.ruleSet_over_template` is the result, for documents that give no slot and no attribute twice.
-/

namespace Excerpt

open Doc (Entries)

/-! ## Templates in normal form -/

namespace FieldAttr

/-- The value of an attribute that a document does not give: that of the template, or else the default. -/
def inherited (a : FieldAttr) : Option FieldRule → a.Value
  | some f => a.get f
  | none => a.default

/-- A single value is read as it stands, a list from its items. -/
theorem readGiven_add (a : FieldAttr) (d : Doc) : a.readGiven (a.add none d) = a.read d := by
  cases a with
  | list l => cases l <;> rfl
  | _ => rfl

theorem snakeKey_spell (style : KeyStyle) (a : FieldAttr) : snakeKey (style.spell a.key) = a.key := by
  cases style <;> cases a with
  | list l => cases l <;> decide +kernel
  | _ => decide +kernel

theorem accepts_spell (style : KeyStyle) (a b : FieldAttr) : a.accepts (.str (style.spell b.key)) = decide (b = a) := by
  have hkeys : ∀ a ∈ all, ∀ b ∈ all, (b.key == a.key) = decide (b = a) := by decide
  have hlists : ∀ l ∈ ListAttr.all, ∀ b ∈ all, l.keys.contains b.key = decide (b = .list l) := by decide
  rcases a.isScalar_or with ha | ⟨l, rfl⟩
  · rw [ha.accepts_eq, snakeKey_spell]
    exact hkeys a a.mem_all b b.mem_all
  · change l.keys.contains (snakeKey _) = _
    rw [snakeKey_spell]
    exact hlists l l.mem_all b b.mem_all

theorem filter_accepts (style : KeyStyle) (a : FieldAttr) :
    (all.filter fun b => a.accepts (.str (style.spell b.key))) = [a] := by
  simp only [accepts_spell]
  cases a with
  | list l => cases l <;> decide
  | _ => decide

/-- No attribute is written as a mapping. -/
theorem add_write_ne_map (a : FieldAttr) (v : a.Value) (es : Entries) : a.add none (a.write v) ≠ some (.map es) := by
  cases a with
  | list l => exact fun h => by cases h
  | _ => exact fun h => by cases h

end FieldAttr

theorem FieldRule.under_written (style : KeyStyle) (f : FieldRule) (a : FieldAttr) :
    (Entries.ofStrings (f.toEntries style)).under a.accepts = [a.write (a.get f)] := by
  rw [toEntries_eq, Entries.under_ofStrings_map, FieldAttr.filter_accepts]
  rfl

theorem Slot.accepts_spell (style : KeyStyle) (s t : Slot) :
    s.accepts (.str (style.spell t.snakeKey)) = decide (t = s) := by
  have ht : t.accepts (.str (style.spell t.snakeKey)) = true := by
    cases style with
    | snake => exact t.accepts_snakeKey
    | kebab => exact t.spell_snakeKey ▸ t.accepts_key
  rw [Bool.eq_iff_iff, decide_eq_true_iff]
  exact ⟨fun hs => eq_of_accepts ht hs, fun h => h ▸ ht⟩

theorem RuleSet.under_written (style : KeyStyle) (r : RuleSet) (s : Slot) :
    (Entries.ofStrings (r.toEntries style)).under s.accepts =
      [((r.field s).map (FieldRule.toDoc style)).getD .null] := by
  have hslots : (Slot.all.filter fun t => s.accepts (.str (style.spell t.snakeKey))) = [s] := by
    simp only [Slot.accepts_spell]
    cases s <;> decide
  have hcons : Entries.ofStrings (r.toEntries style) = (.str "root", (r.root.map Selector.toDoc).getD .null) ::
      Entries.ofStrings (Slot.all.map fun t =>
        (style.spell t.snakeKey, ((r.field t).map (FieldRule.toDoc style)).getD .null)) := rfl
  rw [hcons, Entries.under_cons, s.accepts_root, if_neg Bool.false_ne_true, Entries.under_ofStrings_map, hslots]
  rfl

namespace Normal

variable {es es' base : Entries} {f : FieldRule} {s : Slot} {a : FieldAttr}

/-- The field rule of a template in normal form gives each attribute as it is written. -/
theorem given_template (h : addEntries [] (Entries.ofStrings (f.toEntries .kebab)) = .ok base) (a : FieldAttr) :
    a.given base = a.add none (a.write (a.get f)) := by
  rw [given_addEntries h, FieldRule.under_written]
  rfl

theorem readGiven_template (hf : f.Sound) (h : addEntries [] (Entries.ofStrings (f.toEntries .kebab)) = .ok base)
    (a : FieldAttr) : a.readGiven (a.given base) = .ok (a.get f) := by
  rw [given_template h, FieldAttr.readGiven_add]
  exact hf.1 a

/-- What a slot of a template is in normal form. -/
inductive SlotForm : Option FieldRule → Doc → Prop
  | none : SlotForm none .null
  | some {f : FieldRule} {base : Entries} : addEntries [] (Entries.ofStrings (f.toEntries .kebab)) = .ok base →
      SlotForm (some f) (.map base)

theorem slotForm_of_field {f? : Option FieldRule} {d : Doc}
    (h : field ((f?.map (FieldRule.toDoc .kebab)).getD .null) = .ok d) : SlotForm f? d := by
  cases f? with
  | none =>
    cases h
    exact .none
  | some f =>
    obtain ⟨base, hbase, rfl⟩ := field_eq_ok_of_mapping? (d := f.toDoc .kebab) rfl h
    exact .some hbase

/-! ## Overlays in normal form -/

theorem get?_overlay_of_none (hd : es.Distinct) {k : String} (h : es.get? k = none) :
    Entries.get? (Doc.overlay base es) k = base.get? k := by
  rw [Doc.get?_overlay hd, h]
  rfl

theorem Folded.overlay (hb : Folded base) (h : Folded es) (hd : es.Distinct) : Folded (Doc.overlay base es) := by
  refine ⟨fun a k hk hne => ?_, fun l d hget => ?_⟩
  · rw [get?_overlay_of_none hd (h.only a k hk hne)]
    exact hb.only a k hk hne
  · rw [Doc.get?_overlay hd] at hget
    cases hl : es.get? l.key with
    | none =>
      rw [hl] at hget
      exact hb.list l d hget
    | some d' =>
      obtain ⟨ds, rfl⟩ := h.list l d' hl
      rw [hl] at hget
      exact ⟨ds, (Option.some.inj hget).symm⟩

/-- A value that is not empty takes the place of an old one that is no mapping. -/
theorem overlayValue_of_not_null {old : Option Doc} {d : Doc} (hold : ∀ m, old ≠ some (.map m))
    (hd : d.isNull = false) :
    Doc.overlayValue old d = some d := by
  cases d with
  | map es =>
    cases old with
    | none => rfl
    | some e =>
      cases e with
      | map m => exact (hold m rfl).elim
      | _ => rfl
  | list ds => rfl
  | scalar v =>
    cases v with
    | null => cases hd
    | _ => rfl

theorem add_ne_null {d : Doc} (hd : d.isNull = false) : ∃ d', a.add none d = some d' ∧ d'.isNull = false := by
  rcases a.isScalar_or with ha | ⟨l, rfl⟩
  · exact ⟨d, ha.add_eq none d, hd⟩
  · exact ⟨_, rfl, rfl⟩

/-- What a slot is read from once a mapping has been laid over a template: an attribute from the one value that the
mapping gives for it, or else from the template. -/
theorem readGiven_overlay {f? : Option FieldRule} {old : Doc} (hf : ∀ f, f? = some f → f.Sound) (hold : SlotForm f? old)
    (h : addEntries [] es = .ok es') : ∃ m, Doc.overlayValue (some old) (.map es') = some (.map m) ∧ ∀ a : FieldAttr,
      (es.under a.accepts = [] → a.readGiven (a.given m) = .ok (a.inherited f?)) ∧
      ∀ d, es.under a.accepts = [d] → d.isNull = false → a.readGiven (a.given m) = a.read d := by
  have hfolded := folded_nil.addEntries h
  have hdistinct := distinct_addEntries Entries.distinct_nil h
  cases hold with
  | none =>
    refine ⟨es', rfl, fun a => ⟨fun hnil => ?_, fun d hd _ => ?_⟩⟩
    · rw [given_addEntries h, hnil]
      rfl
    · rw [given_addEntries h, hd]
      exact a.readGiven_add d
  | @some f base hbase =>
    have hfb := folded_nil.addEntries hbase
    refine ⟨_, rfl, fun a => ?_⟩
    have hget : es'.get? a.key = (es.under a.accepts).foldl a.add none := get?_addEntries h a
    have hkey : base.get? a.key = a.add none (a.write (a.get f)) := (hfb.given_eq a).symm.trans (given_template hbase a)
    rw [(hfb.overlay hfolded hdistinct).given_eq, Doc.get?_overlay hdistinct, hget]
    refine ⟨fun hnil => ?_, fun d hd hnull => ?_⟩
    · rw [hnil]
      change a.readGiven (base.get? a.key) = _
      rw [← hfb.given_eq]
      exact readGiven_template (hf f rfl) hbase a
    · obtain ⟨d', hd', hnull'⟩ := add_ne_null hnull
      rw [hd]
      change a.readGiven ((a.add none d).elim _ _) = _
      rw [hd', Option.elim_some, hkey, overlayValue_of_not_null (FieldAttr.add_write_ne_map a _) hnull', ← hd']
      exact a.readGiven_add d

/-! ## Rule documents -/

/-- The slots of a rule document as they are written: those under `fields`, or else the document itself. -/
def slotEntries (es : Entries) : Entries :=
  match es.get? fieldsKey with
  | some (.map inner) => inner
  | _ => es

theorem addSlots_of_slots (h : slots es = .ok es') : addSlots [] (slotEntries es) = .ok es' := by
  rw [slots] at h
  rw [slotEntries]
  split at h
  · rename_i hnone
    rwa [hnone]
  · rename_i inner hinner
    rwa [hinner]
  · cases h

theorem slots_of_slotEntries_eq_nil (h : slotEntries es = []) : slots es = .ok [] := by
  rw [slotEntries] at h
  rw [slots]
  split at h
  · rename_i inner hinner
    rw [hinner, h]
    rfl
  · subst h
    rfl

/-- A rule document that gives each slot, and in the mapping of a slot each attribute, under one key at most. -/
structure OneSpelling (es : Entries) : Prop where
  slots : ∀ s : Slot, (es.under s.accepts).length ≤ 1
  attributes : ∀ (s : Slot) (inner : Entries), .map inner ∈ es.under s.accepts →
    ∀ a : FieldAttr, (inner.under a.accepts).length ≤ 1

theorem eq_singleton_of_mem {ds : List Doc} {d : Doc} (hds : ds.length ≤ 1) (hd : d ∈ ds) : ds = [d] := by
  obtain ⟨e, rfl⟩ := List.length_eq_one_iff.mp (Nat.le_antisymm hds (List.length_pos_of_mem hd))
  rw [List.mem_singleton.mp hd]

end Normal

/-- What a rule document over a template makes of a slot, the document giving each slot and each attribute once at most:
`loaded` is the rule set that comes out. -/
structure Slot.Overlaid (s : Slot) (template loaded : RuleSet) (es : Entries) : Prop where
  absent : es.under s.accepts = [] → loaded.field s = template.field s
  empty : .null ∈ es.under s.accepts → loaded.field s = none
  shorthand : ∀ d ∈ es.under s.accepts, ((∃ e, d = .str e) ∨ ∃ ds, d = .list ds) → ∃ f, loaded.field s = some f ∧
    Decoded.listOf Selector.ofDoc d = .ok f.selectors ∧
    ∀ a : FieldAttr, a ≠ .name → a ≠ .list .selectors → a.get f = a.inherited (template.field s)
  mapping : ∀ inner : Entries, .map inner ∈ es.under s.accepts → ∃ f, loaded.field s = some f ∧
    ∀ a : FieldAttr, a ≠ .name →
      (∀ d ∈ inner.under a.accepts, d.isNull = false → a.read d = .ok (a.get f)) ∧
      (inner.under a.accepts = [] → a.get f = a.inherited (template.field s))

namespace Normal

variable {es es' base : Entries} {template loaded : RuleSet} {s : Slot}

/-- A template in normal form has every slot under its key. -/
theorem get?_template (h : addSlots [] (Entries.ofStrings (template.toEntries .kebab)) = .ok base) (s : Slot) :
    ∃ old, base.get? s.snakeKey = some old ∧ SlotForm (template.field s) old := by
  rcases get?_addSlots h s with ⟨d, old, hlast, hfield, hget⟩ | ⟨hnil, -⟩
  · rw [RuleSet.under_written] at hlast
    cases hlast
    exact ⟨old, hget, slotForm_of_field hfield⟩
  · rw [RuleSet.under_written] at hnil
    cases hnil

theorem exists_template (r : RuleSet) : ∃ base, addSlots [] (Entries.ofStrings (r.toEntries .kebab)) = .ok base := by
  have hfields : ∀ ps : List (String × Doc), ∀ e ∈ Entries.ofStrings ps, ∃ t, e.1 = .str t := by
    intro ps e he
    obtain ⟨p, -, rfl⟩ := List.mem_map.mp he
    exact ⟨p.1, rfl⟩
  refine exists_addSlots (hfields _) (fun s d hd inner hinner => ?_) []
  rw [RuleSet.under_written, List.mem_singleton] at hd
  subst hd
  cases hfield : r.field s with
  | none => simp [hfield, mapping?] at hinner
  | some f =>
    rw [hfield] at hinner
    cases hinner
    exact hfields (f.toEntries .kebab)

/-- The slot of a template in normal form is read as it is in the template. -/
theorem readSlot_template (ht : template.Sound) {old : Doc} (hold : SlotForm (template.field s) old) :
    Decoded.optional (fun d => FieldRule.ofDoc (RuleSet.named s d)) old = .ok (template.field s) := by
  cases hf : template.field s with
  | none =>
    rw [hf] at hold
    cases hold
    rfl
  | some f =>
    rw [hf] at hold
    cases hold with
    | some hbase =>
      have hsound := ht.field s f hf
      refine Decoded.optional_eq_ok.mpr (.inr ⟨rfl, f, RuleSet.ofDoc_named_map_eq_ok.mpr ?_, rfl⟩)
      exact ⟨ht.named s f hf, fun a _ => readGiven_template hsound hbase a, hsound.2⟩

/-- A template in normal form is read as it is. -/
theorem ofEntries_template (ht : template.Sound)
    (h : addSlots [] (Entries.ofStrings (template.toEntries .kebab)) = .ok base) :
    RuleSet.ofEntries base = .ok template := by
  refine RuleSet.ofEntries_eq_ok.mpr ⟨?_, fun s => ?_⟩
  · have hslots :
        (Slot.all.filter fun s => decide (Scalar.str (KeyStyle.kebab.spell s.snakeKey) = .str "root")) = [] := by
      rw [List.filter_eq_nil_iff]
      intro s _ hroot
      have haccepts := s.accepts_spell .kebab s
      rw [of_decide_eq_true hroot, s.accepts_root] at haccepts
      simp at haccepts
    have hroot : base.get? "root" = some ((template.root.map Selector.toDoc).getD .null) := by
      rw [get?_addSlots_of_not_slot Slot.accepts_root h]
      change (Entries.under _ ((.str "root", _) :: Entries.ofStrings (Slot.all.map _))).getLast?.or none = _
      rw [Entries.under_cons, if_pos (decide_eq_true rfl), Entries.under_ofStrings_map, hslots]
      rfl
    have hattr : base.attr? "root" = some ("root", (template.root.map Selector.toDoc).getD .null) := by
      rw [Entries.attr?, show KeyStyle.kebab.spell "root" = "root" from rfl, hroot]
    exact (Entries.attrOr_of_attr? hattr).mpr ht.read_root
  · obtain ⟨old, hget, hold⟩ := get?_template h s
    exact (slotsFolded_nil.addSlots h).readSlot_eq_ok.mpr (.inr ⟨old, hget, readSlot_template ht hold⟩)

/-- A slot is read from the slot of the template, or else from the normal form of what the document gives, laid
over it. -/
theorem readSlot_overlay (hbase : addSlots [] (Entries.ofStrings (template.toEntries .kebab)) = .ok base)
    (hes : addSlots [] es = .ok es') (hloaded : RuleSet.ofEntries (Doc.overlay base es') = .ok loaded) (s : Slot) :
    ∃ old, SlotForm (template.field s) old ∧
      ((es.under s.accepts = [] ∧
          Decoded.optional (fun d => FieldRule.ofDoc (RuleSet.named s d)) old = .ok (loaded.field s)) ∨
        ∃ d d', (es.under s.accepts).getLast? = some d ∧ field d = .ok d' ∧
          (Doc.overlayValue (some old) d').elim (.ok none)
            (Decoded.optional fun d => FieldRule.ofDoc (RuleSet.named s d)) = .ok (loaded.field s)) := by
  obtain ⟨old, hold, hform⟩ := get?_template hbase s
  have hdistinct := distinct_addSlots Entries.distinct_nil hes
  have hfolded : SlotsFolded (Doc.overlay base es') := by
    intro t ht
    rw [get?_overlay_of_none hdistinct (slotsFolded_nil.addSlots hes t ht)]
    exact slotsFolded_nil.addSlots hbase t ht
  have hread := hfolded.readSlot_eq_ok.mp ((RuleSet.ofEntries_eq_ok.mp hloaded).2 s)
  rw [Doc.get?_overlay hdistinct, hold] at hread
  refine ⟨old, hform, ?_⟩
  rcases get?_addSlots hes s with ⟨d, d', hlast, hfield, hget⟩ | ⟨hnil, hget⟩
  · refine .inr ⟨d, d', hlast, hfield, ?_⟩
    rw [hget, Option.elim_some] at hread
    rcases hread with ⟨hnone, hf⟩ | ⟨v, hv, hf⟩
    · rw [hnone, hf]
      rfl
    · rw [hv]
      exact hf
  · refine .inl ⟨hnil, ?_⟩
    rw [show es'.get? s.snakeKey = none from hget, Option.elim_none] at hread
    rcases hread with ⟨hnone, -⟩ | ⟨v, hv, hf⟩
    · cases hnone
    · cases hv
      exact hf

/-- A slot that the document gives as a mapping, or as selectors alone, is read attribute by attribute. -/
theorem exists_field_of_mapping? {old d d' : Doc} {inner : Entries} {f? g? : Option FieldRule}
    (hf : ∀ f, f? = some f → f.Sound) (hold : SlotForm f? old) (hinner : mapping? d = some inner)
    (hfield : field d = .ok d')
    (hread : (Doc.overlayValue (some old) d').elim (.ok none)
      (Decoded.optional fun d => FieldRule.ofDoc (RuleSet.named s d)) = .ok g?) :
    ∃ g, g? = some g ∧ ∀ a : FieldAttr, a ≠ .name →
      (inner.under a.accepts = [] → a.get g = a.inherited f?) ∧
      ∀ e, inner.under a.accepts = [e] → e.isNull = false → a.read e = .ok (a.get g) := by
  obtain ⟨es, hes, rfl⟩ := field_eq_ok_of_mapping? hinner hfield
  obtain ⟨m, hm, hattr⟩ := readGiven_overlay hf hold hes
  rw [hm, Option.elim_some] at hread
  rcases Decoded.optional_eq_ok.mp hread with ⟨hnull, -⟩ | ⟨-, g, hg, rfl⟩
  · cases hnull
  · obtain ⟨-, hg, -⟩ := RuleSet.ofDoc_named_map_eq_ok.mp hg
    refine ⟨g, rfl, fun a ha => ⟨fun hnil => ?_, fun e he hnull => ?_⟩⟩
    · exact (Decoded.ok.inj (((hattr a).1 hnil).symm.trans (hg a ha))).symm
    · rw [← (hattr a).2 e he hnull]
      exact hg a ha

/-- The selectors alone give the attribute of selectors and no other. -/
theorem under_selectors (a : FieldAttr) (d : Doc) :
    Entries.under a.accepts [(.str "selectors", d)] = if a = .list .selectors then [d] else [] := by
  have haccepts : a.accepts (.str "selectors") = decide (FieldAttr.list .selectors = a) :=
    a.accepts_spell .snake (.list .selectors)
  rw [Entries.under_cons, haccepts]
  by_cases ha : a = .list .selectors
  · rw [if_pos ha, if_pos (decide_eq_true ha.symm)]
    rfl
  · rw [if_neg ha, if_neg (mt of_decide_eq_true (Ne.symm ha))]
    rfl

theorem overlaid (ht : template.Sound)
    (hbase : addSlots [] (Entries.ofStrings (template.toEntries .kebab)) = .ok base)
    (hes : addSlots [] es = .ok es') (hone : OneSpelling es)
    (hloaded : RuleSet.ofEntries (Doc.overlay base es') = .ok loaded) (s : Slot) : s.Overlaid template loaded es := by
  obtain ⟨old, hold, hslot⟩ := readSlot_overlay hbase hes hloaded s
  have hsound := ht.field s
  have hgiven : ∀ d ∈ es.under s.accepts, ∃ d', field d = .ok d' ∧ (Doc.overlayValue (some old) d').elim (.ok none)
      (Decoded.optional fun d => FieldRule.ofDoc (RuleSet.named s d)) = .ok (loaded.field s) := by
    intro d hd
    have hsingle := eq_singleton_of_mem (hone.slots s) hd
    rcases hslot with ⟨hnil, -⟩ | ⟨e, d', hlast, hfield, hread⟩
    · rw [hnil] at hd
      cases hd
    · rw [hsingle] at hlast
      cases hlast
      exact ⟨d', hfield, hread⟩
  refine ⟨fun hnil => ?_, fun hnull => ?_, fun d hd hshort => ?_, fun inner hinner => ?_⟩
  · rcases hslot with ⟨-, hread⟩ | ⟨d, d', hlast, -, -⟩
    · exact Decoded.ok.inj (hread.symm.trans (readSlot_template ht hold))
    · rw [hnil] at hlast
      cases hlast
  · obtain ⟨d', hfield, hread⟩ := hgiven _ hnull
    cases hfield
    exact (Decoded.ok.inj hread).symm
  · obtain ⟨hmapping, hnull⟩ : mapping? d = some [(.str "selectors", d)] ∧ d.isNull = false := by
      obtain ⟨e, rfl⟩ | ⟨ds, rfl⟩ := hshort
      · exact ⟨rfl, rfl⟩
      · exact ⟨rfl, rfl⟩
    obtain ⟨d', hfield, hread⟩ := hgiven d hd
    obtain ⟨f, hf, hattr⟩ := exists_field_of_mapping? hsound hold hmapping hfield hread
    refine ⟨f, hf, ?_, fun a hname hsel => ?_⟩
    · refine (hattr (.list .selectors) (by simp)).2 d ?_ hnull
      rw [under_selectors, if_pos rfl]
    · refine (hattr a hname).1 ?_
      rw [under_selectors, if_neg hsel]
  · obtain ⟨d', hfield, hread⟩ := hgiven _ hinner
    obtain ⟨f, hf, hattr⟩ := exists_field_of_mapping? hsound hold rfl hfield hread
    refine ⟨f, hf, fun a hname => ⟨fun d hd hnull => ?_, (hattr a hname).1⟩⟩
    exact (hattr a hname).2 d (eq_singleton_of_mem (hone.attributes s inner hinner a) hd) hnull

end Normal

namespace Load

open Excerpt.Normal (OneSpelling slotEntries)

theorem ruleSetOf_eq_ok {template loaded : RuleSet} {es : Entries}
    (h : ruleSetOf (template.toDoc .kebab).entries? es = .ok loaded) : ∃ base es',
      Normal.addSlots [] (Entries.ofStrings (template.toEntries .kebab)) = .ok base ∧
      Normal.addSlots [] (slotEntries es) = .ok es' ∧ RuleSet.ofEntries (Doc.overlay base es') = .ok loaded := by
  obtain ⟨slots, hslots, hread⟩ := Normal.bind_eq_ok.mp h
  obtain ⟨es', hes', hrest⟩ := Normal.bind_eq_ok.mp hslots
  obtain ⟨base, hbase, hoverlay⟩ := Normal.bind_eq_ok.mp hrest
  cases hoverlay
  exact ⟨base, es', Normal.addSlots_of_slots hbase, Normal.addSlots_of_slots hes', Schema.read_eq_ok.mp hread⟩

/-- A document without slots leaves the template as it is. -/
theorem ruleSetOf_nil {template : RuleSet} (ht : template.Sound) {es : Entries} (h : slotEntries es = []) :
    ruleSetOf (template.toDoc .kebab).entries? es = .ok template := by
  obtain ⟨base, hbase⟩ := Normal.exists_template template
  have hslots : Normal.overTemplate (Entries.ofStrings (template.toEntries .kebab)) es = .ok base := by
    have hempty : Doc.overlay base [] = base := by rw [Doc.overlay]
    refine Normal.bind_eq_ok.mpr ⟨[], Normal.slots_of_slotEntries_eq_nil h, ?_⟩
    exact Normal.bind_eq_ok.mpr ⟨base, hbase, congrArg Except.ok hempty⟩
  exact Normal.bind_eq_ok.mpr ⟨base, hslots, Schema.read_eq_ok.mpr (Normal.ofEntries_template ht hbase)⟩

/-- **A rule document over a template.** When a document that gives each slot and each attribute under one key at most
is loaded over a template, then a slot that it does not give is the one of the template; an empty slot has no rule; a
slot given as selectors has just these, and a slot given as a mapping has the attributes that the mapping gives, under
whatever key; the attributes that are not given are those of the template, or else the defaults. A document without
slots can be loaded and gives the template. -/
theorem ruleSet_over_template {template : RuleSet} (h : RuleSet.schema.Made template) (files : Files) (name : String) :
    (∀ es loaded, document files name = .ok es → OneSpelling (slotEntries es) →
      ruleSet files name (template.toDoc .kebab).entries? = .ok loaded →
      ∀ s : Slot, s.Overlaid template loaded (slotEntries es)) ∧
    ∀ es, document files name = .ok es → slotEntries es = [] →
      ruleSet files name (template.toDoc .kebab).entries? = .ok template := by
  have hsound := RuleSet.Built.sound h.exists_ofDoc
  refine ⟨fun es loaded hes hone hloaded s => ?_, fun es hes hnil => ?_⟩
  · obtain ⟨es₁, hes₁, hloaded⟩ := Normal.bind_eq_ok.mp hloaded
    rw [hes] at hes₁
    cases hes₁
    obtain ⟨base, es', hbase, hes', hread⟩ := ruleSetOf_eq_ok hloaded
    exact Normal.overlaid hsound hbase hes' hone hread s
  · exact Normal.bind_eq_ok.mpr ⟨es, hes, ruleSetOf_nil hsound hnil⟩

/-- A field rule for titles that have dates. -/
def datedTitle (patterns : List String) : FieldRule where
  name := "title"
  selectors := [⟨"og:title", .metadata, .text, none, none, none, [], none, false⟩]
  extractors := []
  textCase := .none
  datePatterns := patterns
  filters := []
  conditions := []
  basePath := ""
  removeParameters := true
  trailingSlash := false
  optional := false

/-- A rule set for such titles and nothing else. -/
def datedTitles (patterns : List String) : RuleSet :=
  ⟨none, fun s => if s = .title then some (datedTitle patterns) else none⟩

theorem sound_datedTitle (patterns : List String) : (datedTitle patterns).Sound := by
  have hpatterns : Decoded.items Decoded.string (patterns.map .str) = .ok patterns := by
    refine Decoded.items_eq_ok.mpr ?_
    induction patterns with
    | nil => exact .nil
    | cons p ps ih => exact .cons rfl ih
  refine ⟨fun a => ?_, fun h => (List.cons_ne_nil _ _ h).elim⟩
  cases a with
  | list l =>
    cases l with
    | datePatterns => exact hpatterns
    | _ => rfl
  | textCase => exact TextCase.none.read_name
  | _ => rfl

theorem sound_datedTitles (patterns : List String) : (datedTitles patterns).Sound := by
  have hfield : ∀ s f, (datedTitles patterns).field s = some f → s = .title ∧ datedTitle patterns = f := by
    intro s f hf
    change (if s = .title then some (datedTitle patterns) else none) = some f at hf
    split at hf
    · rename_i hs
      exact ⟨hs, Option.some.inj hf⟩
    · cases hf
  refine ⟨fun s hs => (by cases hs), fun s f hf => ?_, fun s f hf => ?_⟩
  · exact (hfield s f hf).2 ▸ sound_datedTitle patterns
  · obtain ⟨rfl, rfl⟩ := hfield s f hf
    rfl

/-- A document that gives the date patterns of one slot replaces them, and leaves the selector of the template. -/
theorem ruleSet_over_dated_titles :
    let d : Doc := .ofFields [("title", .ofFields [("date-pattern", .str "%d")])]
    let files : Files := fun _ => some (String.ofList (Json.render d)).toUTF8.toList
    ∃ es, RuleSet.schema.Made (datedTitles ["%Y", "%m"]) ∧ document files "r.json" = .ok es ∧
      OneSpelling (slotEntries es) ∧
      ruleSet files "r.json" ((datedTitles ["%Y", "%m"]).toDoc .kebab).entries? = .ok (datedTitles ["%d"]) ∧
      ∀ s : Slot, s.Overlaid (datedTitles ["%Y", "%m"]) (datedTitles ["%d"]) (slotEntries es) := by
  intro d files
  have hmade : RuleSet.schema.Made (datedTitles ["%Y", "%m"]) := by
    refine .read (d := (datedTitles ["%Y", "%m"]).toDoc .kebab) (Schema.read_eq_ok.mpr ?_)
    exact (sound_datedTitles _).ofDoc_toDoc .kebab
  have hdocument : document files "r.json" = .ok [(.str "title", .ofFields [("date-pattern", .str "%d")])] := by
    have hjson : isJson "r.json" = true := by decide +kernel
    have hbytes : Utf8.decode? (String.ofList (Json.render d)).toUTF8.toList = some (Json.render d) := by decide +kernel
    have hparse : Json.parse? (Json.render d) = some d :=
      Json.parse?_render (.fields (by simp) (by simpa using .fields (by simp) (by simpa using .str _)))
    simp only [document, files, hbytes, parse, hjson, if_true, hparse]
    rfl
  have hone : OneSpelling [(.str "title", .ofFields [("date-pattern", .str "%d")])] := by
    refine ⟨fun s => ?_, fun s inner hinner a => ?_⟩
    · exact (List.length_map _).symm ▸ List.length_filter_le _ _
    · obtain ⟨e, he, hmap⟩ := List.mem_map.mp hinner
      rw [List.mem_singleton.mp (List.mem_filter.mp he).1] at hmap
      cases hmap
      exact (List.length_map _).symm ▸ List.length_filter_le _ _
  have hloaded : ruleSet files "r.json" ((datedTitles ["%Y", "%m"]).toDoc .kebab).entries? =
      .ok (datedTitles ["%d"]) := by
    refine Normal.bind_eq_ok.mpr ⟨_, hdocument, ?_⟩
    refine Normal.bind_eq_ok.mpr ⟨Entries.ofStrings ((datedTitles ["%d"]).toEntries .snake), rfl, ?_⟩
    exact Schema.read_eq_ok.mpr ((sound_datedTitles _).ofDoc_toDoc .snake)
  exact ⟨_, hmade, hdocument, hone, hloaded,
    (ruleSet_over_template hmade files "r.json").1 _ _ hdocument hone hloaded⟩

end Load

end Excerpt
