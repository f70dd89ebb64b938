import Excerpt.Proofs.Rule.Normalized
import Excerpt.Proofs.Rule.Replaced

/-!
# Short forms of field rules

The selectors of a slot may be given in a short form (`ShortForm`), which stands in a rule document alone or under a key
and is read from there as it is, or after the document has been brought into normal form, or is made a field rule before
(`ShortForm.Route`).

Every reader unfolds a part of this by itself, but the mapping that each of them comes to gives the slot the items of
the short form for selectors and nothing else (`FieldRule.GivesOnlySelectors`). This determines the field rule
(`FieldRule.ofDoc_named_eq_ok_of_gives`), so that all routes lead to one rule set (`ShortForm.build_eq_ok`).
-/

namespace Excerpt

open Doc (Entries)

/-! ## Field rules with selectors only -/

namespace FieldRule

variable {f g : FieldRule} {es : Entries} {ds : List Doc} {s : Slot} {name : String} {ss : List Selector}

theorem ext_get (h : ∀ a : FieldAttr, a.get f = a.get g) : f = g := by
  have hlist : ∀ l : ListAttr, FieldAttr.get f (.list l) = FieldAttr.get g (.list l) := fun l => h (.list l)
  obtain ⟨fn, fs, fx, fc, fd, ff, fk, fb, fr, ft, fo⟩ := f
  obtain ⟨gn, gs, gx, gc, gd, gf, gk, gb, gr, gt, go⟩ := g
  obtain rfl : fn = gn := h .name
  obtain rfl : fs = gs := hlist .selectors
  obtain rfl : fx = gx := hlist .extractors
  obtain rfl : fc = gc := h .textCase
  obtain rfl : fd = gd := hlist .datePatterns
  obtain rfl : ff = gf := hlist .filters
  obtain rfl : fk = gk := hlist .conditions
  obtain rfl : fb = gb := h .basePath
  obtain rfl : fr = gr := h .removeParameters
  obtain rfl : ft = gt := h .trailingSlash
  obtain rfl : fo = go := h .optional
  rfl

/-- The field rule with a name and selectors that has the defaults besides. -/
def ofSelectors (name : String) (ss : List Selector) : FieldRule where
  name := name
  selectors := ss
  extractors := []
  textCase := .none
  datePatterns := []
  filters := []
  conditions := []
  basePath := ""
  removeParameters := true
  trailingSlash := false
  optional := false

theorem get_ofSelectors {a : FieldAttr} (hname : a ≠ .name) (hlist : a ≠ .list .selectors) :
    a.get (ofSelectors name ss) = a.default := by
  cases a with
  | name => exact (hname rfl).elim
  | list l =>
    cases l with
    | selectors => exact (hlist rfl).elim
    | _ => rfl
  | _ => rfl

/-- Documents that are read as selectors, at least one. -/
def ReadAs (ds : List Doc) (ss : List Selector) : Prop :=
  ss ≠ [] ∧ List.Forall₂ (fun d s => Selector.ofDoc d = .ok s) ds ss

/-- A mapping that gives a field rule documents for selectors, and nothing else. -/
structure GivesOnlySelectors (es : Entries) (ds : List Doc) : Prop where
  selectors : FieldAttr.given es (.list .selectors) = some (.list ds)
  others : ∀ a : FieldAttr, a ≠ .list .selectors → a.given es = none

theorem merged?_selectors {k : String} (hk : k ∈ ListAttr.selectors.keys) (d : Doc) :
    Entries.merged? [(.str k, d)] ListAttr.selectors.keys = some d.toItems := by
  rcases List.mem_pair.mp hk with rfl | rfl
  · change some (d.toItems ++ ([] ++ [])) = _
    rw [List.append_nil, List.append_nil]
  · change some ([] ++ (d.toItems ++ [])) = _
    rw [List.append_nil, List.nil_append]

/-- Any key of the selectors will do. -/
theorem givesOnlySelectors {k : String} (hk : k ∈ ListAttr.selectors.keys) (d : Doc) :
    GivesOnlySelectors [(.str k, d)] d.toItems := by
  refine ⟨congrArg (Option.map Doc.list) (merged?_selectors hk d), fun a ha => ?_⟩
  have hnone : ∀ key ∈ a.spellings, key ∉ ListAttr.selectors.keys := by
    cases a with
    | list l =>
      have hl : l ≠ .selectors := fun h => ha (h ▸ rfl)
      exact fun key hkey hsel => (ListAttr.not_mem_keys hl.symm key hkey).1 hsel
    | _ => decide
  have hempty : a.given [] = none := by
    cases a with
    | list l => cases l <;> rfl
    | _ => rfl
  rw [← hempty]
  refine FieldAttr.given_congr fun key hkey => ?_
  have hne : ¬ Scalar.str k = .str key := fun h => hnone key hkey (Scalar.str.inj h ▸ hk)
  rw [Entries.get?_cons, if_neg hne]

/-- The selectors of a short form stand in their merged place already. -/
theorem mergeLists_shorthand (d : Doc) : mergeLists (shorthand d) = shorthand d := by
  have hgives : GivesOnlySelectors (shorthand d) d.toItems := givesOnlySelectors (by decide) (.list d.toItems)
  have hselectors : mergeList (shorthand d) .selectors = shorthand d := by
    have hmerged : Entries.merged? (shorthand d) ListAttr.selectors.keys = some d.toItems :=
      merged?_selectors (by decide) (.list d.toItems)
    rw [mergeList, hmerged]
    rfl
  have hothers : ∀ a : ListAttr, a ≠ .selectors → mergeList (shorthand d) a = shorthand d := by
    intro a ha
    have hmerged : Entries.merged? (shorthand d) a.keys = none :=
      Option.map_eq_none_iff.mp (hgives.others (.list a) fun h => ha (FieldAttr.list.inj h))
    rw [mergeList, hmerged]
  rw [mergeLists, ListAttr.all]
  simp only [List.foldl_cons, List.foldl_nil]
  rw [hselectors, hothers .extractors (by decide), hothers .datePatterns (by decide), hothers .filters (by decide),
    hothers .conditions (by decide)]

/-- The attributes that such a mapping is read as, the name apart. -/
theorem GivesOnlySelectors.forall_readGiven (h : GivesOnlySelectors es ds) :
    ((∀ a : FieldAttr, a ≠ .name → a.readGiven (a.given es) = .ok (a.get f)) ∧ (f.selectors = [] → f.optional = true)) ↔
      ∃ ss, ReadAs ds ss ∧ f = ofSelectors f.name ss := by
  have hsel : FieldAttr.readGiven (.list .selectors) (FieldAttr.given es (.list .selectors)) =
      Decoded.items Selector.ofDoc ds := by
    rw [h.selectors]
    rfl
  constructor
  · rintro ⟨hattr, hempty⟩
    have hothers : ∀ a : FieldAttr, a ≠ .name → a ≠ .list .selectors → a.get f = a.default := by
      intro a hname hlist
      have hread := hattr a hname
      rw [h.others a hlist] at hread
      exact (Decoded.ok.inj hread).symm
    have hread := hattr (.list .selectors) (by decide)
    rw [hsel] at hread
    refine ⟨f.selectors, ⟨fun hnil => ?_, Decoded.items_eq_ok.mp hread⟩, ext_get fun a => ?_⟩
    · -- no selectors at all are refused: nothing says that the field may do without
      have hoptional : f.optional = false := hothers .optional (by decide) (by decide)
      exact Bool.false_ne_true (hoptional.symm.trans (hempty hnil))
    · by_cases hname : a = .name
      · rw [hname]
        rfl
      · by_cases hlist : a = .list .selectors
        · rw [hlist]
          rfl
        · rw [hothers a hname hlist, get_ofSelectors hname hlist]
  · rintro ⟨ss, ⟨hne, hread⟩, hf⟩
    rw [hf]
    refine ⟨fun a hname => ?_, fun hnil => (hne hnil).elim⟩
    by_cases hlist : a = .list .selectors
    · rw [hlist, hsel]
      exact Decoded.items_eq_ok.mpr hread
    · rw [h.others a hlist, get_ofSelectors hname hlist]
      rfl

/-- What a slot is read as from a mapping that gives selectors only. -/
theorem ofDoc_named_eq_ok_of_gives (h : GivesOnlySelectors es ds) : ofDoc (RuleSet.named s (.map es)) = .ok f ↔
    ∃ ss, ReadAs ds ss ∧ f = ofSelectors s.key ss := by
  rw [RuleSet.ofDoc_named_map_eq_ok, h.forall_readGiven]
  constructor
  · rintro ⟨hname, ss, hss, hf⟩
    exact ⟨ss, hss, hname ▸ hf⟩
  · rintro ⟨ss, hss, rfl⟩
    exact ⟨rfl, ss, hss, rfl⟩

/-- What a field rule is read as from such a mapping. It has no name then. -/
theorem ofDoc_eq_ok_of_gives (h : GivesOnlySelectors es ds) : ofDoc (.map es) = .ok f ↔
    ∃ ss, ReadAs ds ss ∧ f = ofSelectors "" ss := by
  have hname : FieldAttr.readGiven .name (FieldAttr.given es .name) = .ok f.name ↔ f.name = "" := by
    rw [h.others .name (by decide)]
    exact ⟨fun hn => (Decoded.ok.inj hn).symm, fun hn => congrArg Decoded.ok hn.symm⟩
  have hsplit : (∀ a : FieldAttr, a.readGiven (a.given es) = .ok (a.get f)) ↔ f.name = "" ∧
      ∀ a : FieldAttr, a ≠ .name → a.readGiven (a.given es) = .ok (a.get f) := by
    rw [← hname]
    refine ⟨fun hall => ⟨hall .name, fun a _ => hall a⟩, fun hall a => ?_⟩
    by_cases ha : a = .name
    · exact ha ▸ hall.1
    · exact hall.2 a ha
  rw [ofDoc_map_eq_ok, hsplit, and_assoc, h.forall_readGiven]
  constructor
  · rintro ⟨hname, ss, hss, hf⟩
    exact ⟨ss, hss, hname ▸ hf⟩
  · rintro ⟨ss, hss, rfl⟩
    exact ⟨rfl, ss, hss, rfl⟩

/-- A field rule that has been built is taken into a slot as it is, under the name of the slot. -/
theorem Sound.ofDoc_named_eq_ok (hf : f.Sound) : ofDoc (RuleSet.named s (f.toDoc .snake)) = .ok g ↔
    g = { f with name := s.key } := by
  have hread : ∀ a : FieldAttr, a.readGiven (a.given (Entries.ofStrings (f.toEntries .snake))) = .ok (a.get f) := by
    intro a
    rw [given_written]
    exact hf.1 a
  have hrenamed : ofDoc (RuleSet.named s (f.toDoc .snake)) = .ok { f with name := s.key } := by
    refine RuleSet.ofDoc_named_map_eq_ok.mpr ⟨rfl, fun a ha => (hread a).trans (congrArg Decoded.ok ?_), hf.2⟩
    cases a with
    | name => exact (ha rfl).elim
    | list l => cases l <;> rfl
    | _ => rfl
  rw [hrenamed]
  exact ⟨fun h => (Decoded.ok.inj h).symm, fun h => congrArg Decoded.ok h.symm⟩

end FieldRule

/-! ## Rule sets of one slot -/

namespace RuleSet

variable {s : Slot} {style : KeyStyle} {r : RuleSet}

/-- The rule set with a field rule for one slot and nothing else. -/
def single (s : Slot) (f : FieldRule) : RuleSet :=
  ⟨none, fun t => if t = s then some f else none⟩

theorem eq_single_iff {f : FieldRule} : r = single s f ↔
    r.field s = some f ∧ ∀ m : Member, m ≠ .slot s → m.get r = none := by
  constructor
  · rintro rfl
    refine ⟨if_pos rfl, ?_⟩
    rintro (_ | t) hm
    · rfl
    · exact if_neg fun h => hm (congrArg Member.slot h)
  · rintro ⟨hs, hothers⟩
    obtain ⟨root, field⟩ := r
    have hroot : root = none := hothers .root (by simp)
    refine hroot ▸ congrArg (RuleSet.mk none) (funext fun t => ?_)
    by_cases ht : t = s
    · rw [ht, if_pos rfl]
      exact hs
    · rw [if_neg ht]
      exact hothers (.slot t) fun h => ht (Member.slot.inj h)

/-- A rule set is read from a document of one slot as the field rule of the slot is. -/
theorem read_slot_eq_ok {v : Given} (hv : v.toDoc.isNull = false) :
    schema.read (.map (Given.entries [(.str (style.spell s.snakeKey), v)])) = .ok r ↔
      ∃ f, FieldRule.ofDoc (named s v.toDoc) = .ok f ∧ r = single s f := by
  let c : Change := ⟨.slot s, style, v⟩
  have hothers : ∀ m : Member, m ≠ .slot s → m.given (Given.entries [c.entry]) = .null := by
    intro m hm
    rw [c.given_entry]
    exact if_neg hm.symm
  have hslot : (Member.slot s).given (Given.entries [c.entry]) = v.toDoc := by
    rw [c.given_entry]
    exact if_pos rfl
  have hread : (Member.slot s).read v.toDoc = .ok (r.field s) ↔
      ∃ f, FieldRule.ofDoc (named s v.toDoc) = .ok f ∧ r.field s = some f := by
    change Decoded.optional (fun d => FieldRule.ofDoc (named s d)) v.toDoc = .ok (r.field s) ↔ _
    rw [Decoded.optional_eq_ok]
    simp [hv]
  change schema.read (.map (Given.entries [c.entry])) = .ok r ↔ _
  rw [Schema.read_eq_ok]
  change ofDoc (.map (Given.entries [c.entry])) = .ok r ↔ _
  rw [ofDoc_map_eq_ok]
  simp only [eq_single_iff]
  constructor
  · intro h
    have hs := h (.slot s)
    rw [hslot] at hs
    obtain ⟨f, hf, hfield⟩ := hread.mp hs
    refine ⟨f, hf, hfield, fun m hm => ?_⟩
    have hm' := h m
    rw [hothers m hm, m.read_null] at hm'
    exact (Decoded.ok.inj hm').symm
  · rintro ⟨f, hf, hfield, hnone⟩ m
    by_cases hm : m = .slot s
    · subst hm
      rw [hslot]
      exact hread.mpr ⟨f, hf, hfield⟩
    · rw [hothers m hm, m.read_null, hnone m hm]

end RuleSet

/-! ## Short forms -/

/-- A selector in a list: its expression, or a mapping. -/
inductive SelectorForm where
  | expr (w : String)
  | mapping (es : Entries)

namespace SelectorForm

/-- What stands in the list. -/
def toDoc : SelectorForm → Doc
  | .expr w => .str w
  | .mapping es => .map es

/-- The form with its expression in a mapping. -/
def spelledOut : SelectorForm → SelectorForm
  | .expr w => .mapping [(.str "expr", .str w)]
  | .mapping es => .mapping es

theorem ofDoc_spelledOut (x : SelectorForm) : Selector.ofDoc x.spelledOut.toDoc = Selector.ofDoc x.toDoc := by
  cases x <;> rfl

end SelectorForm

/-- The short forms of the selectors of a slot: an expression, or a list. -/
inductive ShortForm where
  | expr (w : String)
  | list (xs : List SelectorForm)

namespace ShortForm

/-- The selectors one by one. -/
def items : ShortForm → List SelectorForm
  | .expr w => [.expr w]
  | .list xs => xs

/-- What stands for the selectors. -/
def toDoc : ShortForm → Doc
  | .expr w => .str w
  | .list xs => .list (xs.map SelectorForm.toDoc)

/-- The list of the items with their expressions in mappings. -/
def spelledOut (v : ShortForm) : ShortForm :=
  .list (v.items.map SelectorForm.spelledOut)

/-- The form itself, or spelled out. -/
def variant (v : ShortForm) (spelled : Bool) : ShortForm :=
  if spelled then v.spelledOut else v

theorem toItems_toDoc (v : ShortForm) : v.toDoc.toItems = v.items.map SelectorForm.toDoc := by
  cases v <;> rfl

/-- Where the selectors of a slot stand: in the place of its mapping, or under a key of it. -/
inductive Place where
  | alone
  | singular
  | plural

/-- What stands for the slot. -/
def Place.put : Place → Doc → Doc
  | .alone, d => d
  | .singular, d => .ofFields [("selector", d)]
  | .plural, d => .ofFields [("selectors", d)]

/-- A document of a slot with a short form in some place, spelled out or not. -/
def written (p : Place) (spelled : Bool) (v : ShortForm) : Doc :=
  p.put (v.variant spelled).toDoc

/-- The routes from a short form to a rule set, with the key of the slot in a style. -/
inductive Route where
  | direct (style : KeyStyle) (p : Place) (spelled : Bool)
  | normalized (style : KeyStyle) (p : Place) (spelled : Bool)
  | prebuilt (style : KeyStyle)

/-- The rule set that a route leads to. -/
def build (s : Slot) (v : ShortForm) : Route → Except LoadError RuleSet
  | .direct style p spelled =>
    RuleSet.schema.read (.map (Given.entries [(.str (style.spell s.snakeKey), .doc (written p spelled v))]))
  | .normalized style p spelled => do
    let slots ← Normal.slots (Given.entries [(.str (style.spell s.snakeKey), .doc (written p spelled v))])
    RuleSet.schema.read (.map slots)
  | .prebuilt style => do
    let f ← FieldRule.schema.read v.toDoc
    RuleSet.schema.read (.map (Given.entries [(.str (style.spell s.snakeKey), .field f)]))

variable {s : Slot} {v : ShortForm} {p : Place} {f : FieldRule} {r : RuleSet} {ss : List Selector} {style : KeyStyle}
  {spelled : Bool}

/-! ## One step of a route -/

/-- Spelling expressions out does not change the selectors. -/
theorem readAs_spelledOut : FieldRule.ReadAs v.spelledOut.toDoc.toItems ss ↔ FieldRule.ReadAs v.toDoc.toItems ss := by
  rw [FieldRule.ReadAs, FieldRule.ReadAs, toItems_toDoc, toItems_toDoc, spelledOut, items, List.map_map,
    List.forall₂_map_left_iff, List.forall₂_map_left_iff]
  simp only [Function.comp_apply, SelectorForm.ofDoc_spelledOut]

theorem readAs_variant : FieldRule.ReadAs (v.variant spelled).toDoc.toItems ss ↔
    FieldRule.ReadAs v.toDoc.toItems ss := by
  cases spelled with
  | true => exact readAs_spelledOut
  | false => exact Iff.rfl

/-- In every place the short form gives its items for selectors. -/
theorem exists_gives (s : Slot) (p : Place) (v : ShortForm) : ∃ es,
    RuleSet.named s (p.put v.toDoc) = RuleSet.named s (.map es) ∧ FieldRule.GivesOnlySelectors es v.toDoc.toItems := by
  cases p with
  | alone =>
    refine ⟨FieldRule.shorthand v.toDoc, ?_, FieldRule.givesOnlySelectors (by decide) (.list v.toDoc.toItems)⟩
    cases v <;> rfl
  | singular => exact ⟨_, rfl, FieldRule.givesOnlySelectors (by decide) v.toDoc⟩
  | plural => exact ⟨_, rfl, FieldRule.givesOnlySelectors (by decide) v.toDoc⟩

/-- The normal form is the same for all places. -/
theorem field_put (p : Place) (v : ShortForm) :
    Normal.field (p.put v.toDoc) = .ok (.map (FieldRule.shorthand v.toDoc)) := by
  cases p with
  | alone => cases v <;> rfl
  | singular => rfl
  | plural => rfl

theorem ofKey?_spell (style : KeyStyle) (s : Slot) : Slot.ofKey? (style.spell s.snakeKey) = some s := by
  cases style <;> cases s <;> decide +kernel

/-- The normal form of a document of one slot. -/
theorem slots_slot {d d' : Doc} (hd : Normal.field d = .ok d') :
    Normal.slots [(.str (style.spell s.snakeKey), d)] = .ok [(.str s.snakeKey, d')] := by
  have hkey : style.spell s.snakeKey ≠ Normal.fieldsKey := by
    cases style <;> cases s <;> decide +kernel
  have hfields : Entries.get? [(.str (style.spell s.snakeKey), d)] Normal.fieldsKey = none := by
    rw [Entries.get?_cons, if_neg fun h => hkey (Scalar.str.inj h)]
    rfl
  rw [Normal.slots, hfields]
  change Normal.addSlots [] [(.str (style.spell s.snakeKey), d)] = _
  rw [Normal.addSlots, Normal.addSlot, ofKey?_spell, hd]
  rfl

/-! ## Routes -/

/-- The rule set of the selectors that the items of a short form are read as. -/
def Means (v : ShortForm) (s : Slot) (r : RuleSet) : Prop :=
  ∃ ss, FieldRule.ReadAs v.toDoc.toItems ss ∧ r = .single s (.ofSelectors s.key ss)

/-- The rule set of a slot whose mapping gives the items of the short form, spelled out or not. -/
theorem exists_single_iff {es : Entries}
    (h : FieldRule.GivesOnlySelectors es (v.variant spelled).toDoc.toItems) :
    (∃ f, FieldRule.ofDoc (RuleSet.named s (.map es)) = .ok f ∧ r = .single s f) ↔ v.Means s r := by
  simp only [FieldRule.ofDoc_named_eq_ok_of_gives h, readAs_variant, Means]
  constructor
  · rintro ⟨_, ⟨ss, hss, rfl⟩, hr⟩
    exact ⟨ss, hss, hr⟩
  · rintro ⟨ss, hss, hr⟩
    exact ⟨_, ⟨ss, hss, rfl⟩, hr⟩

theorem isNull_written (p : Place) (spelled : Bool) (v : ShortForm) : (written p spelled v).isNull = false := by
  cases p with
  | alone => cases spelled <;> cases v <;> rfl
  | singular => rfl
  | plural => rfl

theorem build_direct : build s v (.direct style p spelled) = .ok r ↔ v.Means s r := by
  obtain ⟨es, hes, hgives⟩ := exists_gives s p (v.variant spelled)
  refine (RuleSet.read_slot_eq_ok (v := .doc (written p spelled v)) (isNull_written p spelled v)).trans ?_
  change (∃ f, FieldRule.ofDoc (RuleSet.named s (p.put (v.variant spelled).toDoc)) = _ ∧ _) ↔ _
  rw [hes]
  exact exists_single_iff hgives

/-- In normal form the items stand under the plural key, and the slot under its snake-case key. -/
theorem build_normalized : build s v (.normalized style p spelled) = .ok r ↔ v.Means s r := by
  let es := FieldRule.shorthand (v.variant spelled).toDoc
  have hslots : Normal.slots (Given.entries [(.str (style.spell s.snakeKey), .doc (written p spelled v))]) =
      .ok (Given.entries [(.str (KeyStyle.snake.spell s.snakeKey), .doc (.map es))]) :=
    slots_slot (field_put p (v.variant spelled))
  have hbuild : build s v (.normalized style p spelled) =
      RuleSet.schema.read (.map (Given.entries [(.str (KeyStyle.snake.spell s.snakeKey), .doc (.map es))])) := by
    rw [build, hslots]
    rfl
  rw [hbuild, RuleSet.read_slot_eq_ok (v := .doc (.map es)) rfl]
  exact exists_single_iff (FieldRule.givesOnlySelectors (by decide) (.list _))

/-- The field rule of a short form: it has no name before it stands in a slot. -/
theorem ofDoc_toDoc (v : ShortForm) : FieldRule.ofDoc v.toDoc = .ok f ↔
    ∃ ss, FieldRule.ReadAs v.toDoc.toItems ss ∧ f = .ofSelectors "" ss := by
  have hmap : FieldRule.ofDoc v.toDoc = FieldRule.ofDoc (.map (FieldRule.shorthand v.toDoc)) := by
    rw [FieldRule.ofDoc, FieldRule.mergeLists_shorthand]
    cases v <;> rfl
  rw [hmap]
  exact FieldRule.ofDoc_eq_ok_of_gives (FieldRule.givesOnlySelectors (by decide) (.list v.toDoc.toItems))

theorem build_prebuilt : build s v (.prebuilt style) = .ok r ↔ v.Means s r := by
  have hslot : ∀ f : FieldRule, f.Sound →
      (RuleSet.schema.read (.map (Given.entries [(.str (style.spell s.snakeKey), .field f)])) = .ok r ↔
        r = .single s { f with name := s.key }) := by
    intro f hf
    rw [RuleSet.read_slot_eq_ok (v := .field f) rfl]
    change (∃ g, FieldRule.ofDoc (RuleSet.named s (f.toDoc .snake)) = _ ∧ _) ↔ _
    simp only [hf.ofDoc_named_eq_ok, exists_eq_left]
  rw [build, Normal.bind_eq_ok]
  simp only [Schema.read_eq_ok (s := FieldRule.schema)]
  change (∃ f, FieldRule.ofDoc v.toDoc = .ok f ∧ _) ↔ _
  constructor
  · rintro ⟨f, hf, hr⟩
    rw [hslot f (FieldRule.sound_of_ofDoc hf)] at hr
    obtain ⟨ss, hss, rfl⟩ := v.ofDoc_toDoc.mp hf
    exact ⟨ss, hss, hr⟩
  · rintro ⟨ss, hss, hr⟩
    have hf : FieldRule.ofDoc v.toDoc = .ok (.ofSelectors "" ss) := v.ofDoc_toDoc.mpr ⟨ss, hss, rfl⟩
    exact ⟨_, hf, (hslot _ (FieldRule.sound_of_ofDoc hf)).mpr hr⟩

theorem build_eq_ok (w : Route) : build s v w = .ok r ↔ v.Means s r := by
  cases w with
  | direct style p spelled => exact build_direct
  | normalized style p spelled => exact build_normalized
  | prebuilt style => exact build_prebuilt

theorem toOption_congr {ε α : Type} {x y : Except ε α} (h : ∀ a, x = .ok a ↔ y = .ok a) : x.toOption = y.toOption := by
  cases x with
  | ok a => rw [(h a).mp rfl]
  | error e =>
    cases y with
    | ok b => cases (h b).mpr rfl
    | error e' => rfl

/-- **All short forms of a slot mean the same.** Whatever place a short form stands in, spelled out or not, whether the
document is read as it is or in normal form, or a field rule is built first, and in either style of keys: either no
route leads to a rule set, or all lead to the same one. It is the rule set of the selectors that the items are read as,
of which there has to be one. -/
theorem routes_agree (s : Slot) (v : ShortForm) :
    (∀ w w' : Route, (build s v w).toOption = (build s v w').toOption) ∧
    ∀ (w : Route) (r : RuleSet), build s v w = .ok r ↔ ∃ ss : List Selector, ss ≠ [] ∧
      List.Forall₂ (fun x sel => Selector.ofDoc x.toDoc = .ok sel) v.items ss ∧
      r = .single s (.ofSelectors s.key ss) := by
  refine ⟨fun w w' => toOption_congr fun r => ?_, fun w r => ?_⟩
  · exact (build_eq_ok w).trans (build_eq_ok w').symm
  · rw [build_eq_ok, Means]
    simp only [FieldRule.ReadAs, toItems_toDoc, List.forall₂_map_left_iff, and_assoc]

/-- An expression and a mapping under the singular key, by way of the normal form. -/
example :
    let v : ShortForm :=
      .list [.expr " a.byline ", .mapping [(.str "expr", .str "og:url"), (.str "source", .str "meta")]]
    (build .authorLink v (.normalized .kebab .singular true)).toOption.map
      (fun r => (r.field .authorLink).map fun f => f.selectors.map Selector.expr) =
        some (some ["a.byline", "og:url"]) := by decide +kernel

end ShortForm

end Excerpt
