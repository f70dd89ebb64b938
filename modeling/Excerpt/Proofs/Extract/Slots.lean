import Mathlib.Data.List.Forall2
import Excerpt.Proofs.Extract.BodySelectors
import Excerpt.Proofs.Rule.Named

/-!
# The reports on slots

The report on a slot carries the name of the slot (`name_of_field`) and is the report of the rule set with the root and
that slot alone (`field_alone`). Several slots are reported on one by one, in order (`fields_eq_ok`).
-/

namespace Excerpt

namespace Slot

/-- A slot is found under its own key. -/
theorem ofKey?_key (s : Slot) : ofKey? s.key = some s := by
  cases s <;> decide +kernel

theorem key_injective : Function.Injective key := by
  intro s t h
  have ht := ofKey?_key t
  rw [← h, ofKey?_key] at ht
  exact Option.some.inj ht

/-- Each slot is listed once. -/
theorem filter_all_eq (s : Slot) : all.filter (· == s) = [s] := by
  cases s <;> decide +kernel

end Slot

namespace RuleSet

@[simp] theorem get?_key (r : RuleSet) (s : Slot) : r.get? s.key = r.field s := by
  rw [get?, Slot.ofKey?_key, Option.bind_some]

/-- The slots with a rule, in the order of all slots. -/
theorem map_present (r : RuleSet) : r.present.map (·.1) = Slot.all.filter r.has := by
  rw [present, List.map_filterMap, ← List.filterMap_eq_filter]
  refine List.filterMap_congr fun s _ => ?_
  rw [Option.guard, has]
  cases r.field s with
  | none => rfl
  | some f => cases h : f.selectors.isEmpty <;> simp [h]

/-- The rule set with the root and one slot alone. -/
def only (r : RuleSet) (s : Slot) : RuleSet :=
  ofSlots r.root [(s, r.field s)]

@[simp] theorem only_field_self (r : RuleSet) (s : Slot) : (r.only s).field s = r.field s := by
  simp [only, ofSlots]

/-- A rule set cut down to one slot has no rule in another. -/
theorem only_field_of_ne {s t : Slot} (r : RuleSet) (h : t ≠ s) : (r.only s).field t = none := by
  simp [only, ofSlots, List.lookup_cons, beq_false_of_ne h]

theorem has_only {r : RuleSet} {s : Slot} (hs : r.has s = true) (t : Slot) : (r.only s).has t = (t == s) := by
  by_cases h : t = s
  · subst h
    rw [beq_self_eq_true, ← hs, has, has, only_field_self]
  · rw [beq_false_of_ne h, has, only_field_of_ne r h]

end RuleSet

namespace Extraction

/-! ## Names -/

/-- Whatever comes of a field is reported under the name of its rule. -/
theorem name_of_evaluate {f : FieldRule} {baseUrl : Text} {scope : Scope} {props : Properties} {document : Node}
    {p : Place} {report : FieldReport} (h : (f.evaluate baseUrl scope props document p).result = .ok report) :
    report.name = f.name.toList := by
  obtain ⟨finding, -, hr⟩ := Traced.bind_eq_ok.mp h
  cases hr
  rfl

/-- A selector of a body that settles it does so under the name of the rule, whether it reads blocks or text. -/
theorem name_of_settled? {x : Extraction} {f : FieldRule} {root : Place} {s : Selector} {report : FieldReport}
    (h : settled? f root (x.bodyText f root) s = some (.ok report)) : report.name = f.name.toList := by
  cases hs : s.source with
  | metadata =>
    rw [settled?_metadata hs] at h
    split at h
    · cases h
    · exact name_of_evaluate (Option.some.inj h)
  | page =>
    rw [settled?_page hs] at h
    obtain ⟨value, -, hr⟩ := Option.map_eq_some_iff.mp h
    cases hr
    rfl

theorem name_of_body {x : Extraction} {f : FieldRule} {report : FieldReport} (h : (x.body f).result = .ok report) :
    report.name = f.name.toList := by
  rw [body] at h
  split at h
  · cases h
    rfl
  · rename_i root _
    rw [result_bodyWith] at h
    cases hs : f.selectors.findSome? (settled? f root (x.bodyText f root)) with
    | none =>
      rw [hs] at h
      cases h
      rfl
    | some text =>
      obtain ⟨s, -, ha⟩ := List.exists_of_findSome?_eq_some hs
      rw [hs] at h
      cases h
      exact name_of_settled? ha

/-- The report on a slot carries the name of the slot. -/
theorem name_of_field {x : Extraction} (hn : x.rules.Named) {s : Slot} {report : FieldReport}
    (h : (x.field s.key).result = .ok report) : report.name = s.key.toList := by
  rw [field, RuleSet.get?_key] at h
  cases hf : x.rules.field s with
  | none => simp [hf] at h
  | some f =>
    rw [hf] at h
    rw [← hn s f hf]
    simp only at h
    split at h
    · cases h
    · split at h
      · cases h
        exact congrArg String.toList (hn s f hf).symm
      · split at h
        · exact name_of_body h
        · exact name_of_evaluate h

/-! ## One slot alone -/

/-- The page with the rules for one slot alone. -/
def alone (x : Extraction) (s : Slot) : Extraction :=
  { x with rules := x.rules.only s }

/-- The body is read by its own rule and the settings of the page, which the other slots have no part in. -/
theorem bodyWith_alone (x : Extraction) (s : Slot) (f : FieldRule) (root : Place) : ∀ ss : List Selector,
    (x.alone s).bodyWith f root ss = x.bodyWith f root ss
  | [] => rfl
  | t :: ss => by
    rw [bodyWith, bodyWith, bodyWith_alone x s f root ss]
    rfl

/-- The report on a slot does not depend on the other slots. -/
theorem field_alone (x : Extraction) (s : Slot) : (x.alone s).field s.key = x.field s.key := by
  rw [field, field, RuleSet.get?_key, RuleSet.get?_key]
  simp only [body, bodyWith_alone]
  rw [show (x.alone s).rules.field s = x.rules.field s from RuleSet.only_field_self x.rules s]
  rfl

/-! ## Several slots -/

/-- Several slots are reported on one by one. -/
theorem fields_eq_ok {x : Extraction} : ∀ {ss : List Slot} {es : List (String × FieldReport)},
    (x.fields ss).result = .ok es ↔
      List.Forall₂ (fun s e => e.1 = s.key ∧ (x.field s.key).result = .ok e.2) ss es
  | [], es => by
    rw [List.forall₂_nil_left_iff]
    exact ⟨fun h => (Except.ok.inj h).symm, fun h => congrArg Except.ok h.symm⟩
  | s :: ss, es => by
    rw [fields, Traced.bind_eq_ok, List.forall₂_cons_left_iff]
    constructor
    · rintro ⟨report, hs, h⟩
      obtain ⟨rest, hrest, h⟩ := Traced.bind_eq_ok.mp h
      exact ⟨(s.key, report), rest, ⟨rfl, hs⟩, fields_eq_ok.mp hrest, (Except.ok.inj h).symm⟩
    · rintro ⟨⟨key, report⟩, rest, ⟨rfl, hs⟩, hrest, rfl⟩
      exact ⟨report, hs, Traced.bind_eq_ok.mpr ⟨rest, fields_eq_ok.mpr hrest, rfl⟩⟩

/-- One entry for each slot, in the order of the slots. -/
theorem keys_of_fields {x : Extraction} {ss : List Slot} {es : List (String × FieldReport)}
    (h : (x.fields ss).result = .ok es) : es.map (·.1) = ss.map Slot.key := by
  have hf := fields_eq_ok.mp h
  clear h
  induction hf with
  | nil => rfl
  | cons he _ ih => rw [List.map_cons, List.map_cons, he.1, ih]

/-- An entry is the report on its slot by itself. -/
theorem field_of_mem_fields {x : Extraction} {ss : List Slot} {es : List (String × FieldReport)} {s : Slot}
    {entry : FieldReport} (h : (x.fields ss).result = .ok es) (hm : (s.key, entry) ∈ es) :
    s ∈ ss ∧ (x.field s.key).result = .ok entry := by
  have hf := fields_eq_ok.mp h
  clear h
  induction hf with
  | nil => cases hm
  | cons he _ ih =>
    rcases List.mem_cons.mp hm with rfl | hm
    · cases Slot.key_injective he.1
      exact ⟨List.mem_cons_self, he.2⟩
    · exact ⟨List.mem_cons_of_mem _ (ih hm).1, (ih hm).2⟩

theorem slots_eq (x : Extraction) : x.slots = Slot.all.filter fun s => s != .validator && x.rules.has s := by
  rw [slots, RuleSet.map_present, List.filter_filter]

/-- Of the slots of an extraction that is cut down to one of them, that one is left. -/
theorem slots_alone {x : Extraction} {s : Slot} (hs : s ∈ x.slots) : (x.alone s).slots = [s] := by
  rw [slots_eq, List.mem_filter, Bool.and_eq_true] at hs
  obtain ⟨-, hne, hhas⟩ := hs
  rw [slots_eq, ← Slot.filter_all_eq s]
  refine List.filter_congr fun t _ => ?_
  rw [show (x.alone s).rules.has t = (t == s) from RuleSet.has_only hhas t]
  by_cases h : t = s
  · simp [h, hne]
  · simp [h]

end Extraction

end Excerpt
