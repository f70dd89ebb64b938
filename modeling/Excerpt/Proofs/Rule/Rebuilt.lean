import Excerpt.Rule.Schema
import Excerpt.Proofs.Doc.JsonForm
import Excerpt.Proofs.Rule.SlotRule

/-!
# Building rules again from their written form

A rule is built from a document, from JSON or YAML text or from keyword arguments, or derived from another rule
(`Schema.Made`). Either way it has been read from some document (`Schema.Made.exists_ofDoc`), so that the readers
restore it. The written forms are plain documents, which JSON text preserves.

`RuleKind.rebuild` puts the two together for every kind of rule.
-/

namespace Excerpt

open Doc (Plain)
open Decoded (Restores)

namespace Schema

variable {α : Type} {s : Schema α} {a : α}

/-- The rules that can be built. A rule that stands in a document or among arguments does so in its written form. -/
inductive Made (s : Schema α) : α → Prop
  | read {d : Doc} {a : α} : s.read d = .ok a → Made s a
  | json {t : Text} {a : α} : s.ofJson t = .ok a → Made s a
  | yaml {t : Text} {a : α} : s.ofYaml t = .ok a → Made s a
  | arguments {d : Doc} {a : α} : s.ofArguments d = .ok a → Made s a
  | derived {a b : α} {changes : Doc.Entries} : Made s a → s.derive a changes = .ok b → Made s b

/-- The kind of a rule is named in failures only. -/
theorem readAs_eq_ok {kind : String} {d : Doc} : s.readAs kind d = .ok a ↔ s.ofDoc d = .ok a := by
  rw [readAs]
  cases s.ofDoc d <;> simp

theorem read_eq_ok {d : Doc} : s.read d = .ok a ↔ s.ofDoc d = .ok a :=
  readAs_eq_ok

/-- A rule is read from JSON text if the text is JSON and the rule is read from its document. -/
theorem ofJson_eq_ok {t : Text} : s.ofJson t = .ok a ↔ ∃ d, Json.parse? t = some d ∧ s.ofDoc d = .ok a := by
  rw [ofJson]
  cases Json.parse? t <;> simp [read_eq_ok]

/-- A YAML text stands for a document too, which need not be spelled in one way. -/
theorem ofYaml_eq_ok {t : Text} (h : s.ofYaml t = .ok a) : ∃ d, s.ofDoc d = .ok a := by
  rw [ofYaml] at h
  split at h
  · exact ⟨_, read_eq_ok.mp h⟩
  · cases h
  · cases h

/-- A rule that can be built has been read from a document. -/
theorem Made.exists_ofDoc (h : s.Made a) : ∃ d, s.ofDoc d = .ok a := by
  cases h with
  | read h => exact ⟨_, read_eq_ok.mp h⟩
  | json h =>
    obtain ⟨d, -, hd⟩ := ofJson_eq_ok.mp h
    exact ⟨d, hd⟩
  | yaml h => exact ofYaml_eq_ok h
  | arguments h => exact ⟨_, readAs_eq_ok.mp h⟩
  | derived _ h => exact ⟨_, read_eq_ok.mp h⟩

/-- Changes under string keys are made to the written form under the snake-case keys. -/
theorem changed_ofStrings (s : Schema α) (a : α) (ps : List (String × Doc)) :
    s.changed a (Doc.Entries.ofStrings ps) = .map ((Doc.Entries.ofStrings (s.toEntries .snake a)).update
      (Doc.Entries.ofStrings (ps.map fun p => (s.changeKey p.1, p.2)))) := by
  simp only [changed, Doc.Entries.ofStrings, List.map_map]
  rfl

/-- A kind of rule that is read back from its written form, which is a plain document. -/
structure Faithful (s : Schema α) : Prop where
  restores : ∀ style, Restores s.ofDoc (s.toDoc style)
  plain : ∀ a, Plain (s.toDoc .kebab a)

/-- A rule that was made from something is read again from what it is written as, in either style of keys. -/
theorem Faithful.read_toDoc (hs : s.Faithful) (h : s.Made a) (style : KeyStyle) : s.read (s.toDoc style a) = .ok a := by
  obtain ⟨d, hd⟩ := h.exists_ofDoc
  exact read_eq_ok.mpr (hs.restores style hd)

/-- Hence it is read again from its JSON text, as plain documents come back from JSON. -/
theorem Faithful.ofJson_toJson (hs : s.Faithful) (h : s.Made a) : s.ofJson (s.toJson a) = .ok a :=
  ofJson_eq_ok.mpr ⟨_, Json.parse?_render (hs.plain a), read_eq_ok.mp (hs.read_toDoc h .kebab)⟩

end Schema

/-! ## Written forms -/

namespace Doc.Plain

/-- Written forms are put together from these: texts that may be absent, lists of texts, lists and options of written
forms. -/
theorem strOrNull (s? : Option String) : Plain (.strOrNull s?) := by
  cases s? with
  | none => exact .null
  | some s => exact .str s

theorem strings (ss : List String) : Plain (.strings ss) := by
  refine .list fun d hd => ?_
  obtain ⟨s, -, rfl⟩ := List.mem_map.mp hd
  exact .str s

theorem listMap {α : Type} {write : α → Doc} (h : ∀ a, Plain (write a)) (as : List α) :
    Plain (.list (as.map write)) := by
  refine .list fun d hd => ?_
  obtain ⟨a, -, rfl⟩ := List.mem_map.mp hd
  exact h a

theorem orNull {α : Type} {write : α → Doc} (h : ∀ a, Plain (write a)) (a? : Option α) :
    Plain ((a?.map write).getD .null) := by
  cases a? with
  | none => exact .null
  | some a => exact h a

end Doc.Plain

open Doc.Plain

/-- Every kind of rule is written as a plain document. -/
theorem Exclude.plain (x : Exclude) : Plain x.toDoc := by
  refine .fields (by simp [toEntries]) ?_
  simp only [toEntries, List.forall_mem_cons, List.not_mem_nil, false_implies, implies_true, and_true]
  exact .str _

theorem Selector.plain (s : Selector) : Plain s.toDoc := by
  refine .fields (by simp [toEntries]) ?_
  simp only [toEntries, List.forall_mem_cons, List.not_mem_nil, false_implies, implies_true, and_true]
  exact ⟨.str _, .str _, .str _, strOrNull _, orNull .bool _, strOrNull _, listMap Exclude.plain _,
    strOrNull _, .bool _⟩

theorem Extractor.plain (x : Extractor) : Plain x.toDoc := by
  refine .fields (by simp [toEntries]) ?_
  simp only [toEntries, List.forall_mem_cons, List.not_mem_nil, false_implies, implies_true, and_true]
  exact ⟨.str _, .str _, .str _, .str _⟩

theorem Filter.plain (f : Filter) : Plain f.toDoc := by
  refine .fields (by simp [toEntries]) ?_
  simp only [toEntries, List.forall_mem_cons, List.not_mem_nil, false_implies, implies_true, and_true]
  exact ⟨.str _, .str _, .bool _⟩

theorem Condition.plain (c : Condition) : Plain c.toDoc := by
  refine .fields (by simp [toEntries]) ?_
  simp only [toEntries, List.forall_mem_cons, List.not_mem_nil, false_implies, implies_true, and_true]
  exact ⟨.str _, .str _⟩

/-- Two attributes have different keys in either style, so a mapping of attributes has no key twice. -/
theorem FieldAttr.nodup_keys (style : KeyStyle) : (FieldAttr.all.map fun a => style.spell a.key).Nodup := by
  cases style <;> decide

theorem FieldRule.plain (style : KeyStyle) (f : FieldRule) : Plain (f.toDoc style) := by
  refine .fields (FieldRule.map_fst_toEntries style f ▸ FieldAttr.nodup_keys style) ?_
  simp only [toEntries, List.forall_mem_cons, List.not_mem_nil, false_implies, implies_true, and_true]
  exact ⟨.str _, listMap Selector.plain _, listMap Extractor.plain _, .str _, strings _, listMap Filter.plain _,
    listMap Condition.plain _, .str _, .bool _, .bool _, .bool _⟩

namespace RuleSet

/-- The entries that a rule set is written as: the root and the slots, each under its own key. -/
theorem map_fst_toEntries (style : KeyStyle) (r : RuleSet) :
    (r.toEntries style).map Prod.fst = "root" :: Slot.all.map fun s => style.spell s.snakeKey := by
  rw [toEntries, List.map_cons, List.map_map]
  rfl

theorem nodup_keys (style : KeyStyle) : ("root" :: Slot.all.map fun s => style.spell s.snakeKey).Nodup := by
  cases style <;> decide +kernel

theorem plain (style : KeyStyle) (r : RuleSet) : Plain (r.toDoc style) := by
  refine .fields (map_fst_toEntries style r ▸ nodup_keys style) ?_
  rw [toEntries, List.forall_mem_cons]
  refine ⟨orNull Selector.plain _, fun p hp => ?_⟩
  obtain ⟨s, -, rfl⟩ := List.mem_map.mp hp
  exact orNull (FieldRule.plain style) _

end RuleSet

/-! ## The kinds of rules -/

/-- The kinds of rules. -/
inductive RuleKind where
  | exclude
  | selector
  | extractor
  | filter
  | condition
  | field
  | ruleSet

namespace RuleKind

/-- The rules of a kind. -/
def Rule : RuleKind → Type
  | .exclude => Exclude
  | .selector => Selector
  | .extractor => Extractor
  | .filter => Filter
  | .condition => Condition
  | .field => FieldRule
  | .ruleSet => RuleSet

/-- How the rules of a kind are read and written. -/
def schema : (k : RuleKind) → Schema k.Rule
  | .exclude => Exclude.schema
  | .selector => Selector.schema
  | .extractor => Extractor.schema
  | .filter => Filter.schema
  | .condition => Condition.schema
  | .field => FieldRule.schema
  | .ruleSet => RuleSet.schema

/-- Each kind of rule is restored from its written form, which is a plain document. -/
theorem faithful (k : RuleKind) : k.schema.Faithful := by
  cases k with
  | exclude => exact ⟨fun _ => Exclude.restores, Exclude.plain⟩
  | selector => exact ⟨fun _ => Selector.restores, Selector.plain⟩
  | extractor => exact ⟨fun _ => Extractor.restores, Extractor.plain⟩
  | filter => exact ⟨fun _ => Filter.restores, Filter.plain⟩
  | condition => exact ⟨fun _ => Condition.restores, Condition.plain⟩
  | field => exact ⟨FieldRule.restores, FieldRule.plain .kebab⟩
  | ruleSet => exact ⟨RuleSet.restores, RuleSet.plain .kebab⟩

end RuleKind

end Excerpt
