import Excerpt.Doc.Json
import Excerpt.Rule.LoadError
import Excerpt.Rule.RuleSet
import Excerpt.Yaml.Read

/-!
# The kinds of rules

A schema says how one kind of rule is read from a document and written back. Every kind of rule can be read from a
document, from JSON or YAML text, and from keyword arguments, and can be derived from another rule with some attributes
changed.
-/

namespace Excerpt

/-- How a kind of rule is read and written. -/
structure Schema (α : Type) where
  label : String
  ofDoc : Doc → Decoded α
  toEntries : KeyStyle → α → List (String × Doc)
  changeKey : String → String
  same : α → α → Bool

namespace Schema

variable {α : Type}

/-- A rule from a document, `kind` being the name of what it came in. -/
def readAs (s : Schema α) (kind : String) (d : Doc) : Except LoadError α :=
  match s.ofDoc d with
  | .ok a => .ok a
  | .rejected ps => .error (.invalid kind s.label ps)
  | .halted h => .error (.halted h)

/-- A rule from a document. -/
def read (s : Schema α) (d : Doc) : Except LoadError α :=
  s.readAs d.kindName d

/-- A rule from keyword arguments. -/
def ofArguments (s : Schema α) (d : Doc) : Except LoadError α :=
  s.readAs "kwargs" d

/-- A rule from JSON text. -/
def ofJson (s : Schema α) (t : Text) : Except LoadError α :=
  match Json.parse? t with
  | some d => s.read d
  | none => .error (.malformed .json s.label)

/-- A rule from YAML text; an empty value stands for an empty mapping. -/
def ofYaml (s : Schema α) (t : Text) : Except LoadError α :=
  match Yaml.read t with
  | .ok d => s.read (if d.isNull then .map [] else d)
  | .error .malformed => .error (.malformed .yaml s.label)
  | .error .impossible => .error .impossibleValue

/-- A rule as a mapping with keys of a style. -/
def toDoc (s : Schema α) (style : KeyStyle) (a : α) : Doc :=
  .ofFields (s.toEntries style a)

/-- The document of a rule with some attributes changed. -/
def changed (s : Schema α) (a : α) (changes : Doc.Entries) : Doc :=
  let base := (s.toEntries .snake a).map fun (k, d) => (Scalar.str k, d)
  let respelt := changes.map fun (k, d) =>
    match k with
    | .str k => (Scalar.str (s.changeKey k), d)
    | k => (k, d)
  .map (Doc.Entries.update base respelt)

/-- A rule like another one, with some attributes changed. -/
def derive (s : Schema α) (a : α) (changes : Doc.Entries) : Except LoadError α :=
  s.read (s.changed a changes)

/-- A rule as JSON text. -/
def toJson (s : Schema α) (a : α) : Text :=
  Json.render (s.toDoc .kebab a)

end Schema

/-- Excludes. -/
def Exclude.schema : Schema Exclude :=
  ⟨"FieldExclude", Exclude.ofDoc, fun _ x => x.toEntries, id, (· == ·)⟩

/-- Selectors. -/
def Selector.schema : Schema Selector :=
  ⟨"FieldSelector", Selector.ofDoc, fun _ s => s.toEntries, id, (· == ·)⟩

/-- Extractors. -/
def Extractor.schema : Schema Extractor :=
  ⟨"FieldExtractor", Extractor.ofDoc, fun _ x => x.toEntries, id, (· == ·)⟩

/-- Filters. -/
def Filter.schema : Schema Filter :=
  ⟨"FieldFilter", Filter.ofDoc, fun _ f => f.toEntries, id, (· == ·)⟩

/-- Conditions. -/
def Condition.schema : Schema Condition :=
  ⟨"FieldCondition", Condition.ofDoc, fun _ c => c.toEntries, id, (· == ·)⟩

/-- Field rules. -/
def FieldRule.schema : Schema FieldRule :=
  ⟨"Field", FieldRule.ofDoc, FieldRule.toEntries, id, (· == ·)⟩

/-- The snake-case key of a slot in changes to a rule set. -/
def RuleSet.changeKey (k : String) : String :=
  String.ofList (Text.replaceChar '-' ['_'] k.toList)

/-- Rule sets. -/
def RuleSet.schema : Schema RuleSet :=
  ⟨"Fields", RuleSet.ofDoc, RuleSet.toEntries, RuleSet.changeKey, RuleSet.same⟩

end Excerpt
