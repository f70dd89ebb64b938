import Excerpt.Rule.Field

/-!
# Rule sets

A rule set holds the root selector of a kind of page and a field rule for some of the slots. The name of a field rule in
a rule set is the key of its slot.
-/

namespace Excerpt

/-- The values that a page may have. -/
inductive Slot where
  | validator
  | title
  | author
  | authorLink
  | publishedDate
  | startDate
  | startTime
  | endDate
  | endTime
  | timezone
  | body
  | url
  | image
  | backgroundImage
deriving DecidableEq, Repr

namespace Slot

/-- All slots, in the order of reports. -/
def all : List Slot :=
  [.validator, .title, .author, .authorLink, .publishedDate, .startDate, .startTime, .endDate, .endTime,
  .timezone, .body,
    .url, .image, .backgroundImage]

/-- The key of a slot in documents. -/
def key : Slot → String
  | .validator => "validator"
  | .title => "title"
  | .author => "author"
  | .authorLink => "author-link"
  | .publishedDate => "published-date"
  | .startDate => "start-date"
  | .startTime => "start-time"
  | .endDate => "end-date"
  | .endTime => "end-time"
  | .timezone => "timezone"
  | .body => "body"
  | .url => "url"
  | .image => "image"
  | .backgroundImage => "background-image"

/-- The snake-case key of a slot. -/
def snakeKey (s : Slot) : String :=
  String.ofList (Text.replaceChar '-' ['_'] s.key.toList)

/-- The slot of a key in either style. -/
def ofKey? (k : String) : Option Slot :=
  all.find? fun s => s.key == k || s.snakeKey == k

end Slot

/-- The rules for one kind of page. -/
structure RuleSet where
  root : Option Selector
  field : Slot → Option FieldRule

namespace RuleSet

/-! ## Documents -/

/-- The document of a slot with the name of the slot put in. -/
def named (s : Slot) : Doc → Doc
  | .map es => .map (Doc.Entries.set es "name" (.str s.key))
  | .scalar (.str e) => .map (Doc.Entries.set (FieldRule.shorthand (.str e)) "name" (.str s.key))
  | .list ds => .map (Doc.Entries.set (FieldRule.shorthand (.list ds)) "name" (.str s.key))
  | d => d

/-- The field rule of a slot, nothing if the slot is missing or empty. -/
def readSlot (es : Doc.Entries) (s : Slot) : Decoded (Option FieldRule) :=
  es.attrOr s.snakeKey none (Decoded.optional fun d => FieldRule.ofDoc (named s d))

/-- The field rules of several slots. -/
def readSlots (es : Doc.Entries) : List Slot → Decoded (List (Slot × Option FieldRule))
  | [] => .ok []
  | s :: ss => (fun f rest => (s, f) :: rest) <$> readSlot es s <*> readSlots es ss

/-- The rule set of a root and the field rules of slots. -/
def ofSlots (root : Option Selector) (fields : List (Slot × Option FieldRule)) : RuleSet :=
  ⟨root, fun s => (fields.lookup s).join⟩

/-- A rule set from the entries of a mapping. -/
def ofEntries (es : Doc.Entries) : Decoded RuleSet :=
  ofSlots <$> es.attrOr "root" none (Decoded.optional Selector.ofDoc) <*> readSlots es Slot.all

/-- A rule set from a mapping. -/
def ofDoc : Doc → Decoded RuleSet
  | .map es => ofEntries es
  | _ => .fail .notModel

/-- The rule set as entries with keys of a style; a slot without a rule is empty. -/
def toEntries (style : KeyStyle) (r : RuleSet) : List (String × Doc) :=
  ("root", (r.root.map Selector.toDoc).getD .null) ::
    Slot.all.map fun s => (style.spell s.snakeKey, ((r.field s).map (FieldRule.toDoc style)).getD .null)

/-- The rule set as a mapping with keys of a style. -/
def toDoc (style : KeyStyle) (r : RuleSet) : Doc :=
  .ofFields (r.toEntries style)

/-! ## Slots -/

/-- The field rule of a slot by its key in either style. -/
def get? (r : RuleSet) (k : String) : Option FieldRule :=
  (Slot.ofKey? k).bind r.field

/-- Whether a slot has a field rule with a selector. -/
def has (r : RuleSet) (s : Slot) : Bool :=
  match r.field s with
  | some f => !f.selectors.isEmpty
  | none => false

/-- The slots with a selector, with their field rules, in order. -/
def present (r : RuleSet) : List (Slot × FieldRule) :=
  Slot.all.filterMap fun s =>
    match r.field s with
    | some f => if f.selectors.isEmpty then none else some (s, f)
    | none => none

/-- Whether two rule sets are equal. -/
def same (a b : RuleSet) : Bool :=
  a.root == b.root && Slot.all.all fun s => a.field s == b.field s

end RuleSet

end Excerpt
