import Excerpt.Rule.Condition
import Excerpt.Rule.Extractor
import Excerpt.Rule.Filter
import Excerpt.Rule.Selector

/-!
# Field rules

A field rule says how one value of a page is found, narrowed, filtered and put into form. It is read from a mapping, or
from a selector or a list of selectors alone; lists may be given under a singular key as well.
-/

namespace Excerpt

/-- The rules for one value of a page. -/
structure FieldRule where
  name : String
  selectors : List Selector
  extractors : List Extractor
  textCase : TextCase
  datePatterns : List String
  filters : List Filter
  conditions : List Condition
  basePath : String
  removeParameters : Bool
  trailingSlash : Bool
  optional : Bool
deriving DecidableEq, Repr

/-- The attributes of a field rule that are lists. -/
inductive ListAttr where
  | selectors
  | extractors
  | datePatterns
  | filters
  | conditions
deriving DecidableEq, Repr

namespace ListAttr

/-- All list attributes. -/
def all : List ListAttr :=
  [.selectors, .extractors, .datePatterns, .filters, .conditions]

/-- The key of a list attribute. -/
def key : ListAttr → String
  | .selectors => "selectors"
  | .extractors => "extractors"
  | .datePatterns => "date_patterns"
  | .filters => "filters"
  | .conditions => "conditions"

/-- The keys that a list attribute may be given under, in the order in which their items are joined. -/
def keys : ListAttr → List String
  | .selectors => ["selector", "selectors"]
  | .extractors => ["extractor", "extractors"]
  | .datePatterns => ["date-pattern", "date-patterns", "date_pattern", "date_patterns"]
  | .filters => ["filter", "filters"]
  | .conditions => ["condition", "conditions"]

/-- The list attribute that a key belongs to. -/
def ofKey? (k : String) : Option ListAttr :=
  all.find? fun a => a.keys.contains k

end ListAttr

namespace FieldRule

/-! ## Documents -/

/-- The mapping with the items of one list attribute under its key. -/
def mergeList (es : Doc.Entries) (a : ListAttr) : Doc.Entries :=
  match es.merged? a.keys with
  | none => es
  | some ds => (es.unsetAll a.keys).set a.key (.list ds)

/-- The mapping with the items of each list attribute under its key. -/
def mergeLists (es : Doc.Entries) : Doc.Entries :=
  ListAttr.all.foldl mergeList es

/-- The field rule, if it has a selector or may do without. -/
def checked (f : FieldRule) : Decoded FieldRule :=
  if f.selectors.isEmpty && !f.optional then
    let name := if f.name == "" then "<unnamed>" else f.name
    .fail (.invalid ("Field ".toList ++ name.toList ++ " requires at least one selector unless optional".toList))
  else .ok f

/-- A list attribute of a mapping. -/
def readList {α : Type} (es : Doc.Entries) (a : ListAttr) (read : Doc → Decoded α) : Decoded (List α) :=
  es.attrOr a.key [] fun d => Decoded.items read d.toItems

/-- A field rule from the merged mapping. -/
def ofEntries (es : Doc.Entries) : Decoded FieldRule :=
  (FieldRule.mk <$> es.attrOr "name" "" Decoded.string
    <*> readList es .selectors Selector.ofDoc
    <*> readList es .extractors Extractor.ofDoc
    <*> es.attrOr "text_case" .none (Decoded.member TextCase.members TextCase.name)
    <*> readList es .datePatterns Decoded.string
    <*> readList es .filters Filter.ofDoc
    <*> readList es .conditions Condition.ofDoc
    <*> es.attrOr "base_path" "" Decoded.string
    <*> es.attrOr "remove_parameters" true Decoded.bool
    <*> es.attrOr "trailing_slash" false Decoded.bool
    <*> es.attrOr "optional" false Decoded.bool).andThen checked

/-- The mapping that a selector or a list of selectors stands for. -/
def shorthand (d : Doc) : Doc.Entries :=
  [(.str "selectors", .list d.toItems)]

/-- A field rule from a mapping, a selector expression or a list of selectors. -/
def ofDoc : Doc → Decoded FieldRule
  | .map es => ofEntries (mergeLists es)
  | .scalar (.str s) => ofEntries (shorthand (.str s))
  | .list ds => ofEntries (shorthand (.list ds))
  | _ => .fail .notModel

/-- The field rule as entries with keys of a style. -/
def toEntries (style : KeyStyle) (f : FieldRule) : List (String × Doc) :=
  [("name", .str f.name), ("selectors", .list (f.selectors.map Selector.toDoc)),
    ("extractors", .list (f.extractors.map Extractor.toDoc)), (style.spell "text_case", .str f.textCase.name),
    (style.spell "date_patterns", .strings f.datePatterns), ("filters", .list (f.filters.map Filter.toDoc)),
    ("conditions", .list (f.conditions.map Condition.toDoc)), (style.spell "base_path", .str f.basePath),
    (style.spell "remove_parameters", .bool f.removeParameters), (style.spell "trailing_slash", .bool f.trailingSlash),
    ("optional", .bool f.optional)]

/-- The field rule as a mapping with keys of a style. -/
def toDoc (style : KeyStyle) (f : FieldRule) : Doc :=
  .ofFields (f.toEntries style)

/-! ## Kinds of fields -/

/-- The names of fields that hold links. -/
def urlNames : List String :=
  ["url", "author-link", "image", "background-image"]

/-- Whether values are links. -/
def isUrl (f : FieldRule) : Bool :=
  urlNames.contains f.name || f.basePath != ""

/-- Whether values are images. -/
def isImage (f : FieldRule) : Bool :=
  f.name == "image"

/-- Whether values are bodies. -/
def isBody (f : FieldRule) : Bool :=
  f.name == "body"

end FieldRule

end Excerpt
