import Excerpt.Css.Parser
import Excerpt.Rule.Choice
import Excerpt.Rule.Exclude
import Excerpt.Text.Quoted

/-!
# Selectors

A selector says where a value stands in a page and how it is read. A page selector is a CSS expression, or `<root>` for
the element that the search starts from; a meta selector is the key of a `meta` element.
-/

namespace Excerpt

/-- A selector. -/
structure Selector where
  expr : String
  source : Source
  output : Output
  attributeName : Option String
  multiple : Option Bool
  separator : Option String
  excludes : List Exclude
  size : Option String
  background : Bool
deriving DecidableEq, Repr

namespace Selector

/-- The expression that stands for the element itself. -/
def rootExpr : String :=
  "<root>"

/-- Whether the selector stands for the element itself. -/
def isRoot (s : Selector) : Bool :=
  s.expr == rootExpr

/-- Whether every match is used, `default` if the selector does not say. -/
def isMultiple (s : Selector) (default : Bool) : Bool :=
  s.multiple.getD default

/-- Whether the expression is CSS. -/
def isCss (s : Selector) : Bool :=
  s.source == .page && !s.isRoot

/-- The chains of a selector with a CSS expression. -/
def css? (s : Selector) : Option (List Css.Chain) :=
  if s.isCss then (Css.parse s.expr.toList).toOption else none

/-! ## Documents -/

/-- The trimmed expression of a selector, which must not be empty. -/
def readExpr (d : Doc) : Decoded String :=
  (Decoded.string d).andThen fun s =>
    let t := Text.trim s.toList
    if t.isEmpty then .fail (.invalid "Selector expression must not be empty".toList) else .ok (String.ofList t)

/-- The selector, if its expression is well formed. -/
def checked (s : Selector) : Decoded Selector :=
  if s.isCss then
    match Css.parse s.expr.toList with
    | .ok _ => .ok s
    | .error .unsupported => .halted .unsupportedSelector
    | .error .malformed =>
      .fail (.invalid ("Invalid selector expression ".toList ++ Text.quoted s.expr.toList ++ ": ".toList))
  else .ok s

/-- The keys of excludes, one or several. -/
def excludeKeys : List String :=
  ["exclude", "excludes"]

/-- The mapping with the excludes under one key. -/
def mergeExcludes (es : Doc.Entries) : Doc.Entries :=
  let rest := es.unsetAll excludeKeys
  match es.merged? excludeKeys with
  | none | some [] => rest
  | some ds => rest.set "excludes" (.list ds)

/-- A selector from the merged mapping. -/
def ofEntries (es : Doc.Entries) : Decoded Selector :=
  (Selector.mk <$> es.attr "expr" readExpr
    <*> es.attrOr "source" .page (Decoded.member Source.members Source.name)
    <*> es.attrOr "output" .text (Decoded.member Output.members Output.name)
    <*> es.attrOr "attribute" none (Decoded.optional Decoded.string)
    <*> es.attrOr "multiple" none (Decoded.optional Decoded.bool)
    <*> es.attrOr "separator" none (Decoded.optional Decoded.string)
    <*> es.attrOr "excludes" [] (fun d => Decoded.items Exclude.ofDoc d.toItems)
    <*> es.attrOr "size" none (Decoded.optional Decoded.string)
    <*> es.attrOr "background" false Decoded.bool).andThen checked

/-- A selector from its expression or from a mapping. -/
def ofDoc : Doc → Decoded Selector
  | .scalar (.str s) => ofEntries [(.str "expr", .str s)]
  | .map es => ofEntries (mergeExcludes es)
  | _ => .fail .notModel

/-- The selector as entries. -/
def toEntries (s : Selector) : List (String × Doc) :=
  [("expr", .str s.expr), ("source", .str s.source.name), ("output", .str s.output.name),
      ("attribute", .strOrNull s.attributeName), ("multiple", (s.multiple.map Doc.bool).getD .null),
      ("separator", .strOrNull s.separator), ("excludes", .list (s.excludes.map Exclude.toDoc)),
      ("size", .strOrNull s.size), ("background", .bool s.background)]

/-- The selector as a mapping. -/
def toDoc (s : Selector) : Doc :=
  .ofFields s.toEntries

end Selector

end Excerpt
