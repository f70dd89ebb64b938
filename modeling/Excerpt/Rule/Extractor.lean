import Excerpt.Rule.Choice
import Excerpt.Rule.Expr
import Excerpt.Template

/-!
# Extractors

An extractor narrows a text: the first occurrence of its expression, or every one, is replaced with its template. A text
in which the expression or the validator does not occur is dropped.
-/

namespace Excerpt

/-- An extractor; one with an empty expression keeps the text as it is. -/
structure Extractor where
  expr : String
  format : String
  extent : Extent
  validator : String
deriving DecidableEq, Repr

namespace Extractor

/-- The template of an extractor that names none. -/
def defaultFormat : String :=
  "$1"

/-- An extractor from a mapping. -/
def ofEntries (es : Doc.Entries) : Decoded Extractor :=
  Extractor.mk <$> es.attrOr "expr" "" Decoded.expression
    <*> es.attrOr "format" defaultFormat Decoded.string
    <*> es.attrOr "match" .first (Decoded.member Extent.members Extent.name)
    <*> es.attrOr "validator" "" Decoded.expression

/-- An extractor from its expression or from a mapping. -/
def ofDoc : Doc → Decoded Extractor
  | .scalar (.str s) => ofEntries [(.str "expr", .str s)]
  | .map es => ofEntries es
  | _ => .fail .notModel

/-- The extractor as entries. -/
def toEntries (x : Extractor) : List (String × Doc) :=
  [("expr", .str x.expr), ("format", .str x.format), ("match", .str x.extent.name), ("validator", .str x.validator)]

/-- The extractor as a mapping. -/
def toDoc (x : Extractor) : Doc :=
  .ofFields x.toEntries

/-- Whether there is an expression. -/
def hasExpr (x : Extractor) : Bool :=
  x.expr != ""

/-- What an extractor makes of a text. -/
inductive Outcome where
  | kept (t : Text)
  | dropped
  | unknownGroup
deriving DecidableEq, Repr

/-- The number of occurrences that are replaced, if it is limited. -/
def limit : Extent → Option Nat
  | .first => some 1
  | .all => none

/-- Whether the validator lets a text pass. -/
def passesValidator (x : Extractor) (t : Text) : Bool :=
  match Expression.pattern? x.validator.toList with
  | some p => p.occursIn t
  | none => true

/-- The text narrowed, or why it is dropped. -/
def extract (x : Extractor) (props : Properties) (t : Text) : Outcome :=
  if x.passesValidator t then
    match Expression.pattern? x.expr.toList with
    | none => .kept t
    | some p =>
      if p.occursIn t then
        match Template.read? p.groups (Template.escaped x.format.toList props) with
        | some parts => .kept (Text.trim (p.replace (limit x.extent) (Template.fill parts) t))
        | none => .unknownGroup
      else .dropped
  else .dropped

end Extractor

end Excerpt
