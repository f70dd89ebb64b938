import Excerpt.Rule.Choice
import Excerpt.Rule.Expr

/-!
# Filters

A filter matches whole texts in the phases of its scope. A text that a filter matches is skipped, or the extraction is
stopped there; `Filter.applyAll` gives the outcome for a list of filters, where stopping wins.
-/

namespace Excerpt

/-- A filter; one with an empty expression matches nothing. -/
structure Filter where
  expr : String
  scope : Scope
  stop : Bool
deriving DecidableEq, Repr

namespace Filter

/-- A filter from a mapping. -/
def ofEntries (es : Doc.Entries) : Decoded Filter :=
  Filter.mk <$> es.attrOr "expr" "" Decoded.expression
    <*> es.attrOr "scope" .all (Decoded.member Scope.members Scope.name)
    <*> es.attrOr "stop" false Decoded.bool

/-- A filter from its expression or from a mapping. -/
def ofDoc : Doc → Decoded Filter
  | .scalar (.str s) => ofEntries [(.str "expr", .str s)]
  | .map es => ofEntries es
  | _ => .fail .notModel

/-- The filter as entries. -/
def toEntries (f : Filter) : List (String × Doc) :=
  [("expr", .str f.expr), ("scope", .str f.scope.name), ("stop", .bool f.stop)]

/-- The filter as a mapping. -/
def toDoc (f : Filter) : Doc :=
  .ofFields f.toEntries

/-- Whether there is an expression. -/
def hasExpr (f : Filter) : Bool :=
  f.expr != ""

/-- Whether the expression matches the whole text. -/
def holds (f : Filter) (t : Text) : Bool :=
  Expression.matchesAll f.expr t

/-- Whether the filter applies to a phase. -/
def applies (f : Filter) (scope : Scope) : Bool :=
  f.scope == .all || f.scope == scope

/-- The outcome after one more filter. -/
def step (scope : Scope) (t : Text) (result : FilterResult) (f : Filter) : FilterResult :=
  if f.applies scope && f.hasExpr && f.holds t && result != .stop then (if f.stop then .stop else .skip) else result

/-- The outcome of filters for a text in a phase. -/
def applyAll (fs : List Filter) (t : Text) (scope : Scope) : FilterResult :=
  fs.foldl (step scope t) .none

end Filter

end Excerpt
