import Excerpt.Rule.Choice
import Excerpt.Rule.Expr

/-!
# Conditions

Conditions decide whether a text is accepted: the first one whose expression matches the whole text says so.
-/

namespace Excerpt

/-- A condition; one with an empty expression is passed over. -/
structure Condition where
  expr : String
  action : Verdict
deriving DecidableEq, Repr

namespace Condition

/-- A condition from a mapping. -/
def ofEntries (es : Doc.Entries) : Decoded Condition :=
  Condition.mk <$> es.attrOr "expr" "" Decoded.expression
    <*> es.attrOr "action" .accept (Decoded.member Verdict.members Verdict.name)

/-- A condition from its expression or from a mapping. -/
def ofDoc : Doc → Decoded Condition
  | .scalar (.str s) => ofEntries [(.str "expr", .str s)]
  | .map es => ofEntries es
  | _ => .fail .notModel

/-- The condition as entries. -/
def toEntries (c : Condition) : List (String × Doc) :=
  [("expr", .str c.expr), ("action", .str c.action.name)]

/-- The condition as a mapping. -/
def toDoc (c : Condition) : Doc :=
  .ofFields c.toEntries

/-- Whether there is an expression. -/
def hasExpr (c : Condition) : Bool :=
  c.expr != ""

/-- Whether the expression matches the whole text. -/
def holds (c : Condition) (t : Text) : Bool :=
  Expression.matchesAll c.expr t

/-- Whether the conditions accept a text; they do not if none matches. -/
def accepts (cs : List Condition) (t : Text) : Bool :=
  match cs.find? fun c => c.hasExpr && c.holds t with
  | some c => c.action == .accept
  | none => false

end Condition

end Excerpt
