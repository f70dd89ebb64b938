import Excerpt.Expression
import Excerpt.Rule.Decoded
import Excerpt.Settings

/-!
# Expressions in documents

The expressions of filters, conditions and extractors are checked when the rule is read and held as they were written.
-/

namespace Excerpt

/-- An expression that is accepted under the limit of the settings. -/
def Decoded.expression (d : Doc) : Decoded String :=
  (Decoded.string d).andThen fun s =>
    match Expression.compile Settings.default.maxExpressionLength s.toList with
    | .ok _ => .ok s
    | .error e =>
      match e.message? with
      | some m => .fail (.invalid m)
      | none => .halted .countTooLarge

/-- Whether an expression matches the whole of a text; the empty one matches nothing. -/
def Expression.matchesAll (expr : String) (t : Text) : Bool :=
  match Expression.pattern? expr.toList with
  | some p => p.fullMatch t
  | none => false

end Excerpt
