import Excerpt.Regex.Parser
import Excerpt.Text.Quoted

/-!
# Expressions of rules

A rule holds a regular expression as it was written. It is accepted if it is not too long, holds no repeated group with
a repetition inside, the usual cause of runaway matching, and can be read. The empty expression stands for no pattern.

A defect is said in words, but for one: a count that the matcher cannot hold is not foreseen where expressions are
compiled.
-/

namespace Excerpt

/-- Why an expression is refused. -/
inductive ExpressionDefect where
  | tooLong (limit : Int) (expr : Text)
  | nestedRepetition (expr : Text)
  | malformed (expr : Text)
  | unfit
  | countTooLarge
deriving DecidableEq, Repr

/-- The message for a refused expression, up to the text of the reader that refused it. -/
def ExpressionDefect.message? : ExpressionDefect → Option Text
  | .tooLong limit expr =>
    some ("Expression exceeds ".toList ++ (toString limit).toList ++ " characters: ".toList ++
      expr.take 40 ++ "...".toList)
  | .nestedRepetition expr => some ("Expression contains a nested quantifier: ".toList ++ expr)
  | .malformed expr => some ("Invalid regular expression ".toList ++ Text.quoted expr ++ ": ".toList)
  | .unfit => some []
  | .countTooLarge => none

/-- The defect of an expression that is not read. -/
def ExpressionDefect.ofRefusal (expr : Text) : Regex.Refusal → ExpressionDefect
  | .malformed => .malformed expr
  | .unfit => .unfit
  | .countTooLarge => .countTooLarge

namespace Expression

/-- Whether a repetition sign follows: a star, a plus, or braces with a comma between optional digits. -/
def repetitionFollows : Text → Bool
  | '*' :: _ | '+' :: _ => true
  | '\x7b' :: r =>
    match r.dropWhile Text.isDecimal with
    | ',' :: r => (r.dropWhile Text.isDecimal).head? == some '\x7d'
    | _ => false
  | _ => false

/-- Whether, after an opening parenthesis, a star or plus, then the closing parenthesis and a repetition sign follow
with no other parenthesis between; `seen` says that a star or plus has been met. -/
def repeatedGroupFollows (seen : Bool) : Text → Bool
  | [] | ['\\'] | '(' :: _ => false
  | '\\' :: c :: r => c != '\n' && repeatedGroupFollows seen r
  | ')' :: r => seen && repetitionFollows r
  | c :: r => repeatedGroupFollows (seen || c == '*' || c == '+') r

/-- Whether some group without inner parentheses holds a repetition and is repeated. -/
def hasNestedRepetition : Text → Bool
  | [] => false
  | c :: r => (c == '(' && repeatedGroupFollows false r) || hasNestedRepetition r

/-- Refuses an expression that is too long or holds a nested repetition. -/
def check (limit : Int) (expr : Text) : Except ExpressionDefect Unit :=
  if limit < expr.length then .error (.tooLong limit expr)
  else if hasNestedRepetition expr then .error (.nestedRepetition expr)
  else .ok ()

/-- The pattern of an accepted expression, none for the empty one. -/
def compile (limit : Int) (expr : Text) : Except ExpressionDefect (Option Pattern) :=
  if expr.isEmpty then .ok none
  else
    match check limit expr with
    | .error e => .error e
    | .ok () =>
      match Pattern.parse expr with
      | .error e => .error (.ofRefusal expr e)
      | .ok p => .ok (some p)

/-- The pattern of an expression that has been accepted before. -/
def pattern? (expr : Text) : Option Pattern :=
  if expr.isEmpty then none else Pattern.parse? expr

end Expression

end Excerpt
