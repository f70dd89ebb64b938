import Excerpt.Text.Case

/-!
# Regular expressions

The syntax of backtracking expressions over characters: sets, sequences, ordered choice, captures, three kinds of
repetition, back references, assertions that look ahead or behind, atomic groups and conditionals. The options of a
scope (case, lines) are resolved into the leaves, so that an expression needs no environment to be read.
-/

namespace Excerpt

/-- How the case of a letter counts. -/
inductive CaseRule where
  | exact
  | ascii
  | unicode
deriving DecidableEq, Repr

/-- A named class of characters. -/
inductive CharKind where
  | digit
  | space
  | word
deriving DecidableEq, Repr

/-- A member of a set of characters; characters are given by their code points. -/
inductive SetItem where
  | char (code : Nat)
  | range (first last : Nat)
  | kind (kind : CharKind) (asciiOnly negated : Bool)
deriving DecidableEq, Repr

/-- A set of characters. -/
structure CharSet where
  negated : Bool
  items : List SetItem
  case : CaseRule
deriving DecidableEq, Repr

/-- A condition on a position. -/
inductive Anchor where
  | textStart
  | textEnd
  | lineStart
  | lineEnd
  | lastLineEnd
  | wordEdge (asciiOnly : Bool)
  | notWordEdge (asciiOnly : Bool)
deriving DecidableEq, Repr

/-- Which numbers of repetitions are tried first; a possessive repetition is never taken back. -/
inductive Greed where
  | greedy
  | lazy
  | possessive
deriving DecidableEq, Repr

/-- A regular expression. -/
inductive Regex where
  | empty
  | any (newlines : Bool)
  | set (s : CharSet)
  | anchor (a : Anchor)
  | seq (first second : Regex)
  | alt (first second : Regex)
  | group (index : Option Nat) (body : Regex)
  | loop (least : Nat) (most : Option Nat) (greed : Greed) (body : Regex)
  | backref (index : Nat) (case : CaseRule)
  | ahead (negated : Bool) (body : Regex)
  | behind (negated : Bool) (width : Nat) (body : Regex)
  | atomic (body : Regex)
  | ifGroup (index : Nat) (present absent : Regex)
deriving DecidableEq, Repr

namespace Regex

/-- The expressions one after another. -/
def ofList : List Regex → Regex
  | [] => .empty
  | [r] => r
  | r :: rs => .seq r (ofList rs)

/-- Whether the expression can be repeated no further, being a condition on a position. -/
def isAnchor : Regex → Bool
  | .anchor _ => true
  | _ => false

/-- Whether the expression is a repetition. -/
def isLoop : Regex → Bool
  | .loop .. => true
  | _ => false

/-- The least and the greatest number of characters that a match takes, the latter `none` without a bound; `known`
gives them for the groups that a back reference may name. -/
def width (known : Nat → Nat × Option Nat) : Regex → Nat × Option Nat
  | .empty | .anchor _ | .ahead .. | .behind .. => (0, some 0)
  | .any _ | .set _ => (1, some 1)
  | .seq a b =>
    let (l, h) := a.width known
    let (l', h') := b.width known
    (l + l', do return (← h) + (← h'))
  | .alt a b | .ifGroup _ a b =>
    let (l, h) := a.width known
    let (l', h') := b.width known
    (min l l', do return max (← h) (← h'))
  | .group _ a | .atomic a => a.width known
  | .loop least most _ a =>
    let (l, h) := a.width known
    let most' :=
      match h, most with
      | some 0, _ => some 0
      | some h, some m => some (h * m)
      | _, _ => none
    (l * least, most')
  | .backref n _ => known n

end Regex

end Excerpt
