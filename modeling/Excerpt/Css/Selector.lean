import Excerpt.Css.State

/-!
# CSS selectors

A selector is a list of alternatives; each is a chain of compounds joined by combinators, and a compound is a list of
tests on one element. `Css.select` gives the places below a place that match, in document order; ancestors and siblings
outside the place count for combinators.
-/

namespace Excerpt.Css

/-- How two elements of a chain are related. -/
inductive Combinator where
  | descendant
  | child
  | adjacent
  | sibling
deriving DecidableEq, Repr

/-- How the value of an attribute is compared. -/
inductive ValueTest where
  | present
  | equal
  | starting
  | ending
  | containing
  | word
  | dashed
deriving DecidableEq, Repr

/-- A test on an attribute; its name is in lower case. -/
structure AttrTest where
  name : String
  test : ValueTest
  value : Text
  ignoreCase : Bool
deriving DecidableEq, Repr

/-- The numbers `step · k + start` for `k` from zero on. -/
structure Series where
  step : Int
  start : Int
deriving DecidableEq, Repr

/-- Which number of an element is meant: among its siblings from the front or the back, or among those of its tag. -/
structure Counting where
  fromBack : Bool
  ofTag : Bool
deriving DecidableEq, Repr

mutual

/-- A test on one element. -/
inductive Test where
  | tag (name : String)
  | anyTag
  | noNamespace
  | id (name : String)
  | cls (name : String)
  | attr (a : AttrTest)
  | root
  | scope
  | empty
  | never
  | defined
  | firstSubmit
  | unchosen
  | unfilled
  | bounded (inside : Bool)
  | language (ranges : List Text)
  | direction (d : Direction)
  | mentions (own : Bool) (texts : List Text)
  | nth (series : Series) (counting : Counting) (among : List Chain)
  | oneOf (alternatives : List Chain)
  | noneOf (alternatives : List Chain)
  | having (alternatives : List Lookahead)

/-- A compound, or a chain that ends in one. -/
inductive Chain where
  | only (tests : List Test)
  | join (earlier : Chain) (c : Combinator) (tests : List Test)

/-- A chain that starts from an element and leads away from it. -/
inductive Lookahead where
  | only (c : Combinator) (tests : List Test)
  | join (c : Combinator) (tests : List Test) (later : Lookahead)

end

/-- Whether a number is in a series. -/
def Series.has (s : Series) (n : Nat) : Bool :=
  let d : Int := n - s.start
  if s.step == 0 then d == 0 else d % s.step == 0 && 0 ≤ d / s.step

/-- Whether a value passes the comparison. -/
def AttrTest.accepts (a : AttrTest) (value : Text) : Bool :=
  match a.test with
  | .present => true
  | .equal => equals a.ignoreCase a.value value
  | .starting => startsWith a.ignoreCase a.value value
  | .ending => endsWith a.ignoreCase a.value value
  | .containing => contains a.ignoreCase a.value value
  | .word =>
    !a.value.isEmpty && !a.value.any isBlank && (blankWords value).any (sameText a.ignoreCase a.value)
  | .dashed => equals a.ignoreCase a.value value || startsWith a.ignoreCase (a.value ++ ['-']) value

/-! ## Matching -/

/-- What a selector is evaluated in: the paths of the root element and of the scope, if there are such elements. -/
structure Setting where
  root : Option (List Nat)
  scope : Option (List Nat)

/-- Whether only blanks, comments and instructions stand beside an element. -/
def standsAlone (p : Place) : Bool :=
  (p.earlier ++ p.later).all fun q =>
    match q.node with
    | .element .. => false
    | .text _ s => Text.isBlank s
    | _ => true

/-- The siblings that an element is counted with: itself and the ones before it, or after it. -/
def countedWith (p : Place) (c : Counting) : List Place :=
  let siblings := onlyElements (if c.fromBack then p.later else p.earlier)
  p :: (if c.ofTag then siblings.filter fun q => hasTag q.node (p.node.tag?.getD "") else siblings)

/-- The places that a combinator leads back to. -/
def Combinator.back (p : Place) : Combinator → List Place
  | .descendant => p.ancestors
  | .child => p.parent?.toList
  | .adjacent => (onlyElements p.earlier).take 1
  | .sibling => onlyElements p.earlier

/-- The places that a combinator leads on to. -/
def Combinator.ahead (p : Place) : Combinator → List Place
  | .descendant => onlyElements p.descendants
  | .child => onlyElements p.children
  | .adjacent => (onlyElements p.later).take 1
  | .sibling => onlyElements p.later

mutual

/-- Whether an element passes a test. -/
def Test.holds (env : Setting) (p : Place) : Test → Bool
  | .tag name => hasTag p.node name
  | .anyTag => true
  | .noNamespace => false
  | .id name => hasId p.node name
  | .cls name => (classes p.node).contains name
  | .attr a =>
    match attribute? p.node a.name with
    | some v => a.accepts v.text
    | none => false
  | .root => env.root == some p.path && standsAlone p
  | .scope => env.scope == some p.path
  | .empty => isEmptyElement p.node
  | .never => false
  | .defined => isDefined p.node
  | .firstSubmit => isFirstSubmit p
  | .unchosen => isUnchosen p
  | .unfilled => isUnfilled p.node
  | .bounded inside => (isOutside? p.node).any (· != inside)
  | .language ranges => speaks ranges p
  | .direction d => direction? env.root p == some d
  | .mentions own texts => holdsText own texts p.node
  | .nth series counting among =>
    match among with
    | [] => series.has (countedWith p counting).length
    | c :: cs =>
      let holds := fun q => c.holds env q || anyHolds env q cs
      holds p && series.has ((countedWith p counting).filter holds).length
  | .oneOf cs => anyHolds env p cs
  | .noneOf cs => !anyHolds env p cs
  | .having ls => anyAhead env p ls

/-- Whether an element passes every test. -/
def allHold (env : Setting) (p : Place) : List Test → Bool
  | [] => true
  | t :: ts => t.holds env p && allHold env p ts

/-- Whether an element is the last one of a chain. -/
def Chain.holds (env : Setting) (p : Place) : Chain → Bool
  | .only ts => allHold env p ts
  | .join earlier c ts => allHold env p ts && (c.back p).any fun q => earlier.holds env q

/-- Whether an element is the last one of some chain. -/
def anyHolds (env : Setting) (p : Place) : List Chain → Bool
  | [] => false
  | c :: cs => c.holds env p || anyHolds env p cs

/-- Whether a chain leads away from an element. -/
def Lookahead.holds (env : Setting) (p : Place) : Lookahead → Bool
  | .only c ts => (c.ahead p).any fun q => allHold env q ts
  | .join c ts later => (c.ahead p).any fun q => allHold env q ts && later.holds env q

/-- Whether some chain leads away from an element. -/
def anyAhead (env : Setting) (p : Place) : List Lookahead → Bool
  | [] => false
  | l :: ls => l.holds env p || anyAhead env p ls

end

/-- The path of the first element of the document. -/
def rootPath (document : Node) : Option (List Nat) :=
  (document.children.findIdx? (·.isElement)).map ([·])

/-- The setting of a selection below a place: the scope is the place, or the root element for the document itself. -/
def Setting.of (p : Place) : Setting :=
  let root := rootPath p.root
  ⟨root, if p.trail.isEmpty then root else some p.path⟩

/-- The places below a place that match one of the chains, in document order. -/
def select (cs : List Chain) (p : Place) : List Place :=
  let env := Setting.of p
  p.descendants.filter fun q => q.node.isElement && anyHolds env q cs

end Excerpt.Css
