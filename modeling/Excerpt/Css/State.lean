import Excerpt.Css.Element
import Excerpt.Date.Stamp
import Excerpt.Number.Shortest
import Excerpt.Regex.Matcher
import Excerpt.Regex.Parser

/-!
# States of elements

What selectors ask of an element beyond its tag, its attributes and its place among others: the state of a control in
its form, the value of a control within its bounds, the language, the direction of writing, and the texts in it.
-/

namespace Excerpt.Css

/-- The value of an attribute in small letters; empty without the attribute. -/
def smallValue (n : Node) (name : String) : Text :=
  (((attribute? n name).map (·.text)).getD []).map Char.toLower

/-- Whether an element is no custom one: its name has no hyphen, or it has a colon. -/
def isDefined (n : Node) : Bool :=
  match n.tag? with
  | some tag => !tag.toList.contains '-' || tag.toList.contains ':'
  | none => false

/-! ## Forms -/

/-- The form around a place. -/
def form? (p : Place) : Option Place :=
  p.ancestors.find? fun q => hasTag q.node "form"

/-- The form around a place, or else the outermost element. -/
def formOrTop? (p : Place) : Option Place :=
  form? p <|> p.ancestors.getLast?

/-- Whether an element submits a form. -/
def isSubmit (n : Node) : Bool :=
  (hasTag n "input" || hasTag n "button") && smallValue n "type" == "submit".toList

/-- Whether an element is the first one to submit the form around it; a form inside ends the search. -/
def isFirstSubmit (p : Place) : Bool :=
  match form? p with
  | none => false
  | some form =>
    let before := (onlyElements form.descendants).takeWhile fun q => !hasTag q.node "form"
    (before.find? fun q => isSubmit q.node).map Place.path == some p.path

/-- Whether an element is a checked radio button with a name. -/
def isChosen (name : Text) (n : Node) : Bool :=
  hasTag n "input" && smallValue n "type" == "radio".toList && (attribute? n "checked").isSome &&
    (attribute? n "name").map (·.text) == some name

/-- Whether no other radio button with the name of this one is checked in its form. -/
def isUnchosen (p : Place) : Bool :=
  let name := ((attribute? p.node "name").map (·.text)).getD []
  let home := fun q : Place => (formOrTop? q).map Place.path
  match formOrTop? p with
  | none => true
  | some form =>
    !(onlyElements form.descendants).any fun q => q.path != p.path && isChosen name q.node && home q == home p

/-! ## Bounds of controls -/

/-- The integer that stands for a decimal number held as a binary fraction: its multiple of the least such fraction. -/
def binaryScaled (d : Decimal) : Int :=
  let size : Nat :=
    if d.digits = 0 then 0
    else
      let (num, den) := Number.scaleTen d.digits 1 d.exponent
      let (m, q) := Number.nearest num den
      min (m * Nat.pow 2 (q + 1074).toNat) (Nat.pow 2 2098)
  if d.negative then -size else size

/-- The number of the last week of a year, 53 if the last day is in the first week of the next one. -/
def lastWeek (year : Nat) : Nat :=
  let days := Calendar.daysInYear year
  let weekday := (Calendar.firstWeekday year + days - 1) % 7
  if weekday < 3 then 53 else (days + 2 - weekday) / 7 + 1

/-- Whether numbers are a day, a month, a week or a time, by the kind of control they stand in. -/
def areValid : String → List Nat → Bool
  | "date", [y, m, d] => 1 ≤ y && 1 ≤ m && m ≤ 12 && 1 ≤ d && d ≤ Calendar.daysInMonth y m
  | "month", [y, m] => 1 ≤ y && 1 ≤ m && m ≤ 12
  | "week", [y, w] => 1000 ≤ y && y ≤ 9999 && 1 ≤ w && w ≤ lastWeek y
  | "time", [h, m] => h ≤ 23 && m ≤ 59
  | "datetime-local", [y, m, d, h, n] =>
    1 ≤ y && 1 ≤ m && m ≤ 12 && 1 ≤ d && d ≤ Calendar.daysInMonth y m && h ≤ 23 && n ≤ 59
  | _, _ => false

/-- The written form of numbers in a kind of control, and how many there are. -/
def controlForm? : String → Option (String × Nat)
  | "date" => some ("^([0-9][0-9][0-9][0-9]+)-([0-9][0-9])-([0-9][0-9])$", 3)
  | "month" => some ("^([0-9][0-9][0-9][0-9]+)-([0-9][0-9])$", 2)
  | "week" => some ("^([0-9][0-9][0-9][0-9]+)-W([0-9][0-9])$", 2)
  | "time" => some ("^([0-9][0-9]):([0-9][0-9])$", 2)
  | "datetime-local" => some ("^([0-9][0-9][0-9][0-9]+)-([0-9][0-9])-([0-9][0-9])T([0-9][0-9]):([0-9][0-9])$", 5)
  | _ => none

/-- The value of a number control: a sign, digits, and digits after a point. -/
def numberValue? (t : Text) : Option Int := do
  let pattern ← Pattern.parse? "^(-)?([0-9]+(?:\\.[0-9]+)?|\\.[0-9]+)$".toList
  let o ← pattern.find? t
  let (whole, fraction) := (Text.cut? '.' (o.group 2)).getD (o.group 2, [])
  return binaryScaled ⟨o.group 1 == ['-'], Text.natValue (whole ++ fraction), -(fraction.length : Int)⟩

/-- The value of a control of a kind, as numbers of which the first ones count most. -/
def controlValue? (kind : String) (t : Text) : Option (List Int) :=
  if kind == "number" || kind == "range" then (numberValue? t).map ([·])
  else do
    let (form, count) ← controlForm? kind
    let pattern ← Pattern.parse? form.toList
    let o ← pattern.find? t
    let ns := (List.range count).map fun i => Text.natValue (o.group (i + 1))
    guard (areValid kind ns)
    return ns.map Int.ofNat

/-- Whether a value is less than another of the same kind. -/
def isLess : List Int → List Int → Bool
  | a :: as, b :: bs => a < b || (a == b && isLess as bs)
  | _, _ => false

/-- Whether the value of a control lies outside of its bounds, if it has any. Bounds of a time in reverse order leave
out what is between them. -/
def isOutside? (n : Node) : Option Bool :=
  let kind := String.ofList (smallValue n "type")
  let number? := fun name => (attribute? n name).bind fun v => controlValue? kind v.text
  let least := number? "min"
  let greatest := number? "max"
  if least.isNone && greatest.isNone then none
  else
    match number? "value" with
    | none => some false
    | some v =>
      let below := (least.map (isLess v ·)).getD false
      let above := (greatest.map (isLess · v)).getD false
      let reversed := ((least.bind fun l => greatest.map (isLess · l))).getD false
      some (if kind == "time" && reversed then below && above else below || above)

/-! ## Texts -/

mutual

/-- All texts in a node, in document order. -/
def allText : Node → Text
  | .text _ s => s
  | .element _ _ ns => allTextIn ns
  | _ => []

/-- All texts in several nodes. -/
def allTextIn : List Node → Text
  | [] => []
  | n :: ns => allText n ++ allTextIn ns

end

/-- The texts that are children of a node. -/
def ownTexts (n : Node) : List Text :=
  n.children.filterMap fun
    | .text _ s => some s
    | _ => none

/-- Whether an element holds no text, or one line break. -/
def isUnfilled (n : Node) : Bool :=
  allText n == [] || allText n == ['\n']

/-- Whether one of several texts occurs in an element: in one of its own texts, or in all its text. -/
def holdsText (own : Bool) (texts : List Text) (n : Node) : Bool :=
  texts.any fun t => if own then (ownTexts n).any (contains false t) else contains false t (allText n)

/-! ## Languages -/

/-- The children of a place that have a tag. -/
def childrenTagged (tag : String) (p : Place) : List Place :=
  p.children.filter fun q => hasTag q.node tag

/-- The language that a `meta` element in the head of the page names. -/
def pageLanguage? (p : Place) : Option Text := do
  let html ← (childrenTagged "html" ((p.ancestors.getLast?).getD p)).head?
  let head ← (childrenTagged "head" html).head?
  (childrenTagged "meta" head).findSome? fun q =>
    if smallValue q.node "http-equiv" == "content-language".toList then
      ((attribute? q.node "content").map (·.text)).filter fun t => !t.isEmpty
    else none

/-- The language of an element: the first one named on the way up, an empty one only for want of another, or else that
of the page. -/
def language? (p : Place) : Option Text :=
  let named := (p :: p.ancestors).filterMap fun q => (attribute? q.node "lang").map (·.text)
  match named.find? fun t => !t.isEmpty with
  | some t => some t
  | none => if named.isEmpty then pageLanguage? p else some []

/-- The parts of a range of languages. A star stands for any first part; further ones are left out, but at the end they
leave an empty part. -/
def rangeParts (range : Text) : List Text :=
  match Text.splitOn '-' (Text.toLower range) with
  | [] => []
  | r :: rs => r :: rs.filter (· != ['*']) ++ (if rs.getLast? == some ['*'] then [[]] else [])

/-- Whether the further parts of a range occur in order among those of a language, with no part of one letter passed
over. -/
def partsOccur : List Text → List Text → Bool
  | [], _ => true
  | _ :: _, [] => false
  | r :: rs, s :: ss =>
    if r.isEmpty then false
    else if s == r then partsOccur rs ss
    else s.length != 1 && partsOccur (r :: rs) ss

/-- Whether a language lies in a range. -/
def isInRange (range language : Text) : Bool :=
  match rangeParts range, Text.splitOn '-' (Text.toLower language) with
  | r :: rs, s :: ss =>
    if r.isEmpty && rs.isEmpty && s.isEmpty && ss.isEmpty then true
    else (if r == ['*'] then !(s.isEmpty && ss.isEmpty) else r == s) && partsOccur rs ss
  | _, _ => false

/-- Whether the language of an element lies in one of several ranges. -/
def speaks (ranges : List Text) (p : Place) : Bool :=
  match language? p with
  | some l => ranges.any fun r => isInRange r l
  | none => false

/-! ## Directions -/

/-- A direction of writing. -/
inductive Direction where
  | leftToRight
  | rightToLeft
deriving DecidableEq, Repr

/-- The direction that a letter is written in. -/
def Direction.ofChar? (c : Char) : Option Direction :=
  if Text.isLeftToRight c then some .leftToRight
  else if Text.isRightToLeft c then some .rightToLeft
  else none

/-- The direction of the first letter of a text that has one. -/
def Direction.ofText? (t : Text) : Option Direction :=
  t.findSome? Direction.ofChar?

/-- What an element says about its direction: one direction, or that its text decides. -/
inductive DirectionSign where
  | fixed (d : Direction)
  | byText
deriving DecidableEq, Repr

/-- What the `dir` attribute of an element says. -/
def directionSign? (n : Node) : Option DirectionSign :=
  let value := smallValue n "dir"
  if value == "ltr".toList then some (.fixed .leftToRight)
  else if value == "rtl".toList then some (.fixed .rightToLeft)
  else if value == "auto".toList then some .byText
  else none

/-- Elements whose texts do not count for the direction of the element around. -/
def isDirectionless (n : Node) : Bool :=
  ["bdi", "script", "style", "textarea", "iframe"].any (hasTag n) || (directionSign? n).isSome

mutual

/-- The direction of the texts in a node. -/
def textDirection? : Node → Option Direction
  | .text _ s => Direction.ofText? s
  | .element tag as ns => if isDirectionless (.element tag as ns) then none else textDirectionIn? ns
  | _ => none

/-- The direction of the texts in several nodes. -/
def textDirectionIn? : List Node → Option Direction
  | [] => none
  | n :: ns => textDirection? n <|> textDirectionIn? ns

end

/-- Types of inputs that a text is put into. -/
def textTypes : List Text :=
  ["text", "search", "tel", "url", "email"].map String.toList

/-- The text that is put into a control, if it is a control for texts. -/
def filledIn? (n : Node) : Option Text :=
  if hasTag n "textarea" then some (ownTexts n).flatten
  else if hasTag n "input" && textTypes.contains (smallValue n "type") then
    some (((attribute? n "value").map (·.text)).getD [])
  else none

/-- The direction of writing that an element settles: by its attribute, by the texts in it if they decide, or because it
is the root or takes a telephone number. -/
def settledDirection? (isRoot : Bool) (n : Node) : Option Direction :=
  let byDefault := if isRoot then some .leftToRight else none
  match directionSign? n with
  | some (.fixed d) => some d
  | some .byText =>
    match filledIn? n with
    | some [] => byDefault
    | some t => some ((Direction.ofText? t).getD .leftToRight)
    | none => textDirectionIn? n.children <|> byDefault
  | none =>
    if isRoot || (hasTag n "input" && smallValue n "type" == "tel".toList) then some .leftToRight
    else if hasTag n "bdi" then textDirectionIn? n.children
    else none

/-- The direction of writing of an element, that of the nearest element which settles one; `root` is the path of the
root element. -/
def direction? (root : Option (List Nat)) (p : Place) : Option Direction :=
  (p :: p.ancestors).findSome? fun q => settledDirection? (root == some q.path) q.node

end Excerpt.Css
