import Excerpt.Date.Stamp
import Excerpt.Regex.Parser

/-!
# Date patterns

A date pattern is a text in which directives such as `%Y` stand for the parts of a date, and the letters `c`, `x` and
`X` for patterns of their own. Blanks in the pattern match any white space, letters match without regard to case, and
the first way to match the pattern has to use up the whole text.

A day may be given by its month, by its number in the year, or by a week and a day of the week. What a pattern leaves
out is taken from the first moment of 1900.
-/

namespace Excerpt

/-- A part of a date or time, as the pattern names it. -/
inductive Directive where
  | year
  | yearOfCentury
  | isoYear
  | month
  | monthName
  | monthShort
  | day
  | dayOfYear
  | weekdayName
  | weekdayShort
  | weekdayNumber
  | isoWeekday
  | weekFromSunday
  | weekFromMonday
  | isoWeek
  | hour
  | hourOfHalf
  | half
  | minute
  | second
  | micro
  | offset
  | zone
deriving DecidableEq, Repr

namespace Directive

/-- All directives. -/
def all : List Directive :=
  [.year, .yearOfCentury, .isoYear, .month, .monthName, .monthShort, .day, .dayOfYear, .weekdayName, .weekdayShort,
    .weekdayNumber, .isoWeekday, .weekFromSunday, .weekFromMonday, .isoWeek, .hour, .hourOfHalf, .half,
    .minute, .second, .micro, .offset, .zone]

/-- The letter after the percent sign. -/
def letter : Directive → Char
  | .year => 'Y'
  | .yearOfCentury => 'y'
  | .isoYear => 'G'
  | .month => 'm'
  | .monthName => 'B'
  | .monthShort => 'b'
  | .day => 'd'
  | .dayOfYear => 'j'
  | .weekdayName => 'A'
  | .weekdayShort => 'a'
  | .weekdayNumber => 'w'
  | .isoWeekday => 'u'
  | .weekFromSunday => 'U'
  | .weekFromMonday => 'W'
  | .isoWeek => 'V'
  | .hour => 'H'
  | .hourOfHalf => 'I'
  | .half => 'p'
  | .minute => 'M'
  | .second => 'S'
  | .micro => 'f'
  | .offset => 'z'
  | .zone => 'Z'

/-- The directive of a letter. -/
def ofLetter? (c : Char) : Option Directive :=
  all.find? fun d => d.letter == c

/-- The names of months, with the short names as their first three letters. -/
def monthNames : List String :=
  ["january", "february", "march", "april", "may", "june", "july", "august", "september", "october", "november",
    "december"]

/-- The names of days, with the short names as their first three letters. -/
def weekdayNames : List String :=
  ["monday", "tuesday", "wednesday", "thursday", "friday", "saturday", "sunday"]

/-- The first three letters of a name. -/
def short (name : String) : String :=
  String.ofList (name.toList.take 3)

/-- One of several names. -/
def anyOf (names : List String) : String :=
  String.intercalate "|" names

/-- What the directive matches, as an expression without regard to case. -/
def expression : Directive → String
  | .year | .isoYear => "\\d\\d\\d\\d"
  | .yearOfCentury => "\\d\\d"
  | .month => "1[0-2]|0[1-9]|[1-9]"
  | .monthName => anyOf monthNames
  | .monthShort => anyOf (monthNames.map short)
  | .day => "3[0-1]|[1-2]\\d|0[1-9]|[1-9]| [1-9]"
  | .dayOfYear => "36[0-6]|3[0-5]\\d|[1-2]\\d\\d|0[1-9]\\d|00[1-9]|[1-9]\\d|0[1-9]|[1-9]"
  | .weekdayName => anyOf weekdayNames
  | .weekdayShort => anyOf (weekdayNames.map short)
  | .weekdayNumber => "[0-6]"
  | .isoWeekday => "[1-7]"
  | .weekFromSunday | .weekFromMonday => "5[0-3]|[0-4]\\d|\\d"
  | .isoWeek => "5[0-3]|0[1-9]|[1-4]\\d|\\d"
  | .hour => "2[0-3]|[0-1]\\d|\\d"
  | .hourOfHalf => "1[0-2]|0[1-9]|[1-9]"
  | .half => "am|pm"
  | .minute => "[0-5]\\d|\\d"
  | .second => "6[0-1]|[0-5]\\d|\\d"
  | .micro => "[0-9]\x7b1,6\x7d"
  | .offset => "[+-]\\d\\d:?[0-5]\\d(?::?[0-5]\\d(?:\\.\\d\x7b1,6\x7d)?)?|(?-i:Z)"
  | .zone => "utc|gmt"

/-- The expression of a directive as a group that is numbered by its letter. -/
def regex (d : Directive) : Regex :=
  let body := (Pattern.parse? ("(?i)".toList ++ d.expression.toList)).map (·.regex)
  .group (some d.letter.toNat) (body.getD .empty)

end Directive

/-- A part of a date pattern. -/
inductive DatePiece where
  | char (c : Char)
  | blanks
  | directive (d : Directive)
deriving DecidableEq, Repr

namespace DatePattern

/-- The pieces of a pattern in which letters after a percent sign stand for the given pieces, or `none` for a percent
sign that no such letter follows. -/
def piecesWith? (named? : Char → Option (List DatePiece)) : Text → Option (List DatePiece)
  | [] => some []
  | ['%'] => none
  | '%' :: '%' :: r => (piecesWith? named? r).map (.char '%' :: ·)
  | '%' :: c :: r => do
    let front ← named? c
    let ps ← piecesWith? named? r
    return front ++ ps
  | c :: r =>
    (piecesWith? named? r).map fun ps =>
      if Text.isSpace c then (if ps.head? == some .blanks then ps else .blanks :: ps) else .char c :: ps

/-- The piece that the letter of a directive stands for. -/
def directive? (c : Char) : Option (List DatePiece) :=
  (Directive.ofLetter? c).map fun d => [.directive d]

/-- The pattern that a letter stands for: a date with its time, a date, or a time. -/
def shorthand? : Char → Option String
  | 'c' => some "%a %b %d %H:%M:%S %Y"
  | 'x' => some "%m/%d/%y"
  | 'X' => some "%H:%M:%S"
  | _ => none

/-- The pieces that a letter stands for, of one directive or of a whole pattern. -/
def named? (c : Char) : Option (List DatePiece) :=
  match shorthand? c with
  | some p => piecesWith? directive? p.toList
  | none => directive? c

/-- The pieces of a pattern, or `none` for a percent sign that no directive follows. -/
def pieces? (t : Text) : Option (List DatePiece) :=
  piecesWith? named? t

/-- The directives of a pattern in order. -/
def directives (ps : List DatePiece) : List Directive :=
  ps.filterMap fun
    | .directive d => some d
    | _ => none

/-- Whether some directive stands twice. -/
def repeats (ps : List DatePiece) : Bool :=
  let ds := directives ps
  ds.any fun d => 1 < ds.count d

/-- What a piece matches. -/
def pieceRegex : DatePiece → Regex
  | .char c => .set ⟨false, [.char c.toNat], .unicode⟩
  | .blanks => .loop 1 none .greedy (.set ⟨false, [.kind .space false false], .exact⟩)
  | .directive d => d.regex

/-- A week of a year, where weeks begin on Sunday or on Monday. -/
structure Week where
  number : Nat
  fromSunday : Bool

/-- What the parts of a date are read into. -/
structure Parts where
  year : Option Nat
  month : Nat
  day : Nat
  dayOfYear : Option Nat
  weekday : Option Nat
  week : Option Week
  isoYear : Option Nat
  isoWeek : Option Nat
  hour : Nat
  minute : Nat
  second : Nat
  micro : Nat
  offset : Option Int

/-- The first moment of a year that is not given. -/
def Parts.initial : Parts :=
  ⟨none, 1, 1, none, none, none, none, none, 0, 0, 0, 0, none⟩

/-- The number of a name in a list, counted from zero. A long s matches as a letter and still spells no name. -/
def nameIndex? (names : List String) (t : Text) : Option Nat :=
  names.findIdx? (· == String.ofList (Text.toLower t))

/-- The hour of the day for an hour of half a day; without a half, the first one is meant. -/
def hourOfDay (hour : Nat) (half : Text) : Nat :=
  let h := hour % 12
  if Text.toLower half == "pm".toList then h + 12 else h

/-- The digits of an offset without its colons, or `none` if only the second colon of two is there or only the first. -/
def offsetDigits? (t : Text) : Option (Text × Text) :=
  let (whole, fraction) := (Text.cut? '.' t).getD (t, [])
  match whole with
  | [a, b, c, d] => some ([a, b, c, d], fraction)
  | [a, b, ':', c, d] => some ([a, b, c, d], fraction)
  | [a, b, c, d, e, f] => some ([a, b, c, d, e, f], fraction)
  | [a, b, ':', c, d, ':', e, f] => some ([a, b, c, d, e, f], fraction)
  | _ => none

/-- An offset in microseconds. -/
def offsetValue? : Text → Option Int
  | ['Z'] => some 0
  | sign :: t => do
    let (ds, fraction) ← offsetDigits? t
    let seconds :=
      3600 * Text.natValue (ds.take 2) + 60 * Text.natValue ((ds.drop 2).take 2) + Text.natValue (ds.drop 4)
    let micro := Text.natValue fraction * Nat.pow 10 (6 - fraction.length)
    let n : Int := 1000000 * seconds + micro
    return if sign = '-' then -n else n
  | [] => none

/-- The parts with the value of one directive; `half` is the half of the day that the text names. -/
def Parts.set? (p : Parts) (half : Text) (d : Directive) (t : Text) : Option Parts :=
  let n := Text.natValue t
  match d with
  | .year => some { p with year := some n }
  | .yearOfCentury => some { p with year := some (if n ≤ 68 then 2000 + n else 1900 + n) }
  | .isoYear => some { p with isoYear := some n }
  | .month => some { p with month := n }
  | .monthName => (nameIndex? Directive.monthNames t).map fun i => { p with month := 1 + i }
  | .monthShort => (nameIndex? (Directive.monthNames.map Directive.short) t).map fun i => { p with month := 1 + i }
  | .day => some { p with day := Text.natValue (Text.trim t) }
  | .dayOfYear => some { p with dayOfYear := some n }
  | .weekdayName => (nameIndex? Directive.weekdayNames t).map fun i => { p with weekday := some i }
  | .weekdayShort =>
    (nameIndex? (Directive.weekdayNames.map Directive.short) t).map fun i => { p with weekday := some i }
  | .weekdayNumber => some { p with weekday := some ((n + 6) % 7) }
  | .isoWeekday => some { p with weekday := some (n - 1) }
  | .weekFromSunday => some { p with week := some ⟨n, true⟩ }
  | .weekFromMonday => some { p with week := some ⟨n, false⟩ }
  | .isoWeek => some { p with isoWeek := some n }
  | .half => some p
  | .hour => some { p with hour := n }
  | .hourOfHalf => some { p with hour := hourOfDay n half }
  | .minute => some { p with minute := n }
  | .second => some { p with second := n }
  | .micro => some { p with micro := n * Nat.pow 10 (6 - t.length) }
  | .offset => (offsetValue? t).map fun o => { p with offset := some o }
  | .zone => some p

/-- The year in which days are counted: without a year, 29 February is looked up in a leap year. -/
def Parts.countingYear (p : Parts) : Nat :=
  p.year.getD (if p.month = 2 && p.day = 29 then 1904 else 1900)

/-- Whether the parts of weeks with 4 January fit together: their year needs the week and a day of it and does not go
with a day of the year, and the week needs that year. -/
def Parts.isCoherent (p : Parts) : Bool :=
  match p.isoYear with
  | some _ => p.dayOfYear.isNone && p.isoWeek.isSome && p.weekday.isSome
  | none => p.isoWeek.isNone

/-- The year and the number of a day in it that parts stand for, without regard to a month: a day of the year goes
first, and a day of the week needs a week. -/
def Parts.numbered? (p : Parts) : Option (Nat × Int) :=
  match p.dayOfYear, p.weekday, p.week with
  | some n, _, _ => some (p.countingYear, n)
  | none, some d, some w => some (p.countingYear, Calendar.dayOfWeek p.countingYear w.number d w.fromSunday)
  | none, some d, none => do
    let year ← p.isoYear
    let week ← p.isoWeek
    return (year, Calendar.dayOfIsoWeek year week d)
  | none, none, _ => none

/-- The year, month and day that parts stand for. A day that has a number goes before a month and a day. -/
def Parts.date? (p : Parts) : Option (Nat × Nat × Nat) :=
  match p.numbered? with
  | some (year, n) => Calendar.ofDayOfYear? year n
  | none => some (p.countingYear, p.month, p.day)

/-- The stamp that parts stand for, or `none` if there is no such day or time. A year that was set for the sake of 29
February is 1900 after all. -/
def Parts.stamp? (p : Parts) : Option Stamp := do
  guard p.isCoherent
  let (year, month, day) ← p.date?
  let year := if p.year.isNone && p.countingYear = 1904 then 1900 else year
  let s : Stamp := ⟨year, month, day, p.hour, p.minute, p.second, p.micro, p.offset⟩
  guard s.isValid
  return s

/-- The stamp that a text is, read by the pieces of a pattern. -/
def read? (ps : List DatePiece) (t : Text) : Option Stamp := do
  let found ← (Regex.ofList (ps.map pieceRegex)).run some (.start t)
  guard found.after.isEmpty
  let capture := fun d : Directive => (found.capture? d.letter.toNat).getD []
  let parts ← (directives ps).foldlM (fun p d => p.set? (capture .half) d (capture d)) Parts.initial
  parts.stamp?

end DatePattern

end Excerpt
