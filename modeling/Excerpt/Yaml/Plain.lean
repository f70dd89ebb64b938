import Excerpt.Date.Stamp
import Excerpt.Doc.Basic
import Excerpt.Doc.Json
import Excerpt.Regex.Matcher
import Excerpt.Regex.Parser

/-!
# What plain scalars stand for

A scalar without quotes is an empty value, a truth value, a number, a date or a string by its form. `CoreKind.ofPlain`
tells the kind and `CoreKind.value` gives the value.
-/

namespace Excerpt.Yaml

/-- Why a text cannot be read: it is not well formed, or a number or date in it does not exist. -/
inductive ReadFault where
  | malformed
  | impossible
deriving DecidableEq, Repr

/-- The kinds of scalars. -/
inductive CoreKind where
  | null
  | bool
  | int
  | float
  | timestamp
  | merge
  | default
  | str
deriving DecidableEq, Repr

namespace CoreKind

/-- The name of a kind in tags. -/
def name : CoreKind → String
  | .null => "null"
  | .bool => "bool"
  | .int => "int"
  | .float => "float"
  | .timestamp => "timestamp"
  | .merge => "merge"
  | .default => "value"
  | .str => "str"

/-- The kinds that a scalar can be given by a tag. -/
def tagged : List CoreKind :=
  [.null, .bool, .int, .float, .timestamp, .str]

/-- Whether a text has a form. -/
def hasForm (p : Option Pattern) (t : Text) : Bool :=
  (p.map (·.fullMatch t)).getD false

/-- The forms of integers: binary, octal, decimal, hexadecimal, and in base sixty. -/
def intForm : Option Pattern :=
  Pattern.parse?
    ("[-+]?0b[0-1_]+|[-+]?0[0-7_]+|[-+]?(?:0|[1-9][0-9_]*)|[-+]?0x[0-9a-fA-F_]+|" ++
      "[-+]?[1-9][0-9_]*(?::[0-5]?[0-9])+").toList

/-- The forms of numbers with a point. -/
def floatForm : Option Pattern :=
  Pattern.parse?
    ("[-+]?[0-9][0-9_]*\\.[0-9_]*(?:[eE][-+][0-9]+)?|\\.[0-9][0-9_]*(?:[eE][-+][0-9]+)?|" ++
      "[-+]?[0-9][0-9_]*(?::[0-5]?[0-9])+\\.[0-9_]*|[-+]?\\.(?:inf|Inf|INF)|\\.(?:nan|NaN|NAN)").toList

/-- The forms of dates and times. -/
def timestampForm : Option Pattern :=
  Pattern.parse?
    ("([0-9]{4})-([0-9][0-9]?)-([0-9][0-9]?)(?:(?:[Tt]|[ \\t]+)([0-9][0-9]?):([0-9][0-9]):([0-9][0-9])" ++
      "(?:\\.([0-9]*))?(?:[ \\t]*(Z|([-+])([0-9][0-9]?)(?::([0-9][0-9]))?))?)?").toList

/-- The words for an empty value. -/
def nullWords : List String :=
  ["", "~", "null", "Null", "NULL"]

/-- The words for truth values. -/
def boolWords : List (String × Bool) :=
  [("yes", true), ("Yes", true), ("YES", true), ("no", false), ("No", false), ("NO", false), ("true", true),
  ("True", true),
    ("TRUE", true), ("false", false), ("False", false), ("FALSE", false), ("on", true), ("On", true), ("ON", true),
    ("off", false), ("Off", false), ("OFF", false)]

/-- Whether a text is a date in digits, or a date and a time. -/
def isTimestamp (t : Text) : Bool :=
  hasForm timestampForm t && (t.length == 10 || t.any fun c => c == ':')

/-- The kind of a plain scalar. -/
def ofPlain (t : Text) : CoreKind :=
  let s := String.ofList t
  if nullWords.contains s then .null
  else if (boolWords.lookup s).isSome then .bool
  else if hasForm intForm t then .int
  else if hasForm floatForm t then .float
  else if isTimestamp t then .timestamp
  else if s == "<<" then .merge
  else if s == "=" then .default
  else .str

/-! ## Numbers -/

/-- The sign of a number and what follows it. -/
def sign : Text → Bool × Text
  | '-' :: r => (true, r)
  | '+' :: r => (false, r)
  | r => (false, r)

/-- The value of digits in a base; there has to be one. -/
def digitsIn? (base : Nat) (t : Text) : Option Nat :=
  if t.isEmpty then none
  else t.foldlM (fun n c => (Json.hexValue? c).bind fun d => if d < base then some (n * base + d) else none) 0

/-- The value of decimal parts in base sixty. -/
def baseSixty? (parts : List Text) : Option Nat :=
  parts.foldlM (fun n p => (digitsIn? 10 p).map fun d => n * 60 + d) 0

/-- The value of an integer without its sign. -/
def magnitude? : Text → Option Nat
  | ['0'] => some 0
  | '0' :: 'b' :: r => digitsIn? 2 r
  | '0' :: 'x' :: r => digitsIn? 16 r
  | '0' :: r => digitsIn? 8 r
  | t => if t.contains ':' then baseSixty? (Text.splitOn ':' t) else digitsIn? 10 t

/-- The value of an integer. -/
def int? (t : Text) : Option Int :=
  let (negative, r) := sign (t.filter (· != '_'))
  (magnitude? r).map fun n => if negative then -(n : Int) else n

/-- The decimal number of its whole part, its fraction and its exponent. -/
def decimal? (negative : Bool) (whole fraction : Text) (exponent : Int) : Option Scalar := do
  let n ← digitsIn? 10 (whole ++ fraction)
  return .decimal ⟨negative, n, exponent - fraction.length⟩

/-- The value of a number with a point or an exponent. -/
def float? (t : Text) : Option Scalar :=
  let (negative, r) := sign ((t.filter (· != '_')).map Char.toLower)
  if r == ".inf".toList then some (.infinity negative)
  else if r == ".nan".toList then some .notANumber
  else
    let (mantissa, exponent) := r.span (· != 'e')
    let (whole, fraction) := mantissa.span (· != '.')
    match exponent with
    | [] =>
      if whole.contains ':' then do
        let n ← baseSixty? (Text.splitOn ':' whole)
        decimal? negative (Text.ofNat n) (fraction.drop 1) 0
      else decimal? negative whole (fraction.drop 1) 0
    | _ :: e =>
      let (below, digits) := sign e
      (digitsIn? 10 digits).bind fun n => decimal? negative whole (fraction.drop 1) (if below then -(n : Int) else n)

/-! ## Dates -/

/-- The offset of a date and time in microseconds, by its groups. -/
def offset (o : Occurrence) : Option Int :=
  if (o.group 8).isEmpty then none
  else
    let minutes := Text.natValue (o.group 10) * 60 + Text.natValue (o.group 11)
    let n : Int := minutes * 60000000
    some (if o.group 9 == ['-'] then -n else n)

/-- The microseconds of a fraction of a second. -/
def micro (t : Text) : Nat :=
  let ds := t.take 6
  Text.natValue ds * Nat.pow 10 (6 - ds.length)

/-- The value of a date, or of a date and a time. -/
def timestamp? (t : Text) : Option Scalar := do
  let p ← timestampForm
  let o ← p.find? t
  let n := fun i => Text.natValue (o.group i)
  let stamp : Stamp := ⟨n 1, n 2, n 3, n 4, n 5, n 6, micro (o.group 7), offset o⟩
  guard stamp.isValid
  if (o.group 4).isEmpty then return .date (String.ofList (stamp.iso.take 10))
  else return .stamp (String.ofList stamp.iso)

/-! ## Values -/

/-- A value that has to exist. -/
def orImpossible (s : Option Scalar) : Except ReadFault Doc :=
  match s with
  | some s => .ok (.scalar s)
  | none => .error .impossible

/-- The value of a scalar of a kind. -/
def value (kind : CoreKind) (t : Text) : Except ReadFault Doc :=
  match kind with
  | .null => .ok .null
  | .bool =>
    match boolWords.lookup (String.ofList (Text.trim t |>.map Char.toLower)) with
    | some b => .ok (.bool b)
    | none => .error .malformed
  | .int => orImpossible ((int? t).map Scalar.int)
  | .float => orImpossible (float? t)
  | .timestamp => if hasForm timestampForm t then orImpossible (timestamp? t) else .error .malformed
  | .str => .ok (.text t)
  | .merge | .default => .error .malformed

end CoreKind

end Excerpt.Yaml
