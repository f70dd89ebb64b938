import Excerpt.Doc.Basic

/-!
# Shortest decimal text

A decimal number is held as the nearest binary fraction with 53 digits, ties to even. Its text has the fewest decimal
digits that read back to the same fraction, the nearest such digits if there are several. A point stands among the
digits for exponents from -4 to 15; otherwise the text has an exponent of at least two digits.
-/

namespace Excerpt.Number

/-- The quotient rounded to the nearest whole number, a half to the even one. -/
def roundDiv (num den : Nat) : Nat :=
  let q := num / den
  let r := num % den
  if 2 * r < den then q
  else if den < 2 * r then q + 1
  else if q % 2 = 0 then q
  else q + 1

/-- The fraction `num / den` times `2 ^ k`. -/
def scaleTwo (num den : Nat) (k : Int) : Nat × Nat :=
  if k < 0 then (num, den * Nat.pow 2 k.natAbs) else (num * Nat.pow 2 k.natAbs, den)

/-- The fraction `num / den` times `10 ^ k`. -/
def scaleTen (num den : Nat) (k : Int) : Nat × Nat :=
  if k < 0 then (num, den * Nat.pow 10 k.natAbs) else (num * Nat.pow 10 k.natAbs, den)

/-- The binary fraction `m · 2 ^ q` with 53 digits that is nearest to a positive `num / den`. -/
def nearest (num den : Nat) : Nat × Int :=
  let q₀ : Int := (num.log2 : Int) - den.log2 - 52
  let (a, b) := scaleTwo num den (-q₀)
  let q₁ := if a < Nat.pow 2 52 * b then q₀ - 1 else q₀
  let q := if q₁ < -1074 then -1074 else q₁
  let (a, b) := scaleTwo num den (-q)
  let m := roundDiv a b
  if m = Nat.pow 2 53 then (Nat.pow 2 52, q + 1) else (m, q)

/-- The exponent of the first decimal digit of a positive `num / den`, found upwards from `e`. -/
def leadingExponent (num den : Nat) : Nat → Int → Int
  | 0, e => e
  | fuel + 1, e =>
    let (a, b) := scaleTen num den (-(e + 1))
    if b ≤ a then leadingExponent num den fuel (e + 1) else e

/-- Whether `k · 10 ^ e` is nearest to the binary fraction `x`. -/
def readsBack (x : Nat × Int) (k : Nat) (e : Int) : Bool :=
  let (a, b) := scaleTen k 1 e
  a != 0 && nearest a b == x

/-- The fewest digits that read back to `x = num / den`, tried from `n` digits on, and the exponent of the last one. -/
def shortestFrom (x : Nat × Int) (num den : Nat) (e : Int) : Nat → Nat → Nat × Int
  | 0, n =>
    let (a, b) := scaleTen num den (n - 1 - e)
    (roundDiv a b, e - (n - 1))
  | fuel + 1, n =>
    let last : Int := e - (n - 1)
    let (a, b) := scaleTen num den (-last)
    let low := a / b
    let nearer := roundDiv a b
    let farther := if nearer = low then low + 1 else low
    if readsBack x nearer last then (nearer, last)
    else if readsBack x farther last then (farther, last)
    else shortestFrom x num den e fuel (n + 1)

/-- The digits without trailing zeros, and the exponent of the last one left. -/
def stripZeros : Nat → Nat → Int → Nat × Int
  | 0, k, e => (k, e)
  | fuel + 1, k, e => if k % 10 = 0 then stripZeros fuel (k / 10) (e + 1) else (k, e)

/-- Digits with the exponent of the last one, laid out with a point or an exponent. -/
def layout (k : Nat) (e : Int) : Text :=
  let ds := Text.ofNat k
  let lead : Int := e + ds.length - 1
  if -4 ≤ lead ∧ lead < 16 then
    if lead < 0 then "0.".toList ++ List.replicate (lead.natAbs - 1) '0' ++ ds
    else if 0 ≤ e then ds ++ List.replicate e.natAbs '0' ++ ".0".toList
    else ds.take (lead.natAbs + 1) ++ '.' :: ds.drop (lead.natAbs + 1)
  else
    let point : Text := if ds.length = 1 then [] else ['.']
    let sign : Char := if lead < 0 then '-' else '+'
    let exp := Text.ofNat lead.natAbs
    ds.take 1 ++ point ++ ds.drop 1 ++ 'e' :: sign :: List.replicate (2 - exp.length) '0' ++ exp

/-- The text of a decimal number. -/
def text (d : Decimal) : Text :=
  let sign : Text := if d.negative then ['-'] else []
  if d.digits = 0 then sign ++ "0.0".toList
  else
    let (num, den) := scaleTen d.digits 1 d.exponent
    let (m, q) := nearest num den
    if m = 0 then sign ++ "0.0".toList
    else if Nat.pow 2 53 ≤ m ∨ 971 < q then sign ++ "inf".toList
    else
      let (num, den) := scaleTwo m 1 q
      let start : Int := (Text.ofNat num).length - (Text.ofNat den).length - 1
      let e := leadingExponent num den 3 start
      let (k, last) := shortestFrom (m, q) num den e 17 1
      let (k, last) := stripZeros 20 k last
      sign ++ layout k last

end Excerpt.Number
