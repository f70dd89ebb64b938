import Excerpt.Text.Basic

/-!
# Quoted text

Messages show a text between quotes: single ones, or double ones if it holds a single quote and no double one. The
quote itself, the backslash and the characters without a visible form are escaped.
-/

namespace Excerpt.Text

/-- The lower-case hexadecimal digits of a number, at least `width` of them. -/
def hexDigits (width n : Nat) : Text :=
  let ds := Nat.toDigits 16 n
  List.replicate (width - ds.length) '0' ++ ds

/-- One character inside the given quotes. -/
def escapeChar (quote c : Char) : Text :=
  if c = quote ∨ c = '\\' then ['\\', c]
  else if c = '\n' then ['\\', 'n']
  else if c = '\r' then ['\\', 'r']
  else if c = '\t' then ['\\', 't']
  else if isPrintable c then [c]
  else if c.toNat < 0x100 then '\\' :: 'x' :: hexDigits 2 c.toNat
  else if c.toNat < 0x10000 then '\\' :: 'u' :: hexDigits 4 c.toNat
  else '\\' :: 'U' :: hexDigits 8 c.toNat

/-- The quote that a text is shown in. -/
def quoteOf (t : Text) : Char :=
  if t.contains '\'' && !t.contains '"' then '"' else '\''

/-- The text between quotes, with escapes. -/
def quoted (t : Text) : Text :=
  let q := quoteOf t
  q :: t.flatMap (escapeChar q) ++ [q]

end Excerpt.Text
