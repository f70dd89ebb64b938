import Excerpt.Text.Basic

/-!
# UTF-8

Bytes are read one at a time. `Utf8.decode?` refuses bytes that are no UTF-8; `Utf8.decodeLenient` leaves them out, a
character that is cut short being left out as far as it goes.
-/

namespace Excerpt.Utf8

/-- A character that has begun: its bits so far, how many bytes are to come, and the range of the next one. -/
structure Partial where
  bits : Nat
  left : Nat
  low : Nat
  high : Nat
deriving DecidableEq, Repr

/-- What a byte between characters is. -/
inductive Start where
  | char (c : Char)
  | opens (p : Partial)
  | bad
deriving DecidableEq, Repr

/-- What a byte between characters is. -/
def start (b : Nat) : Start :=
  if b < 0x80 then .char (Char.ofNat b)
  else if b < 0xC2 then .bad
  else if b < 0xE0 then .opens ⟨b - 0xC0, 1, 0x80, 0xBF⟩
  else if b < 0xF0 then
    .opens ⟨b - 0xE0, 2, if b = 0xE0 then 0xA0 else 0x80, if b = 0xED then 0x9F else 0xBF⟩
  else if b < 0xF5 then
    .opens ⟨b - 0xF0, 3, if b = 0xF0 then 0x90 else 0x80, if b = 0xF4 then 0x8F else 0xBF⟩
  else .bad


/-- The characters of bytes from between two characters on, `none` for each place that is no character. -/
def decodeFrom : Option Partial → List UInt8 → List (Option Char)
  | none, [] => []
  | some _, [] => [none]
  | none, b :: bs =>
    match start b.toNat with
    | .char c => some c :: decodeFrom none bs
    | .opens p => decodeFrom (some p) bs
    | .bad => none :: decodeFrom none bs
  | some p, b :: bs =>
    if p.low ≤ b.toNat ∧ b.toNat ≤ p.high then
      let bits := p.bits * 64 + (b.toNat - 0x80)
      if p.left ≤ 1 then some (Char.ofNat bits) :: decodeFrom none bs
      else decodeFrom (some ⟨bits, p.left - 1, 0x80, 0xBF⟩) bs
    else
      match start b.toNat with
      | .char c => none :: some c :: decodeFrom none bs
      | .opens p => none :: decodeFrom (some p) bs
      | .bad => none :: none :: decodeFrom none bs

/-- The text that bytes are, if they are UTF-8. -/
def decode? (bs : List UInt8) : Option Text :=
  (decodeFrom none bs).mapM id

/-- The text that bytes are, without those that are no UTF-8. -/
def decodeLenient (bs : List UInt8) : Text :=
  (decodeFrom none bs).filterMap id

end Excerpt.Utf8
