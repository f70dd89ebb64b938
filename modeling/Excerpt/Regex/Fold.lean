import Excerpt.Regex.Syntax

/-!
# Equal but for case

Two characters are equal but for case if they have one lower case, or if their lower cases are variants of one letter,
such as `s` and the long `ſ`. `CharSet.holds` decides membership under each rule for case.
-/

namespace Excerpt

/-- For a small letter, the other small letters that have the same capital. -/
def variantTable : List (Nat × List Nat) := [
  (105, [305]), (115, [383]), (181, [956]), (305, [105]), (383, [115]), (837, [953, 8126]), (912, [8147]), (944,
  [8163]), (946, [976]), (949, [1013]), (952, [977]), (953, [837, 8126]), (954, [1008]), (956, [181]), (960, [982]),
  (961, [1009]), (962, [963]), (963, [962]), (966, [981]), (976, [946]), (977, [952]), (981, [966]), (982, [960]),
  (1008, [954]), (1009, [961]), (1013, [949]), (1074, [7296]), (1076, [7297]), (1086, [7298]), (1089, [7299]),
  (1090, [7300, 7301]), (1098, [7302]), (1123, [7303]), (7296, [1074]), (7297, [1076]), (7298, [1086]), (7299,
  [1089]), (7300, [1090, 7301]), (7301, [1090, 7300]), (7302, [1098]), (7303, [1123]), (7304, [42571]), (7777,
  [7835]), (7835, [7777]), (8126, [837, 953]), (8147, [912]), (8163, [944]), (42571, [7304]), (64261, [64262]),
  (64262, [64261])]

/-- The lower case that characters are compared by. -/
def foldCode (n : Nat) : Nat :=
  if n < 128 then (if 65 ≤ n ∧ n ≤ 90 then n + 32 else n)
  else if n = 0x130 then 0x69
  else (Text.CaseRun.find? Text.lowerRuns n).getD n

/-- The lower case that characters are compared by when only ASCII letters have one. -/
def foldAscii (n : Nat) : Nat :=
  if 65 ≤ n ∧ n ≤ 90 then n + 32 else n

/-- The other small letters with the same capital. -/
def variants (n : Nat) : List Nat :=
  if n < 128 ∧ n ≠ 0x69 ∧ n ≠ 0x73 then [] else (variantTable.lookup n).getD []

/-- The code points that a run maps to `n`. -/
def Text.CaseRun.sources (n : Nat) (runs : List Text.CaseRun) : List Nat :=
  runs.filterMap fun r =>
    if r.image ≤ n ∧ n ≤ r.image + (r.last - r.first) ∧ (n - r.image) % r.step = 0 then some (r.first + (n - r.image))
    else none

/-- The code points whose folded form is `n` itself or a variant of it, for a folded `n`. -/
def foldClass (n : Nat) : List Nat :=
  let images := n :: variants n
  images.flatMap fun m =>
    m :: (if m = 0x69 then [0x130] else []) ++ (Text.CaseRun.sources m Text.lowerRuns).filter fun k => foldCode k == m

/-- Whether the character is of the kind. -/
def CharKind.holds (asciiOnly : Bool) (c : Char) : CharKind → Bool
  | .digit => if asciiOnly then c.isDigit else Text.isDecimal c
  | .space =>
    if asciiOnly then c == ' ' || (9 ≤ c.toNat && c.toNat ≤ 13) else Text.isSpace c
  | .word => if asciiOnly then c == '_' || c.isAlphanum else Text.isWord c

/-- Whether the character is the member or in it. -/
def SetItem.holds (c : Char) : SetItem → Bool
  | .char n => c.toNat == n
  | .range a b => a ≤ c.toNat && c.toNat ≤ b
  | .kind k asciiOnly negated => k.holds asciiOnly c != negated

/-- Whether the character is the member or in it when case does not count. -/
def SetItem.holdsFolded (rule : CaseRule) (c : Char) : SetItem → Bool
  | .char n =>
    match rule with
    | .exact => c.toNat == n
    | .ascii => foldAscii c.toNat == foldAscii n
    | .unicode =>
      let m := foldCode c.toNat
      let f := foldCode n
      m == f || (variants f).contains m
  | .range a b =>
    match rule with
    | .exact => a ≤ c.toNat && c.toNat ≤ b
    | .ascii =>
      let n := foldAscii c.toNat
      (a ≤ n && n ≤ b) || (97 ≤ n && n ≤ 122 && a ≤ n - 32 && n - 32 ≤ b)
    | .unicode => (foldClass (foldCode c.toNat)).any fun n => a ≤ n && n ≤ b
  | .kind k asciiOnly negated => k.holds asciiOnly c != negated

/-- Whether the character is in the set. -/
def CharSet.holds (s : CharSet) (c : Char) : Bool :=
  s.negated != (match s.case with
    | .exact => s.items.any (·.holds c)
    | rule => s.items.any (·.holdsFolded rule c))

/-- Whether two characters are equal under a rule for case. -/
def CaseRule.same (rule : CaseRule) (a b : Char) : Bool :=
  match rule with
  | .exact => a == b
  | .ascii => foldAscii a.toNat == foldAscii b.toNat
  | .unicode => foldCode a.toNat == foldCode b.toNat

end Excerpt
