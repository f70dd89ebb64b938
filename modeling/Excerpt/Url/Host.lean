import Excerpt.Text.Basic

/-!
# Hosts of URLs

A host in brackets has to be an address of version six or of a later version; a host outside ASCII must not hold a
character that is written as a delimiter of URLs once compatible characters are replaced.
-/

namespace Excerpt.Url

/-- Hexadecimal digits. -/
def isHexDigit (c : Char) : Bool :=
  c.isDigit || ('a' ≤ c && c ≤ 'f') || ('A' ≤ c && c ≤ 'F')

/-- One to four hexadecimal digits. -/
def isHexGroup (t : Text) : Bool :=
  !t.isEmpty && t.length ≤ 4 && t.all isHexDigit

/-- A number up to 255 without a leading zero. -/
def isOctet (t : Text) : Bool :=
  !t.isEmpty && t.length ≤ 3 && t.all Char.isDigit && (t == ['0'] || t.head? != some '0') && Text.natValue t ≤ 255

/-- Four numbers with points between them. -/
def isDottedAddress (t : Text) : Bool :=
  let parts := Text.splitOn '.' t
  parts.length == 4 && parts.all isOctet

/-- The groups of an address, where four numbers at the end stand for two groups. -/
def addressGroups? (parts : List Text) : Option (List Text) :=
  match parts.getLast? with
  | none => none
  | some last =>
    if last.contains '.' then
      if isDottedAddress last then some (parts.dropLast ++ [['0'], ['0']]) else none
    else some parts

/-- Whether groups before and after a gap make an address; an empty outermost group belongs to the gap if it
is alone. -/
def gapFits (high low : List Text) : Bool :=
  let high := if high == [[]] then [] else high
  let low := if low == [[]] then [] else low
  high.all isHexGroup && low.all isHexGroup && high.length + low.length ≤ 7

/-- Whether the groups make an address: eight groups, or fewer with one gap that is not at the ends. -/
def isAddress (groups : List Text) : Bool :=
  match groups with
  | [] => false
  | first :: rest =>
    match rest.dropLast.findIdx? (·.isEmpty) with
    | some i =>
      let low := rest.drop (i + 1)
      !(low.dropLast.any (·.isEmpty)) && groups.length ≤ 9 && gapFits (first :: rest.take i) low
    | none => groups.length == 8 && groups.all isHexGroup

/-- Whether an address of version six, with an optional zone after a percent sign, is well formed. -/
def isAddressSix (t : Text) : Bool :=
  let (address, zone?) :=
    match Text.cut? '%' t with
    | some (a, z) => (a, some z)
    | none => (t, none)
  let zoneFits :=
    match zone? with
    | some z => !z.isEmpty && !z.contains '%'
    | none => true
  let parts := Text.splitOn ':' address
  zoneFits && 3 ≤ parts.length &&
    match addressGroups? parts with
    | some groups => isAddress groups
    | none => false

/-- Whether an address of a later version is well formed: `v`, hexadecimal digits, a point, and something more. -/
def isFutureAddress (t : Text) : Bool :=
  match t with
  | 'v' :: r =>
    match r.span isHexDigit with
    | (_ :: _, '.' :: _ :: _) => true
    | _ => false
  | _ => false

/-- Whether a host may stand in brackets. -/
def fitsBrackets (host : Text) : Bool :=
  if host.head? == some 'v' then isFutureAddress host else isAddressSix host

/-- The host between the first opening bracket and the next closing one. -/
def bracketed (netloc : Text) : Text :=
  let inner := (netloc.dropWhile (· != '[')).drop 1
  inner.takeWhile (· != ']')

/-- Characters outside ASCII whose compatible form holds a delimiter of URLs. -/
def disguisedDelimiters : List Nat := [
  8263, 8264, 8265, 8448, 8449, 8453, 8454, 10868, 65043, 65046, 65109, 65110, 65119, 65131, 65283, 65295, 65306, 65311,
  65312]

/-- Whether the part of a URL that names the host is well formed. -/
def fitsNetloc (netloc : Text) : Bool :=
  let opens := netloc.contains '['
  let closes := netloc.contains ']'
  opens == closes && (!opens || fitsBrackets (bracketed netloc)) &&
    netloc.all fun c => !disguisedDelimiters.contains c.toNat

end Excerpt.Url
