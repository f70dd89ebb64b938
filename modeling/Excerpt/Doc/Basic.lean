import Excerpt.Text.Basic

/-!
# Documents

Rule documents, templates and reports are trees of scalars, lists and mappings. A mapping keeps its entries in written
order; a key stands once, and a later entry with the same key takes the place of the earlier one.

* `Doc.get?`, `Doc.Entries.insert`, `Doc.Entries.erase` are the operations on mappings that overlays are made of.
* `Doc.kindName` is the name that messages use for the kind of a document.
-/

namespace Excerpt

/-- The decimal number `digits · 10 ^ exponent`, below zero if `negative`. -/
structure Decimal where
  negative : Bool
  digits : Nat
  exponent : Int
deriving DecidableEq, Repr, Inhabited

/-- A value without parts. -/
inductive Scalar where
  | null
  | bool (value : Bool)
  | int (value : Int)
  | decimal (value : Decimal)
  | infinity (negative : Bool)
  | notANumber
  | str (value : String)
  | date (iso : String)
  | stamp (iso : String)
  | bytes (value : List UInt8)
deriving DecidableEq, Repr, Inhabited

/-- The value of a scalar that counts as a number: its sign and digits without trailing zeros, and their exponent. -/
def Scalar.magnitude? : Scalar → Option (Bool × Nat × Int)
  | .bool b => some (false, if b then 1 else 0, 0)
  | .int n => some (strip n.natAbs (decide (n < 0)) n.natAbs 0)
  | .decimal d => some (strip d.digits d.negative d.digits d.exponent)
  | _ => none
where
  strip : Nat → Bool → Nat → Int → Bool × Nat × Int
    | _, _, 0, _ => (false, 0, 0)
    | 0, s, n, e => (s, n, e)
    | fuel + 1, s, n, e => if n % 10 = 0 then strip fuel s (n / 10) (e + 1) else (s, n, e)

/-- Whether two scalars are one key: equal numbers are, whether written as integers, decimals or truth values. -/
def Scalar.sameKey (a b : Scalar) : Bool :=
  match a.magnitude?, b.magnitude? with
  | some x, some y => x == y
  | none, none => a == b
  | _, _ => false

/-- A document. -/
inductive Doc where
  | scalar (value : Scalar)
  | list (items : List Doc)
  | map (entries : List (Scalar × Doc))
deriving Repr, Inhabited

namespace Doc

/-- The empty value. -/
abbrev null : Doc := .scalar .null

/-- A truth value. -/
abbrev bool (b : Bool) : Doc := .scalar (.bool b)

/-- An integer. -/
abbrev int (n : Int) : Doc := .scalar (.int n)

/-- A string. -/
abbrev str (s : String) : Doc := .scalar (.str s)

/-- A text as a string. -/
def text (t : Text) : Doc := .str (String.ofList t)

/-- A list of strings. -/
def strings (ss : List String) : Doc := .list (ss.map .str)

/-- A list of texts. -/
def texts (ts : List Text) : Doc := .list (ts.map text)

/-- A string, or nothing. -/
def strOrNull : Option String → Doc
  | some s => .str s
  | none => .null

/-- A text, or nothing. -/
def textOrNull : Option Text → Doc
  | some t => text t
  | none => .null

/-- The entries of a mapping. -/
abbrev Entries := List (Scalar × Doc)

/-! ## Mappings -/

/-- The value under a key. -/
def Entries.find? (k : Scalar) : Entries → Option Doc
  | [] => none
  | (k', v) :: es => if k'.sameKey k then some v else Entries.find? k es

/-- The value under a string key. -/
def Entries.get? (es : Entries) (k : String) : Option Doc :=
  Entries.find? (.str k) es

/-- Whether a string is among the keys. -/
def Entries.has (es : Entries) (k : String) : Bool :=
  (es.get? k).isSome

/-- The mapping with the value under the key: in place of the old value, or else at the end. -/
def Entries.insert (k : Scalar) (v : Doc) : Entries → Entries
  | [] => [(k, v)]
  | (k', v') :: es => if k'.sameKey k then (k', v) :: es else (k', v') :: Entries.insert k v es

/-- The mapping with the value under a string key. -/
def Entries.set (es : Entries) (k : String) (v : Doc) : Entries :=
  Entries.insert (.str k) v es

/-- The mapping without the key. -/
def Entries.erase (k : Scalar) (es : Entries) : Entries :=
  es.filter fun e => !e.1.sameKey k

/-- The mapping without a string key. -/
def Entries.unset (es : Entries) (k : String) : Entries :=
  Entries.erase (.str k) es

/-- The mapping of pairs in written order. -/
def Entries.ofPairs (ps : List (Scalar × Doc)) : Entries :=
  ps.foldl (fun es p => Entries.insert p.1 p.2 es) []

/-- The mapping of pairs with string keys. -/
def ofFields (ps : List (String × Doc)) : Doc :=
  .map (ps.map fun (k, v) => (.str k, v))

/-- The entries of a document that is a mapping. -/
def entries? : Doc → Option Entries
  | .map es => some es
  | _ => none

/-- The value under a string key of a document that is a mapping. -/
def get? (d : Doc) (k : String) : Option Doc :=
  d.entries?.bind (·.get? k)

/-- The string that a document is. -/
def str? : Doc → Option String
  | .scalar (.str s) => some s
  | _ => none

/-- Whether the document is the empty value. -/
def isNull : Doc → Bool
  | .scalar .null => true
  | _ => false

/-- A missing value is no item, a list is its items, and any other document is one item. -/
def toItems : Doc → List Doc
  | .scalar .null => []
  | .list ds => ds
  | d => [d]

/-! ## Equality -/

mutual

/-- Whether two documents are equal, entries in the same order. -/
def same : Doc → Doc → Bool
  | .scalar a, .scalar b => a == b
  | .list as, .list bs => sameItems as bs
  | .map as, .map bs => sameEntries as bs
  | _, _ => false

/-- Whether two lists hold equal documents. -/
def sameItems : List Doc → List Doc → Bool
  | [], [] => true
  | a :: as, b :: bs => same a b && sameItems as bs
  | _, _ => false

/-- Whether two mappings hold equal entries in the same order. -/
def sameEntries : List (Scalar × Doc) → List (Scalar × Doc) → Bool
  | [], [] => true
  | (k, a) :: as, (l, b) :: bs => k == l && same a b && sameEntries as bs
  | _, _ => false

end

instance : BEq Doc := ⟨same⟩

/-! ## Kinds -/

/-- The name of the kind of a document in messages. -/
def kindName : Doc → String
  | .scalar .null => "NoneType"
  | .scalar (.bool _) => "bool"
  | .scalar (.int _) => "int"
  | .scalar (.decimal _) | .scalar (.infinity _) | .scalar .notANumber => "float"
  | .scalar (.str _) => "str"
  | .scalar (.date _) => "date"
  | .scalar (.stamp _) => "datetime"
  | .scalar (.bytes _) => "bytes"
  | .list _ => "list"
  | .map _ => "dict"

/-- Whether a document counts as no value: nothing, false, zero, or empty. -/
def isEmpty : Doc → Bool
  | .scalar .null => true
  | .scalar (.bool b) => !b
  | .scalar (.int n) => n == 0
  | .scalar (.decimal d) => d.digits == 0
  | .scalar (.str s) => s == ""
  | .scalar (.bytes b) => b.isEmpty
  | .list ds => ds.isEmpty
  | .map es => es.isEmpty
  | _ => false

end Doc

end Excerpt
