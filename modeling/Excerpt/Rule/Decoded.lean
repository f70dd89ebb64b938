import Excerpt.Doc.Basic
import Excerpt.Text.KeyCase

/-!
# Reading rules from documents

A rule is read from a document attribute by attribute. All problems are collected, in the order of the attributes, each
with the path to the place it was found at. What is no problem of the document in this sense ends the reading at once: a
selector that can never select elements, or an expression with a count that the matcher cannot hold.

An attribute is looked up under its kebab-case key first and then under its snake-case key; paths hold the key that was
found.
-/

namespace Excerpt

/-- A step of a path into a document. -/
inductive DocStep where
  | key (k : String)
  | index (i : Nat)
deriving DecidableEq, Repr

/-- What is wrong with a document at some place. -/
inductive Defect where
  | notModel
  | notString
  | notBool
  | notMember
  | missing
  | notInteger
  | invalid (message : Text)
deriving DecidableEq, Repr

/-- A defect and the path to it. -/
structure Problem where
  path : List DocStep
  defect : Defect
deriving DecidableEq, Repr

/-- What ends the reading of a document at once. -/
inductive Halt where
  | unsupportedSelector
  | countTooLarge
deriving DecidableEq, Repr

/-- The outcome of reading: a value, one problem or more, or what ended the reading first. -/
inductive Decoded (α : Type) where
  | ok (value : α)
  | rejected (problems : List Problem)
  | halted (cause : Halt)
deriving DecidableEq, Repr

namespace Decoded

/-- The outcome with a function applied to its value. -/
def map {α β : Type} (f : α → β) : Decoded α → Decoded β
  | .ok a => .ok (f a)
  | .rejected ps => .rejected ps
  | .halted h => .halted h

/-- Both outcomes: the problems of the first come before those of the second. -/
def apply {α β : Type} : Decoded (α → β) → Decoded α → Decoded β
  | .halted h, _ => .halted h
  | _, .halted h => .halted h
  | .ok f, .ok a => .ok (f a)
  | .ok _, .rejected ps => .rejected ps
  | .rejected ps, .ok _ => .rejected ps
  | .rejected ps, .rejected qs => .rejected (ps ++ qs)

instance : Functor Decoded where
  map := map

instance : Seq Decoded where
  seq f a := apply f (a ())

/-- The outcome checked further once it is a value. -/
def andThen {α β : Type} (d : Decoded α) (f : α → Decoded β) : Decoded β :=
  match d with
  | .ok a => f a
  | .rejected ps => .rejected ps
  | .halted h => .halted h

/-- One problem at the place of the document itself. -/
def fail {α : Type} (d : Defect) : Decoded α :=
  .rejected [⟨[], d⟩]

/-- The outcome of reading a part, with the step to the part in front of its paths. -/
def under {α : Type} (s : DocStep) : Decoded α → Decoded α
  | .ok a => .ok a
  | .rejected ps => .rejected (ps.map fun p => ⟨s :: p.path, p.defect⟩)
  | .halted h => .halted h

/-- The value, if there is one. -/
def toOption {α : Type} : Decoded α → Option α
  | .ok a => some a
  | _ => none

/-- Whether there is a value. -/
def isOk {α : Type} : Decoded α → Bool
  | .ok _ => true
  | _ => false

/-! ## Values -/

/-- A string. -/
def string : Doc → Decoded String
  | .scalar (.str s) => .ok s
  | _ => fail .notString

/-- A truth value. -/
def bool : Doc → Decoded Bool
  | .scalar (.bool b) => .ok b
  | _ => fail .notBool

/-- Nothing, or a value. -/
def optional {α : Type} (read : Doc → Decoded α) (d : Doc) : Decoded (Option α) :=
  if d.isNull then .ok none else (read d).map some

/-- The key that a member of a closed set is found by: trimmed, in lower case, with hyphens. -/
def memberKey (s : String) : String :=
  String.ofList (Text.replaceChar '_' ['-'] (Text.toLower (Text.trim s.toList)))

/-- The member of a closed set with the name. -/
def findMember {α : Type} (all : List α) (name : α → String) (s : String) : Option α :=
  all.find? fun a => name a == memberKey s

/-- A member of a closed set, by its name. -/
def member {α : Type} (all : List α) (name : α → String) : Doc → Decoded α
  | .scalar (.str s) =>
    match findMember all name s with
    | some a => .ok a
    | none => fail .notMember
  | _ => fail .notMember

/-- The items of a list, numbered from `i` on. -/
def itemsFrom {α : Type} (read : Doc → Decoded α) : Nat → List Doc → Decoded (List α)
  | _, [] => .ok []
  | i, d :: ds => List.cons <$> under (.index i) (read d) <*> itemsFrom read (i + 1) ds

/-- The items of a list. -/
def items {α : Type} (read : Doc → Decoded α) (ds : List Doc) : Decoded (List α) :=
  itemsFrom read 0 ds

end Decoded

/-! ## Attributes -/

/-- The two spellings of the keys of attributes. -/
inductive KeyStyle where
  | kebab
  | snake
deriving DecidableEq, Repr

/-- The snake-case key of an attribute in a style. -/
def KeyStyle.spell (style : KeyStyle) (key : String) : String :=
  match style with
  | .snake => key
  | .kebab => String.ofList (Text.replaceChar '_' ['-'] key.toList)

namespace Doc.Entries

/-- The value of an attribute and the key that it was found under. -/
def attr? (es : Doc.Entries) (key : String) : Option (String × Doc) :=
  match es.get? (KeyStyle.kebab.spell key) with
  | some d => some (KeyStyle.kebab.spell key, d)
  | none => (es.get? key).map fun d => (key, d)

/-- An attribute with a default. -/
def attrOr {α : Type} (es : Doc.Entries) (key : String) (default : α) (read : Doc → Decoded α) : Decoded α :=
  match es.attr? key with
  | some (k, d) => Decoded.under (.key k) (read d)
  | none => .ok default

/-- An attribute that has to be there. -/
def attr {α : Type} (es : Doc.Entries) (key : String) (read : Doc → Decoded α) : Decoded α :=
  match es.attr? key with
  | some (k, d) => Decoded.under (.key k) (read d)
  | none => Decoded.under (.key (KeyStyle.kebab.spell key)) (Decoded.fail .missing)

/-- The mapping with other values for some keys. -/
def update (es changes : Doc.Entries) : Doc.Entries :=
  changes.foldl (fun es c => Doc.Entries.insert c.1 c.2 es) es

/-- The items under several keys, in the order of the keys, and whether some key is there. -/
def merged? (es : Doc.Entries) (keys : List String) : Option (List Doc) :=
  if keys.any es.has then some (keys.flatMap fun k => ((es.get? k).map Doc.toItems).getD []) else none

/-- The mapping without several keys. -/
def unsetAll (es : Doc.Entries) (keys : List String) : Doc.Entries :=
  keys.foldl (fun es k => es.unset k) es

end Doc.Entries

end Excerpt
