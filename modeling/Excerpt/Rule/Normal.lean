import Excerpt.Doc.Overlay
import Excerpt.Rule.LoadError
import Excerpt.Rule.RuleSet

/-!
# The normal form of rule documents

Before a rule document is laid over a template, both are brought into one form: keys in snake case, lists under plural
keys, and a selector alone written out as a mapping. Keys that name no slot stay as they are.
-/

namespace Excerpt.Normal

/-- The name of the kind of a key. -/
def keyKind (k : Scalar) : String :=
  (Doc.scalar k).kindName

/-- The items of a list attribute so far. -/
def itemsAt (es : Doc.Entries) (key : String) : List Doc :=
  ((es.get? key).map Doc.toItems).getD []

/-- The normal form of a field rule with one more entry. -/
def addEntry (es : Doc.Entries) (k : Scalar) (d : Doc) : Except LoadError Doc.Entries :=
  match k with
  | .str k =>
    let key := snakeKey k
    match ListAttr.ofKey? key with
    | some a => .ok (es.set a.key (.list (itemsAt es a.key ++ d.toItems)))
    | none => .ok (es.set key d)
  | k => .error (.fieldKey (keyKind k))

/-- The normal form of a field rule with several more entries. -/
def addEntries (es : Doc.Entries) : List (Scalar × Doc) → Except LoadError Doc.Entries
  | [] => .ok es
  | (k, d) :: rest => do addEntries (← addEntry es k d) rest

/-- The normal form of a field rule. -/
def field : Doc → Except LoadError Doc
  | .scalar (.str s) => .ok (.map (FieldRule.shorthand (.str s)))
  | .list ds => .ok (.map (FieldRule.shorthand (.list ds)))
  | .map es => (addEntries [] es).map .map
  | d => .ok d

/-- The normal form of a rule document with one more entry. -/
def addSlot (es : Doc.Entries) (k : Scalar) (d : Doc) : Except LoadError Doc.Entries :=
  match k with
  | .str k =>
    match Slot.ofKey? k with
    | some slot => (field d).map (es.set slot.snakeKey)
    | none => .ok (es.set k d)
  | k => .error (.slotKey (keyKind k))

/-- The normal form of a rule document with several more entries. -/
def addSlots (es : Doc.Entries) : List (Scalar × Doc) → Except LoadError Doc.Entries
  | [] => .ok es
  | (k, d) :: rest => do addSlots (← addSlot es k d) rest

/-- The key that the slots may stand under. -/
def fieldsKey : String :=
  "fields"

/-- The slots of a rule document in normal form. -/
def slots (es : Doc.Entries) : Except LoadError Doc.Entries :=
  match es.get? fieldsKey with
  | none => addSlots [] es
  | some (.map inner) => addSlots [] inner
  | some d => .error (.fieldsNotMapping d.kindName)

/-- The slots of a rule document laid over those of a template. -/
def overTemplate (template document : Doc.Entries) : Except LoadError Doc.Entries := do
  let slots' ← slots document
  let base ← slots template
  return Doc.overlay base slots'

end Excerpt.Normal
