import Excerpt.Text.Basic

/-!
# Source sets

An image names several files with descriptors such as `2x` or `800w`, separated by commas.
-/

namespace Excerpt.Srcset

/-- A file with its descriptor, empty if it has none. -/
structure Entry where
  url : Text
  descriptor : Text
deriving DecidableEq, Repr

/-- One entry: the part before the first blank, and the rest trimmed. -/
def Entry.ofItem (item : Text) : Entry :=
  match Text.cut? ' ' item with
  | some (url, descriptor) => ⟨url, Text.trim descriptor⟩
  | none => ⟨item, []⟩

/-- The entries of a source set. -/
def entries (srcset : Text) : List Entry :=
  (((Text.splitOn ',' srcset).map Text.trim).filter fun item => !item.isEmpty).map Entry.ofItem

/-- The file with the wanted descriptor, the last one if there are several; otherwise the first file. -/
def pick? (srcset : Text) (size : Text) : Option Text :=
  let es := entries srcset
  let wanted := if size.isEmpty then none else es.reverse.find? fun e => e.descriptor == size
  (wanted <|> es.head?).map (·.url)

end Excerpt.Srcset
