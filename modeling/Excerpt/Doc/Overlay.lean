import Excerpt.Doc.Basic

/-!
# Overlays

An overlay changes a mapping: mappings under one key are overlaid in turn, any other value takes the place of the old
one, and an empty value removes the key.
-/

namespace Excerpt.Doc

mutual

/-- What stands under a key after an overlay, given what stood there. -/
def overlayValue (old : Option Doc) : Doc → Option Doc
  | .map es =>
    match old with
    | some (.map base) => some (.map (overlay base es))
    | _ => some (.map es)
  | .list ds => some (.list ds)
  | .scalar .null => none
  | .scalar s => some (.scalar s)

/-- The mapping with the entries of another one laid over it. -/
def overlay (base : List (Scalar × Doc)) : List (Scalar × Doc) → List (Scalar × Doc)
  | [] => base
  | (k, v) :: es =>
    match overlayValue (Entries.find? k base) v with
    | some d => overlay (Entries.insert k d base) es
    | none => overlay (Entries.erase k base) es

end

end Excerpt.Doc
