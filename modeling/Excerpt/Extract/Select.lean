import Excerpt.Page.Content
import Excerpt.Page.Markup
import Excerpt.Rule.Selector
import Excerpt.Url.Srcset

/-!
# Reading values with a selector

A page selector finds elements below a place and reads a text from each; a meta selector reads the content of a `meta`
element of the document. Values that are empty are left out.
-/

namespace Excerpt.Selector

/-- The places that the selector finds below a place, in document order; `multiple` is used if the selector does not say
whether it wants every match. -/
def find (s : Selector) (multiple : Bool) (p : Place) : List Place :=
  match s.source with
  | .metadata => []
  | .page =>
    if s.isRoot then [p]
    else
      let found := Css.select (s.css?.getD []) p
      if s.isMultiple multiple then found else found.take 1

/-- The text of an attribute that is there and not empty. -/
def attributeText? (n : Node) (name : String) : Option Text :=
  (n.attr? name).bind fun v => if v.isEmpty then none else some v.text

/-- The address of an image: from the set of sources if there is one, or else from the source. -/
def imageAddress? (size : Text) (n : Node) : Option Text :=
  match ["srcset", "data-srcset"].findSome? (attributeText? n) with
  | some set => Srcset.pick? set size
  | none => (["src", "data-src"].findSome? (attributeText? n)).map Text.trim

/-- The text that the selector reads from an element. -/
def read? (s : Selector) (image : Bool) (n : Node) : Option Text :=
  let name := s.attributeName.getD ""
  let size := s.size.getD ""
  if name != "" then (attributeText? n name).map Text.trim
  else if s.background then n.backgroundImage?
  else if image || size != "" then imageAddress? size.toList n
  else
    match s.output with
    | .html => some n.innerMarkup
    | .ownText => some n.ownText
    | .text => some n.innerText

/-- The texts that are there and not empty. -/
def present (values : List (Option Text)) : List Text :=
  (values.filterMap id).filter (!·.isEmpty)

/-- The texts as one if the selector has a separator. -/
def joined (s : Selector) (values : List Text) : List Text :=
  match s.separator with
  | some sep => if values.isEmpty then [] else [Text.join sep.toList values]
  | none => values

/-- The values that the selector reads below a place or from the document. -/
def select (s : Selector) (multiple image : Bool) (document : Node) (p : Place) : List Text :=
  match s.source with
  | .metadata => present [document.metaContent? s.expr.toList]
  | .page => s.joined (present ((s.find multiple p).map fun q => s.read? image (Exclude.strip s.excludes q.node)))

end Excerpt.Selector
