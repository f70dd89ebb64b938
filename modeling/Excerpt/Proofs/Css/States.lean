import Excerpt.Css.Selector
import Excerpt.Proofs.Page.Outline

/-!
# States in outline

What selectors ask of one element, they mostly ask of its tag, its attributes and its place: whether it is empty,
whether it submits a form or is the checked button of its group, whether its value is within its bounds, and in which
language it is written. All this is the same in outline. Where texts are asked for, blank ones are told apart sign by
sign (`isUnfilled_outline`), and others are not.
-/

namespace Excerpt.Css

open Place (outline)

/-! ## Names and values -/

theorem node_outline (p : Place) : p.outline.node = p.node.outline := rfl

/-- The tests of tags and attributes see nothing else of an element. -/
theorem attribute?_outline (n : Node) (name : String) : attribute? n.outline name = attribute? n name := by
  rw [attribute?, attribute?, Node.attrs_outline]

theorem classes_outline (n : Node) : classes n.outline = classes n := by
  rw [classes, classes, attribute?_outline]

theorem hasId_outline (n : Node) (name : String) : hasId n.outline name = hasId n name := by
  rw [hasId, hasId, attribute?_outline]

theorem hasTag_outline (n : Node) (name : String) : hasTag n.outline name = hasTag n name := by
  rw [hasTag, hasTag, Node.tag?_outline]

theorem smallValue_outline (n : Node) (name : String) : smallValue n.outline name = smallValue n name := by
  rw [smallValue, smallValue, attribute?_outline]

theorem isDefined_outline (n : Node) : isDefined n.outline = isDefined n := by
  rw [isDefined, isDefined, Node.tag?_outline]

/-- Texts stay texts in outline, and elements elements. -/
theorem onlyElements_outline (ps : List Place) : onlyElements (ps.map outline) = (onlyElements ps).map outline := by
  rw [onlyElements, onlyElements, List.filter_map]
  congr 2
  funext p
  exact p.node.isElement_outline

/-! ## Blank texts -/

/-- The blanks of selectors are white space. -/
theorem isSpace_of_isBlank {c : Char} (h : isBlank c = true) : Text.isSpace c = true := by
  simp only [isBlank, Bool.or_eq_true, beq_iff_eq] at h
  rcases h with (((rfl | rfl) | rfl) | rfl) | rfl <;> rfl

/-- A text is blank in outline if it is blank. -/
theorem isBlank_outline (s : Text) : Text.isBlank (if Text.isBlank s then s else Node.standIn) = Text.isBlank s := by
  split
  · rfl
  · rename_i h
    exact (Bool.eq_false_iff.mpr h).symm

/-- The signs that are told apart as blank in an empty element are all white space, and a text that is not blank has
another sign in outline too. -/
theorem all_isBlank_outline (s : Text) : (if Text.isBlank s then s else Node.standIn).all isBlank = s.all isBlank := by
  split
  · rfl
  · rename_i h
    have hs : s.all isBlank ≠ true := by
      intro hall
      refine h (List.all_eq_true.mpr fun c hc => isSpace_of_isBlank ?_)
      exact List.all_eq_true.mp hall c hc
    exact (Bool.eq_false_iff.mpr hs).symm

/-- An element without elements, whose texts are blank, is one in outline. -/
theorem isEmptyElement_outline (n : Node) : isEmptyElement n.outline = isEmptyElement n := by
  rw [isEmptyElement, isEmptyElement, Node.children_outline, List.all_map]
  congr 1
  funext m
  cases m with
  | text kind s => exact all_isBlank_outline s
  | _ => rfl

mutual

/-- All text of a node is that of its outline, or neither of them is blank. -/
theorem allText_outline : ∀ n : Node, allText n.outline = allText n ∨
    (Text.isBlank (allText n.outline) = false ∧ Text.isBlank (allText n) = false)
  | .text kind s => by
    rw [Node.outline, allText, allText]
    split
    · exact .inl rfl
    · exact .inr ⟨rfl, Bool.eq_false_iff.mpr ‹_›⟩
  | .comment _ | .instruction _ | .doctype _ => .inl rfl
  | .element tag as ns => allTextIn_outline ns

/-- The text below a node is the same in outline, or neither of the two is blank. -/
theorem allTextIn_outline : ∀ ns : List Node, allTextIn (Node.outlineIn ns) = allTextIn ns ∨
    (Text.isBlank (allTextIn (Node.outlineIn ns)) = false ∧ Text.isBlank (allTextIn ns) = false)
  | [] => .inl rfl
  | n :: ns => by
    have hsplit : ∀ s t : Text, Text.isBlank (s ++ t) = false ↔ Text.isBlank s = false ∨ Text.isBlank t = false :=
      fun s t => by rw [Text.isBlank, List.all_append, Bool.and_eq_false_iff]; rfl
    rw [Node.outlineIn, allTextIn, allTextIn, hsplit, hsplit]
    rcases allText_outline n with h | ⟨h, h'⟩
    · rcases allTextIn_outline ns with hs | ⟨hs, hs'⟩
      · exact .inl (by rw [h, hs])
      · exact .inr ⟨.inr hs, .inr hs'⟩
    · exact .inr ⟨.inl h, .inl h'⟩

end

/-- Nothing and a line break are blank, so an outline shows whether an element holds more. -/
theorem isUnfilled_outline (n : Node) : isUnfilled n.outline = isUnfilled n := by
  rw [isUnfilled, isUnfilled]
  rcases allText_outline n with h | ⟨h, h'⟩
  · rw [h]
  · have hfilled : ∀ t : Text, Text.isBlank t = false → (t == [] || t == ['\n']) = false := by
      intro t ht
      rw [Bool.or_eq_false_iff, beq_eq_false_iff_ne, beq_eq_false_iff_ne]
      constructor <;> rintro rfl <;> cases ht
    rw [hfilled _ h, hfilled _ h']

/-! ## Forms -/

/-- The form around a control is found by tags on the way up. -/
theorem form?_outline (p : Place) : form? p.outline = (form? p).map outline := by
  rw [form?, form?, Place.outline_ancestors, List.find?_map]
  simp only [Function.comp_def, node_outline, hasTag_outline]

theorem formOrTop?_outline (p : Place) : formOrTop? p.outline = (formOrTop? p).map outline := by
  rw [formOrTop?, formOrTop?, form?_outline, Place.outline_ancestors, List.getLast?_map]
  cases form? p <;> rfl

theorem isSubmit_outline (n : Node) : isSubmit n.outline = isSubmit n := by
  simp only [isSubmit, hasTag_outline, smallValue_outline]

/-- Which button submits a form is told by the order of the elements below the form. -/
theorem isFirstSubmit_outline (p : Place) : isFirstSubmit p.outline = isFirstSubmit p := by
  rw [isFirstSubmit, isFirstSubmit, form?_outline]
  cases form? p with
  | none => rfl
  | some form =>
    simp only [Option.map_some, Place.outline_descendants, onlyElements_outline, List.takeWhile_map, List.find?_map,
      Option.map_map, Function.comp_def, node_outline, hasTag_outline, isSubmit_outline, Place.path_outline]

theorem isChosen_outline (name : Text) (n : Node) : isChosen name n.outline = isChosen name n := by
  simp only [isChosen, hasTag_outline, smallValue_outline, attribute?_outline]

/-- A group of radio buttons is told by the names of the buttons in one form. -/
theorem isUnchosen_outline (p : Place) : isUnchosen p.outline = isUnchosen p := by
  have hhome : ∀ q : Place, (formOrTop? q.outline).map Place.path = (formOrTop? q).map Place.path := by
    intro q
    rw [formOrTop?_outline, Option.map_map]
    simp only [Function.comp_def, Place.path_outline]
  simp only [isUnchosen, hhome, node_outline, attribute?_outline, Place.path_outline]
  rw [formOrTop?_outline]
  cases formOrTop? p with
  | none => rfl
  | some form =>
    simp only [Option.map_some, Place.outline_descendants, onlyElements_outline, List.any_map, Function.comp_def,
      node_outline, isChosen_outline, Place.path_outline, hhome]

/-! ## Bounds and languages -/

/-- The value of a control and its bounds are attributes. -/
theorem isOutside?_outline (n : Node) : isOutside? n.outline = isOutside? n := by
  simp only [isOutside?, smallValue_outline, attribute?_outline]

/-- Children with a tag are elements, so they are at the same places. -/
theorem childrenTagged_outline (tag : String) (p : Place) :
    childrenTagged tag p.outline = (childrenTagged tag p).map outline := by
  rw [childrenTagged, childrenTagged, Place.outline_children, List.filter_map]
  simp only [Function.comp_def, node_outline, hasTag_outline]

/-- The language of a page is named by an attribute of a `meta` element. -/
theorem pageLanguage?_outline (p : Place) : pageLanguage? p.outline = pageLanguage? p := by
  have htop : (p.outline.ancestors.getLast?).getD p.outline = ((p.ancestors.getLast?).getD p).outline := by
    rw [Place.outline_ancestors, List.getLast?_map]
    cases p.ancestors.getLast? <;> rfl
  rw [pageLanguage?, pageLanguage?, htop, childrenTagged_outline, List.head?_map]
  cases (childrenTagged "html" ((p.ancestors.getLast?).getD p)).head? with
  | none => rfl
  | some html =>
    simp only [Option.map_some, Option.bind_eq_bind, Option.bind_some]
    rw [childrenTagged_outline, List.head?_map]
    cases (childrenTagged "head" html).head? with
    | none => rfl
    | some head =>
      simp only [Option.map_some, Option.bind_some, childrenTagged_outline, List.findSome?_map, Function.comp_def,
        node_outline, smallValue_outline, attribute?_outline]

/-- The language is that of the nearest attribute on the way up, or of a `meta` element in the head. -/
theorem language?_outline (p : Place) : language? p.outline = language? p := by
  have hplaces : p.outline :: p.outline.ancestors = (p :: p.ancestors).map outline := by
    rw [Place.outline_ancestors, List.map_cons]
  simp only [language?, hplaces, List.filterMap_map, Function.comp_def, node_outline, attribute?_outline,
    pageLanguage?_outline]

theorem speaks_outline (ranges : List Text) (p : Place) : speaks ranges p.outline = speaks ranges p := by
  rw [speaks, speaks, language?_outline]

end Excerpt.Css
