import Excerpt.Body.Collect
import Excerpt.Proofs.Text.Bare

/-!
# What cleaning leaves of a text

Cleaning a line changes its white space only (`bare_cleanText`). Marking the breaks of a paragraph puts a mark in front
of each line after the first that is not empty, and touches nothing else (`splitOn_markBreaks`); hence the lines of a
leaf hold its text, some of them with a mark in front (`Leaf.lines_eq`).
-/

namespace Excerpt.Body

open Text (bare bare_cons_of_space bare_cons_congr)

/-! ## Cleaning a line -/

theorem isSpace_blank : Text.isSpace ' ' = true := by decide

theorem isSpace_newline : Text.isSpace '\n' = true := by decide

theorem isSpace_of_isOddBlank {c : Char} (h : isOddBlank c = true) : Text.isSpace c = true := by
  simp only [isOddBlank, Bool.or_eq_true, beq_iff_eq] at h
  rcases h with ((rfl | rfl) | rfl) | rfl <;> decide

/-- Each step of the cleaning changes white space only: blanks become even, stand less often before marks, and one by
one. -/
theorem bare_evenBlanks (t : Text) : bare (t.map fun c => if isOddBlank c then ' ' else c) = bare t := by
  induction t with
  | nil => rfl
  | cons c cs ih =>
    cases h : isOddBlank c with
    | true =>
      simp only [List.map_cons, h, if_true]
      rw [bare_cons_of_space isSpace_blank, bare_cons_of_space (isSpace_of_isOddBlank h), ih]
    | false =>
      simp only [List.map_cons, h, Bool.false_eq_true, if_false]
      exact bare_cons_congr ih

theorem bare_tightenFrom (w : Bool) (t : Text) : bare (tightenFrom w t) = bare t := by
  induction t generalizing w with
  | nil => rfl
  | cons c cs ih =>
    rw [tightenFrom]
    split
    · rename_i hc
      subst hc
      split
      · rw [ih, bare_cons_of_space isSpace_blank]
      · exact bare_cons_congr (ih _)
    · exact bare_cons_congr (ih _)

theorem bare_singleBlanksFrom (r : Bool) (t : Text) : bare (singleBlanksFrom r t) = bare t := by
  induction t generalizing r with
  | nil => rfl
  | cons c cs ih =>
    rw [singleBlanksFrom]
    split
    · rename_i hc
      subst hc
      split
      · rw [ih, bare_cons_of_space isSpace_blank]
      · exact bare_cons_congr (ih _)
    · exact bare_cons_congr (ih _)

/-- Cleaning a line changes its white space only. -/
theorem bare_cleanText (t : Text) : bare (cleanText t) = bare t := by
  rw [cleanText, Text.bare_trim, singleBlanks, bare_singleBlanksFrom, tighten, bare_tightenFrom, bare_evenBlanks]

/-! ## The lines of a leaf -/

theorem newline_not_mem_lineBreak : '\n' ∉ lineBreak := by decide

/-- The mark of a line break has no white space in it. -/
theorem bare_lineBreak_append (t : Text) : bare (lineBreak ++ t) = lineBreak ++ bare t := by
  rw [Text.bare_append]
  rfl

/-- A line with a mark in front if it is not empty. -/
def marked (line : Text) : Text :=
  if line.isEmpty then line else lineBreak ++ line

/-- The lines of a paragraph, those after the first marked. -/
def markedLines : List Text → List Text
  | [] => []
  | line :: lines => line :: lines.map marked

/-- Marking the breaks of a paragraph marks its lines after the first that are not empty. -/
theorem splitOn_markBreaks (t : Text) :
    Text.splitOn '\n' (markBreaks t) = markedLines (Text.splitOn '\n' t) := by
  fun_induction markBreaks t with
  | case1 => rfl
  | case2 cs ih =>
    -- The line between the two breaks is empty and gets no mark.
    rw [Text.splitOn_cons_self, Text.splitOn_cons_self] at *
    rw [ih]
    rfl
  | case3 c cs hc ih =>
    obtain ⟨w, ws, hw⟩ := List.exists_cons_of_ne_nil (Text.splitOn_ne_nil '\n' cs)
    have hl := Text.splitOn_cons_of_ne hc hw
    rw [hl] at ih
    rw [List.cons_append, Text.splitOn_cons_self, Text.splitOn_cons_self, hl,
      Text.splitOn_append_of_not_mem newline_not_mem_lineBreak ih]
    rfl
  | case4 c cs hne ih =>
    by_cases hc : c = '\n'
    · -- A break at the end of the text.
      cases cs with
      | nil =>
        subst hc
        rfl
      | cons d ds => exact absurd rfl (hne d ds hc)
    · obtain ⟨w, ws, hw⟩ := List.exists_cons_of_ne_nil (Text.splitOn_ne_nil '\n' cs)
      rw [hw] at ih
      rw [Text.splitOn_cons_of_ne hc hw, Text.splitOn_cons_of_ne hc ih]
      rfl

/-- The lines of a leaf before they are marked and cleaned. -/
def Leaf.pieces (l : Leaf) : List Text :=
  Text.splitOn '\n' (Text.trim l.text)

/-- The lines of a leaf are its pieces, cleaned. In a paragraph they are marked first. -/
theorem Leaf.lines_eq (l : Leaf) :
    l.lines = (if l.tag == "p" then markedLines l.pieces else l.pieces).map cleanText := by
  rw [Leaf.lines, Leaf.pieces]
  split <;> simp only [splitOn_markBreaks]

/-- The pieces of a leaf hold its text, in order. -/
theorem Leaf.bare_flatten_pieces (l : Leaf) : bare l.pieces.flatten = bare l.text := by
  rw [Leaf.pieces, Text.bare_flatten_splitOn isSpace_newline, Text.bare_trim]

theorem Leaf.mem_of_mem_pieces {l : Leaf} {piece : Text} {c : Char} (hp : piece ∈ l.pieces) (hc : c ∈ piece) :
    c ∈ l.text :=
  Text.mem_of_mem_trim (Text.mem_of_mem_splitOn hp hc)

end Excerpt.Body
