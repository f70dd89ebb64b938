import Excerpt.Proofs.Body.Reading
import Excerpt.Proofs.Page.Strings

/-!
# Blocks hold the text of the page

The leaves of a tree hold its strings (`bare_leavesIn`). `Reading.unmarked` takes the line break marks out of texts in
which `<` stands in marks only, the texts that `Marked` describes. Together they give the main statement `ink_collect`:
the blocks of any trees without `<` hold their strings, in order, with nothing lost and nothing doubled.
-/

namespace Excerpt.Body

open Text (bare)
open Node (stringsIn StemsFrom)

/-! ## The leaves of a tree -/

mutual

theorem bare_leavesOf (parentTag : String) : ∀ n : Node,
    bare ((leavesOf [] parentTag n).flatMap (·.text)) = bare n.strings.flatten
  | .comment _ => rfl
  | .text _ s | .instruction s | .doctype s => by simp [leavesOf, Node.strings]
  | .element tag as ns => by
    have hx : Exclude.anyHolds [] (.element tag as ns) = false := rfl
    rw [leavesOf, Node.strings, hx]
    split
    · rename_i h
      cases h
    · split
      · rw [List.flatMap_singleton, Node.blockText, Node.bare_blockParts]
      · exact bare_leavesIn tag ns

/-- Without white space, the leaves of nodes hold their strings. -/
theorem bare_leavesIn (parentTag : String) : ∀ ns : List Node,
    bare ((leavesIn [] parentTag ns).flatMap (·.text)) = bare (stringsIn ns).flatten
  | [] => rfl
  | n :: ns => by
    rw [leavesIn, stringsIn, List.flatMap_append, List.flatten_append, Text.bare_append, Text.bare_append,
      bare_leavesOf parentTag n, bare_leavesIn parentTag ns]

end

mutual

theorem mem_leavesOf {xs : List Exclude} {parentTag : String} {l : Leaf} {c : Char} : ∀ {n : Node},
    l ∈ leavesOf xs parentTag n → c ∈ l.text → StemsFrom c n.strings
  | .comment _, hl, _ => by cases hl
  | .text _ s, hl, hc | .instruction s, hl, hc | .doctype s, hl, hc => by
    rw [leavesOf, List.mem_singleton] at hl
    rw [hl] at hc
    exact Or.inr ⟨s, List.mem_singleton.mpr rfl, hc⟩
  | .element tag as ns, hl, hc => by
    rw [leavesOf] at hl
    split at hl
    · cases hl
    · split at hl
      · rw [List.mem_singleton] at hl
        rw [hl] at hc
        exact Node.mem_blockParts hc
      · exact mem_leavesIn hl hc

/-- The characters of the leaves of nodes come from their strings, or are line breaks. -/
theorem mem_leavesIn {xs : List Exclude} {parentTag : String} {l : Leaf} {c : Char} : ∀ {ns : List Node},
    l ∈ leavesIn xs parentTag ns → c ∈ l.text → StemsFrom c (stringsIn ns)
  | n :: ns, hl, hc => by
    rw [leavesIn] at hl
    rcases List.mem_append.mp hl with hl | hl
    · exact (mem_leavesOf hl hc).append_left _
    · exact (mem_leavesIn hl hc).append_right _

end

/-! ## Texts with marks -/

theorem erase_mark_cons {c : Char} (hc : c ≠ '<') (t : Text) :
    Text.erase lineBreak (c :: t) = c :: Text.erase lineBreak t :=
  Text.erase_cons_of_ne hc

theorem erase_mark_append (t : Text) : Text.erase lineBreak (lineBreak ++ t) = Text.erase lineBreak t :=
  Text.erase_append_left (by decide) t

/-- Texts in which `<` stands in line break marks only. -/
inductive Marked : Text → Prop
  | nil : Marked []
  | char {c : Char} {t : Text} : c ≠ '<' → Marked t → Marked (c :: t)
  | mark {t : Text} : Marked t → Marked (lineBreak ++ t)

namespace Marked

theorem of_not_mem : ∀ {t : Text}, '<' ∉ t → Marked t
  | [], _ => nil
  | c :: t, h => by
    rw [List.mem_cons, not_or] at h
    exact char (Ne.symm h.1) (of_not_mem h.2)

theorem append {a b : Text} (ha : Marked a) (hb : Marked b) : Marked (a ++ b) := by
  induction ha with
  | nil => exact hb
  | char hc _ ih => exact char hc ih
  | mark _ ih =>
    rw [List.append_assoc]
    exact mark ih

theorem mark_iff {t : Text} : Marked (lineBreak ++ t) ↔ Marked t := by
  refine ⟨fun h => ?_, mark⟩
  generalize hu : lineBreak ++ t = u at h
  cases h with
  | nil => cases hu
  | char hc _ =>
    cases hu
    exact absurd rfl hc
  | mark h => exact List.append_cancel_left hu ▸ h

theorem erase_append {a : Text} (b : Text) (ha : Marked a) :
    Text.erase lineBreak (a ++ b) = Text.erase lineBreak a ++ Text.erase lineBreak b := by
  induction ha with
  | nil => rfl
  | char hc _ ih =>
    rw [List.cons_append, erase_mark_cons hc, erase_mark_cons hc, List.cons_append, ih]
  | mark _ ih =>
    rw [List.append_assoc, erase_mark_append, erase_mark_append, ih]

end Marked

theorem erase_of_not_mem : ∀ {t : Text}, '<' ∉ t → Text.erase lineBreak t = t
  | [], _ => rfl
  | c :: t, h => by
    rw [List.mem_cons, not_or] at h
    rw [erase_mark_cons (Ne.symm h.1), erase_of_not_mem h.2]

/-- The reading that takes the marks out. -/
def Reading.unmarked : Reading where
  plain c := c ≠ '<'
  Fits := Marked
  of := Text.erase lineBreak
  plain_newline := by decide
  fits_of_plain h := Marked.of_not_mem fun hc => h _ hc rfl
  fits_append := Marked.append
  of_append b ha := ha.erase_append b
  fits_mark := Marked.mark_iff
  of_mark := erase_mark_append

/-! ## Trees -/

/-- The text without white space and line break marks. -/
def ink (t : Text) : Text :=
  Text.erase lineBreak (bare t)

/-- A tree without `<` adds its strings to the blocks. -/
theorem holds_strings {blocks : List Block} {n : Node} {u : Text} (hn : ∀ s ∈ n.stringsBelow, '<' ∉ s)
    (h : Reading.unmarked.Holds blocks.reverse u) :
    Reading.unmarked.Holds (collect [] blocks n).reverse (u ++ bare n.stringsBelow.flatten) := by
  have hplain : ∀ l ∈ leavesIn [] (n.tag?.getD "") n.children, ∀ c ∈ l.text, c ≠ '<' := by
    rintro l hl c hc rfl
    rcases mem_leavesIn hl hc with h | ⟨s, hs, hcs⟩
    · cases h
    · exact hn s hs hcs
  have hbare : '<' ∉ bare n.stringsBelow.flatten := by
    intro hc
    obtain ⟨s, hs, hcs⟩ := List.mem_flatten.mp (Text.mem_of_mem_bare hc)
    exact hn s hs hcs
  have hread : (leavesIn [] (n.tag?.getD "") n.children).flatMap (Reading.unmarked.text ·.text) =
      bare n.stringsBelow.flatten := by
    rw [← Reading.text_flatMap fun l hl => Reading.reads_of_plain (hplain l hl), Reading.text, bare_leavesIn]
    exact erase_of_not_mem hbare
  rw [← hread]
  exact Reading.holds_collect hplain h

/-- Several trees without `<` add their strings to the blocks. -/
theorem holds_allStrings : ∀ {pages : List Node} {blocks : List Block} {u : Text},
    (∀ n ∈ pages, ∀ s ∈ n.stringsBelow, '<' ∉ s) → Reading.unmarked.Holds blocks.reverse u →
    Reading.unmarked.Holds (pages.foldl (collect []) blocks).reverse
      (u ++ bare (pages.flatMap Node.stringsBelow).flatten)
  | [], _, _, _, h => by simpa using h
  | n :: pages, _, _, hp, h => by
    rw [List.forall_mem_cons] at hp
    rw [List.foldl_cons, List.flatMap_cons, List.flatten_append, Text.bare_append, ← List.append_assoc]
    exact holds_allStrings hp.2 (holds_strings hp.1 h)

/-- **The blocks of pages hold their text**: without white space and marks, the texts of the blocks are the strings of
the pages, in order. -/
theorem ink_collect (pages : List Node) (h : ∀ n ∈ pages, ∀ s ∈ n.stringsBelow, '<' ∉ s) :
    ink ((pages.foldl (collect []) []).flatMap (·.text)) = bare (pages.flatMap Node.stringsBelow).flatten := by
  have hall : Reading.unmarked.Holds (pages.foldl (collect []) []).reverse _ := holds_allStrings h Reading.holds_nil
  obtain ⟨hr, ht⟩ := hall
  rw [List.reverse_reverse, List.nil_append] at ht
  rw [← ht]
  exact Reading.text_flatMap fun b hb => hr b (List.mem_reverse.mpr hb)

/-- Two pages with inline text, a broken paragraph, a comment and a list. -/
theorem ink_collect_twoPages :
    let pages : List Node :=
      [.element "div" [] [.text .plain "A ".toList, .element "b" [] [.text .plain "b".toList],
          .element "p" [] [.text .plain "c \n d".toList, .element "br" [] [], .comment "no".toList,
            .text .plain "e .".toList]],
        .element "ul" [] [.element "li" [] [.text .plain " f\n\ng".toList], .instruction "h".toList]]
    (∀ n ∈ pages, ∀ s ∈ n.stringsBelow, '<' ∉ s) ∧
      ink ((pages.foldl (collect []) []).flatMap (·.text)) = "Abcde.fgh".toList := by
  intro pages
  have h : ∀ n ∈ pages, ∀ s ∈ n.stringsBelow, '<' ∉ s := by decide
  exact ⟨h, (ink_collect pages h).trans (by decide)⟩

end Excerpt.Body
