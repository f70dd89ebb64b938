import Excerpt.Proofs.Body.Conservation
import Excerpt.Proofs.Body.PlainParagraphs
import Excerpt.Proofs.Body.SimpleMarkup
import Mathlib.Data.List.Forall2

/-!
# Plain text as a body

A body text without markup is read as one paragraph for each stretch of lines between blank ones. The lines of a
paragraph go on with each other if none of them begins with a time of the day (`exists_blocksFrom_eq_singleton`), so
each stretch becomes one block, and the block holds the ink of the stretch: `ofMarkup_plain`.
-/

namespace Excerpt.Body

open Text (bare isBlank isBlank_append splitOn join trim)

/-! ## A paragraph in one block -/

/-- Lines that go on with each other make one block. -/
theorem exists_blocksFrom_eq_singleton : ∀ {rest : List Text} {b : Block} {before : Text}, isBlank before = false →
    (∀ line ∈ rest, isBlank line = false ∧ isTimestamp (cleanText line) = false) →
      ∃ c, blocksFrom b before rest = [c] ∧ c.kind = b.kind ∧ c.strong = b.strong
  | [], b, _, _, _ => ⟨b, rfl, rfl, rfl⟩
  | line :: rest, b, before, hb, h => by
    rw [List.forall_mem_cons] at h
    have hgo : goesOn before line = true := by rw [goesOn, hb, h.1.2]; rfl
    rw [blocksFrom, Text.isEmpty_of_not_blank h.1.1, hgo]
    exact exists_blocksFrom_eq_singleton (b := b.withLine (cleanText line)) h.1.1 h.2

/-- The blocks of an ordinary leaf hold its text. -/
theorem Leaf.ink_blocks {l : Leaf} (hl : l.Ordinary) : l.blocks.flatMap (fun b => ink b.text) = bare l.text := by
  have hplain : ∀ c ∈ l.text, Reading.unmarked.plain c := by
    rintro c hc rfl
    exact hl.unmarked hc
  obtain ⟨-, hink⟩ := Reading.holds_addLeaf (R := Reading.unmarked) hplain Reading.holds_nil
  have hblocks : (addLeaf [] l).map Block.settled = l.blocks.reverse ++ [].map Block.settled :=
    settled_addLeaf hl (by simp)
  rw [List.map_nil, List.append_nil, ← List.reverse_inj, List.reverse_reverse] at hblocks
  have htext : Reading.unmarked.text l.text = bare l.text :=
    erase_of_not_mem fun h => hl.unmarked (Text.mem_of_mem_bare h)
  rw [List.nil_append, htext] at hink
  rw [← hblocks, ← List.map_reverse, List.flatMap_map]
  exact hink

/-! ## Plain text -/

/-- The element for a stretch of lines. -/
def writtenStretch (lines : List Text) : Written :=
  ⟨[], "p", trim (join ['\n'] lines), []⟩

theorem markupOfPlain_eq (t : Text) :
    markupOfPlain t = ((stretches t).map writtenStretch).flatMap Written.text := by
  rw [markupOfPlain, paragraphs_eq, List.flatMap_map, List.flatMap_map]
  refine List.flatMap_congr fun lines _ => ?_
  simp [Written.text, writtenStretch, join, Token.opening, Token.closing]

theorem exists_mem_of_mem_trim_join {lines : List Text} {c : Char} (hc : c ≠ '\n')
    (h : c ∈ trim (join ['\n'] lines)) : ∃ line ∈ lines, c ∈ line :=
  (Text.mem_of_mem_join (Text.mem_of_mem_trim h)).resolve_left fun h => hc (List.mem_singleton.mp h)

/-- A stretch of lines without times of the day makes one block of text. -/
theorem exists_blocks_eq_singleton {lines : List Text} (hne : lines ≠ [])
    (h : ∀ line ∈ lines, isBlank line = false ∧ isTimestamp line = false ∧ '<' ∉ line ∧ '\n' ∉ line) :
    ∃ b, (leafOfWritten (writtenStretch lines)).blocks = [b] ∧ b.kind = .text ∧ b.strong = false ∧
      ink b.text = bare (join ['\n'] lines) := by
  have hpieces : (leafOfWritten (writtenStretch lines)).pieces = splitOn '\n' (trim (join ['\n'] lines)) :=
    congrArg (splitOn '\n') (Text.trim_trim _)
  have hsplit : splitOn '\n' (join ['\n'] lines) = lines := Text.splitOn_join hne fun line hline => (h line hline).2.2.2
  have hline : ∀ w ∈ splitOn '\n' (trim (join ['\n'] lines)),
      isBlank w = false ∧ isTimestamp (cleanText w) = false := by
    intro w hw
    obtain ⟨u, v, hu, hv, hmem⟩ := Text.exists_of_mem_splitOn_trim hw
    rw [hsplit] at hmem
    obtain ⟨hblank, htime, -⟩ := h _ hmem
    rw [isBlank_append, isBlank_append, hu, hv, Bool.true_and, Bool.and_true] at hblank
    refine ⟨hblank, Bool.eq_false_iff.mpr fun hclean => Bool.eq_false_iff.mp htime ?_⟩
    exact isTimestamp_of_within hu (isTimestamp_of_cleanText hclean)
  have hordinary : (leafOfWritten (writtenStretch lines)).Ordinary := by
    have htag : "p" ∈ Token.blockTags := by decide
    refine ⟨rfl, fun hc => ?_, .inl htag⟩
    obtain ⟨line, hmem, hc⟩ := exists_mem_of_mem_trim_join (by decide) hc
    exact (h line hmem).2.2.1 hc
  obtain ⟨first, rest, hfirst⟩ := List.exists_cons_of_ne_nil (Text.splitOn_ne_nil '\n' (trim (join ['\n'] lines)))
  rw [hfirst, List.forall_mem_cons] at hline
  obtain ⟨b, hb, hkind, hstrong⟩ :=
    exists_blocksFrom_eq_singleton (b := textBlock "p" (cleanText first)) hline.1.1 hline.2
  have hblocks : (leafOfWritten (writtenStretch lines)).blocks = [b] := by
    rw [Leaf.blocks, hpieces, hfirst, paragraphBlocks, Text.isEmpty_of_not_blank hline.1.1]
    exact hb
  have hink := Leaf.ink_blocks hordinary
  rw [hblocks, List.flatMap_singleton] at hink
  refine ⟨b, hblocks, ?_, hstrong, hink.trans (Text.bare_trim _)⟩
  rw [hkind, textBlock, kind_paragraph, hline.1.2]
  rfl

theorem forall₂_flatMap_singleton {α β : Type} {f : α → List β} {R : β → α → Prop} : ∀ {as : List α},
    (∀ a ∈ as, ∃ b, f a = [b] ∧ R b a) → List.Forall₂ R (as.flatMap f) as
  | [], _ => .nil
  | a :: as, h => by
    rw [List.forall_mem_cons] at h
    obtain ⟨b, hb, hR⟩ := h.1
    rw [List.flatMap_cons, hb]
    exact .cons hR (forall₂_flatMap_singleton h.2)

theorem lawful_writtenStretch {lines : List Text} (h : ∀ line ∈ lines, Token.IsPlain line) :
    (writtenStretch lines).Lawful := by
  have htag : "p" ∈ Token.blockTags := by decide
  have hplain : Token.IsPlain (trim (join ['\n'] lines)) := by
    refine ⟨fun hc => ?_, fun hc => ?_⟩
    · obtain ⟨line, hmem, hc⟩ := exists_mem_of_mem_trim_join (by decide) hc
      exact (h line hmem).1 hc
    · obtain ⟨line, hmem, hc⟩ := exists_mem_of_mem_trim_join (by decide) hc
      exact (h line hmem).2 hc
  have hfront : Written.Kept [] := kept_of_isBlank ⟨List.not_mem_nil, List.not_mem_nil⟩ fun _ => .inl rfl
  refine ⟨htag, hfront, List.forall_mem_singleton.mpr (kept_of_isBlank hplain fun hb => .inl ?_)⟩
  exact (Text.trim_trim _).symm.trans (Text.trim_eq_nil_iff.mpr hb)

/-- **Plain text becomes one block of text for each of its paragraphs**, in order: a text without the signs of markup,
no line of which begins with a time of the day, gives a block that is not strong for each stretch of lines between blank
ones, and the block holds what the stretch holds, white space and line break marks aside. -/
theorem ofMarkup_plain {t : Text} (ht : '<' ∉ t ∧ '&' ∉ t)
    (hlines : ∀ line ∈ splitOn '\n' t, isTimestamp line = false) :
    List.Forall₂ (fun b lines => b.kind = .text ∧ b.strong = false ∧ ink b.text = bare (join ['\n'] lines))
      (ofMarkup t) (stretches t) := by
  have hmarked : ¬ ['<', 'p'] <:+: t := fun h => ht.1 (h.subset List.mem_cons_self)
  have hline : ∀ lines ∈ stretches t, ∀ line ∈ lines, isBlank line = false ∧ isTimestamp line = false ∧
      Token.IsPlain line ∧ '\n' ∉ line := by
    intro lines hmem line hline
    obtain ⟨hsplit, hblank⟩ := (of_mem_stretches hmem).2 line hline
    exact ⟨hblank, hlines line hsplit, ⟨fun hc => ht.1 (Text.mem_of_mem_splitOn hsplit hc),
      fun hc => ht.2 (Text.mem_of_mem_splitOn hsplit hc)⟩, Text.not_mem_of_mem_splitOn hsplit⟩
  have hblocks : (ofMarkup t).map Block.settled =
      (stretches t).flatMap fun lines => (leafOfWritten (writtenStretch lines)).blocks := by
    rw [ofMarkup_of_unmarked hmarked, markupOfPlain_eq]
    by_cases hnil : stretches t = []
    · rw [hnil]
      rfl
    · rw [settled_collect_ofMarkup (by simpa using hnil), List.flatMap_map]
      · intro e he
        obtain ⟨lines, hmem, rfl⟩ := List.mem_map.mp he
        exact lawful_writtenStretch fun line hl => (hline lines hmem line hl).2.2.1
      · intro e he
        obtain ⟨lines, -, rfl⟩ := List.mem_map.mp he
        rfl
  have hall := forall₂_flatMap_singleton fun lines hmem => exists_blocks_eq_singleton (of_mem_stretches hmem).1
    fun line hl => (hline lines hmem line hl).imp_right fun h => ⟨h.1, h.2.1.1, h.2.2⟩
  rw [← hblocks, List.forall₂_map_left_iff] at hall
  exact hall

/-- Two paragraphs, the first of them of two lines, with blank lines of several kinds around them. -/
theorem ofMarkup_plain_twoParagraphs :
    let t := "\n A  b\nc .\n \t\n\nd > 1:30\n".toList
    ('<' ∉ t ∧ '&' ∉ t) ∧ (∀ line ∈ splitOn '\n' t, isTimestamp line = false) ∧
      List.Forall₂ (fun b lines => b.kind = .text ∧ b.strong = false ∧ ink b.text = bare (join ['\n'] lines))
        (ofMarkup t) [[" A  b".toList, "c .".toList], ["d > 1:30".toList]] := by
  intro t
  have ht : '<' ∉ t ∧ '&' ∉ t := by decide
  have hlines : ∀ line ∈ splitOn '\n' t, isTimestamp line = false := by decide
  have hstretches : stretches t = [[" A  b".toList, "c .".toList], ["d > 1:30".toList]] := by decide
  exact ⟨ht, hlines, hstretches ▸ ofMarkup_plain ht hlines⟩

end Excerpt.Body
