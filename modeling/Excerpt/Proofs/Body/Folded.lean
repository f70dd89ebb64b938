import Excerpt.Body.Markup
import Excerpt.Proofs.Body.SimpleMarkup

/-!
# Blocks written and read back

The text of a block is `Folded`: its lines, with a line break and a mark between each two. Blocks of paragraphs and
headings are written as elements with their texts (`render_of_settled`), and read back as such, the line break and the
mark both as a line break (`exists_written`). So a block that fills a single line is read back as itself
(`WrittenFor.blocks_eq`), and any other one falls into blocks that do (`WrittenFor.not_broken`).
-/

namespace Excerpt.Body

open Text (isBlank isBlank_append splitOn join trim)
open Token (IsPlain blockTags)

/-! ## Writing -/

theorem blockLine_of_ordinary {b : Block} (h : b.Ordinary) : blockLine b = element b.tag b.text := by
  obtain ⟨t, hk⟩ := h.kind
  rw [blockLine, h.strong, if_neg Bool.false_ne_true]
  by_cases hp : b.tag = "p"
  · have hkind : (b.kind == .title) = false := by
      rw [hk, hp, kind_paragraph]
      split <;> rfl
    rw [hkind, if_neg Bool.false_ne_true, hp]
  · rw [hk, kind_heading h.tag_mem hp]
    rfl

theorem linesFrom_of_ordinary : ∀ {bs : List Block}, (∀ b ∈ bs, b.Ordinary) →
    linesFrom [] none bs = bs.map fun b => element b.tag b.text
  | [], _ => rfl
  | b :: bs, h => by
    rw [List.forall_mem_cons] at h
    obtain ⟨t, hk⟩ := h.1.kind
    have hfilter : Filter.applyAll [] b.text .body = .none := rfl
    have hlist : (b.kind == .list) = false := by rw [hk, kind_ne_list h.1.tag_mem]
    rw [linesFrom, hfilter]
    dsimp only
    rw [hlist, if_neg Bool.false_ne_true, linesFrom_of_ordinary h.2, blockLine_of_ordinary h.1]
    rfl

/-- Blocks written as elements, each on a line of its own. -/
def writtenLines (bs : List Block) : Text :=
  join ['\n'] (bs.map fun b => element b.tag b.text)

/-- Blocks are written the same however they stand among their neighbours. -/
theorem render_of_settled {bs cs : List Block} (h : bs.map Block.settled = cs) (hcs : ∀ b ∈ cs, b.Ordinary) :
    render [] bs = writtenLines cs := by
  have hbs : ∀ b ∈ bs, b.Ordinary := fun b hb => by
    have hs : b.settled.Ordinary := hcs _ (h ▸ List.mem_map_of_mem hb)
    exact ⟨hs.tag_mem, hs.strong, hs.kind⟩
  rw [render, linesFrom_of_ordinary hbs, writtenLines, ← h, List.map_map]
  rfl

/-! ## Folded texts -/

/-- What stands between two lines of a block. -/
def fold : Text :=
  '\n' :: lineBreak

/-- A line of a block: without signs of markup and line breaks, and empty if it is blank. -/
structure BlockLine (t : Text) : Prop where
  plain : IsPlain t
  single : '\n' ∉ t
  blank : isBlank t = true → t = []

/-- A text that is made up of the given lines. -/
structure Folds (t line : Text) (lines : List Text) : Prop where
  text : t = join fold (line :: lines)
  lines : ∀ l ∈ line :: lines, BlockLine l

/-- The text of a block as lines. -/
def Folded (t : Text) : Prop :=
  ∃ line lines, Folds t line lines

theorem blockLine_cleanText {t : Text} (h : IsPlain t) (hn : '\n' ∉ t) : BlockLine (cleanText t) where
  plain := ⟨fun hc => h.1 (mem_of_mem_cleanText (by decide) hc), fun hc => h.2 (mem_of_mem_cleanText (by decide) hc)⟩
  single hc := hn (mem_of_mem_cleanText (by decide) hc)
  blank hb := by rw [cleanText_eq_nil_iff, ← Text.bare_eq_nil_iff, ← bare_cleanText, Text.bare_eq_nil_iff, hb]

/-- A line that is added to a block has a blank in front if a letter or digit begins it. -/
theorem exists_joint {t : Text} (ht : BlockLine t) (b : Block) :
    ∃ joint, (b.withLine t).text = b.text ++ (fold ++ (joint ++ t)) ∧ BlockLine (joint ++ t) := by
  refine ⟨if (t.head?.map Text.isAlphanumeric).getD false then [' '] else [], by simp [Block.withLine, fold], ?_⟩
  split
  · rename_i halpha
    have hspace : IsPlain [' '] := ⟨by decide, by decide⟩
    refine ⟨Node.plain_append hspace ht.plain, ?_, fun hb => ?_⟩
    · rw [List.singleton_append, List.mem_cons, not_or]
      exact ⟨by decide, ht.single⟩
    · rw [ht.blank (by simpa [isBlank, isSpace_blank] using hb)] at halpha
      cases halpha
  · exact ht

theorem folded_withLine {b : Block} (hb : Folded b.text) {t : Text} (ht : BlockLine t) :
    Folded (b.withLine t).text := by
  obtain ⟨line, lines, htext, hlines⟩ := hb
  obtain ⟨joint, hadd, hline⟩ := exists_joint ht b
  refine ⟨line, lines ++ [joint ++ t], ?_, ?_⟩
  · rw [hadd, htext, ← List.cons_append, Text.join_append fold (List.cons_ne_nil _ []) (List.cons_ne_nil line lines),
      List.append_assoc]
    rfl
  · rw [← List.cons_append, List.forall_mem_append, List.forall_mem_singleton]
    exact ⟨hlines, hline⟩

/-- The text of each block of an ordinary leaf is folded. -/
theorem Leaf.folded_blocks {l : Leaf} (hl : l.Ordinary) (hplain : IsPlain l.text) : ∀ b ∈ l.blocks, Folded b.text := by
  have hline : ∀ line ∈ l.pieces, BlockLine (cleanText line) := fun line hmem =>
    blockLine_cleanText ⟨fun hc => hplain.1 (Leaf.mem_of_mem_pieces hmem hc),
      fun hc => hplain.2 (Leaf.mem_of_mem_pieces hmem hc)⟩ (Text.not_mem_of_mem_splitOn hmem)
  refine Leaf.forall_mem_blocks hl (fun _ line hmem => ?_) fun line hmem b hb => folded_withLine hb (hline line hmem)
  exact ⟨cleanText line, [], rfl, List.forall_mem_singleton.mpr (hline line hmem)⟩

/-! ## Reading back -/

/-- The first piece of a text that is written as lines: the mark behind a line is read as a line break of its own. -/
def firstPiece (line : Text) : List Text → Text
  | [] => line
  | _ :: _ => line ++ ['\n']

/-- The further pieces. -/
def morePieces : List Text → List Text
  | [] => []
  | line :: lines => firstPiece line lines :: morePieces lines

theorem join_mark_pieces : ∀ (line : Text) (lines : List Text),
    join (Token.opening "br") (firstPiece line lines :: morePieces lines) = join fold (line :: lines)
  | _, [] => rfl
  | line, l :: lines => by
    rw [morePieces, Text.join_cons_cons, join_mark_pieces l lines, Text.join_cons_cons, firstPiece, fold]
    simp [lineBreak, Token.opening]

theorem join_newline_pieces : ∀ (line : Text) (lines : List Text),
    join ['\n'] (firstPiece line lines :: morePieces lines) = join ['\n', '\n'] (line :: lines)
  | _, [] => rfl
  | line, l :: lines => by
    rw [morePieces, Text.join_cons_cons, join_newline_pieces l lines, Text.join_cons_cons, firstPiece]
    simp

theorem kept_firstPiece {line : Text} (h : BlockLine line) (lines : List Text) :
    Written.Kept (firstPiece line lines) := by
  cases lines with
  | nil => exact kept_of_isBlank h.plain fun hb => .inl (h.blank hb)
  | cons l lines =>
    have hnl : IsPlain ['\n'] := ⟨by decide, by decide⟩
    refine kept_of_isBlank (Node.plain_append h.plain hnl) fun hb => .inr ?_
    rw [firstPiece, isBlank, List.all_append, Bool.and_eq_true] at hb
    rw [firstPiece, h.blank hb.1]
    rfl

theorem kept_pieces : ∀ {line : Text} {lines : List Text}, (∀ l ∈ line :: lines, BlockLine l) →
    ∀ s ∈ firstPiece line lines :: morePieces lines, Written.Kept s
  | line, [], h => List.forall_mem_singleton.mpr (kept_firstPiece (h line List.mem_cons_self) [])
  | line, l :: lines, h => by
    rw [List.forall_mem_cons] at h
    exact List.forall_mem_cons.mpr ⟨kept_firstPiece h.1 _, kept_pieces h.2⟩

/-- An element that is written for a block. -/
structure WrittenFor (e : Written) (b : Block) : Prop where
  lawful : e.Lawful
  front : isBlank e.front = true
  tag : e.tag = b.tag
  lines : ∃ line lines, Folds b.text line lines ∧ join ['\n'] (e.first :: e.more) = join ['\n', '\n'] (line :: lines)

/-- The lines of blocks are elements that can be read. -/
theorem exists_written : ∀ {bs : List Block}, (∀ b ∈ bs, b.Ordinary ∧ Folded b.text) → bs ≠ [] → ∀ {front : Text},
    Written.Kept front → isBlank front = true → ∃ es, es.flatMap Written.text = front ++ writtenLines bs ∧
      List.Forall₂ WrittenFor es bs
  | b :: bs, h, _, front, hfront, hblank => by
    rw [List.forall_mem_cons] at h
    obtain ⟨hb, line, lines, hfolds⟩ := h.1
    have hfor : WrittenFor ⟨front, b.tag, firstPiece line lines, morePieces lines⟩ b :=
      ⟨⟨hb.tag_mem, hfront, kept_pieces hfolds.lines⟩, hblank, rfl, line, lines, hfolds, join_newline_pieces line lines⟩
    have htext : Written.text ⟨front, b.tag, firstPiece line lines, morePieces lines⟩ =
        front ++ element b.tag b.text := by
      rw [Written.text, join_mark_pieces, ← hfolds.text, element]
      simp [Token.opening, Token.closing]
    cases bs with
    | nil =>
      refine ⟨[_], ?_, .cons hfor .nil⟩
      rw [List.flatMap_singleton, htext]
      rfl
    | cons c bs =>
      have hnl : Written.Kept ['\n'] := kept_of_isBlank ⟨by decide, by decide⟩ fun _ => .inr rfl
      obtain ⟨es, hes, hall⟩ := exists_written h.2 (List.cons_ne_nil c bs) hnl rfl
      refine ⟨_ :: es, ?_, .cons hfor hall⟩
      rw [List.flatMap_cons, hes, htext]
      simp [writtenLines, Text.join_cons_cons]

/-! ### Blocks that are read back -/

/-- Whether a line is empty, or has text and a blank line in front. -/
def Apart (before line : Text) : Prop :=
  line = [] ∨ isBlank line = false ∧ isBlank before = true

theorem separate_of_apart {before line : Text} (h : Apart before line) : Separate before line :=
  h.imp_right fun ⟨hline, hbefore⟩ => ⟨hline, by rw [goesOn, hbefore]; rfl⟩

theorem isChain_splitOn_join : ∀ {line : Text} {lines : List Text}, (∀ l ∈ line :: lines, BlockLine l) →
    ∃ rest, splitOn '\n' (join ['\n', '\n'] (line :: lines)) = line :: rest ∧ (line :: rest).IsChain Apart
  | line, [], h => ⟨[], Text.splitOn_of_not_mem (h line List.mem_cons_self).single, List.isChain_singleton _⟩
  | line, l :: lines, h => by
    rw [List.forall_mem_cons] at h
    obtain ⟨rest, hrest, hchain⟩ := isChain_splitOn_join h.2
    have hsplit : splitOn '\n' (join ['\n', '\n'] (line :: l :: lines)) = line :: [] :: l :: rest := by
      have hparts : join ['\n', '\n'] (line :: l :: lines) =
          line ++ '\n' :: ([] ++ '\n' :: join ['\n', '\n'] (l :: lines)) := by
        rw [Text.join_cons_cons]
        simp
      rw [hparts, Text.splitOn_append_cons, Text.splitOn_append_cons, hrest, Text.splitOn_of_not_mem h.1.single]
      rfl
    refine ⟨[] :: l :: rest, hsplit, ?_⟩
    rw [List.isChain_cons_cons, List.isChain_cons_cons]
    refine ⟨.inl rfl, ?_, hchain⟩
    cases hb : isBlank l with
    | true => exact .inl ((h.2 l List.mem_cons_self).blank hb)
    | false => exact .inr ⟨hb, rfl⟩

namespace WrittenFor

variable {e : Written} {b : Block}

/-- **What is read back fills single lines.** -/
theorem not_broken (h : WrittenFor e b) : ∀ c ∈ (leafOfWritten e).blocks, ¬ Broken c.text := by
  rw [Leaf.forall_not_broken_iff]
  intro _
  obtain ⟨line, lines, hfolds, hjoin⟩ := h.lines
  obtain ⟨rest, hsplit, hchain⟩ := isChain_splitOn_join hfolds.lines
  have hpieces : (leafOfWritten e).pieces = splitOn '\n' (trim (join ['\n', '\n'] (line :: lines))) :=
    congrArg (fun t => splitOn '\n' (trim t)) hjoin
  rw [hpieces]
  refine (Text.isChain_splitOn_trim ?_ ?_ (hsplit ▸ hchain)).imp fun _ _ => separate_of_apart
  · rintro u w v hu (h | ⟨hv, hw⟩)
    · exact .inl h
    · rw [isBlank_append, hu, Bool.true_and] at hw
      exact .inr ⟨hv, hw⟩
  · rintro w v u hu (h | ⟨hv, hw⟩)
    · exact .inl (List.append_eq_nil_iff.mp h).1
    · rw [isBlank_append, hu, Bool.and_true] at hv
      exact .inr ⟨hv, hw⟩

/-- **A block that fills a single line, and is cleaned, is read back as itself.** -/
theorem blocks_eq (h : WrittenFor e b) (hb : ¬ Broken b.text) (hclean : cleanText b.text = b.text)
    (hblock : b = textBlock b.tag b.text) : (leafOfWritten e).blocks = [b] := by
  rw [Broken, not_or] at hb
  obtain ⟨line, lines, hfolds, hjoin⟩ := h.lines
  -- A second line would be behind a line break.
  have hlines : lines = [] := by
    cases lines with
    | nil => rfl
    | cons l lines =>
      refine absurd ?_ hb.2
      rw [hfolds.text, Text.join_cons_cons]
      simp [fold]
  have htext : (leafOfWritten e).text = b.text := by
    rw [hfolds.text, hlines]
    rw [hlines] at hjoin
    exact hjoin
  have htag : (leafOfWritten e).tag = b.tag := h.tag
  have hpieces : (leafOfWritten e).pieces = [b.text] := by
    have htrim : trim b.text = b.text := by
      rw [← hclean, cleanText_eq, Text.trim_trim]
    rw [Leaf.pieces, htext, htrim, Text.splitOn_of_not_mem hb.2]
  have hne : b.text.isEmpty = false := by simpa using hb.1
  rw [Leaf.blocks, htag, hpieces, paragraphBlocks, headingBlocks, List.map_singleton, hclean, hne,
    List.filter_cons_of_pos (by rw [hne]; rfl), blocksFrom]
  conv_rhs => rw [hblock]
  split
  · rename_i hp
    rw [beq_iff_eq] at hp
    rw [hp]
    rfl
  · rfl

end WrittenFor

end Excerpt.Body
