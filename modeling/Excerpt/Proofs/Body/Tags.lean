import Excerpt.Proofs.Body.Emitted
import Excerpt.Proofs.Body.Provenance

/-!
# The tags of a body

The simplified markup of blocks is written down in pieces (`written`), which make up the markup (`plain_written`).
`TagsOnly` says that every `<` of it begins a tag of the library. That is a property of the single pieces
(`tagsOnly_iff_safe`), so the pieces of the lines (`mem_pieceLines`) decide it.
-/

namespace Excerpt.Body

open Text (bare)

/-! ## Tags -/

/-- The tags that the library writes around text. -/
def bodyTags : List String :=
  ["p", "h1", "h2", "h3", "h4", "h5", "h6", "strong", "ul", "ol", "li"]

/-- Whether the piece is a tag of the library, the mark of a line break included. -/
def Piece.IsTag : Piece → Prop
  | opening tag | closing tag => tag ∈ bodyTags
  | mark => True
  | newline | page _ => False

/-- Whether every `<` in the text of the pieces is where a tag of the library begins. -/
def TagsOnly (ps : List Piece) : Prop :=
  ∀ pre post, plain ps = pre ++ '<' :: post →
    ∃ before p after, ps = before ++ p :: after ∧ plain before = pre ∧ p.IsTag

/-- Whether every `<` in the text of the piece is its first character, and the piece is a tag of the library. -/
def Piece.Safe (p : Piece) : Prop :=
  ∀ pre post, p.text = pre ++ '<' :: post → pre = [] ∧ p.IsTag

namespace Piece

theorem IsTag.text_ne_nil {p : Piece} (h : p.IsTag) : p.text ≠ [] := by
  cases p with
  | opening tag | closing tag | mark => simp [text, lineBreak]
  | newline | page t => cases h

theorem eq_nil_of_not_mem {t pre post : Text} (ht : '<' ∉ t) (h : '<' :: t = pre ++ '<' :: post) : pre = [] := by
  cases pre with
  | nil => rfl
  | cons c pre =>
    rw [List.cons_append, List.cons.injEq] at h
    exact absurd (h.2 ▸ List.mem_append_right _ List.mem_cons_self) ht

theorem not_mem_of_mem_bodyTags {tag : String} (h : tag ∈ bodyTags) : '<' ∉ tag.toList := by
  have : ∀ tag ∈ bodyTags, '<' ∉ tag.toList := by decide
  exact this tag h

@[simp] theorem safe_opening {tag : String} : (opening tag).Safe ↔ tag ∈ bodyTags := by
  refine ⟨fun h => (h [] _ rfl).2, fun h pre post he => ⟨eq_nil_of_not_mem ?_ he, h⟩⟩
  simpa using not_mem_of_mem_bodyTags h

@[simp] theorem safe_closing {tag : String} : (closing tag).Safe ↔ tag ∈ bodyTags := by
  refine ⟨fun h => (h [] _ rfl).2, fun h pre post he => ⟨eq_nil_of_not_mem ?_ he, h⟩⟩
  simpa using not_mem_of_mem_bodyTags h

@[simp] theorem safe_mark : mark.Safe :=
  fun _ _ he => ⟨eq_nil_of_not_mem (t := "br>".toList) (by decide) he, trivial⟩

@[simp] theorem safe_newline : newline.Safe := by
  intro pre post he
  have hmem : '<' ∈ newline.text := he ▸ List.mem_append_right _ List.mem_cons_self
  cases List.mem_singleton.mp hmem

@[simp] theorem safe_page {t : Text} : (page t).Safe ↔ '<' ∉ t := by
  refine ⟨fun h hm => ?_, fun h pre post he => ?_⟩
  · obtain ⟨pre, post, he⟩ := List.append_of_mem hm
    exact (h pre post he).2
  · exact absurd (he ▸ List.mem_append_right _ List.mem_cons_self : '<' ∈ (page t).text) h

end Piece

/-- A character of a text of pieces belongs to one piece: no other piece that is not empty begins there. -/
theorem piece_unique {p q : Piece} {after after' : List Piece} {u : Text} (hp : p.text ≠ [])
    (hu : u.length < q.text.length) : ∀ {before before' : List Piece}, before ++ p :: after = before' ++ q :: after' →
    plain before = plain before' ++ u → u = [] ∧ p = q
  | [], [], h, ht => by
    rw [List.nil_append, List.nil_append, List.cons.injEq] at h
    exact ⟨ht.symm, h.1⟩
  | [], r :: _, h, ht => by
    rw [List.nil_append, List.cons_append, List.cons.injEq] at h
    simp only [plain_nil, plain_cons, List.nil_eq, List.append_eq_nil_iff] at ht
    exact absurd (h.1 ▸ ht.1.1) hp
  | r :: before, [], h, ht => by
    rw [List.nil_append, List.cons_append, List.cons.injEq] at h
    rw [plain_cons, plain_nil, List.nil_append, h.1] at ht
    -- The text before `p` would go over the whole of `q`.
    have hlen := congrArg List.length ht
    rw [List.length_append] at hlen
    omega
  | r :: before, r' :: before', h, ht => by
    rw [List.cons_append, List.cons_append, List.cons.injEq] at h
    rw [plain_cons, plain_cons, h.1, List.append_assoc] at ht
    exact piece_unique hp hu h.2 (List.append_cancel_left ht)

/-- Whether tags of the library alone begin with `<` is up to the single pieces. -/
theorem tagsOnly_iff_safe (ps : List Piece) : TagsOnly ps ↔ ∀ p ∈ ps, p.Safe := by
  constructor
  · intro h q hq u v hv
    obtain ⟨before', after', rfl⟩ := List.append_of_mem hq
    obtain ⟨before, p, after, he, ht, hp⟩ := h (plain before' ++ u) (v ++ plain after') (by simp [hv])
    obtain ⟨hu, rfl⟩ := piece_unique hp.text_ne_nil (by simp [hv]) he.symm ht
    exact ⟨hu, hp⟩
  · intro h
    induction ps with
    | nil => simp [TagsOnly]
    | cons p ps ih =>
      rw [List.forall_mem_cons] at h
      intro pre post he
      rw [plain_cons, List.append_eq_append_iff] at he
      -- The character stands behind the first piece or in it.
      rcases he with ⟨as, rfl, he⟩ | ⟨bs, hp, he⟩
      · obtain ⟨before, q, after, rfl, ht, hq⟩ := ih h.2 as post he
        exact ⟨p :: before, q, after, rfl, by rw [plain_cons, ht], hq⟩
      · cases bs with
        | nil =>
          obtain ⟨before, q, after, rfl, ht, hq⟩ := ih h.2 [] post he.symm
          exact ⟨p :: before, q, after, rfl, by rw [plain_cons, ht, hp, List.append_nil, List.append_nil], hq⟩
        | cons c bs =>
          rw [List.cons_append, List.cons.injEq] at he
          obtain ⟨rfl, hq⟩ := h.1 pre bs (he.1 ▸ hp)
          exact ⟨[], p, ps, rfl, rfl, hq⟩

/-! ## The markup in pieces -/

/-- The tag around the text of a block that is no list item. -/
def lineTag (b : Block) : String :=
  if b.strong then "strong" else if b.kind == .title then b.tag else "p"

theorem blockLine_eq (b : Block) : blockLine b = element (lineTag b) b.text := by
  rw [blockLine, lineTag]
  split
  · rfl
  · split <;> rfl

/-- The tag that opens the line of a block. -/
def openingTag (b : Block) : String :=
  if b.kind == .list then b.tag else lineTag b

/-- The line of a block; that of a list item is left open. -/
def blockPieces (s : Sourced) : List Piece :=
  .opening (openingTag s.block) :: s.pieces ++
    if s.block.kind == .list then [] else [.closing (openingTag s.block)]

/-- The line that opens a list. -/
def openPieces (tag : String) : List Piece :=
  [.opening "p", .opening tag]

/-- The line that closes a list. -/
def closePieces (tag : String) : List Piece :=
  [.closing tag, .closing "p"]

/-- The lines for blocks, `current` being the tag of the list that is open. -/
def pieceLines (current : Option String) : List Sourced → List (List Piece)
  | [] => current.toList.map closePieces
  | s :: ss =>
    if s.block.kind == .list then
      let opened := opens? current s.block
      opened.toList.map openPieces ++ blockPieces s :: pieceLines (opened.or current) ss
    else current.toList.map closePieces ++ blockPieces s :: pieceLines none ss

/-- The lines in one. -/
def joinLines : List (List Piece) → List Piece
  | [] => []
  | [l] => l
  | l :: ls => l ++ .newline :: joinLines ls

/-- The blocks that filters let through, with their sources. -/
def kept (filters : List Filter) (ss : List Sourced) : List Sourced :=
  passing filters (Block.text ∘ Sourced.block) ss

theorem blocks_kept (filters : List Filter) (ss : List Sourced) :
    Sourced.blocks (kept filters ss) = letThrough filters (Sourced.blocks ss) :=
  map_passing filters Block.text Sourced.block ss

theorem kept_subset (filters : List Filter) (ss : List Sourced) : kept filters ss ⊆ ss :=
  (passing_sublist filters _ ss).subset

/-- The blocks as simplified markup, in pieces. -/
def written (filters : List Filter) (ss : List Sourced) : List Piece :=
  joinLines (pieceLines none (kept filters ss))

/-! ### Without the sources -/

theorem plain_openPieces (tag : String) : plain (openPieces tag) = openLine tag := by
  simp [openPieces, openLine, Piece.text]

theorem map_plain_closePieces (current : Option String) :
    (current.toList.map closePieces).map plain = closeLines current := by
  cases current with
  | none => rfl
  | some tag => simp [closePieces, closeLines, Piece.text]

theorem plain_blockPieces (s : Sourced) :
    plain (blockPieces s) =
      if s.block.kind == .list then '<' :: s.block.tag.toList ++ '>' :: s.block.text else blockLine s.block := by
  rw [blockPieces, openingTag, blockLine_eq, element, s.text_eq]
  split <;> simp [Piece.text]

theorem map_plain_pieceLines (current : Option String) (ss : List Sourced) :
    (pieceLines current ss).map plain = linesFrom [] current (Sourced.blocks ss) := by
  induction ss generalizing current with
  | nil => exact map_plain_closePieces current
  | cons s ss ih =>
    have hnone : Filter.applyAll [] s.block.text .body = .none := rfl
    rw [Sourced.blocks, List.map_cons, ← Sourced.blocks, linesFrom, hnone, pieceLines]
    dsimp only
    split
    · rename_i hk
      rw [List.map_append, List.map_cons, ih, plain_blockPieces, if_pos hk]
      cases opens? current s.block with
      | none => rfl
      | some tag => rw [Option.toList_some, List.map_singleton, List.map_singleton, plain_openPieces]; rfl
    · rename_i hk
      rw [List.map_append, List.map_cons, ih, map_plain_closePieces, plain_blockPieces, if_neg hk]

theorem plain_joinLines (ls : List (List Piece)) : plain (joinLines ls) = Text.join ['\n'] (ls.map plain) := by
  fun_induction joinLines ls with
  | case1 => rfl
  | case2 l => rfl
  | case3 l ls hne ih =>
    obtain ⟨m, ms, rfl⟩ := List.exists_cons_of_ne_nil hne
    rw [plain_append, plain_cons, ih, List.map_cons, List.map_cons, ← List.append_assoc]
    rfl

/-- The pieces make up the markup. -/
theorem plain_written (filters : List Filter) (ss : List Sourced) :
    plain (written filters ss) = render filters (Sourced.blocks ss) := by
  rw [written, plain_joinLines, map_plain_pieceLines, blocks_kept, ← linesFrom_letThrough, render]

/-- A mark in the text of the page, and one for a line break of it. -/
example :
    written [] (Sourced.collect [] [] (.element "body" [] [.element "p" [] [.text .plain "a <br> b".toList],
      .element "p" [] [.text .plain "<br>c".toList, .element "br" [] [], .text .plain "d".toList]])) =
      [.opening "p", .page "a <br> b".toList, .newline, .page lineBreak, .page " c".toList, .newline, .mark,
        .page " d".toList, .closing "p"] := by decide

/-! ## The pieces of the markup -/

/-- The tags of the lists that blocks open, `current` being the tag of the list that is open. -/
def listsOpened (current : Option String) : List Block → List String
  | [] => []
  | b :: bs =>
    if b.kind == .list then
      (opens? current b).toList ++ listsOpened ((opens? current b).or current) bs
    else listsOpened none bs

theorem mem_pieceLines {p : Piece} {current : Option String} {ss : List Sourced} :
    p ∈ (pieceLines current ss).flatten ↔
      (∃ tag ∈ current, p ∈ closePieces tag) ∨
      (∃ tag ∈ listsOpened current (Sourced.blocks ss), p ∈ openPieces tag ∨ p ∈ closePieces tag) ∨
      ∃ s ∈ ss, p ∈ blockPieces s := by
  induction ss generalizing current with
  | nil => cases current <;> simp [pieceLines, listsOpened, Sourced.blocks]
  | cons s ss ih =>
    rw [pieceLines, Sourced.blocks, List.map_cons, ← Sourced.blocks, listsOpened]
    split
    · cases current with
      | some tag => simp [opens?, ih, or_left_comm]
      | none => cases opens? none s.block <;> simp [ih, or_left_comm, or_assoc]
    · cases current <;> simp [ih, or_left_comm]

theorem mem_joinLines {p : Piece} (hp : p ≠ .newline) (ls : List (List Piece)) :
    p ∈ joinLines ls ↔ p ∈ ls.flatten := by
  fun_induction joinLines ls with
  | case1 => rfl
  | case2 l => simp
  | case3 l ls _ ih => simp [ih, hp]

theorem page_mem_written {t : Text} {filters : List Filter} {ss : List Sourced} :
    .page t ∈ written filters ss ↔ ∃ s ∈ kept filters ss, .page t ∈ s.pieces := by
  rw [written, mem_joinLines (by simp), mem_pieceLines]
  have hblock : ∀ s : Sourced, .page t ∈ blockPieces s ↔ .page t ∈ s.pieces := by
    intro s
    rw [blockPieces]
    split <;> simp
  simp [openPieces, closePieces, hblock]

/-! ### Safe pieces -/

theorem p_mem_bodyTags : "p" ∈ bodyTags :=
  List.mem_cons_self

theorem safe_listPieces {tag : String} :
    (∀ p, p ∈ openPieces tag ∨ p ∈ closePieces tag → p.Safe) ↔ tag ∈ bodyTags := by
  simp [openPieces, closePieces, or_imp, forall_and, p_mem_bodyTags]

theorem safe_blockPieces {s : Sourced} :
    (∀ p ∈ blockPieces s, p.Safe) ↔ (∀ p ∈ s.pieces, p.Safe) ∧ openingTag s.block ∈ bodyTags := by
  rw [blockPieces, List.cons_append, List.forall_mem_cons, List.forall_mem_append, Piece.safe_opening]
  split <;> simp [and_comm]

/-- The pieces of the markup are safe if those of the blocks, the tags of their lines and those of their lists are. -/
theorem safe_written {filters : List Filter} {ss : List Sourced} :
    (∀ p ∈ written filters ss, p.Safe) ↔
      (∀ s ∈ kept filters ss, ∀ p ∈ s.pieces, p.Safe) ∧
      (∀ tag ∈ listsOpened none (Sourced.blocks (kept filters ss)), tag ∈ bodyTags) ∧
      ∀ s ∈ kept filters ss, openingTag s.block ∈ bodyTags := by
  have hlines : (∀ p ∈ written filters ss, p.Safe) ↔
      ∀ p ∈ (pieceLines none (kept filters ss)).flatten, p.Safe := by
    refine forall_congr' fun p => ?_
    by_cases hn : p = .newline
    · simp [hn]
    · rw [written, mem_joinLines hn]
  rw [hlines]
  constructor
  · intro h
    have hblock : ∀ s ∈ kept filters ss, (∀ p ∈ s.pieces, p.Safe) ∧ openingTag s.block ∈ bodyTags := fun s hs =>
      safe_blockPieces.mp fun p hp => h p (mem_pieceLines.mpr (.inr (.inr ⟨s, hs, hp⟩)))
    exact ⟨fun s hs => (hblock s hs).1,
      fun tag ht => safe_listPieces.mp fun p hp => h p (mem_pieceLines.mpr (.inr (.inl ⟨tag, ht, hp⟩))),
      fun s hs => (hblock s hs).2⟩
  · rintro ⟨hpieces, hlists, htags⟩ p hp
    rcases mem_pieceLines.mp hp with ⟨tag, h, -⟩ | ⟨tag, ht, hp⟩ | ⟨s, hs, hp⟩
    · cases h
    · exact safe_listPieces.mpr (hlists tag ht) p hp
    · exact safe_blockPieces.mpr ⟨hpieces s hs, htags s hs⟩ p hp

/-! ## The tags of blocks -/

/-- Whether the kind of the block fits its tag: list items are of lists, and titles are headings or strong. -/
structure Named (b : Block) : Prop where
  list : b.kind = .list → b.tag = "ul" ∨ b.tag = "ol" ∨ b.tag = "li"
  title : b.kind = .title → isHeading b.tag = true ∨ b.strong = true
  heading : isHeading b.tag = true → b.kind = .title

theorem tag_block (l : Leaf) (isFirst inline : Bool) (line : Text) : (l.block isFirst inline line).tag = l.tag := by
  simp only [Leaf.block, Block.of]
  split <;> rfl

theorem named_block (l : Leaf) (isFirst inline : Bool) (line : Text) : Named (l.block isFirst inline line) := by
  obtain ⟨t, ht⟩ : ∃ t, (l.block isFirst inline line).kind = .of l.tag t := by
    simp only [Leaf.block, Block.of]
    split <;> exact ⟨_, rfl⟩
  constructor <;> rw [ht, tag_block, BlockKind.of]
  · grind
  · grind
  · grind

theorem Named.promote {b : Block} (h : Named b) (next : Block) : Named (promote next b) := by
  rw [Body.promote]
  split
  · rename_i hb
    simp only [Bool.and_eq_true, beq_iff_eq] at hb
    obtain ⟨⟨⟨⟨hkind, hstrong⟩, -⟩, -⟩, -⟩ := hb
    exact ⟨fun h => (by cases h), fun _ => .inr hstrong, fun _ => rfl⟩
  · exact h

/-- The kinds of all blocks of pages fit their tags. -/
theorem named_collect (xs : List Exclude) (pages : List Node) :
    ∀ s ∈ pages.foldl (Sourced.collect xs) [], Named s.block := by
  refine Sourced.Keeps.collect_pages (fun n _ l _ => ?_) (by simp)
  exact {
    fresh := fun line _ isFirst inline => named_block l isFirst inline line
    add := fun _ _ _ _ _ h => ⟨h.list, h.title, h.heading⟩
    addBreak := fun _ _ _ h => ⟨h.list, h.title, h.heading⟩
    promote := fun next _ h => h.promote next
    close := fun h => ⟨h.list, h.title, h.heading⟩ }

theorem isHeading_cases {tag : String} (h : isHeading tag = true) :
    ∃ d, '1' ≤ d ∧ d ≤ '6' ∧ (tag.toList = ['h', d] ∨ tag.toList = ['h', d, '\n']) := by
  rw [isHeading] at h
  split at h
  · rename_i d ht
    simp only [Bool.and_eq_true, decide_eq_true_eq] at h
    exact ⟨d, h.1, h.2, .inl ht⟩
  · rename_i d ht
    simp only [Bool.and_eq_true, decide_eq_true_eq] at h
    exact ⟨d, h.1, h.2, .inr ht⟩
  · cases h

theorem mem_of_digit {d : Char} (h1 : '1' ≤ d) (h6 : d ≤ '6') : d ∈ ['1', '2', '3', '4', '5', '6'] := by
  have hl : 49 ≤ d.toNat := h1
  have hu : d.toNat ≤ 54 := h6
  have h : ∀ n < 55, 49 ≤ n → Char.ofNat n ∈ ['1', '2', '3', '4', '5', '6'] := by decide
  rw [← Char.ofNat_toNat d]
  exact h d.toNat (by omega) hl

/-- A heading's tag is a tag of the library unless a line break ends it. -/
theorem mem_bodyTags_of_isHeading {tag : String} (h : isHeading tag = true) :
    tag ∈ bodyTags ↔ '\n' ∉ tag.toList := by
  have hclean : ∀ tag ∈ bodyTags, '\n' ∉ tag.toList := by decide
  refine ⟨hclean tag, fun hn => ?_⟩
  obtain ⟨d, h1, h6, ht | ht⟩ := isHeading_cases h
  · have hall : ∀ d ∈ ['1', '2', '3', '4', '5', '6'], String.ofList ['h', d] ∈ bodyTags := by simp [bodyTags]
    rw [← String.ofList_toList (s := tag), ht]
    exact hall d (mem_of_digit h1 h6)
  · simp [ht] at hn

theorem openingTag_mem_iff {b : Block} (h : Named b) :
    openingTag b ∈ bodyTags ↔ (isHeading b.tag = true → b.strong = false → '\n' ∉ b.tag.toList) := by
  rw [openingTag, lineTag]
  split
  · rename_i hk
    have hk : b.kind = .list := beq_iff_eq.mp hk
    have hno : isHeading b.tag ≠ true := fun hh => by simp [h.heading hh] at hk
    refine iff_of_true ?_ fun hh => absurd hh hno
    rcases h.list hk with ht | ht | ht <;> rw [ht] <;> decide
  · split
    · rename_i hs
      exact iff_of_true (by decide) fun _ hf => by simp [hf] at hs
    · rename_i hs
      split
      · rename_i hk
        have hh : isHeading b.tag = true := (h.title (beq_iff_eq.mp hk)).resolve_right hs
        rw [mem_bodyTags_of_isHeading hh]
        exact ⟨fun hn _ _ => hn, fun hn => hn hh (Bool.eq_false_iff.mpr hs)⟩
      · rename_i hk
        exact iff_of_true p_mem_bodyTags fun hh => absurd (beq_iff_eq.mpr (h.heading hh)) hk

/-! ## The tags of pages -/

/-- The page text of a block is safe if it has no `<`; its line breaks are. -/
theorem safe_pieces_iff {pages : List Node} {ps : List Piece} (h : ∀ p ∈ ps, p.Stems pages) :
    (∀ p ∈ ps, p.Safe) ↔ ∀ t, .page t ∈ ps → '<' ∉ t := by
  refine ⟨fun hs t ht => Piece.safe_page.mp (hs _ ht), fun hs p hp => ?_⟩
  cases p with
  | opening tag | closing tag => cases h _ hp
  | mark => exact Piece.safe_mark
  | newline => exact Piece.safe_newline
  | page t => exact Piece.safe_page.mpr (hs t hp)

/-- The page text of the markup is text of the pages. -/
theorem stems_of_page_mem {pages : List Node} {xs : List Exclude} {fs : List Filter} {t : Text}
    (h : .page t ∈ written fs (pages.foldl (Sourced.collect xs) [])) :
    ∃ n ∈ pages, bare t <:+: bare n.stringsBelow.flatten := by
  obtain ⟨s, hs, hp⟩ := page_mem_written.mp h
  exact Sourced.stems_collect xs pages s (kept_subset fs _ hs) _ hp

/-- **Where a body has tags**: the markup of pages is made up of tags of the library, its line breaks and text of the
pages. Every `<` in it begins a tag of the library if and only if there is none in the page text of the blocks that the
filters let through, every list opened takes its name from an element that has the name of such a tag, and no heading's
tag ends with a line break. -/
theorem tagsOnly_written_iff (pages : List Node) (xs : List Exclude) (fs : List Filter) :
    let ss := pages.foldl (Sourced.collect xs) []
    plain (written fs ss) = render fs (pages.foldl (collect xs) []) ∧
      (∀ t, .page t ∈ written fs ss → ∃ n ∈ pages, bare t <:+: bare n.stringsBelow.flatten) ∧
      (TagsOnly (written fs ss) ↔
        (∀ s ∈ kept fs ss, ∀ t, .page t ∈ s.pieces → '<' ∉ t) ∧
        (∀ tag ∈ listsOpened none (Sourced.blocks (kept fs ss)), tag ∈ bodyTags) ∧
        ∀ s ∈ kept fs ss, isHeading s.block.tag = true → s.block.strong = false → '\n' ∉ s.block.tag.toList) := by
  intro ss
  have hstems : ∀ s ∈ ss, ∀ p ∈ s.pieces, p.Stems pages := Sourced.stems_collect xs pages
  have hnamed : ∀ s ∈ ss, Named s.block := named_collect xs pages
  refine ⟨?_, fun t ht => stems_of_page_mem ht, ?_⟩
  · rw [plain_written, Sourced.collect_pages_blocks]
    rfl
  · rw [tagsOnly_iff_safe, safe_written]
    refine and_congr (forall₂_congr fun s hs => ?_) (and_congr_right' (forall₂_congr fun s hs => ?_))
    · exact safe_pieces_iff (hstems s (kept_subset fs ss hs))
    · exact openingTag_mem_iff (hnamed s (kept_subset fs ss hs))

/-- A page with a script's tag written as text. -/
theorem render_written_script :
    ¬ ∀ (page : Node) (xs : List Exclude) (fs : List Filter) (pre post : Text),
      render fs (collect xs [] page) = pre ++ '<' :: post → ∃ p : Piece, p.IsTag ∧ p.text <+: '<' :: post := by
  intro h
  obtain ⟨p, hp, hpre⟩ := h (.element "body" [] [.element "p" [] [.text .plain "a <script> b".toList]]) [] []
    "<p>a ".toList "script> b</p>".toList (by decide)
  have hnone : ∀ tag ∈ bodyTags, ¬ (Piece.opening tag).text <+: "<script> b</p>".toList ∧
      ¬ (Piece.closing tag).text <+: "<script> b</p>".toList := by decide
  cases p with
  | opening tag => exact (hnone tag hp).1 hpre
  | closing tag => exact (hnone tag hp).2 hpre
  | mark => exact absurd hpre (by decide)
  | newline | page t => cases hp

end Excerpt.Body
