import Excerpt.Proofs.Body.Parts

/-!
# What follows a block

The blocks of a paragraph, a heading or another leaf that stands apart should be closed against the text behind them.
The last of them is closed only if the last block in front was open: after a closed block, and at the beginning, it is
left open, and the next inline text goes into it.

* `fills` tells whether a leaf behind adds to the last block (`tops_fills`). In texts without `<` it comes to an open
  block with inline text right behind it (`fills_eq`).
* A leaf that stands apart closes what was open, or opens what was closed, unless it makes several blocks
  (`putLeaf_counts`). So of two walks that begin with an open and with a closed block, one stays open where the other is
  closed, until the leaves give both the same state (`splitsAlike`).

The main statement is `behind_block_iff`.
-/

namespace Excerpt.Body

open Text (isBlank)

/-- Whether the last block is open for text. -/
def endsOpen (blocks : List Block) : Bool :=
  continuesLast blocks.reverse

/-- Whether a leaf makes several blocks: a part behind the first one begins a block. -/
def Leaf.several (l : Leaf) : Bool :=
  l.parts.tail.any (!·.joins)

/-- Whether inline text comes first. -/
def inlineFirst : List Leaf → Bool
  | [] => false
  | l :: _ => !isBlank l.text && !isBlockTag l.tag

/-- Whether the leaves are split into the same blocks behind an open block and behind a closed one: up to the first leaf
that is blank or makes several blocks, all leaves stand apart. -/
def splitsAlike : List Leaf → Bool
  | [] => true
  | l :: ls => isBlank l.text || isBlockTag l.tag && (l.several || splitsAlike ls)

/-! ## Text added to a block -/

section Added

variable {l : Leaf} {p : Part} {ps : List Part}

/-- Nothing is added with a text that is no more than a break. -/
theorem add_text_eq_iff (b : Block) {t : Text} (ht : Text.trim t = t) :
    (b.add t).text = b.text ↔ isBlank (unbroken t) = true := by
  constructor
  · intro h
    obtain ⟨joint, rest, he, -, hrest⟩ := Reading.add_text b t
    rw [he, List.append_right_eq_self, List.append_eq_nil_iff] at h
    rw [h.2] at hrest
    rcases hrest with rfl | hrest
    · rfl
    · rw [unbroken, hrest]
      rfl
  · intro h
    by_cases hne : t = []
    · rw [hne, Block.add]
      simp [Text.dropPrefix?, lineBreak]
    · rw [(isBlank_unbroken_iff ht hne).mp h, Block.add]
      simp [Text.dropPrefix?, lineBreak]

/-- Whether the last block gets more text, by the parts of the next leaf. -/
theorem fills_cons (h : l.parts = p :: ps) (isOpen : Bool) (ls : List Leaf) :
    fills isOpen (l :: ls) =
      if isOpen && !isBlockTag l.tag then !isBlank (unbroken p.text) || (ps.head?.map (·.joins)).getD (fills true ls)
      else p.joins := by
  have hb := Leaf.not_isBlank_of_parts h
  obtain ⟨first, rest, hlines, hfirst, hparts⟩ := l.exists_parts hb
  have htidy : Tidy (first :: rest) := hlines ▸ l.tidy_lines hb
  obtain ⟨rfl, rfl⟩ := List.cons.inj (h.symm.trans hparts)
  rw [fills, hb, hlines, if_neg Bool.false_ne_true]
  split
  · cases rest with
    | nil => rfl
    | cons next rest =>
      cases hnext : next.isEmpty with
      | true =>
        -- Behind an empty line, the next part begins a block.
        have hno : joinsLast (some first) (l.block false true next) = false := by
          rw [joinsLast_some, l.afterBreak_block, List.isEmpty_iff.mp hnext]
          rfl
        cases hps : l.partsFrom (some first) (next :: rest) with
        | nil =>
          obtain ⟨line, hline, hne⟩ := htidy.tail.exists_ne_nil (List.cons_ne_nil next rest)
          have hlength := l.length_partsFrom (some first) (next :: rest)
          rw [hps] at hlength
          have hmem : line ∈ (next :: rest).filter (!·.isEmpty) := List.mem_filter.mpr ⟨hline, by simpa using hne⟩
          rw [List.length_eq_zero_iff.mp hlength.symm] at hmem
          cases hmem
        | cons q qs =>
          rw [Leaf.partsFrom, if_pos hnext, List.isEmpty_iff.mp hnext] at hps
          simp [hno, l.joins_of_not_hasText rfl hps]
      | false =>
        rw [Leaf.partsFrom.eq_def]
        simp only [hnext]
        rfl
  · rfl

theorem ne_of_below {b : Block} {t : Text} (h : b.text ++ '\n' :: lineBreak <+: t) : b.text <+: t ∧ t ≠ b.text := by
  refine ⟨(List.prefix_append _ _).trans h, ?_⟩
  rintro rfl
  have hlength := h.length_le
  rw [List.length_append, List.length_cons] at hlength
  omega

/-- A text that is added to twice stays as it is if neither adds. -/
theorem fills_trans {t u v : Text} {blank more : Bool} (htu : t <+: u) (hu : u = t ↔ blank = true)
    (hv : u <+: v ∧ (v = u ↔ more = false)) : t <+: v ∧ (v = t ↔ (!blank || more) = false) := by
  refine ⟨htu.trans hv.1, ?_⟩
  rw [Bool.or_eq_false_iff, Bool.not_eq_false', ← hu, ← hv.2]
  refine ⟨?_, fun h => h.2.trans h.1⟩
  rintro rfl
  have hsame := htu.eq_of_length_le hv.1.length_le
  exact ⟨hsame.symm, hsame⟩

/-- **The last block gets more text just if the leaves say so.** -/
theorem tops_fills : ∀ (ls : List Leaf) (b : Block) (bs : List Block),
    Tops (fun t => b.text <+: t ∧ (t = b.text ↔ fills (continuesLast (b :: bs)) ls = false)) (bs.map (·.text))
      (ls.foldl putLeaf (b :: bs))
  | [], b, bs => Tops.top ⟨List.prefix_rfl, iff_of_true rfl rfl⟩
  | l :: ls, b, bs => by
    rw [List.foldl_cons]
    cases hparts : l.parts with
    | nil =>
      rw [putLeaf_of_isBlank hparts, fills, Leaf.parts_eq_nil_iff.mp hparts, if_pos rfl]
      exact tops_fills ls { b with display := .block } bs
    | cons p ps =>
      rw [putLeaf_cons hparts, fills_cons hparts]
      split
      · rename_i hinto
        have hgrown : b.text <+: (b.add p.text).text := (Grown.add b p.text).text
        have hadd := add_text_eq_iff b (Leaf.trim_of_mem_parts (hparts ▸ List.mem_cons_self : p ∈ l.parts))
        have hopen : continuesLast (b.add p.text :: bs) = true := (Bool.and_eq_true_iff.mp hinto).1
        cases ps with
        | nil =>
          refine (tops_fills ls (b.add p.text) bs).imp fun t ht => fills_trans hgrown hadd ?_
          rwa [hopen] at ht
        | cons q qs =>
          rw [putMore_cons]
          cases hq : q.joins with
          | true =>
            refine (tops_below l (b.add p.text) bs q.text qs ls).imp fun t ht => fills_trans hgrown hadd ?_
            obtain ⟨ht, hne⟩ := ne_of_below ht
            exact ⟨ht, iff_of_false hne (by simp [hq])⟩
          | false =>
            refine (tops_apart l _ (b.add p.text) bs qs ls).imp fun t ht => fills_trans hgrown hadd ?_
            exact ⟨ht ▸ List.prefix_rfl, iff_of_true ht (by simp [hq])⟩
      · split
        · rename_i hjoins
          refine (tops_below l b bs p.text ps ls).imp fun t ht => ?_
          obtain ⟨hgrown, hne⟩ := ne_of_below ht
          exact ⟨hgrown, iff_of_false hne (by simpa using hjoins)⟩
        · rename_i hjoins
          refine (tops_apart l _ b bs ps ls).imp fun t ht => ?_
          exact ⟨ht ▸ List.prefix_rfl, iff_of_true ht (by simpa using hjoins)⟩

end Added

/-! ## Leaves without marks -/

section Unmarked

variable {l : Leaf} {p : Part} {ps : List Part} {bs bs' : List Block}

/-- Without marks, the next leaf adds to the last block just if that is open and the leaf is inline text. -/
theorem fills_eq : ∀ {ls : List Leaf}, (∀ l ∈ ls, '<' ∉ l.text) → ∀ isOpen, fills isOpen ls = (isOpen && inlineFirst ls)
  | [], _, isOpen => (Bool.and_false isOpen).symm
  | l :: ls, h, isOpen => by
    rw [List.forall_mem_cons] at h
    rw [inlineFirst]
    cases hparts : l.parts with
    | nil =>
      rw [fills, Leaf.parts_eq_nil_iff.mp hparts, if_pos rfl, fills_eq h.2]
      simp
    | cons p ps =>
      rw [fills_cons hparts, unbroken_of_not_mem (Leaf.mark_not_mem_parts h.1 (hparts ▸ List.mem_cons_self)),
        Leaf.not_isBlank_first h.1 hparts, Leaf.joins_first h.1 hparts, Leaf.not_isBlank_of_parts hparts]
      cases isOpen <;> cases isBlockTag l.tag <;> rfl

/-- Behind further parts, the last block is open if it was, or if one of them began it. -/
theorem continuesLast_putMore (l : Leaf) : ∀ (ps : List Part) (b : Block) (bs : List Block),
    continuesLast (l.putMore (b :: bs) ps) = (continuesLast (b :: bs) || ps.any (!·.joins))
  | [], _, _ => (Bool.or_false _).symm
  | p :: ps, b, bs => by
    rw [putMore_cons, List.any_cons]
    cases p.joins with
    | true =>
      rw [if_pos rfl, continuesLast_putMore l ps]
      rfl
    | false =>
      rw [if_neg Bool.false_ne_true, continuesLast_putMore l ps]
      exact (Bool.or_true _).symm

theorem length_putMore (l : Leaf) : ∀ (ps : List Part) (b : Block) (bs : List Block),
    (l.putMore (b :: bs) ps).length = (b :: bs).length + ps.countP (!·.joins)
  | [], _, _ => rfl
  | p :: ps, b, bs => by
    rw [putMore_cons, List.countP_cons]
    cases p.joins with
    | true =>
      rw [if_pos rfl, length_putMore l ps]
      rfl
    | false =>
      rw [if_neg Bool.false_ne_true, length_putMore l ps]
      simp only [List.length_cons, Bool.not_false, if_true]
      omega

/-- The first block of a leaf is open if it is inline text, or if the block in front of it was closed. -/
theorem continuesLast_blockOf (l : Leaf) (isOpen : Bool) (t : Text) (bs : List Block) :
    continuesLast (l.blockOf true isOpen t :: bs) = (!isOpen || !isBlockTag l.tag) := by
  rw [continuesLast, Leaf.blockOf]
  cases isOpen <;> cases isBlockTag l.tag <;> rfl

/-- How many blocks a leaf adds, and whether the last one is open then. -/
theorem putLeaf_counts (hl : '<' ∉ l.text) (h : l.parts = p :: ps) (bs : List Block) :
    (putLeaf bs l).length = bs.length + (if continuesLast bs && !isBlockTag l.tag then 0 else 1) +
    ps.countP (!·.joins) ∧
      continuesLast (putLeaf bs l) = (!isBlockTag l.tag || l.several || !continuesLast bs) := by
  have hseveral : l.several = ps.any (!·.joins) := by rw [Leaf.several, h, List.tail_cons]
  rw [hseveral]
  cases bs with
  | nil =>
    have hput : putLeaf [] l = l.putMore [l.blockOf true false p.text] ps := by
      rw [putLeaf, h]
      rfl
    rw [hput, length_putMore, continuesLast_putMore]
    exact ⟨rfl, (Bool.or_true _).symm ▸ rfl⟩
  | cons b bs =>
    rw [putLeaf_cons h, Leaf.joins_first hl h, if_neg Bool.false_ne_true]
    split
    · rename_i hinto
      rw [Bool.and_eq_true, Bool.not_eq_true'] at hinto
      have hopen : continuesLast (b.add p.text :: bs) = true := hinto.1
      rw [length_putMore, continuesLast_putMore, hopen, hinto.2]
      exact ⟨rfl, rfl⟩
    · rw [length_putMore, continuesLast_putMore, continuesLast_blockOf]
      refine ⟨rfl, ?_⟩
      cases continuesLast (b :: bs) <;> cases isBlockTag l.tag <;> cases ps.any (!·.joins) <;> rfl

theorem continuesLast_of_isBlank (h : l.parts = []) (bs : List Block) : continuesLast (putLeaf bs l) = false := by
  rw [putLeaf_of_isBlank h]
  cases bs <;> rfl

end Unmarked

/-! ## Blocks in front -/

section Front

variable {l : Leaf} {bs front : List Block}

theorem put_ne_nil (b : Block) (joins : Bool) (bs : List Block) : put b joins bs ≠ [] := by
  cases bs with
  | nil => exact List.cons_ne_nil _ _
  | cons last bs =>
    rw [put]
    split
    · exact List.cons_ne_nil _ _
    · split <;> exact List.cons_ne_nil _ _

theorem put_append (b : Block) (joins : Bool) (h : bs ≠ []) (front : List Block) :
    put b joins (bs ++ front) = put b joins bs ++ front := by
  obtain ⟨last, bs, rfl⟩ := List.exists_cons_of_ne_nil h
  rw [List.cons_append, put, put]
  split
  · rfl
  · split <;> rfl

/-- Further parts leave the blocks in front as they are. -/
theorem putMore_append (l : Leaf) (front : List Block) : ∀ (ps : List Part) {bs : List Block}, bs ≠ [] →
    l.putMore (bs ++ front) ps = l.putMore bs ps ++ front ∧ l.putMore bs ps ≠ []
  | [], _, h => ⟨rfl, h⟩
  | p :: ps, bs, h => by
    have hput := put_append (l.blockOf false false p.text) p.joins h front
    have hmore := putMore_append l front ps (put_ne_nil (l.blockOf false false p.text) p.joins bs)
    rw [← hput] at hmore
    exact hmore

theorem putLeaf_append (l : Leaf) (h : bs ≠ []) (front : List Block) :
    putLeaf (bs ++ front) l = putLeaf bs l ++ front ∧ putLeaf bs l ≠ [] := by
  have hcontinues : continuesLast (bs ++ front) = continuesLast bs := by
    obtain ⟨b, bs, rfl⟩ := List.exists_cons_of_ne_nil h
    rfl
  rw [putLeaf, putLeaf, hcontinues]
  cases l.parts with
  | nil =>
    obtain ⟨b, bs, rfl⟩ := List.exists_cons_of_ne_nil h
    exact ⟨rfl, List.cons_ne_nil _ _⟩
  | cons p ps =>
    rw [Leaf.putParts, Leaf.putParts, put_append _ _ h]
    exact putMore_append l front ps (put_ne_nil _ _ bs)

/-- Further leaves leave the blocks in front as they are. -/
theorem putLeaves_append (front : List Block) : ∀ (ls : List Leaf) {bs : List Block}, bs ≠ [] →
    ls.foldl putLeaf (bs ++ front) = ls.foldl putLeaf bs ++ front
  | [], _, _ => rfl
  | l :: ls, bs, h => by
    obtain ⟨hput, hne⟩ := putLeaf_append l h front
    rw [List.foldl_cons, List.foldl_cons, hput, putLeaves_append front ls hne]

/-- The blocks of a leaf by itself, as they are behind an open block or a closed one. -/
def Leaf.alone (l : Leaf) (isOpen : Bool) : List Block :=
  l.putParts isOpen [] l.parts

theorem Leaf.alone_eq {p : Part} {ps : List Part} (h : l.parts = p :: ps) (isOpen : Bool) :
    l.alone isOpen = l.putMore [l.blockOf true isOpen p.text] ps := by
  rw [Leaf.alone, h]
  rfl

/-- A leaf that stands apart puts its blocks behind those in front. -/
theorem exists_putLeaf_eq (hl : '<' ∉ l.text) (hb : isBlank l.text = false) (ht : isBlockTag l.tag = true)
    (bs : List Block) :
    ∃ front, front.length = bs.length ∧ putLeaf bs l = l.alone (continuesLast bs) ++ front ∧
      l.alone (continuesLast bs) ≠ [] := by
  obtain ⟨piece, -, ps, -, -, hparts⟩ := Leaf.exists_first_part hl hb
  rw [Leaf.alone_eq hparts]
  cases bs with
  | nil =>
    refine ⟨[], rfl, ?_, (putMore_append l [] ps (List.cons_ne_nil _ _)).2⟩
    rw [putLeaf, hparts, List.append_nil]
    rfl
  | cons b bs =>
    obtain ⟨hput, hne⟩ :=
      putMore_append l (promote (l.blockOf true (continuesLast (b :: bs)) (cleanText piece)) b :: bs) ps
      (List.cons_ne_nil (l.blockOf true (continuesLast (b :: bs)) (cleanText piece)) [])
    refine ⟨promote (l.blockOf true (continuesLast (b :: bs)) (cleanText piece)) b :: bs, rfl, ?_, hne⟩
    rw [← hput, putLeaf_cons hparts, ht, Bool.not_true, Bool.and_false, if_neg Bool.false_ne_true,
      if_neg Bool.false_ne_true]
    rfl

end Front

/-! ## Blocks behind an open block and behind a closed one -/

/-- The blocks are the same but for one being open where the other is closed. -/
def Block.Like (b b' : Block) : Prop :=
  ∃ display, b' = { b with display := display } ∧ b'.isBlock = b.isBlock

namespace Block.Like

variable {b b' c c' : Block}

theorem refl (b : Block) : b.Like b :=
  ⟨b.display, rfl, rfl⟩

theorem face (h : b.Like b') : b.face = b'.face := by
  obtain ⟨display, rfl, -⟩ := h
  rfl

theorem add (h : b.Like b') (t : Text) : (b.add t).Like (b'.add t) := by
  obtain ⟨display, rfl, hblock⟩ := h
  exact ⟨display, rfl, hblock⟩

theorem addBelow (h : b.Like b') (t : Text) : (b.addBelow t).Like (b'.addBelow t) := by
  obtain ⟨display, rfl, hblock⟩ := h
  exact ⟨display, rfl, hblock⟩

theorem promote (h : b.Like b') (hc : c'.isBlock = c.isBlock) : (promote c b).Like (promote c' b') := by
  obtain ⟨display, rfl, hblock⟩ := h
  rw [Body.promote, Body.promote, hblock, hc]
  split
  · exact ⟨display, rfl, hblock⟩
  · exact ⟨display, rfl, hblock⟩

end Block.Like

section Alike

variable {l : Leaf} {b b' : Block} {bs bs' : List Block} {ls : List Leaf}

theorem like_put {c c' : Block} (hc : c.Like c') (joins : Bool) (h : List.Forall₂ Block.Like bs bs') :
    List.Forall₂ Block.Like (put c joins bs) (put c' joins bs') := by
  have hblock : c'.isBlock = c.isBlock := hc.choose_spec.2
  have htext : c'.text = c.text := by
    obtain ⟨display, rfl, -⟩ := hc
    rfl
  cases h with
  | nil => exact .cons hc .nil
  | cons hb hbs =>
    rw [put, put, hblock, htext]
    split
    · exact .cons (hb.add _) hbs
    · split
      · exact .cons (hb.addBelow _) hbs
      · exact .cons hc (.cons (hb.promote hblock) hbs)

theorem like_putMore (l : Leaf) : ∀ (ps : List Part) {bs bs' : List Block}, List.Forall₂ Block.Like bs bs' →
    List.Forall₂ Block.Like (l.putMore bs ps) (l.putMore bs' ps)
  | [], _, _, h => h
  | p :: ps, _, _, h => like_putMore l ps (like_put (Block.Like.refl (l.blockOf false false p.text)) p.joins h)

theorem continuesLast_alone (hl : '<' ∉ l.text) (hb : isBlank l.text = false) (ht : isBlockTag l.tag = true)
    (isOpen : Bool) :
    continuesLast (l.alone isOpen) = (l.several || !isOpen) := by
  obtain ⟨piece, -, ps, -, -, hparts⟩ := Leaf.exists_first_part hl hb
  rw [Leaf.alone_eq hparts, continuesLast_putMore, continuesLast_blockOf, ht, Bool.not_true,
    Bool.or_false, Bool.or_comm, Leaf.several, hparts, List.tail_cons]

/-- A leaf that stands apart makes the same blocks behind an open block and behind a closed one. -/
theorem like_alone (ht : isBlockTag l.tag = true) (isOpen isOpen' : Bool) :
    List.Forall₂ Block.Like (l.alone isOpen) (l.alone isOpen') := by
  rw [Leaf.alone, Leaf.alone]
  cases l.parts with
  | nil => exact .nil
  | cons p ps =>
    have hblock : (l.blockOf true isOpen' p.text).isBlock = (l.blockOf true isOpen p.text).isBlock := by
      rw [isBlock_blockOf, isBlock_blockOf, ht, Bool.not_true, Bool.and_false, Bool.and_false]
    exact like_putMore l ps (like_put ⟨_, rfl, hblock⟩ p.joins .nil)

theorem like_closeLast (h : List.Forall₂ Block.Like bs bs') :
    List.Forall₂ Block.Like (closeLast bs) (closeLast bs') := by
  cases h with
  | nil => exact .nil
  | cons hb hbs =>
    obtain ⟨display, rfl, -⟩ := hb
    exact .cons ⟨.block, rfl, rfl⟩ hbs

/-- A leaf makes the same of both blocks if both are open or both closed, or if it stands apart. -/
theorem like_putLeaf (h : List.Forall₂ Block.Like bs bs')
    (hopen : continuesLast bs' = continuesLast bs ∨ isBlockTag l.tag = true) :
    List.Forall₂ Block.Like (putLeaf bs l) (putLeaf bs' l) := by
  rw [putLeaf, putLeaf]
  cases l.parts with
  | nil => exact like_closeLast h
  | cons p ps =>
    have hblock : (l.blockOf true (continuesLast bs') p.text).isBlock =
        (l.blockOf true (continuesLast bs) p.text).isBlock := by
      rw [isBlock_blockOf, isBlock_blockOf]
      rcases hopen with ho | ht
      · rw [ho]
      · rw [ht, Bool.not_true, Bool.and_false, Bool.and_false]
    exact like_putMore l ps (like_put ⟨_, rfl, hblock⟩ p.joins h)

/-- Whether a block is open behind a leaf depends only on whether one is in front, and so does how many blocks the leaf
adds. -/
theorem putLeaf_counts_congr (hl : '<' ∉ l.text) (hopen : continuesLast bs' = continuesLast bs) :
    continuesLast (putLeaf bs' l) = continuesLast (putLeaf bs l) ∧
      (putLeaf bs' l).length + bs.length = (putLeaf bs l).length + bs'.length := by
  cases hparts : l.parts with
  | nil =>
    rw [continuesLast_of_isBlank hparts, continuesLast_of_isBlank hparts, putLeaf_of_isBlank hparts,
      putLeaf_of_isBlank hparts]
    have hlength : ∀ bs : List Block, (closeLast bs).length = bs.length := fun bs => by cases bs <;> rfl
    rw [hlength, hlength]
    exact ⟨rfl, Nat.add_comm _ _⟩
  | cons p ps =>
    obtain ⟨hlength, hflag⟩ := putLeaf_counts hl hparts bs
    obtain ⟨hlength', hflag'⟩ := putLeaf_counts hl hparts bs'
    rw [hflag, hflag', hlength, hlength', hopen]
    refine ⟨rfl, ?_⟩
    omega

theorem length_putLeaves : ∀ {ls : List Leaf} {bs bs' : List Block}, (∀ l ∈ ls, '<' ∉ l.text) →
    continuesLast bs' = continuesLast bs →
    (ls.foldl putLeaf bs').length + bs.length = (ls.foldl putLeaf bs).length + bs'.length
  | [], _, _, _, _ => Nat.add_comm _ _
  | l :: ls, bs, bs', h, hopen => by
    rw [List.forall_mem_cons] at h
    obtain ⟨hflag, hlength⟩ := putLeaf_counts_congr h.1 hopen
    have hrest := length_putLeaves h.2 hflag
    rw [List.foldl_cons, List.foldl_cons]
    omega

theorem map_face_of_like (h : List.Forall₂ Block.Like bs bs') : bs.map Block.face = bs'.map Block.face := by
  induction h with
  | nil => rfl
  | cons hb _ ih => exact congrArg₂ List.cons hb.face ih

theorem face_eq_of_like : ∀ {ls : List Leaf} {bs bs' : List Block}, (∀ l ∈ ls, '<' ∉ l.text) →
    List.Forall₂ Block.Like bs bs' → continuesLast bs' = continuesLast bs →
    (ls.foldl putLeaf bs).map Block.face = (ls.foldl putLeaf bs').map Block.face
  | [], _, _, _, h, _ => map_face_of_like h
  | l :: ls, bs, bs', hls, h, hopen => by
    rw [List.forall_mem_cons] at hls
    rw [List.foldl_cons, List.foldl_cons]
    exact face_eq_of_like hls.2 (like_putLeaf h (.inl hopen)) (putLeaf_counts_congr hls.1 hopen).1

/-- **Leaves behind an open block and behind a closed one.** They give the same blocks just if they are split alike: the
first leaf that is inline text would tell the difference, unless one that is blank or makes several blocks stands in
front of it. -/
theorem face_iff_splitsAlike : ∀ {ls : List Leaf} {bs bs' : List Block}, (∀ l ∈ ls, '<' ∉ l.text) →
    List.Forall₂ Block.Like bs bs' → continuesLast bs' = !continuesLast bs →
    ((ls.foldl putLeaf bs).map Block.face = (ls.foldl putLeaf bs').map Block.face ↔ splitsAlike ls = true)
  | [], _, _, _, h, _ => iff_of_true (map_face_of_like h) rfl
  | l :: ls, bs, bs', hls, h, hopen => by
    rw [List.forall_mem_cons] at hls
    rw [List.foldl_cons, List.foldl_cons, splitsAlike]
    cases hparts : l.parts with
    | nil =>
      have hclosed : continuesLast (putLeaf bs' l) = continuesLast (putLeaf bs l) := by
        rw [continuesLast_of_isBlank hparts, continuesLast_of_isBlank hparts]
      have hlike : List.Forall₂ Block.Like (putLeaf bs l) (putLeaf bs' l) := by
        rw [putLeaf_of_isBlank hparts, putLeaf_of_isBlank hparts]
        exact like_closeLast h
      rw [Leaf.parts_eq_nil_iff.mp hparts]
      exact iff_of_true (face_eq_of_like hls.2 hlike hclosed) rfl
    | cons p ps =>
      obtain ⟨hlength, hflag⟩ := putLeaf_counts hls.1 hparts bs
      obtain ⟨hlength', hflag'⟩ := putLeaf_counts hls.1 hparts bs'
      rw [Leaf.not_isBlank_of_parts hparts, Bool.false_or]
      cases ht : isBlockTag l.tag with
      | true =>
        have hlike := like_putLeaf (l := l) h (.inr ht)
        rw [ht, hopen] at hflag'
        rw [ht] at hflag
        cases hs : l.several with
        | true =>
          rw [hs] at hflag hflag'
          exact iff_of_true (face_eq_of_like hls.2 hlike (hflag'.trans hflag.symm)) rfl
        | false =>
          rw [hs] at hflag hflag'
          rw [face_iff_splitsAlike hls.2 hlike (by rw [hflag, hflag']; cases continuesLast bs <;> rfl)]
          rfl
      | false =>
        -- The text goes into the open block, and begins one behind the closed one.
        rw [ht] at hflag hflag'
        refine iff_of_false (fun he => ?_) Bool.false_ne_true
        have hsame := length_putLeaves hls.2 (hflag'.trans hflag.symm)
        have hfaces := congrArg List.length he
        have hblocks := h.length_eq
        rw [List.length_map, List.length_map] at hfaces
        rw [hlength, hlength', hopen, ht] at hsame
        cases hcont : continuesLast bs <;> simp [hcont] at hsame <;> omega

/-- Of a leaf that stands apart, and what follows it. -/
theorem face_alone_iff (hl : '<' ∉ l.text) (hb : isBlank l.text = false) (ht : isBlockTag l.tag = true)
    (hls : ∀ l ∈ ls, '<' ∉ l.text) :
    (ls.foldl putLeaf (l.alone true)).map Block.face = (ls.foldl putLeaf (l.alone false)).map Block.face ↔
      splitsAlike (l :: ls) = true := by
  have hlike := like_alone ht true false
  have hopen := continuesLast_alone hl hb ht
  rw [splitsAlike, hb, ht]
  cases hs : l.several with
  | true =>
    rw [hs] at hopen
    exact iff_of_true (face_eq_of_like hls hlike ((hopen false).trans (hopen true).symm)) rfl
  | false =>
    rw [hs] at hopen
    rw [face_iff_splitsAlike hls hlike (by rw [hopen, hopen]; rfl)]
    rfl

end Alike

/-! ## The leaves of a tree -/

section Tree

variable {blocks : List Block} {front after : List Leaf} {l : Leaf}

theorem endsOpen_collectLeaves (blocks : List Block) (ls : List Leaf) :
    endsOpen (collectLeaves blocks ls) = continuesLast (sealedLeaves blocks ls) := by
  rw [← sealed_collectLeaves, endsOpen]
  cases (collectLeaves blocks ls).reverse <;> rfl

/-- The blocks keep their texts just if the leaves behind add nothing to the last one. -/
theorem prefix_iff_fills (hb : isBlank l.text = false) :
    (collectLeaves blocks (front ++ [l])).map (·.text) <+: (collectLeaves blocks (front ++ l :: after)).map (·.text) ↔
      fills (endsOpen (collectLeaves blocks (front ++ [l]))) after = false := by
  obtain ⟨first, rest, -, -, hparts⟩ := l.exists_parts hb
  have hne : putLeaf (sealedLeaves blocks front) l ≠ [] := by
    rw [putLeaf, hparts]
    exact (putMore_append l [] _ (put_ne_nil _ _ _)).2
  obtain ⟨b, bs, hput⟩ := List.exists_cons_of_ne_nil hne
  rw [map_text_collectLeaves, map_text_collectLeaves, endsOpen_collectLeaves, List.reverse_prefix, sealedLeaves_append,
    sealedLeaves_append, List.foldl_cons, List.foldl_cons, List.foldl_nil, hput]
  obtain ⟨more, t, htexts, -, ht⟩ := tops_fills after b bs
  rw [htexts, ← ht, List.map_cons]
  constructor
  · rintro ⟨others, he⟩
    rw [List.append_cons, List.append_cons more] at he
    have he := List.append_cancel_right he
    exact (List.cons.inj (List.append_inj' he rfl).2).1.symm
  · rintro rfl
    exact List.suffix_append more _

/-- A leaf that stands apart gives all blocks from it on, whatever is in front. -/
theorem map_face_from (hl : '<' ∉ l.text) (hb : isBlank l.text = false) (ht : isBlockTag l.tag = true) :
    ((collectLeaves blocks (front ++ l :: after)).drop (collectLeaves blocks front).length).map Block.face =
      ((after.foldl putLeaf (l.alone (endsOpen (collectLeaves blocks front)))).map Block.face).reverse := by
  obtain ⟨others, hlength, hput, hne⟩ := exists_putLeaf_eq hl hb ht (sealedLeaves blocks front)
  rw [List.map_drop, map_face_collectLeaves, length_collectLeaves, endsOpen_collectLeaves, sealedLeaves_append,
    List.foldl_cons, hput, putLeaves_append others after hne, List.map_append, List.reverse_append, ← hlength,
    List.drop_left']
  rw [List.length_reverse, List.length_map]

/-- **What comes behind a block.** Text of nodes behind a paragraph, a heading or another such leaf goes into its last
block just if the leaves say so (`fills`). In texts without `<` it does so if the block has been left open, as it is if
the leaf makes several blocks, or if no open block is in front of it, and inline text comes first. And what is in front
makes no difference to the blocks from the leaf on just if the leaves from there on are split alike. -/
theorem behind_block_iff {xs : List Exclude} {tag : String} {as : Attrs} {ns : List Node}
    (h : leavesIn xs tag ns = front ++ l :: after) (ht : isLeafTag l.tag = true) (hb : isBlank l.text = false) :
    ((collectLeaves blocks (front ++ [l])).map (·.text) <+: (collect xs blocks (.element tag as ns)).map (·.text) ↔
        fills (endsOpen (collectLeaves blocks (front ++ [l]))) after = false) ∧
      ((∀ k ∈ l :: after, '<' ∉ k.text) →
        ((collectLeaves blocks (front ++ [l])).map (·.text) <+: (collect xs blocks (.element tag as ns)).map (·.text) ↔
          (l.several = true ∨ endsOpen (collectLeaves blocks front) = false → inlineFirst after = false)) ∧
        ((∀ earlier others, ((collectLeaves earlier (others ++ l :: after)).drop
              (collectLeaves earlier others).length).map Block.face = (collectLeaves [] (l :: after)).map Block.face) ↔
          splitsAlike (l :: after) = true)) := by
  have hblock : isBlockTag l.tag = true := by rw [isBlockTag, ht, Bool.true_or]
  rw [collect_eq, h]
  refine ⟨prefix_iff_fills hb, fun hmark => ?_⟩
  rw [List.forall_mem_cons] at hmark
  obtain ⟨piece, -, ps, -, -, hparts⟩ := Leaf.exists_first_part hmark.1 hb
  refine ⟨?_, ?_⟩
  · obtain ⟨-, hopen⟩ := putLeaf_counts hmark.1 hparts (sealedLeaves blocks front)
    rw [prefix_iff_fills hb, fills_eq hmark.2, endsOpen_collectLeaves, endsOpen_collectLeaves, sealedLeaves_append,
      List.foldl_cons, List.foldl_nil, hopen, hblock]
    cases l.several <;> cases continuesLast (sealedLeaves blocks front) <;> simp
  · have hfrom : ∀ earlier others, ((collectLeaves earlier (others ++ l :: after)).drop
        (collectLeaves earlier others).length).map Block.face =
          ((after.foldl putLeaf (l.alone (endsOpen (collectLeaves earlier others)))).map Block.face).reverse :=
      fun _ _ => map_face_from hmark.1 hb hblock
    have halone : (collectLeaves [] (l :: after)).map Block.face =
        ((after.foldl putLeaf (l.alone false)).map Block.face).reverse := hfrom [] []
    simp only [hfrom, halone, List.reverse_inj, ← face_alone_iff hmark.1 hb hblock hmark.2]
    refine ⟨fun hall => hall [] [⟨textTag, tag, ['x'], false⟩], fun hsame earlier others => ?_⟩
    cases endsOpen (collectLeaves earlier others) with
    | true => exact hsame
    | false => rfl

/-- A paragraph behind inline text is closed: the text behind it begins a block. -/
theorem behind_block_iff_intro :
    let ns : List Node :=
      [.text .plain "Intro".toList, .element "p" [] [.text .plain "A".toList], .text .plain "more".toList]
    let front : List Leaf := [⟨textTag, "div", "Intro".toList, false⟩]
    let l : Leaf := ⟨"p", "div", "A".toList, false⟩
    let after : List Leaf := [⟨textTag, "div", "more".toList, false⟩]
    leavesIn [] "div" ns = front ++ l :: after ∧ isLeafTag l.tag = true ∧ isBlank l.text = false ∧
      (∀ k ∈ l :: after, '<' ∉ k.text) ∧
      (collectLeaves [] (front ++ [l])).map (·.text) <+: (collect [] [] (.element "div" [] ns)).map (·.text) := by
  intro ns front l after
  have h : leavesIn [] "div" ns = front ++ l :: after := by decide
  have ht : isLeafTag l.tag = true := by decide
  have hb : isBlank l.text = false := by decide
  have hmark : ∀ k ∈ l :: after, '<' ∉ k.text := by decide
  exact ⟨h, ht, hb, hmark, ((behind_block_iff h ht hb).2 hmark).1.mpr (by decide)⟩

/-- Behind a paragraph with nothing in front of it, the next text goes into the paragraph. -/
theorem text_in_block : ¬ ∀ (front after : List Node) (t : String) (ns : List Node), isLeafTag t = true →
    isBlank (Node.blockText (.element t [] ns)) = false →
    (collect [] [] (.element "div" [] (front ++ [.element t [] ns]))).map (·.text) <+:
      (collect [] [] (.element "div" [] (front ++ .element t [] ns :: after))).map (·.text) := by
  intro h
  exact absurd (h [] [.text .plain "text".toList] "p" [.text .plain "A".toList] (by decide) (by decide)) (by decide)

end Tree

end Excerpt.Body
