import Excerpt.Proofs.Body.Parts

/-!
# Parts recovered from blocks

The texts of blocks tell how the text of the leaves was cut into parts. A block that has got a part either ends with it,
or goes on with a line break, unless the part was the last one of its leaf (`RunsOn`). So two ways to cut one text show
in the blocks where they first differ (`eq_of_runsOn`).

Hence the main statement `parts_of_texts`: leaves that are the same but for white space give blocks with the same texts
only if they have the same parts. Then all else is the same too (`putLeaves_congr`).
-/

namespace Excerpt.Body

open Text (bare isBlank)

/-! ## How a block goes on -/

/-- How the text of a block goes on behind a part: not at all, or with a line break, unless the part is the last of its
leaf. -/
def RunsOn (last : Prop) (t whole : Text) : Prop :=
  ∃ rest, whole = t ++ rest ∧ (¬ last → rest = [] ∨ rest.head? = some '\n')

/-- A text of a part: cleaned, and without the characters that a page's marks begin with. -/
structure Tidied (t : Text) : Prop where
  trim : Text.trim t = t
  newline : '\n' ∉ t
  mark : '<' ∉ t

theorem Tidied.not_isSpace_head {t : Text} (h : Tidied t) {c : Char} (hc : t.head? = some c) : Text.isSpace c = false :=
  Text.isSpace_of_head?_trim (h.trim.symm ▸ hc)

theorem Tidied.bare_head {c : Char} {t : Text} (h : Tidied (c :: t)) : bare (c :: t) = c :: bare t :=
  Text.bare_cons_of_not_space (h.not_isSpace_head rfl) t

section Cut

variable {base whole t t' r r' : Text} {spaced : Bool} {last last' : Prop}

/-- A part without text shows in that the block goes on with a line break at most. -/
theorem eq_nil_of_runsOn (h : RunsOn last (base ++ (joint spaced [] ++ [])) whole) (hlast : ¬ last)
    (h' : RunsOn last' (base ++ (joint spaced t' ++ t')) whole) (ht' : Tidied t') : t' = [] := by
  obtain ⟨rest, rfl, hrest⟩ := h
  obtain ⟨rest', he, -⟩ := h'
  have hnil : joint spaced [] = [] := by simp [joint]
  rw [hnil, List.append_nil, List.append_nil, List.append_assoc, List.append_assoc] at he
  have he := List.append_cancel_left he
  cases t' with
  | nil => rfl
  | cons c t' =>
    have hc : Text.isSpace c = false := ht'.not_isSpace_head rfl
    have hhead : rest.head? = some ' ' ∨ rest.head? = some c := by
      rw [he, joint]
      split
      · exact .inl rfl
      · exact .inr rfl
    rcases hrest hlast with rfl | hnewline
    · rcases hhead with h | h <;> cases h
    · rw [hnewline] at hhead
      rcases hhead with h | h
      · exact absurd h (by decide)
      · obtain rfl := Option.some.inj h
        cases hc

/-- A text that is cut goes on with white space at most, hence not at all. -/
theorem eq_nil_of_cut {w : Text} {rest rest' : Text} (hw : t' = t ++ w) (hrest : rest = w ++ rest') (ht' : Tidied t')
    (ht : Text.trim t = t) (hgoes : ¬ last → rest = [] ∨ rest.head? = some '\n') (hr : last → r = [])
    (hbare : bare t ++ r = bare t' ++ r') : w = [] := by
  cases w with
  | nil => rfl
  | cons c w =>
    have hlast : last := by
      by_contra hnot
      rcases hgoes hnot with h | h
      · rw [hrest] at h
        cases h
      · rw [hrest] at h
        refine ht'.newline ?_
        rw [hw, ← Option.some.inj h]
        exact List.mem_append_right _ List.mem_cons_self
    rw [hr hlast, hw, Text.bare_append, List.append_assoc] at hbare
    have hblank : isBlank (c :: w) = true := by
      rw [← Text.bare_eq_nil_iff]
      exact (List.append_eq_nil_iff.mp (List.append_cancel_left hbare).symm).1
    have htrim : t ++ c :: w = t := by
      rw [← hw, ← ht'.trim, hw, Text.trim_append_blank hblank, ht]
    simp at htrim

/-- **Two cuts of one text are the same if they give the same block.** -/
theorem eq_of_runsOn (ht : Tidied t) (ht' : Tidied t') (hne : last → t ≠ []) (hne' : last' → t' ≠ [])
    (hr : last → r = []) (hr' : last' → r' = []) (hbare : bare t ++ r = bare t' ++ r')
    (h : RunsOn last (base ++ (joint spaced t ++ t)) whole)
    (h' : RunsOn last' (base ++ (joint spaced t' ++ t')) whole) :
    t = t' := by
  by_cases hnil : t = []
  · subst hnil
    exact (eq_nil_of_runsOn h (fun hl => hne hl rfl) h' ht').symm
  by_cases hnil' : t' = []
  · subst hnil'
    exact eq_nil_of_runsOn h' (fun hl => hne' hl rfl) h ht
  -- The texts begin alike, so the joints are the same.
  have hhead : t.head? = t'.head? := by
    obtain ⟨c, u, rfl⟩ := List.exists_cons_of_ne_nil hnil
    obtain ⟨c', u', rfl⟩ := List.exists_cons_of_ne_nil hnil'
    rw [ht.bare_head, ht'.bare_head, List.cons_append, List.cons_append] at hbare
    exact congrArg some (List.cons.inj hbare).1
  have hjoint : joint spaced t = joint spaced t' := by rw [joint, joint, hhead]
  obtain ⟨rest, hwhole, hrest⟩ := h
  obtain ⟨rest', hwhole', hrest'⟩ := h'
  rw [hwhole, hjoint, List.append_assoc, List.append_assoc, List.append_assoc, List.append_assoc] at hwhole'
  have he : t ++ rest = t' ++ rest' := List.append_cancel_left (List.append_cancel_left hwhole')
  rcases List.append_eq_append_iff.mp he with ⟨w, hw, hwrest⟩ | ⟨w, hw, hwrest⟩
  · rw [hw, eq_nil_of_cut hw hwrest ht' ht.trim hrest hr hbare, List.append_nil]
  · rw [hw, eq_nil_of_cut hw hwrest ht ht'.trim hrest' hr' hbare.symm, List.append_nil]

end Cut

/-- The last block goes on with the next part of the leaf only behind a line break. -/
theorem tops_runsOn (l : Leaf) (b : Block) (bs : List Block) (ps : List Part) (ls : List Leaf) :
    Tops (RunsOn (ps = []) b.text) (bs.map (·.text)) (ls.foldl putLeaf (l.putMore (b :: bs) ps)) := by
  cases ps with
  | nil =>
    refine (tops_grown l b bs [] ls).imp ?_
    rintro _ ⟨rest, rfl⟩
    exact ⟨rest, rfl, fun h => (h rfl).elim⟩
  | cons p ps =>
    rw [putMore_cons]
    cases p.joins with
    | true =>
      refine (tops_below l b bs p.text ps ls).imp ?_
      rintro _ ⟨rest, rfl⟩
      exact ⟨'\n' :: lineBreak ++ rest, by simp, fun _ => .inr rfl⟩
    | false =>
      refine (tops_apart l _ b bs ps ls).imp ?_
      rintro _ rfl
      exact ⟨[], (List.append_nil _).symm, fun _ => .inl rfl⟩

/-! ## Parts of one text -/

/-- Parts that a leaf without `<` may have. -/
structure CleanParts (ps : List Part) : Prop where
  tidied : ∀ p ∈ ps, Tidied p.text
  last : ∀ front p, ps = front ++ [p] → p.text ≠ []

theorem CleanParts.tail {p : Part} {ps : List Part} (h : CleanParts (p :: ps)) : CleanParts ps where
  tidied q hq := h.tidied q (List.mem_cons_of_mem _ hq)
  last front q he := h.last (p :: front) q (by rw [he]; rfl)

/-- Parts that hold no text are none. -/
theorem CleanParts.eq_nil {ps : List Part} (h : CleanParts ps) (hbare : bare (ps.flatMap (·.text)) = []) : ps = [] := by
  rcases List.eq_nil_or_concat' ps with rfl | ⟨front, p, rfl⟩
  · rfl
  · rw [List.flatMap_append, Text.bare_append, List.flatMap_singleton, List.append_eq_nil_iff] at hbare
    have htidied := h.tidied p (List.mem_append_right _ List.mem_cons_self)
    refine (h.last front p rfl ?_).elim
    rw [← htidied.trim, Text.trim_eq_nil_iff, ← Text.bare_eq_nil_iff]
    exact hbare.2

theorem Leaf.cleanParts {l : Leaf} (hl : '<' ∉ l.text) : CleanParts l.parts where
  tidied p hp := by
    refine ⟨Leaf.trim_of_mem_parts hp, fun hm => ?_, Leaf.mark_not_mem_parts hl hp⟩
    obtain ⟨piece, hpiece, he⟩ := Leaf.exists_piece_of_mem_parts hl hp
    rw [he] at hm
    exact Text.not_mem_of_mem_splitOn hpiece (mem_of_mem_cleanText (by decide) hm)
  last _ _ he := Leaf.text_last hl he

section Same

variable {l l' : Leaf} {ls ls' : List Leaf} {p p' : Part} {ps ps' : List Part} {b b' : Block} {bs bs' : List Block}

/-- Parts that are added to blocks in the same way are equal if the blocks are. -/
theorem text_eq_of_runsOn (h : CleanParts (p :: ps)) (h' : CleanParts (p' :: ps'))
    (hbare : bare ((p :: ps).flatMap (·.text)) = bare ((p' :: ps').flatMap (·.text))) {base whole : Text}
    {spaced : Bool}
    (hc : RunsOn (ps = []) (base ++ (joint spaced p.text ++ p.text)) whole)
    (hc' : RunsOn (ps' = []) (base ++ (joint spaced p'.text ++ p'.text)) whole) : p.text = p'.text := by
  rw [List.flatMap_cons, List.flatMap_cons, Text.bare_append, Text.bare_append] at hbare
  refine eq_of_runsOn (h.tidied p List.mem_cons_self) (h'.tidied p' List.mem_cons_self) ?_ ?_ ?_ ?_ hbare hc hc'
  · rintro rfl
    exact h.last [] p rfl
  · rintro rfl
    exact h'.last [] p' rfl
  · rintro rfl
    rfl
  · rintro rfl
    rfl

theorem text_promote_congr {c c' : Block} (hb : b.text = b'.text) (hbs : bs.map (·.text) = bs'.map (·.text)) :
    (promote c b :: bs).map (·.text) = (promote c' b' :: bs').map (·.text) := by
  rw [List.map_cons, List.map_cons, Reading.text_promote, Reading.text_promote, hb, hbs]

theorem text_addBelow_congr (hb : b.text = b'.text) (t : Text) : (b.addBelow t).text = (b'.addBelow t).text := by
  have hadd : ∀ {c c' : Block}, c.text = c'.text → (c.add t).text = (c'.add t).text :=
    fun h => by rw [Block.add, Block.add, h]
  exact hadd (by rw [addBreak_text, addBreak_text, hb])

/-- Of two parts, only one of which joins the block in front, the blocks tell which. -/
theorem not_below_and_apart {c : Block} {t : Text} (hb : b.text = b'.text) (hbs : bs.map (·.text) = bs'.map (·.text)) :
    (ls.foldl putLeaf (l.putMore (b.addBelow t :: bs) ps)).map (·.text) ≠
      (ls'.foldl putLeaf (l'.putMore (c :: promote c b' :: bs') ps')).map (·.text) := by
  intro he
  obtain ⟨whole, hbelow, hapart⟩ := (tops_below l b bs t ps ls).meet (hbs ▸ tops_apart l' c b' bs' ps' ls') he
  rw [hapart, ← hb] at hbelow
  have hlength := hbelow.length_le
  rw [List.length_append, List.length_cons] at hlength
  omega

/-- Next parts that are added to blocks with the same texts show in the blocks. -/
theorem next_part_eq (hb : b.text = b'.text) (hbs : bs.map (·.text) = bs'.map (·.text)) (h : CleanParts (p :: ps))
    (h' : CleanParts (p' :: ps')) (hbare : bare ((p :: ps).flatMap (·.text)) = bare ((p' :: ps').flatMap (·.text)))
    (he : (ls.foldl putLeaf (l.putMore (b :: bs) (p :: ps))).map (·.text) =
      (ls'.foldl putLeaf (l'.putMore (b' :: bs') (p' :: ps'))).map (·.text)) : p = p' := by
  have hmark := (h.tidied p List.mem_cons_self).mark
  have hmark' := (h'.tidied p' List.mem_cons_self).mark
  obtain ⟨t, joins⟩ := p
  obtain ⟨t', joins'⟩ := p'
  rw [putMore_cons, putMore_cons] at he
  cases joins with
  | true =>
    cases joins' with
    | true =>
      have htop := tops_runsOn l' (b'.addBelow t') bs' ps' ls'
      rw [← hbs] at htop
      obtain ⟨whole, hc, hc'⟩ := (tops_runsOn l (b.addBelow t) bs ps ls).meet htop he
      rw [Block.addBelow, add_text_joint _ hmark, addBreak_text] at hc
      rw [Block.addBelow, add_text_joint _ hmark', addBreak_text, ← hb] at hc'
      exact congrArg (Part.mk · true) (text_eq_of_runsOn h h' hbare hc hc')
    | false => exact (not_below_and_apart hb hbs he).elim
  | false =>
    cases joins' with
    | true => exact (not_below_and_apart hb.symm hbs.symm he.symm).elim
    | false =>
      -- The block of the part has its text, so nothing comes in front of it.
      have htop := tops_runsOn l' (l'.blockOf false false t') (promote (l'.blockOf false false t') b' :: bs') ps' ls'
      rw [← text_promote_congr (c := l.blockOf false false t) hb hbs] at htop
      obtain ⟨whole, hc, hc'⟩ := (tops_runsOn l _ _ ps ls).meet htop he
      have hc : RunsOn (ps = []) ([] ++ (joint false t ++ t)) whole := hc
      exact congrArg (Part.mk · false) (text_eq_of_runsOn h h' hbare hc hc')

/-- Parts behind the first one. Where they first differ, the blocks do. -/
theorem more_parts_eq : ∀ {ps ps' : List Part} {b b' : Block} {bs bs' : List Block}, b.text = b'.text →
    bs.map (·.text) = bs'.map (·.text) → CleanParts ps → CleanParts ps' →
    bare (ps.flatMap (·.text)) = bare (ps'.flatMap (·.text)) →
    (ls.foldl putLeaf (l.putMore (b :: bs) ps)).map (·.text) =
      (ls'.foldl putLeaf (l'.putMore (b' :: bs') ps')).map (·.text) →
    ps = ps'
  | [], _, _, _, _, _, _, _, _, h', hbare, _ => (h'.eq_nil hbare.symm).symm
  | _ :: _, [], _, _, _, _, _, _, h, _, hbare, _ => h.eq_nil hbare
  | p :: ps, p' :: ps', b, b', bs, bs', hb, hbs, h, h', hbare, he => by
    obtain rfl := next_part_eq hb hbs h h' hbare he
    rw [List.flatMap_cons, List.flatMap_cons, Text.bare_append, Text.bare_append] at hbare
    have hrest := List.append_cancel_left hbare
    rw [putMore_cons, putMore_cons] at he
    congr 1
    cases hp : p.joins with
    | true =>
      simp only [hp, if_true] at he
      exact more_parts_eq (text_addBelow_congr hb p.text) hbs h.tail h'.tail hrest he
    | false =>
      have htext : (l.blockOf false false p.text).text = (l'.blockOf false false p.text).text := rfl
      simp only [hp, Bool.false_eq_true, if_false] at he
      exact more_parts_eq htext (text_promote_congr hb hbs) h.tail h'.tail hrest he

/-! ## The parts of a leaf -/

/-- Where the first part of a leaf goes depends on its tag alone. -/
theorem exists_put_first (tag : String) (bs : List Block) :
    ∃ base spaced texts, ∀ (l : Leaf) (t : Text), l.tag = tag → '<' ∉ t →
    ∃ c cs, put (l.blockOf true (continuesLast bs) t) false bs = c :: cs ∧ c.text = base ++ (joint spaced t ++ t) ∧
      cs.map (·.text) = texts := by
  cases bs with
  | nil => exact ⟨[], false, [], fun l t _ _ => ⟨l.blockOf true (continuesLast []) t, [], rfl, rfl, rfl⟩⟩
  | cons last bs =>
    cases hinto : continuesLast (last :: bs) && !isBlockTag tag with
    | true =>
      refine ⟨last.text, !last.text.isEmpty && !Text.endsWith '\n' last.text, bs.map (·.text), fun l t htag ht => ?_⟩
      refine ⟨last.add t, bs, ?_, add_text_joint last ht, rfl⟩
      rw [put, isBlock_blockOf, Bool.true_and, htag, hinto]
      rfl
    | false =>
      refine ⟨[], false, (last :: bs).map (·.text), fun l t htag _ => ?_⟩
      refine ⟨l.blockOf true (continuesLast (last :: bs)) t,
        promote (l.blockOf true (continuesLast (last :: bs)) t) last :: bs, ?_, rfl, ?_⟩
      · rw [put, isBlock_blockOf, Bool.true_and, htag, hinto]
        rfl
      · rw [List.map_cons, Reading.text_promote, List.map_cons]

/-- Leaves that are the same but for the white space in their texts. -/
structure Leaf.Alike (l l' : Leaf) : Prop where
  tag : l.tag = l'.tag
  parentTag : l.parentTag = l'.parentTag
  strong : l.strong = l'.strong
  bare : bare l.text = Text.bare l'.text

/-- Such leaves have the same parts if they make the same blocks. -/
theorem Leaf.Alike.parts_eq (h : l.Alike l') (hl : '<' ∉ l.text) (hl' : '<' ∉ l'.text)
    (he : (ls.foldl putLeaf (putLeaf bs l)).map (·.text) = (ls'.foldl putLeaf (putLeaf bs l')).map (·.text)) :
    l.parts = l'.parts := by
  have hbare : Text.bare (l.parts.flatMap (·.text)) = Text.bare (l'.parts.flatMap (·.text)) := by
    rw [Leaf.bare_parts hl, Leaf.bare_parts hl', h.bare]
  have hclean := Leaf.cleanParts hl
  have hclean' := Leaf.cleanParts hl'
  cases hps : l.parts with
  | nil => rw [hclean'.eq_nil (hbare.symm.trans (by rw [hps]; rfl))]
  | cons p ps =>
    cases hps' : l'.parts with
    | nil => rw [← hps, hclean.eq_nil (hbare.trans (by rw [hps']; rfl))]
    | cons p' ps' =>
      rw [putLeaf, putLeaf, hps, hps', Leaf.putParts, Leaf.putParts, Leaf.joins_first hl hps,
        Leaf.joins_first hl' hps'] at he
      rw [hps] at hclean
      rw [hps'] at hclean'
      rw [hps, hps'] at hbare
      obtain ⟨base, spaced, texts, hput⟩ := exists_put_first l.tag bs
      obtain ⟨c, cs, hc, htext, hcs⟩ := hput l p.text rfl (hclean.tidied p List.mem_cons_self).mark
      obtain ⟨c', cs', hc', htext', hcs'⟩ := hput l' p'.text h.tag.symm (hclean'.tidied p' List.mem_cons_self).mark
      rw [hc, hc'] at he
      have htop := tops_runsOn l c cs ps ls
      have htop' := tops_runsOn l' c' cs' ps' ls'
      rw [htext, hcs] at htop
      rw [htext', hcs'] at htop'
      obtain ⟨whole, hcont, hcont'⟩ := htop.meet htop' he
      have hp : p = p' := by
        have hjoins : p.joins = p'.joins := (Leaf.joins_first hl hps).trans (Leaf.joins_first hl' hps').symm
        have hsame := text_eq_of_runsOn hclean hclean' hbare hcont hcont'
        cases p
        cases p'
        exact Part.mk.injEq .. ▸ ⟨hsame, hjoins⟩
      subst hp
      rw [List.flatMap_cons, List.flatMap_cons, Text.bare_append, Text.bare_append] at hbare
      rw [more_parts_eq (htext.trans htext'.symm) (hcs.trans hcs'.symm) hclean.tail hclean'.tail
        (List.append_cancel_left hbare) he]

/-- Such leaves with the same parts make the same blocks. -/
theorem Leaf.Alike.putLeaf_eq (h : l.Alike l') (hparts : l.parts = l'.parts) (bs : List Block) :
    putLeaf bs l = putLeaf bs l' := by
  have hblock : l.blockOf = l'.blockOf := by
    funext isFirst inline t
    simp only [Leaf.blockOf, Leaf.givesStrong_eq, h.tag, h.parentTag, h.strong, hparts]
  rw [putLeaf, putLeaf, hparts]
  cases l'.parts with
  | nil => rfl
  | cons p ps => rw [Leaf.putParts, Leaf.putParts, Leaf.putMore, Leaf.putMore, hblock]

end Same

/-! ## The leaves of a tree -/

/-- Leaves with the same parts make the same blocks. -/
theorem putLeaves_congr {ls ls' : List Leaf} (h : List.Forall₂ (fun l l' => l.Alike l' ∧ l.parts = l'.parts) ls ls') :
    ∀ bs : List Block, ls.foldl putLeaf bs = ls'.foldl putLeaf bs := by
  induction h with
  | nil => exact fun _ => rfl
  | cons hl _ ih =>
    intro bs
    rw [List.foldl_cons, List.foldl_cons, hl.1.putLeaf_eq hl.2, ih]

/-- **The blocks tell the parts of the leaves**, up to the white space in them. -/
theorem parts_of_texts {ls ls' : List Leaf} (h : List.Forall₂ Leaf.Alike ls ls') : ∀ {bs : List Block},
    (∀ l ∈ ls, '<' ∉ l.text) → (∀ l ∈ ls', '<' ∉ l.text) →
    (ls.foldl putLeaf bs).map (·.text) = (ls'.foldl putLeaf bs).map (·.text) →
      ls.map Leaf.parts = ls'.map Leaf.parts := by
  induction h with
  | nil => exact fun _ _ _ => rfl
  | cons hl _ ih =>
    intro bs hmark hmark' he
    rw [List.forall_mem_cons] at hmark hmark'
    have hparts := hl.parts_eq hmark.1 hmark'.1 he
    rw [List.foldl_cons, List.foldl_cons, hl.putLeaf_eq hparts] at he
    rw [List.map_cons, List.map_cons, hparts, ih hmark.2 hmark'.2 he]

end Excerpt.Body
