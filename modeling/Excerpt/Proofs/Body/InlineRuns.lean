import Excerpt.Proofs.Body.Joints

/-!
# Runs of inline nodes

Inline nodes are texts of one line and elements that neither stand apart nor break lines, with inline nodes in them. A
run of such nodes in a container gives the texts of its leaves one by one: the first begins a block, and the next go
into it as long as none of them is blank. In a paragraph the same nodes give one text.

* `length_eq_one_iff` tells when the run makes a single block.
* A blank comes in front of a text that goes into a block if it begins with a letter or digit, whatever is between the
  texts in the page. The two ways to read the run agree just if the texts meet as they do in one text
  (`clean_flatten_iff`).

The main statement is `inline_run_iff`.
-/

namespace Excerpt.Body

open Text (isBlank trim)
open Node (blockPart blockParts)

mutual

/-- Texts of one line, and elements of inline nodes that neither stand apart nor break lines. -/
def isInline : Node → Bool
  | .text _ s => !s.contains '\n'
  | .element tag _ ns => !isBlockTag tag && tag != "br" && isInlineIn ns
  | _ => false

/-- Inline nodes. -/
def isInlineIn : List Node → Bool
  | [] => true
  | n :: ns => isInline n && isInlineIn ns

end

/-- The texts between the first and the last that are not blank. -/
def inner (ts : List Text) : List Text :=
  (ts.dropWhile isBlank).rdropWhile isBlank

/-! ## Leaves of inline nodes -/

/-- A leaf of inline nodes. -/
structure Leaf.Inline (l : Leaf) : Prop where
  tag : isBlockTag l.tag = false
  newline : '\n' ∉ l.text

mutual

theorem newline_not_mem_blockPart : ∀ {n : Node}, isInline n = true → '\n' ∉ n.blockPart
  | .text _ s, h => by
    have hs : '\n' ∉ s := by simpa [isInline] using h
    exact hs
  | .element tag as ns, h => by
    rw [isInline, Bool.and_eq_true, Bool.and_eq_true, bne_iff_ne] at h
    rw [blockPart, if_neg h.1.2]
    exact newline_not_mem_blockParts h.2

theorem newline_not_mem_blockParts : ∀ {ns : List Node}, isInlineIn ns = true → '\n' ∉ blockParts ns
  | [], _ => List.not_mem_nil
  | n :: ns, h => by
    rw [isInlineIn, Bool.and_eq_true] at h
    rw [blockParts, List.mem_append, not_or]
    exact ⟨newline_not_mem_blockPart h.1, newline_not_mem_blockParts h.2⟩

end

mutual

theorem inline_leavesOf (parentTag : String) : ∀ {n : Node}, isInline n = true →
    (∀ l ∈ leavesOf [] parentTag n, l.Inline) ∧ (leavesOf [] parentTag n).flatMap (·.text) = n.blockPart
  | .text kind s, h => by
    have hs : '\n' ∉ s := by simpa [isInline] using h
    rw [leavesOf, List.forall_mem_singleton, List.flatMap_singleton]
    exact ⟨⟨show isBlockTag textTag = false by decide, hs⟩, rfl⟩
  | .element tag as ns, h => by
    have hns := h
    rw [isInline, Bool.and_eq_true, Bool.and_eq_true, Bool.not_eq_true', bne_iff_ne] at hns
    have hex : Exclude.anyHolds [] (.element tag as ns) = false := rfl
    rw [leavesOf, hex, if_neg Bool.false_ne_true, blockPart, if_neg hns.1.2, List.nil_append]
    split
    · rw [List.forall_mem_singleton, List.flatMap_singleton]
      exact ⟨⟨hns.1.1, newline_not_mem_blockParts hns.2⟩, rfl⟩
    · exact inline_leavesIn tag hns.2

/-- The leaves of inline nodes are inline, and hold the text of the nodes. -/
theorem inline_leavesIn (parentTag : String) : ∀ {ns : List Node}, isInlineIn ns = true →
    (∀ l ∈ leavesIn [] parentTag ns, l.Inline) ∧ (leavesIn [] parentTag ns).flatMap (·.text) = blockParts ns
  | [], _ => ⟨fun _ h => absurd h List.not_mem_nil, rfl⟩
  | n :: ns, h => by
    rw [isInlineIn, Bool.and_eq_true] at h
    obtain ⟨hone, htext⟩ := inline_leavesOf parentTag h.1
    obtain ⟨hall, htexts⟩ := inline_leavesIn parentTag h.2
    rw [leavesIn, List.forall_mem_append, List.flatMap_append, htext, htexts, blockParts]
    exact ⟨⟨hone, hall⟩, rfl⟩

end

/-! ## One leaf -/

section Leaf

variable {l : Leaf} {b : Block} {bs : List Block}

/-- A leaf of one line has one part. -/
theorem Leaf.parts_of_line (hn : '\n' ∉ l.text) (hb : isBlank l.text = false) :
    l.parts = [⟨unbroken (clean l.text), Text.startsWith lineBreak (clean l.text)⟩] := by
  obtain ⟨first, rest, hlines, -, hparts⟩ := l.exists_parts hb
  have hpieces : l.pieces = [trim l.text] := Text.splitOn_of_not_mem fun h => hn (Text.mem_of_mem_trim h)
  have hline : l.lines = [clean l.text] := by
    rw [lines_eq, hpieces]
    split <;> rfl
  rw [hline] at hlines
  obtain ⟨hfirst, hrest⟩ := List.cons.inj hlines
  rw [hparts, ← hfirst, ← hrest]
  rfl

/-- What becomes of the last block with an inline leaf: blank text closes it, and other text goes into it if it is open,
or if a break leads into it. -/
theorem putLeaf_inline (h : l.Inline) (b : Block) (bs : List Block) : putLeaf (b :: bs) l =
    if isBlank l.text then { b with display := .block } :: bs
    else if continuesLast (b :: bs) then b.add (unbroken (clean l.text)) :: bs
    else if Text.startsWith lineBreak (clean l.text) then b.addBelow (unbroken (clean l.text)) :: bs
    else l.blockOf true false (unbroken (clean l.text)) ::
        promote (l.blockOf true false (unbroken (clean l.text))) b :: bs := by
  cases hb : isBlank l.text with
  | true =>
    rw [putLeaf_of_isBlank (Leaf.parts_eq_nil_iff.mpr hb)]
    rfl
  | false =>
    rw [putLeaf_cons (Leaf.parts_of_line h.newline hb), h.tag, Bool.not_false, Bool.and_true]
    cases hopen : continuesLast (b :: bs) <;> rfl

theorem putLeaf_nil (h : l.Inline) : putLeaf [] l =
    if isBlank l.text then [] else [l.blockOf true false (unbroken (clean l.text))] := by
  cases hb : isBlank l.text with
  | true => exact putLeaf_of_isBlank (Leaf.parts_eq_nil_iff.mpr hb) []
  | false =>
    rw [putLeaf, Leaf.parts_of_line h.newline hb]
    rfl

end Leaf

/-! ## A single block -/

section Single

variable {b : Block} {bs : List Block}

theorem length_le_putLeaves (b : Block) (bs : List Block) (ls : List Leaf) :
    (b :: bs).length ≤ (ls.foldl putLeaf (b :: bs)).length := by
  obtain ⟨more, t, he, -⟩ := tops_grown ⟨textTag, textTag, [], false⟩ b bs [] ls
  have hlength := congrArg List.length he
  rw [List.length_map, List.length_append, List.length_cons, List.length_map] at hlength
  have hmore : Leaf.putMore ⟨textTag, textTag, [], false⟩ (b :: bs) [] = b :: bs := rfl
  rw [hmore] at hlength
  rw [List.length_cons]
  omega

/-- Whether a text does not begin a block behind a closed one: it is blank, or a break leads into the block. -/
def staysBehind (t : Text) : Bool :=
  isBlank t || Text.startsWith lineBreak (clean t)

theorem length_closed_iff : ∀ {ls : List Leaf} {b : Block}, (∀ l ∈ ls, l.Inline) → continuesLast [b] = false →
    ((ls.foldl putLeaf [b]).length = 1 ↔ ∀ l ∈ ls, staysBehind l.text = true)
  | [], _, _, _ => iff_of_true rfl fun _ h => absurd h List.not_mem_nil
  | l :: ls, b, h, hclosed => by
    rw [List.forall_mem_cons] at h ⊢
    rw [List.foldl_cons, putLeaf_inline h.1, hclosed, if_neg Bool.false_ne_true, staysBehind]
    cases hb : isBlank l.text with
    | true =>
      rw [if_pos rfl, Bool.true_or, length_closed_iff h.2 rfl]
      exact (and_iff_right rfl).symm
    | false =>
      rw [if_neg Bool.false_ne_true, Bool.false_or]
      cases hmark : Text.startsWith lineBreak (clean l.text) with
      | true =>
        have hbelow : continuesLast [b.addBelow (unbroken (clean l.text))] = false := hclosed
        rw [if_pos rfl, length_closed_iff h.2 hbelow]
        exact (and_iff_right rfl).symm
      | false =>
        rw [if_neg Bool.false_ne_true]
        refine iff_of_false (fun hone => ?_) fun hall => Bool.false_ne_true hall.1
        have hle := length_le_putLeaves (l.blockOf true false (unbroken (clean l.text)))
          [promote (l.blockOf true false (unbroken (clean l.text))) b] ls
        rw [hone] at hle
        simp at hle

theorem length_open_iff : ∀ {ls : List Leaf} {b : Block}, (∀ l ∈ ls, l.Inline) → continuesLast [b] = true →
    ((ls.foldl putLeaf [b]).length = 1 ↔ ∀ t ∈ (ls.map (·.text)).dropWhile (!isBlank ·), staysBehind t = true)
  | [], _, _, _ => iff_of_true rfl fun _ h => absurd h List.not_mem_nil
  | l :: ls, b, h, hopen => by
    rw [List.forall_mem_cons] at h
    rw [List.foldl_cons, putLeaf_inline h.1, hopen, List.map_cons]
    cases hb : isBlank l.text with
    | true =>
      rw [if_pos rfl, length_closed_iff h.2 rfl, List.dropWhile_cons_of_neg (by rw [hb]; decide),
        List.forall_mem_cons, staysBehind, hb, List.forall_mem_map]
      exact (and_iff_right rfl).symm
    | false =>
      have hadd : continuesLast [b.add (unbroken (clean l.text))] = true := hopen
      rw [if_neg Bool.false_ne_true, if_pos rfl, length_open_iff h.2 hadd, List.dropWhile_cons_of_pos (by rw [hb]; rfl)]

/-- **When inline leaves make a single block**: behind the first blank text that follows another text, no text begins a
block. -/
theorem length_eq_one_iff : ∀ {ls : List Leaf}, (∀ l ∈ ls, l.Inline) → (∃ l ∈ ls, isBlank l.text = false) →
    ((ls.foldl putLeaf []).length = 1 ↔
      ∀ t ∈ ((ls.map (·.text)).dropWhile isBlank).dropWhile (!isBlank ·), staysBehind t = true)
  | [], _, hsome => by simp at hsome
  | l :: ls, h, hsome => by
    rw [List.forall_mem_cons] at h
    rw [List.foldl_cons, putLeaf_nil h.1, List.map_cons]
    cases hb : isBlank l.text with
    | true =>
      have hrest : ∃ l ∈ ls, isBlank l.text = false := by simpa [hb] using hsome
      rw [if_pos rfl, length_eq_one_iff h.2 hrest, List.dropWhile_cons_of_pos hb]
    | false =>
      rw [if_neg Bool.false_ne_true, List.dropWhile_cons_of_neg (by rw [hb]; decide),
        List.dropWhile_cons_of_pos (by rw [hb]; rfl)]
      exact length_open_iff h.2 rfl

end Single

/-! ## The text of a single block -/

section Text

variable {t u v : Text} {b : Block}

theorem unbroken_clean (h : '<' ∉ t) : unbroken (clean t) = clean t :=
  unbroken_of_not_mem fun hm => h (mem_of_mem_clean (by decide) hm)

theorem startsWith_clean (h : '<' ∉ t) : Text.startsWith lineBreak (clean t) = false := by
  have hclean : '<' ∉ clean t := fun hm => h (mem_of_mem_clean (by decide) hm)
  rw [Text.startsWith, dropPrefix?_mark_of_not_mem hclean]
  rfl

/-- The text of a block with inline leaves in it, none of them blank. -/
theorem text_putLeaves : ∀ {ls : List Leaf} {b : Block}, (∀ l ∈ ls, l.Inline ∧ '<' ∉ l.text ∧ isBlank l.text = false) →
    continuesLast [b] = true → b.text ≠ [] → '\n' ∉ b.text →
    ∃ b', ls.foldl putLeaf [b] = [b'] ∧
      b'.text = b.text ++ ls.flatMap fun l => joint true (clean l.text) ++ clean l.text
  | [], b, _, _, _, _ => ⟨b, rfl, (List.append_nil _).symm⟩
  | l :: ls, b, h, hopen, hne, hn => by
    rw [List.forall_mem_cons] at h
    obtain ⟨⟨hinline, hmark, hblank⟩, hrest⟩ := h
    have hclean : '<' ∉ clean l.text := fun hm => hmark (mem_of_mem_clean (by decide) hm)
    have hend : Text.endsWith '\n' b.text = false := by
      rw [Text.endsWith, beq_eq_false_iff_ne]
      exact fun h => hn (List.mem_of_getLast? h)
    have hspaced : (!b.text.isEmpty && !Text.endsWith '\n' b.text) = true := by
      rw [hend, List.isEmpty_eq_false_iff.mpr hne]
      rfl
    have htext : (b.add (clean l.text)).text = b.text ++ (joint true (clean l.text) ++ clean l.text) := by
      rw [add_text_joint b hclean, hspaced]
    have hadd : continuesLast [b.add (clean l.text)] = true := hopen
    rw [List.foldl_cons, putLeaf_inline hinline, hblank, hopen, unbroken_clean hmark,
      if_neg Bool.false_ne_true, if_pos rfl]
    have hn' : '\n' ∉ (b.add (clean l.text)).text := by
      have hjoint : '\n' ∉ joint true (clean l.text) := by
        rw [joint]
        split <;> decide
      have hcleaned : '\n' ∉ clean l.text := fun h => hinline.newline (mem_of_mem_clean (by decide) h)
      rw [htext, List.mem_append, List.mem_append, not_or, not_or]
      exact ⟨hn, hjoint, hcleaned⟩
    obtain ⟨b', hb', htext'⟩ := text_putLeaves hrest hadd (by rw [htext]; simp [hne]) hn'
    exact ⟨b', hb', by rw [htext', htext, List.flatMap_cons, List.append_assoc]⟩

theorem blank_putLeaves : ∀ {ls : List Leaf} (b : Block), (∀ l ∈ ls, isBlank l.text = true) →
    ∃ b', ls.foldl putLeaf [b] = [b'] ∧ b'.text = b.text
  | [], b, _ => ⟨b, rfl, rfl⟩
  | l :: ls, b, h => by
    rw [List.forall_mem_cons] at h
    rw [List.foldl_cons, putLeaf_of_isBlank (Leaf.parts_eq_nil_iff.mpr h.1)]
    exact blank_putLeaves { b with display := .block } h.2

theorem blank_putLeaves_nil : ∀ {ls : List Leaf}, (∀ l ∈ ls, isBlank l.text = true) → ls.foldl putLeaf [] = []
  | [], _ => rfl
  | l :: ls, h => by
    rw [List.forall_mem_cons] at h
    rw [List.foldl_cons, putLeaf_of_isBlank (Leaf.parts_eq_nil_iff.mpr h.1)]
    exact blank_putLeaves_nil h.2

end Text

/-! ## The texts in the middle -/

section Inner

variable {ts front back : List Text} {u : Text} {us : List Text}

theorem inner_eq (hfront : ∀ t ∈ front, isBlank t = true) (hus : ∀ t ∈ u :: us, isBlank t = false)
    (hback : ∀ t ∈ back, isBlank t = true) : inner (front ++ (u :: us ++ back)) = u :: us := by
  have hu : ¬ isBlank u = true := by
    rw [hus u List.mem_cons_self]
    exact Bool.false_ne_true
  have hreverse : ∀ t ∈ back.reverse, isBlank t = true := fun t ht => hback t (List.mem_reverse.mp ht)
  have hself : (u :: us).rdropWhile isBlank = u :: us := by
    rw [List.rdropWhile_eq_self_iff]
    intro hne
    rw [hus _ (List.getLast_mem hne)]
    exact Bool.false_ne_true
  rw [inner, List.dropWhile_append_of_pos hfront, List.cons_append, List.dropWhile_cons_of_neg hu, ← List.cons_append,
    List.rdropWhile, List.reverse_append, List.dropWhile_append_of_pos hreverse]
  exact hself

/-- The texts in the middle begin with one that is not blank, and blank ones are around them. -/
theorem exists_inner (h : ∃ t ∈ ts, isBlank t = false) : ∃ front u us back, ts = front ++ (u :: us ++ back) ∧
    (∀ t ∈ front, isBlank t = true) ∧ isBlank u = false ∧ (∀ t ∈ back, isBlank t = true) ∧ inner ts = u :: us := by
  have hts : ts = ts.takeWhile isBlank ++ (inner ts ++ (ts.dropWhile isBlank).rtakeWhile isBlank) := by
    rw [inner, List.rdropWhile_append_rtakeWhile, List.takeWhile_append_dropWhile]
  have hfront : ∀ t ∈ ts.takeWhile isBlank, isBlank t = true := fun t ht => List.mem_takeWhile_imp ht
  have hback : ∀ t ∈ (ts.dropWhile isBlank).rtakeWhile isBlank, isBlank t = true :=
    fun t ht => List.mem_rtakeWhile_imp ht
  cases hinner : inner ts with
  | nil =>
    -- All texts would be blank.
    obtain ⟨t, ht, hb⟩ := h
    rw [hts, hinner, List.nil_append, List.mem_append] at ht
    rw [ht.elim (hfront t) (hback t)] at hb
    cases hb
  | cons u us =>
    rw [hinner] at hts
    have hhead : (ts.dropWhile isBlank).head? = some u := by
      obtain ⟨more, hmore⟩ : inner ts <+: ts.dropWhile isBlank := List.rdropWhile_prefix isBlank _
      rw [← hmore, hinner]
      rfl
    have hu := List.head?_dropWhile_not isBlank ts
    rw [hhead] at hu
    exact ⟨_, u, us, _, hts, hfront, hu, hback, rfl⟩

/-- If only blank texts come behind the first ones that are not blank, those are the texts in the middle. -/
theorem not_blank_inner (h : ∃ t ∈ ts, isBlank t = false)
    (hbehind : ∀ t ∈ (ts.dropWhile isBlank).dropWhile (!isBlank ·), isBlank t = true) :
    ∀ t ∈ inner ts, isBlank t = false := by
  obtain ⟨-, u, us, -, -, -, hu, -, hinner⟩ := exists_inner h
  obtain ⟨more, hmore⟩ : inner ts <+: ts.dropWhile isBlank := List.rdropWhile_prefix isBlank _
  have hrun : (ts.dropWhile isBlank).takeWhile (!isBlank ·) = u :: (us ++ more).takeWhile (!isBlank ·) := by
    rw [← hmore, hinner, List.cons_append, List.takeWhile_cons_of_pos (by rw [hu]; rfl)]
  have hts : ts = ts.takeWhile isBlank ++ (u :: (us ++ more).takeWhile (!isBlank ·) ++
      (ts.dropWhile isBlank).dropWhile (!isBlank ·)) := by
    rw [← hrun, List.takeWhile_append_dropWhile, List.takeWhile_append_dropWhile]
  have hall : ∀ t ∈ u :: (us ++ more).takeWhile (!isBlank ·), isBlank t = false := fun t ht => by
    rw [← hrun] at ht
    simpa using List.mem_takeWhile_imp ht
  rw [hts, inner_eq (fun t ht => List.mem_takeWhile_imp ht) hall hbehind]
  exact hall

theorem forall_of_isChain : ∀ {us : List Text} {u : Text}, isBlank u = false → (u :: us).IsChain Meets →
    ∀ t ∈ u :: us, isBlank t = false
  | [], _, hu, _ => List.forall_mem_singleton.mpr hu
  | _ :: _, _, hu, h => by
    rw [List.isChain_cons_cons] at h
    exact List.forall_mem_cons.mpr ⟨hu, forall_of_isChain h.1.2.1 h.2⟩

/-- White space around does not count. -/
theorem clean_flatten (hfront : ∀ t ∈ front, isBlank t = true) (hback : ∀ t ∈ back, isBlank t = true) :
    clean (front ++ (us ++ back)).flatten = clean us.flatten := by
  have hblank : ∀ {ts : List Text}, (∀ t ∈ ts, isBlank t = true) → isBlank ts.flatten = true := fun h =>
    List.all_eq_true.mpr fun c hc =>
      have ⟨t, ht, hc⟩ := List.mem_flatten.mp hc
      List.all_eq_true.mp (h t ht) c hc
  rw [List.flatten_append, List.flatten_append, clean, Text.trim_blank_append (hblank hfront),
    Text.trim_append_blank (hblank hback), clean]

/-- Inline leaves of which those in the middle are not blank make a single block. -/
theorem exists_putLeaves {ls : List Leaf} (h : ∀ l ∈ ls, l.Inline ∧ '<' ∉ l.text)
    (hls : ls.map (·.text) = front ++ (u :: us ++ back)) (hfront : ∀ t ∈ front, isBlank t = true)
    (hus : ∀ t ∈ u :: us, isBlank t = false) (hback : ∀ t ∈ back, isBlank t = true) :
    ∃ b, ls.foldl putLeaf [] = [b] ∧ b.text = clean u ++ us.flatMap fun t => joint true (clean t) ++ clean t := by
  obtain ⟨before, rest, rfl, rfl, hrest⟩ := List.map_eq_append_iff.mp hls
  obtain ⟨run, after, rfl, hrun, rfl⟩ := List.map_eq_append_iff.mp hrest
  obtain ⟨l, run, rfl, rfl, rfl⟩ := List.map_eq_cons_iff.mp hrun
  rw [List.forall_mem_map] at hfront hback
  rw [← List.map_cons, List.forall_mem_map, List.forall_mem_cons] at hus
  rw [List.forall_mem_append, List.forall_mem_append, List.forall_mem_cons] at h
  obtain ⟨-, ⟨⟨hl, hmark⟩, hrun⟩, -⟩ := h
  have hfirst : putLeaf [] l = [l.blockOf true false (clean l.text)] := by
    rw [putLeaf_nil hl, hus.1, if_neg Bool.false_ne_true, unbroken_clean hmark]
  have hne : clean l.text ≠ [] := fun hnil => by
    rw [clean, cleanText_eq_nil_iff, Text.isBlank_trim, hus.1] at hnil
    cases hnil
  have hn : '\n' ∉ clean l.text := fun hm => hl.newline (mem_of_mem_clean (by decide) hm)
  obtain ⟨b, hb, htext⟩ := text_putLeaves (b := l.blockOf true false (clean l.text))
    (fun k hk => ⟨(hrun k hk).1, (hrun k hk).2, hus.2 k hk⟩) rfl hne hn
  obtain ⟨b', hb', htext'⟩ := blank_putLeaves b hback
  refine ⟨b', ?_, ?_⟩
  · rw [List.foldl_append, blank_putLeaves_nil hfront, List.foldl_append, List.foldl_cons, hfirst, hb, hb']
  · rw [htext', htext, List.flatMap_map]
    rfl

/-- Inline leaves without marks, some of them not blank: they make a single block just if the texts in the middle are
not blank, and it has the text that they have as one just if those meet. -/
theorem inner_iff {ls : List Leaf} (h : ∀ l ∈ ls, l.Inline ∧ '<' ∉ l.text)
    (hsome : ∃ t ∈ ls.map (·.text), isBlank t = false) :
    ((ls.foldl putLeaf []).length = 1 ↔ ∀ t ∈ inner (ls.map (·.text)), isBlank t = false) ∧
      ((ls.foldl putLeaf []).map (·.text) = [clean (ls.map (·.text)).flatten] ↔
      (inner (ls.map (·.text))).IsChain Meets) := by
  obtain ⟨front, u, us, back, hts, hfront, hu, hback, hinner⟩ := exists_inner hsome
  have hsingle : (ls.foldl putLeaf []).length = 1 ↔ ∀ t ∈ u :: us, isBlank t = false := by
    refine ⟨fun hone => ?_, fun hus => ?_⟩
    · rw [length_eq_one_iff (fun l hl => (h l hl).1) (by simpa using hsome)] at hone
      rw [← hinner]
      refine not_blank_inner hsome fun t ht => ?_
      obtain ⟨l, hl, rfl⟩ := List.mem_map.mp ((List.dropWhile_sublist _).subset ((List.dropWhile_sublist _).subset ht))
      have hstays := hone l.text ht
      rwa [staysBehind, startsWith_clean (h l hl).2, Bool.or_false] at hstays
    · obtain ⟨b, hb, -⟩ := exists_putLeaves h hts hfront hus hback
      rw [hb]
      rfl
  have htext : (∀ t ∈ u :: us, isBlank t = false) →
      ((ls.foldl putLeaf []).map (·.text) = [clean (ls.map (·.text)).flatten] ↔ (u :: us).IsChain Meets) := by
    intro hus
    obtain ⟨b, hb, htext⟩ := exists_putLeaves h hts hfront hus hback
    rw [hb, hts, clean_flatten hfront hback, List.map_singleton, List.singleton_inj, htext, eq_comm,
      clean_flatten_iff hu (List.forall_mem_cons.mp hus).2]
  rw [hinner]
  refine ⟨hsingle, fun hsame => ?_, fun hchain => (htext (forall_of_isChain hu hchain)).mpr hchain⟩
  have hone : (ls.foldl putLeaf []).length = 1 := by
    have hlength := congrArg List.length hsame
    rwa [List.length_map] at hlength
  exact (htext (hsingle.mp hone)).mp hsame

end Inner

/-! ## Inline nodes in a container and in a paragraph -/

section Run

variable {tag : String} {as as' : Attrs} {ns : List Node}

/-- A paragraph with inline nodes is a single block with their text. -/
theorem collect_paragraph (h : isInlineIn ns = true) (hb : isBlank (blockParts ns) = false) :
    (collect [] [] (.element tag as [.element "p" as' ns])).map (·.text) = [unbroken (clean (blockParts ns))] := by
  have hleaves : leavesIn [] tag [.element "p" as' ns] =
      [⟨"p", tag, blockParts ns, isStrong (.element "p" as' ns)⟩] := by
    have hleaf : isLeaf "p" ns = true := by
      have htag : isLeafTag "p" = true := by decide
      rw [isLeaf.eq_def]
      split
      · rfl
      · rw [htag, Bool.or_true]
      · exact htag
    have hex : Exclude.anyHolds [] (.element "p" as' ns) = false := rfl
    rw [leavesIn, leavesOf, hex, hleaf]
    rfl
  have hparts := Leaf.parts_of_line (l := ⟨"p", tag, blockParts ns, isStrong (.element "p" as' ns)⟩)
    (newline_not_mem_blockParts h) hb
  rw [collect_eq, hleaves, map_text_collectLeaves, sealedLeaves, List.foldl_cons, List.foldl_nil, putLeaf, hparts]
  rfl

/-- **When an inline run is one block with its own text.** In a paragraph it always is a single block. In another
container it is just if no text begins a block behind the first blank text that follows another text; without `<` this
says that the texts in the middle are not blank. And then it has the same text as in the paragraph just if its texts
meet as they do in one text (`Meets`): blanks, and no other white space, are between two of them if the second begins
with a letter or digit, and otherwise nothing, or blanks between a word and a closing mark. -/
theorem inline_run_iff (tag : String) (as as' : Attrs) {ns : List Node} (h : isInlineIn ns = true)
    (hb : isBlank (blockParts ns) = false) :
    let ts := (leavesIn [] tag ns).map (·.text)
    (collect [] [] (.element tag as [.element "p" as' ns])).map (·.text) = [unbroken (clean (blockParts ns))] ∧
      ((collect [] [] (.element tag as ns)).length = 1 ↔
        ∀ t ∈ (ts.dropWhile isBlank).dropWhile (!isBlank ·), staysBehind t = true) ∧
      ('<' ∉ blockParts ns →
        ((collect [] [] (.element tag as ns)).length = 1 ↔ ∀ t ∈ inner ts, isBlank t = false) ∧
        ((collect [] [] (.element tag as ns)).map (·.text) =
          (collect [] [] (.element tag as [.element "p" as' ns])).map (·.text) ↔ (inner ts).IsChain Meets)) := by
  intro ts
  obtain ⟨hinline, htexts⟩ := inline_leavesIn tag h
  have hflatten : ts.flatten = blockParts ns := by rw [← htexts, List.flatMap_def]
  have hsome : ∃ l ∈ leavesIn [] tag ns, isBlank l.text = false := by
    obtain ⟨c, hc, hspace⟩ := List.all_eq_false.mp hb
    rw [← htexts, List.mem_flatMap] at hc
    obtain ⟨l, hl, hc⟩ := hc
    exact ⟨l, hl, List.all_eq_false.mpr ⟨c, hc, hspace⟩⟩
  refine ⟨collect_paragraph h hb, ?_, fun hmark => ?_⟩
  · rw [collect_eq, length_collectLeaves]
    exact length_eq_one_iff hinline hsome
  · have hleaves : ∀ l ∈ leavesIn [] tag ns, l.Inline ∧ '<' ∉ l.text := fun l hl => by
      refine ⟨hinline l hl, fun hm => hmark ?_⟩
      rw [← htexts]
      exact List.mem_flatMap.mpr ⟨l, hl, hm⟩
    obtain ⟨hsingle, hsame⟩ := inner_iff hleaves (by simpa using hsome)
    rw [collect_paragraph h hb, collect_eq, length_collectLeaves, map_text_collectLeaves,
      unbroken_clean hmark, ← hflatten]
    refine ⟨hsingle, ?_⟩
    rw [List.reverse_eq_iff, List.reverse_singleton]
    exact hsame

/-- A sentence with a strong word in it. -/
theorem inline_run_iff_sentence :
    let ns : List Node :=
      [.text .plain " A ".toList, .element "b" [] [.text .plain "B".toList], .text .plain ", c".toList]
    isInlineIn ns = true ∧ isBlank (blockParts ns) = false ∧ '<' ∉ blockParts ns ∧
      (inner ((leavesIn [] "div" ns).map (·.text))).IsChain Meets ∧
      (collect [] [] (.element "div" [] ns)).map (·.text) =
        (collect [] [] (.element "div" [] [.element "p" [] ns])).map (·.text) := by
  intro ns
  have h : isInlineIn ns = true := by decide
  have hb : isBlank (blockParts ns) = false := by decide
  have hmark : '<' ∉ blockParts ns := by decide
  have hchain : (inner ((leavesIn [] "div" ns).map (·.text))).IsChain Meets := by decide
  exact ⟨h, hb, hmark, hchain, (((inline_run_iff "div" [] [] h hb).2.2 hmark).2).mpr hchain⟩

/-- A blank by itself between two elements splits the run. -/
theorem inline_run_split : ¬ ∀ ns : List Node, isInlineIn ns = true → isBlank (blockParts ns) = false →
    (collect [] [] (.element "div" [] ns)).map (·.text) =
      (collect [] [] (.element "div" [] [.element "p" [] ns])).map (·.text) := by
  intro h
  let ns : List Node := [.text .plain "A ".toList, .element "b" [] [.text .plain "B".toList], .text .plain " ".toList,
    .element "i" [] [.text .plain "C".toList]]
  exact absurd (h ns (by decide) (by decide)) (by decide)

end Run

end Excerpt.Body
