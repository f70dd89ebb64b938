import Excerpt.Proofs.Body.Recovered
import Excerpt.Proofs.Body.Exclusion

/-!
# Line breaks in the source of a page

A text of a page may be wrapped: its lines are broken where the writer of the page liked it. `Node.unwrap` puts a blank
for each line break of the texts, so in what is left of a tree the `br` elements alone break lines (`Unwraps` relates
the texts). The walk meets the same leaves there, but for the white space in them (`unwraps_leavesIn`).

The main statement `face_unwrap_iff` says on which pages wrapping does not show in the blocks: those where each leaf has
the same parts with and without it. Where no `br` elements are, it comes to this: each leaf, once trimmed, is a single
line of the source.
-/

namespace Excerpt

/-- The text with blanks for its line breaks. -/
def Text.unwrap (t : Text) : Text :=
  t.map fun c => if c = '\n' then ' ' else c

namespace Node

mutual

/-- The node with blanks for the line breaks of its texts. -/
def unwrap : Node → Node
  | .text kind s => .text kind (Text.unwrap s)
  | .element tag as ns => .element tag as (unwrapIn ns)
  | n => n

/-- The nodes with blanks for the line breaks of their texts. -/
def unwrapIn : List Node → List Node
  | [] => []
  | n :: ns => n.unwrap :: unwrapIn ns

end

end Node

/-- The second text has blanks for some of the line breaks of the first. -/
def Unwraps (t t' : Text) : Prop :=
  List.Forall₂ (fun c c' => c = c' ∨ c = '\n' ∧ c' = ' ') t t'

namespace Unwraps

variable {t t' u u' : Text}

theorem refl (t : Text) : Unwraps t t :=
  List.forall₂_same.mpr fun _ _ => .inl rfl

theorem append (h : Unwraps t t') (hu : Unwraps u u') : Unwraps (t ++ u) (t' ++ u') :=
  List.rel_append h hu

theorem unwrap : ∀ t : Text, Unwraps t t.unwrap
  | [] => .nil
  | c :: t => by
    refine .cons ?_ (unwrap t)
    by_cases hc : c = '\n'
    · exact .inr ⟨hc, if_pos hc⟩
    · exact .inl (if_neg hc).symm

/-- The texts differ in their white space only. -/
theorem bare (h : Unwraps t t') : Text.bare t = Text.bare t' := by
  induction h with
  | nil => rfl
  | @cons c c' t t' hc _ ih =>
    rcases hc with rfl | ⟨rfl, rfl⟩
    · exact Text.bare_cons_congr ih
    · rw [Text.bare_cons_of_space (by decide), Text.bare_cons_of_space (by decide), ih]

theorem isBlank (h : Unwraps t t') : Text.isBlank t = Text.isBlank t' := by
  rw [Bool.eq_iff_iff, ← Text.bare_eq_nil_iff, ← Text.bare_eq_nil_iff, h.bare]

/-- A character other than a blank is in the first text if it is in the second. -/
theorem mem {c : Char} (hc : c ≠ ' ') (h : Unwraps t t') (hmem : c ∈ t') : c ∈ t := by
  induction h with
  | nil => exact hmem
  | @cons d d' t t' hd _ ih =>
    rcases List.mem_cons.mp hmem with rfl | hmem
    · rcases hd with rfl | ⟨-, rfl⟩
      · exact List.mem_cons_self
      · exact (hc rfl).elim
    · exact List.mem_cons_of_mem _ (ih hmem)

/-- If no line break is left, all of them have been replaced. -/
theorem eq_unwrap (h : Unwraps t t') (hno : '\n' ∉ t') : t' = t.unwrap := by
  induction h with
  | nil => rfl
  | @cons c c' t t' hc _ ih =>
    rw [List.mem_cons, not_or] at hno
    rw [Text.unwrap, List.map_cons, ← Text.unwrap, ← ih hno.2]
    rcases hc with rfl | ⟨rfl, rfl⟩
    · rw [if_neg (Ne.symm hno.1)]
    · rfl

end Unwraps

namespace Text

theorem unwrap_of_not_mem {t : Text} (h : '\n' ∉ t) : t.unwrap = t :=
  (List.map_congr_left fun c hc => if_neg fun he : c = '\n' => h (he ▸ hc)).trans (List.map_id' t)

/-- Trimming and unwrapping may change places, if there is nothing to unwrap between the ends. -/
theorem trim_unwrap {t : Text} (h : '\n' ∉ trim t) : trim t.unwrap = trim t := by
  obtain ⟨a, b, ha, hb, ht⟩ := exists_trim t
  have hends : ∀ {a : Text}, isBlank a = true → isBlank a.unwrap = true := fun ha => (Unwraps.unwrap _).isBlank ▸ ha
  have hunwrap : t.unwrap = Text.unwrap a ++ (trim t ++ Text.unwrap b) := by
    rw [congrArg unwrap ht, unwrap, List.map_append, List.map_append, ← unwrap, ← unwrap, ← unwrap, unwrap_of_not_mem h]
  rw [hunwrap, trim_blank_append (hends ha), trim_append_blank (hends hb), trim_trim]

end Text

namespace Body

open Node (blockPart blockParts)

/-! ## Leaves of an unwrapped tree -/

theorem isElement_unwrap (n : Node) : n.unwrap.isElement = n.isElement := by
  cases n <;> rfl

theorem isStrongElement_unwrap (n : Node) : isStrongElement n.unwrap = isStrongElement n := by
  cases n <;> rfl

theorem isPassedOver_unwrap (n : Node) : isPassedOver n.unwrap = isPassedOver n := by
  cases n with
  | text kind s => exact ((Unwraps.unwrap s).isBlank).symm
  | _ => rfl

theorem isLeaf_unwrap (tag : String) (ns : List Node) : isLeaf tag (Node.unwrapIn ns) = isLeaf tag ns := by
  cases ns with
  | nil => rfl
  | cons n ns =>
    cases ns with
    | nil => rw [Node.unwrapIn, Node.unwrapIn, isLeaf, isLeaf, isElement_unwrap]
    | cons => rfl

theorem find?_unwrapIn (ns : List Node) : ((Node.unwrapIn ns).find? (!isPassedOver ·)).map isStrongElement =
    (ns.find? (!isPassedOver ·)).map isStrongElement := by
  induction ns with
  | nil => rfl
  | cons n ns ih =>
    rw [Node.unwrapIn, List.find?_cons, List.find?_cons, isPassedOver_unwrap]
    cases !isPassedOver n with
    | true => exact congrArg some (isStrongElement_unwrap n)
    | false => exact ih

theorem isStrong_unwrap (tag : String) (as : Attrs) (ns : List Node) :
    isStrong (.element tag as (Node.unwrapIn ns)) = isStrong (.element tag as ns) := by
  rw [isStrong_eq, isStrong_eq, find?_unwrapIn]

mutual

theorem unwraps_blockPart : ∀ n : Node, Unwraps n.blockPart n.unwrap.blockPart
  | .text _ s => Unwraps.unwrap s
  | .comment _ | .instruction _ | .doctype _ => Unwraps.refl _
  | .element tag as ns => by
    rw [Node.unwrap, blockPart, blockPart]
    exact (Unwraps.refl _).append (unwraps_blockParts ns)

theorem unwraps_blockParts : ∀ ns : List Node, Unwraps (blockParts ns) (blockParts (Node.unwrapIn ns))
  | [] => Unwraps.refl _
  | n :: ns => by
    rw [Node.unwrapIn, blockParts, blockParts]
    exact (unwraps_blockPart n).append (unwraps_blockParts ns)

end

/-- The leaves differ in that the second has blanks for some of the line breaks. -/
structure Leaf.Unwraps (l l' : Leaf) : Prop where
  tag : l.tag = l'.tag
  parentTag : l.parentTag = l'.parentTag
  strong : l.strong = l'.strong
  text : Excerpt.Unwraps l.text l'.text

theorem Leaf.Unwraps.alike {l l' : Leaf} (h : l.Unwraps l') : l.Alike l' :=
  ⟨h.tag, h.parentTag, h.strong, h.text.bare⟩

mutual

theorem unwraps_leavesOf (xs : List Exclude) (parentTag : String) : ∀ n : Node,
    List.Forall₂ Leaf.Unwraps (leavesOf xs parentTag n) (leavesOf xs parentTag n.unwrap)
  | .comment _ => .nil
  | .text _ s => .cons ⟨rfl, rfl, rfl, Unwraps.unwrap s⟩ .nil
  | .instruction s | .doctype s => .cons ⟨rfl, rfl, rfl, Unwraps.refl s⟩ .nil
  | .element tag as ns => by
    rw [Node.unwrap, leavesOf, leavesOf, Exclude.anyHolds_children xs tag as (Node.unwrapIn ns) ns, isLeaf_unwrap,
      isStrong_unwrap]
    split
    · exact .nil
    · split
      · exact .cons ⟨rfl, rfl, rfl, unwraps_blockParts ns⟩ .nil
      · exact unwraps_leavesIn xs tag ns

/-- The walk meets the same leaves in an unwrapped tree, but for their line breaks. -/
theorem unwraps_leavesIn (xs : List Exclude) (parentTag : String) : ∀ ns : List Node,
    List.Forall₂ Leaf.Unwraps (leavesIn xs parentTag ns) (leavesIn xs parentTag (Node.unwrapIn ns))
  | [] => .nil
  | n :: ns => by
    rw [Node.unwrapIn, leavesIn, leavesIn]
    exact List.rel_append (unwraps_leavesOf xs parentTag n) (unwraps_leavesIn xs parentTag ns)

end

/-! ## Leaves of one line -/

namespace Leaf

variable {l l' : Leaf}

theorem lines_congr (htag : l.tag = l'.tag) (htext : Text.trim l.text = Text.trim l'.text) : l.lines = l'.lines := by
  rw [lines, lines, htag, htext]

theorem partsFrom_congr (htag : l.tag = l'.tag) : ∀ (before : Option Text) (lines : List Text),
    l.partsFrom before lines = l'.partsFrom before lines
  | _, [] => rfl
  | before, line :: rest => by
    have hjoins : joinsLast before (l.block true true line) = joinsLast before (l'.block true true line) := by
      have hkind : (l.block true true line).kind = (l'.block true true line).kind := by
        simp only [block, Block.of, htag]
        cases Text.dropPrefix? lineBreak line <;> rfl
      rw [joinsLast.eq_def, joinsLast.eq_def, afterBreak_block, afterBreak_block, hkind]
    rw [partsFrom, partsFrom, partsFrom_congr htag, hjoins]

/-- A leaf without line breaks has one part at most. -/
theorem length_parts_le (h : '\n' ∉ l.text) : l.parts.length ≤ 1 := by
  have hpieces : l.pieces = [Text.trim l.text] := Text.splitOn_of_not_mem fun hm => h (Text.mem_of_mem_trim hm)
  have hlines : l.lines.length = 1 := by
    rw [lines_eq, hpieces]
    split <;> rfl
  rw [parts, length_partsFrom, ← hlines]
  exact List.length_filter_le _ _

/-- A leaf with line breaks between its ends has several parts. -/
theorem one_lt_length_parts (h : '\n' ∈ Text.trim l.text) : 1 < l.parts.length := by
  have hb : Text.isBlank l.text = false := by
    refine Bool.eq_false_iff.mpr fun hblank => ?_
    rw [Text.trim_eq_nil_iff.mpr hblank] at h
    cases h
  obtain ⟨first, rest, hlines, hfirst⟩ := l.exists_first_line hb
  have htidy : Tidy (first :: rest) := hlines ▸ l.tidy_lines hb
  have hlength : l.lines.length = l.pieces.length := by
    rw [lines_eq, List.length_map]
    split
    · cases l.pieces <;> simp [markedLines]
    · rfl
  have hrest : rest ≠ [] := by
    rintro rfl
    rw [hlines] at hlength
    obtain ⟨piece, hpiece⟩ := List.length_eq_one_iff.mp hlength.symm
    rw [← Text.join_splitOn '\n' (Text.trim l.text), ← pieces, hpiece] at h
    exact Text.not_mem_of_mem_splitOn (t := Text.trim l.text) (by rw [← pieces, hpiece]; exact List.mem_cons_self) h
  obtain ⟨line, hline, hne⟩ := htidy.tail.exists_ne_nil hrest
  rw [parts, length_partsFrom, hlines, List.filter_cons_of_pos (by simpa using hfirst), List.length_cons]
  have hpos : 0 < (rest.filter (!·.isEmpty)).length :=
    List.length_pos_of_mem (List.mem_filter.mpr ⟨hline, by simpa using hne⟩)
  omega

/-- Where nothing but wrapping breaks lines, a leaf has the same parts without it just if it is a single line. -/
theorem Unwraps.parts_eq_iff (h : l.Unwraps l') (hl' : '\n' ∉ l'.text) :
    l.parts = l'.parts ↔ '\n' ∉ Text.trim l.text := by
  refine ⟨fun he hmem => ?_, fun hno => ?_⟩
  · have hone := one_lt_length_parts hmem
    have hle := length_parts_le hl'
    rw [he] at hone
    omega
  · have htrim : Text.trim l.text = Text.trim l'.text := by
      rw [h.text.eq_unwrap hl', Text.trim_unwrap hno]
    rw [parts, parts, lines_congr h.tag htrim, partsFrom_congr h.tag]

end Leaf

section Leaves

variable {ls ls' : List Leaf}

theorem alike_of_unwraps (h : List.Forall₂ Leaf.Unwraps ls ls') (he : ls'.map Leaf.parts = ls.map Leaf.parts) :
    List.Forall₂ (fun l l' => l.Alike l' ∧ l.parts = l'.parts) ls ls' := by
  induction h with
  | nil => exact .nil
  | cons hl _ ih =>
    obtain ⟨hparts, hrest⟩ := List.cons.inj he
    exact .cons ⟨hl.alike, hparts.symm⟩ (ih hrest)

theorem map_parts_eq_iff (h : List.Forall₂ Leaf.Unwraps ls ls') (hno : ∀ l ∈ ls', '\n' ∉ l.text) :
    ls'.map Leaf.parts = ls.map Leaf.parts ↔ ∀ l ∈ ls, '\n' ∉ Text.trim l.text := by
  induction h with
  | nil => simp
  | cons hl _ ih =>
    rw [List.forall_mem_cons] at hno ⊢
    rw [List.map_cons, List.map_cons, List.cons_eq_cons, ih hno.2, eq_comm, hl.parts_eq_iff hno.1]

theorem mark_of_unwraps (h : List.Forall₂ Leaf.Unwraps ls ls') (hmark : ∀ l ∈ ls, '<' ∉ l.text) :
    ∀ l ∈ ls', '<' ∉ l.text := by
  induction h with
  | nil => exact hmark
  | cons hl _ ih =>
    rw [List.forall_mem_cons] at hmark ⊢
    exact ⟨fun hm => hmark.1 (hl.text.mem (by decide) hm), ih hmark.2⟩

end Leaves

/-! ## Wrapped pages -/

variable {xs : List Exclude} {blocks : List Block} {tag : String} {as : Attrs} {ns : List Node}

theorem face_unwrap_of_parts
    (h : (leavesIn xs tag (Node.unwrapIn ns)).map Leaf.parts = (leavesIn xs tag ns).map Leaf.parts) :
    (collect xs blocks (Node.unwrap (.element tag as ns))).map Block.face =
      (collect xs blocks (.element tag as ns)).map Block.face := by
  rw [Node.unwrap, collect_eq, collect_eq, map_face_collectLeaves, map_face_collectLeaves, sealedLeaves, sealedLeaves,
    putLeaves_congr (alike_of_unwraps (unwraps_leavesIn xs tag ns) h)]

theorem parts_of_face_unwrap (hmark : ∀ l ∈ leavesIn xs tag ns, '<' ∉ l.text)
    (h : (collect xs blocks (Node.unwrap (.element tag as ns))).map Block.face =
      (collect xs blocks (.element tag as ns)).map Block.face) :
    (leavesIn xs tag (Node.unwrapIn ns)).map Leaf.parts = (leavesIn xs tag ns).map Leaf.parts := by
  have hunwraps := unwraps_leavesIn xs tag ns
  have htexts := congrArg (List.map (·.2.2.2)) h
  rw [List.map_map, List.map_map, Node.unwrap, collect_eq, collect_eq] at htexts
  have htexts : (collectLeaves blocks (leavesIn xs tag (Node.unwrapIn ns))).map (·.text) =
    (collectLeaves blocks (leavesIn xs tag ns)).map (·.text) := htexts
  rw [map_text_collectLeaves, map_text_collectLeaves, List.reverse_inj] at htexts
  exact (parts_of_texts (hunwraps.imp fun _ _ hl => hl.alike) hmark (mark_of_unwraps hunwraps hmark) htexts.symm).symm

/-- **When wrapping does not show.** Blanks in place of the line breaks of the texts leave the blocks as they are, in
number, tags, kinds, strength and texts, if each leaf has the same parts without them. In a tree without `<` they do so
only then; and if there all line breaks of the leaves come from texts, just if no leaf has one between its ends. -/
theorem face_unwrap_iff (xs : List Exclude) (blocks : List Block) (tag : String) (as : Attrs) (ns : List Node) :
    ((leavesIn xs tag (Node.unwrapIn ns)).map Leaf.parts = (leavesIn xs tag ns).map Leaf.parts →
      (collect xs blocks (Node.unwrap (.element tag as ns))).map Block.face =
        (collect xs blocks (.element tag as ns)).map Block.face) ∧
      ((∀ t ∈ (Node.element tag as ns).stringsBelow, '<' ∉ t) →
        ((collect xs blocks (Node.unwrap (.element tag as ns))).map Block.face =
            (collect xs blocks (.element tag as ns)).map Block.face ↔
          (leavesIn xs tag (Node.unwrapIn ns)).map Leaf.parts = (leavesIn xs tag ns).map Leaf.parts) ∧
        ((∀ l ∈ leavesIn xs tag (Node.unwrapIn ns), '\n' ∉ l.text) →
          ((collect xs blocks (Node.unwrap (.element tag as ns))).map Block.face =
              (collect xs blocks (.element tag as ns)).map Block.face ↔
            ∀ l ∈ leavesIn xs tag ns, '\n' ∉ Text.trim l.text))) := by
  refine ⟨face_unwrap_of_parts, fun hplain => ?_⟩
  have hmark : ∀ l ∈ leavesIn xs tag ns, '<' ∉ l.text := fun l hl hm => by
    rcases mem_leavesIn hl hm with h | ⟨t, ht, hm⟩
    · cases h
    · exact hplain t ht hm
  have hparts : (collect xs blocks (Node.unwrap (.element tag as ns))).map Block.face =
      (collect xs blocks (.element tag as ns)).map Block.face ↔
        (leavesIn xs tag (Node.unwrapIn ns)).map Leaf.parts = (leavesIn xs tag ns).map Leaf.parts :=
    ⟨parts_of_face_unwrap hmark, face_unwrap_of_parts⟩
  exact ⟨hparts, fun hno => hparts.trans (map_parts_eq_iff (unwraps_leavesIn xs tag ns) hno)⟩

/-- A page wrapped between its blocks and at their ends. -/
theorem face_unwrap_iff_atEnds :
    let ns : List Node := [.element "h2" [] [.text .plain "Release notes\n".toList], .text .plain "\n".toList,
      .element "p" [] [.text .plain "\n  One line".toList]]
    (∀ t ∈ (Node.element "div" [] ns).stringsBelow, '<' ∉ t) ∧
      (∀ l ∈ leavesIn [] "div" (Node.unwrapIn ns), '\n' ∉ l.text) ∧
      (∀ l ∈ leavesIn [] "div" ns, '\n' ∉ Text.trim l.text) ∧
      (collect [] [] (Node.unwrap (.element "div" [] ns))).map Block.face =
        (collect [] [] (.element "div" [] ns)).map Block.face := by
  intro ns
  have hplain : ∀ t ∈ (Node.element "div" [] ns).stringsBelow, '<' ∉ t := by decide
  have hno : ∀ l ∈ leavesIn [] "div" (Node.unwrapIn ns), '\n' ∉ l.text := by decide
  have htrim : ∀ l ∈ leavesIn [] "div" ns, '\n' ∉ Text.trim l.text := by decide
  exact ⟨hplain, hno, htrim, (((face_unwrap_iff [] [] "div" [] ns).2 hplain).2 hno).mpr htrim⟩

/-- A wrapped heading is two headings, and a wrapped paragraph has a line break. -/
theorem face_unwrap_ne : ¬ ∀ ns : List Node, (∀ n ∈ (Node.element "div" [] ns).descendants, n.hasTag "pre" = false) →
    (collect [] [] (Node.unwrap (.element "div" [] ns))).map Block.face =
      (collect [] [] (.element "div" [] ns)).map Block.face := by
  intro h
  let ns : List Node := [.element "h2" [] [.text .plain "Release\nnotes".toList],
    .element "p" [] [.text .plain "One line\nwrapped".toList]]
  exact absurd (h ns (by simp [ns, Node.descendants, Node.elementsIn, Node.elements, Node.children, Node.hasTag]))
    (by decide)

end Body

end Excerpt
