import Excerpt.Proofs.Body.Paragraph

/-!
# Blocks of simple markup

A paragraph or heading that holds texts and line breaks only (`Node.isSimple`) is a leaf, and an ordinary one
(`leavesIn_of_isSimple`, `Leaf.ordinary_of_isSimple`). So the blocks of such nodes are those of their leaves, and the
same holds of paragraphs and headings that are read from markup (`settled_collect_ofMarkup`).
-/

namespace Excerpt

open Token (IsPlain blockTags)

namespace Node

/-- Whether a node is a text without the signs of markup, or a `br` element. -/
def isRun : Node → Bool
  | .text _ s => !s.contains '<' && !s.contains '&'
  | .element tag _ ns => tag == "br" && ns.isEmpty
  | _ => false

/-- Whether a node is a paragraph or heading that holds such nodes only. -/
def isSimple : Node → Bool
  | .element tag _ ns => blockTags.contains tag && ns.all isRun
  | _ => false

/-- A simple node is a paragraph or a heading with nothing but a run in it. -/
theorem exists_of_isSimple {n : Node} (h : n.isSimple = true) :
    ∃ tag as ns, n = .element tag as ns ∧ tag ∈ blockTags ∧ ∀ m ∈ ns, m.isRun = true := by
  cases n with
  | element tag as ns =>
    rw [isSimple, Bool.and_eq_true, List.contains_iff_mem, List.all_eq_true] at h
    exact ⟨tag, as, ns, rfl, h⟩
  | _ => cases h

theorem plain_blockPart {n : Node} (h : n.isRun = true) : IsPlain n.blockPart := by
  cases n with
  | text k s => simpa [isRun, IsPlain, blockPart] using h
  | element tag as ns =>
    rw [isRun, Bool.and_eq_true, beq_iff_eq, List.isEmpty_iff] at h
    rw [h.1, h.2]
    change IsPlain ['\n']
    exact ⟨by decide, by decide⟩
  | _ => cases h

theorem plain_append {a b : Text} (ha : IsPlain a) (hb : IsPlain b) : IsPlain (a ++ b) := by
  simp only [IsPlain, List.mem_append, not_or] at ha hb ⊢
  exact ⟨⟨ha.1, hb.1⟩, ha.2, hb.2⟩

/-- What is read of a run is plain text. -/
theorem plain_blockParts : ∀ {ns : List Node}, (∀ n ∈ ns, n.isRun = true) → IsPlain (blockParts ns)
  | [], _ => ⟨List.not_mem_nil, List.not_mem_nil⟩
  | n :: ns, h => by
    rw [List.forall_mem_cons] at h
    exact plain_append (plain_blockPart h.1) (plain_blockParts h.2)

end Node

namespace Body

open Text (isBlank)

theorem isLeafTag_of_mem {tag : String} (h : tag ∈ blockTags) : isLeafTag tag = true := by
  revert tag
  decide

/-- Paragraphs and headings are leaves, whatever is in them. -/
theorem isLeaf_of_mem {tag : String} (h : tag ∈ blockTags) : ∀ ns : List Node, isLeaf tag ns = true
  | [] => rfl
  | [n] => by rw [isLeaf, isLeafTag_of_mem h, Bool.or_true]
  | _ :: _ :: _ => isLeafTag_of_mem h

/-- There is no strong text in a run. -/
theorem isStrong_of_isRun {tag : String} (h : tag ∈ blockTags) (as : Attrs) {ns : List Node}
    (hns : ∀ n ∈ ns, n.isRun = true) : isStrong (.element tag as ns) = false := by
  have htag : isStrongTag tag = false := by
    revert tag
    decide
  rw [isStrong, htag, Bool.false_or, Bool.and_eq_false_iff]
  refine .inr ?_
  cases hf : ns.find? (!isPassedOver ·) with
  | none => rfl
  | some n =>
    have hrun := hns n (List.mem_of_find?_eq_some hf)
    cases n with
    | element tag as ns =>
      rw [Node.isRun, Bool.and_eq_true, beq_iff_eq] at hrun
      rw [hrun.1]
      rfl
    | _ => rfl

/-- The leaf that a paragraph or heading is. -/
def leafOf (parentTag : String) (n : Node) : Leaf :=
  ⟨n.tag?.getD "", parentTag, n.blockText, false⟩

/-- A simple node is one leaf. -/
theorem leavesOf_of_isSimple {n : Node} (h : n.isSimple = true) (parentTag : String) :
    leavesOf [] parentTag n = [leafOf parentTag n] := by
  obtain ⟨tag, as, ns, rfl, htag, hns⟩ := Node.exists_of_isSimple h
  have hx : Exclude.anyHolds [] (.element tag as ns) = false := rfl
  rw [leavesOf, hx, isLeaf_of_mem htag, isStrong_of_isRun htag as hns]
  rfl

theorem leavesIn_of_isSimple (parentTag : String) : ∀ {ns : List Node}, (∀ n ∈ ns, n.isSimple = true) →
    leavesIn [] parentTag ns = ns.map (leafOf parentTag)
  | [], _ => rfl
  | n :: ns, h => by
    rw [List.forall_mem_cons] at h
    rw [leavesIn, leavesOf_of_isSimple h.1, leavesIn_of_isSimple parentTag h.2]
    rfl

/-- The text of a paragraph or heading is plain. -/
theorem plain_of_isSimple {n : Node} (h : n.isSimple = true) : IsPlain n.blockText := by
  obtain ⟨tag, as, ns, rfl, -, hns⟩ := Node.exists_of_isSimple h
  exact Node.plain_blockParts hns

/-- The leaf of a simple node has plain text and is not strong. -/
theorem Leaf.ordinary_of_isSimple {n : Node} (h : n.isSimple = true) (parentTag : String) :
    (leafOf parentTag n).Ordinary := by
  obtain ⟨tag, as, ns, rfl, htag, -⟩ := Node.exists_of_isSimple h
  exact ⟨rfl, (plain_of_isSimple h).1, .inl htag⟩

/-- **The blocks of paragraphs and headings are those of their leaves.** -/
theorem settled_collect_of_isSimple {n : Node} (h : ∀ c ∈ n.children, c.isSimple = true) :
    (collect [] [] n).map Block.settled = n.children.flatMap fun c => (leafOf (n.tag?.getD "") c).blocks := by
  have hleaves := leavesIn_of_isSimple (n.tag?.getD "") h
  rw [settled_collect, hleaves, List.flatMap_map]
  rw [hleaves]
  intro l hl
  obtain ⟨c, hc, rfl⟩ := List.mem_map.mp hl
  exact Leaf.ordinary_of_isSimple (h c hc) _

/-! ## Markup and plain text -/

theorem length_upTo_lt_iff {ending : Text} (he : ending ≠ []) : ∀ {t : Text},
    (Token.upTo ending t).1.length < t.length ↔ ending <:+: t
  | [] => by simp [Token.upTo, he]
  | c :: t => by
    rw [Token.upTo, List.infix_cons_iff]
    cases hd : Text.dropPrefix? ending (c :: t) with
    | some r =>
      have hprefix : ending <+: c :: t := ⟨r, (Text.dropPrefix?_eq_some_iff.mp hd).symm⟩
      exact iff_of_true (Nat.succ_pos _) (.inl hprefix)
    | none =>
      have hnot : ¬ ending <+: c :: t := by
        rintro ⟨r, hr⟩
        rw [Text.dropPrefix?_eq_some_iff.mpr hr.symm] at hd
        cases hd
      rw [or_iff_right hnot, ← length_upTo_lt_iff he]
      exact Nat.succ_lt_succ_iff

/-- A text with a paragraph in markup is read as it is. -/
theorem ofMarkup_of_marked {t : Text} (h : ['<', 'p'] <:+: t) :
    ofMarkup t = collect [] [] (Node.ofMarkup t).bodyOf := by
  rw [ofMarkup, if_pos ((length_upTo_lt_iff (by decide)).mpr h)]

/-- Another text is cut into paragraphs first. -/
theorem ofMarkup_of_unmarked {t : Text} (h : ¬ ['<', 'p'] <:+: t) :
    ofMarkup t = collect [] [] (Node.ofMarkup (markupOfPlain t)).bodyOf := by
  rw [ofMarkup, if_neg (mt (length_upTo_lt_iff (by decide)).mp h)]

/-! ## Markup read back -/

theorem leavesIn_append (parentTag : String) (ms ns : List Node) :
    leavesIn [] parentTag (ns ++ ms) = leavesIn [] parentTag ns ++ leavesIn [] parentTag ms := by
  induction ns with
  | nil => rfl
  | cons n ns ih => rw [List.cons_append, leavesIn, leavesIn, ih, List.append_assoc]

theorem isSpace_of_isBlank {c : Char} (h : Token.isBlank c = true) : Text.isSpace c = true := by
  simp only [Token.isBlank, Bool.or_eq_true, beq_iff_eq] at h
  rcases h with (((rfl | rfl) | rfl) | rfl) | rfl <;> rfl

/-- A text that is not blank is read as it stands. -/
theorem kept_of_isBlank {s : Text} (h : IsPlain s) (hb : isBlank s = true → s = [] ∨ s = ['\n']) : Written.Kept s :=
  ⟨h, fun hall => hb (List.all_eq_true.mpr fun c hc => isSpace_of_isBlank (List.all_eq_true.mp hall c hc))⟩

/-- The leaf of an element that is read from markup. -/
def leafOfWritten (e : Written) : Leaf :=
  ⟨e.tag, "body", Text.join ['\n'] (e.first :: e.more), false⟩

theorem isRun_textNodes {s : Text} (h : IsPlain s) : ∀ n ∈ Written.textNodes s, n.isRun = true := by
  rw [Written.textNodes]
  split
  · simp
  · simpa [Node.isRun, IsPlain] using h

theorem isRun_pieceNodes : ∀ {s : Text} {us : List Text}, (∀ v ∈ s :: us, IsPlain v) →
    ∀ n ∈ Written.pieceNodes s us, n.isRun = true
  | s, [], h => isRun_textNodes (h s List.mem_cons_self)
  | s, u :: us, h => by
    rw [List.forall_mem_cons] at h
    rw [Written.pieceNodes, List.forall_mem_append, List.forall_mem_cons]
    exact ⟨isRun_textNodes h.1, rfl, isRun_pieceNodes h.2⟩

theorem blockParts_append (ms ns : List Node) :
    Node.blockParts (ns ++ ms) = Node.blockParts ns ++ Node.blockParts ms := by
  induction ns with
  | nil => rfl
  | cons n ns ih => rw [List.cons_append, Node.blockParts, Node.blockParts, ih, List.append_assoc]

theorem blockParts_textNodes (s : Text) : Node.blockParts (Written.textNodes s) = s := by
  cases s with
  | nil => rfl
  | cons c s => exact List.append_nil _

/-- The line breaks between the pieces become line breaks in the text. -/
theorem blockParts_pieceNodes : ∀ (s : Text) (us : List Text),
    Node.blockParts (Written.pieceNodes s us) = Text.join ['\n'] (s :: us)
  | s, [] => blockParts_textNodes s
  | s, u :: us => by
    have hbreak : Node.blockPart (.element "br" [] []) = ['\n'] := rfl
    rw [Written.pieceNodes, blockParts_append, blockParts_textNodes, Node.blockParts, hbreak,
      blockParts_pieceNodes u us, Text.join_cons_cons, List.append_assoc]

theorem isSimple_node {e : Written} (h : e.Lawful) : e.node.isSimple = true := by
  rw [Written.node, Node.isSimple, Bool.and_eq_true, List.contains_iff_mem, List.all_eq_true]
  exact ⟨h.tag_mem, isRun_pieceNodes fun v hv => (h.pieces v hv).plain⟩

/-- A written element is read as the leaf with its text. -/
theorem leavesOf_node {e : Written} (h : e.Lawful) : leavesOf [] "body" e.node = [leafOfWritten e] := by
  rw [leavesOf_of_isSimple (isSimple_node h), leafOf, leafOfWritten, Written.node, Node.blockText,
    blockParts_pieceNodes]
  rfl

theorem ordinary_leafOfWritten {e : Written} (h : e.Lawful) : (leafOfWritten e).Ordinary := by
  have hleaf := leavesOf_of_isSimple (isSimple_node h) "body"
  rw [leavesOf_node h, List.singleton_inj] at hleaf
  exact hleaf ▸ Leaf.ordinary_of_isSimple (isSimple_node h) "body"

/-- The leaf of the text in front of an element, if there is any. -/
def frontLeaves (e : Written) : List Leaf :=
  if e.front.isEmpty then [] else [⟨textTag, "body", e.front, false⟩]

theorem leavesIn_textNodes (e : Written) : leavesIn [] "body" (Written.textNodes e.front) = frontLeaves e := by
  rw [Written.textNodes, frontLeaves]
  split <;> rfl

/-- The leaves of written elements, one after another, with those of the text in front of each. -/
theorem leavesIn_nodes : ∀ {es : List Written}, (∀ e ∈ es, e.Lawful) →
    leavesIn [] "body" (es.flatMap Written.nodes) = es.flatMap fun e => frontLeaves e ++ [leafOfWritten e]
  | [], _ => rfl
  | e :: es, h => by
    rw [List.forall_mem_cons] at h
    rw [List.flatMap_cons, leavesIn_append, leavesIn_nodes h.2, Written.nodes, leavesIn_append, leavesIn_textNodes,
      leavesIn, leavesOf_node h.1, List.flatMap_cons]
    rfl

/-- **The blocks of paragraphs and headings that are read from markup**, with nothing but white space between them. -/
theorem settled_collect_ofMarkup {es : List Written} (hne : es ≠ []) (h : ∀ e ∈ es, e.Lawful)
    (hfront : ∀ e ∈ es, isBlank e.front = true) :
    (collect [] [] (Node.ofMarkup (es.flatMap Written.text)).bodyOf).map Block.settled =
      es.flatMap fun e => (leafOfWritten e).blocks := by
  have hfronts : ∀ e ∈ es, ∀ l ∈ frontLeaves e, l.Ordinary ∧ isBlank l.text = true := by
    intro e he l hl
    rw [frontLeaves] at hl
    split at hl
    · cases hl
    · rw [List.mem_singleton.mp hl]
      exact ⟨⟨rfl, (h e he).front.plain.1, .inr (hfront e he)⟩, hfront e he⟩
  have hleaves : leavesIn [] ((Node.element "body" [] (es.flatMap Written.nodes)).tag?.getD "")
      (Node.element "body" [] (es.flatMap Written.nodes)).children =
        es.flatMap fun e => frontLeaves e ++ [leafOfWritten e] := leavesIn_nodes h
  rw [Written.bodyOf_ofMarkup hne h, settled_collect, hleaves, List.flatMap_assoc]
  · refine List.flatMap_congr fun e he => ?_
    rw [List.flatMap_append, List.flatMap_singleton,
      List.flatMap_eq_nil_iff.mpr fun l hl => Leaf.blocks_of_isBlank (hfronts e he l hl).2, List.nil_append]
  · rw [hleaves]
    intro l hl
    obtain ⟨e, he, hl⟩ := List.mem_flatMap.mp hl
    rcases List.mem_append.mp hl with hl | hl
    · exact (hfronts e he l hl).1
    · exact List.mem_singleton.mp hl ▸ ordinary_leafOfWritten (h e he)

end Body

end Excerpt
