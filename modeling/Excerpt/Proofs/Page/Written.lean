import Excerpt.Page.Tree
import Excerpt.Page.Content
import Excerpt.Proofs.Text.Bare
import Mathlib.Data.List.Basic
import Mathlib.Data.List.TakeDrop

/-!
# Simple markup read back

A `Written` is a paragraph or heading as it is written in simple markup: what stands in front of it, its tag, and the
pieces of its text with line breaks between them. The tokens of such markup are its tags and texts (`scanWith_pairs`),
and the tree grown from them has an element for each paragraph and heading (`foldl_step_elements`). So the body of the
page that the markup is holds the elements as they are written (`bodyOf_ofMarkup`).
-/

namespace Excerpt

/-! ## Plain tokens -/

namespace Token

/-- The tags of paragraphs and headings. -/
def blockTags : List String :=
  ["p", "h1", "h2", "h3", "h4", "h5", "h6"]

/-- The tags of simple markup. -/
def plainTags : List String :=
  "html" :: "body" :: "br" :: blockTags

/-- The tag that opens an element. -/
def opening (tag : String) : Text :=
  '<' :: tag.toList ++ ['>']

/-- The tag that closes an element. -/
def closing (tag : String) : Text :=
  '<' :: '/' :: tag.toList ++ ['>']

theorem scanWith_opening {tag : String} (h : tag ∈ plainTags) (n : Nat) (r : Text) :
    scanWith (n + 1) (opening tag ++ r) = .opens tag [] false :: scanWith n r := by
  simp only [plainTags, blockTags, List.mem_cons, List.not_mem_nil, or_false] at h
  rcases h with rfl | rfl | rfl | rfl | rfl | rfl | rfl | rfl | rfl | rfl <;> rfl

theorem scanWith_closing {tag : String} (h : tag ∈ plainTags) (n : Nat) (r : Text) :
    scanWith (n + 1) (closing tag ++ r) = .closes tag :: scanWith n r := by
  simp only [plainTags, blockTags, List.mem_cons, List.not_mem_nil, or_false] at h
  rcases h with rfl | rfl | rfl | rfl | rfl | rfl | rfl | rfl | rfl | rfl <;> rfl

/-- A text without the signs that begin tags and references. -/
def IsPlain (s : Text) : Prop :=
  '<' ∉ s ∧ '&' ∉ s

theorem resolveWith_eq_self : ∀ {n : Nat} {s : Text}, '&' ∉ s → s.length ≤ n → resolveWith n s = s
  | 0, [], _, _ => rfl
  | n + 1, [], _, _ => rfl
  | n + 1, c :: s, h, hn => by
    rw [List.mem_cons, not_or] at h
    rw [resolveWith, resolveWith_eq_self h.2 (Nat.le_of_succ_le_succ hn)]
    exact fun he => h.1 he.symm

theorem scanWith_text {s r : Text} (hs : IsPlain s) (hne : s ≠ []) (n : Nat) :
    scanWith (n + 1) (s ++ '<' :: r) = .text s :: scanWith n ('<' :: r) := by
  obtain ⟨c, s, rfl⟩ := List.exists_cons_of_ne_nil hne
  obtain ⟨hl, ha⟩ := hs
  rw [List.mem_cons, not_or] at hl
  have hspan : (s ++ '<' :: r).span (· != '<') = (s, '<' :: r) := by
    have hall : ∀ d ∈ s, (d != '<') = true := fun d hd => by
      rw [bne_iff_ne]
      rintro rfl
      exact hl.2 hd
    rw [List.span_eq_takeWhile_dropWhile, List.takeWhile_append_of_pos hall, List.dropWhile_append_of_pos hall,
      List.takeWhile_cons_of_neg (by decide), List.dropWhile_cons_of_neg (by decide), List.append_nil]
  rw [List.cons_append, scanWith, hspan]
  · change Token.text (resolveWith _ (c :: s)) :: _ = _
    rw [resolveWith_eq_self ha (Nat.le_refl _)]
  all_goals
    intros
    exact hl.1 (by assumption : c = '<').symm

/-! ### Texts and tags in turn -/

/-- A tag of simple markup. -/
inductive Tag where
  | opens (tag : String)
  | closes (tag : String)

/-- The name of the tag. -/
def Tag.name : Tag → String
  | opens tag | closes tag => tag

/-- The tag as it is written. -/
def Tag.text : Tag → Text
  | opens tag => opening tag
  | closes tag => closing tag

/-- The token that the tag is. -/
def Tag.token : Tag → Token
  | opens tag => .opens tag [] false
  | closes tag => .closes tag

/-- A text and the tag behind it as they are written. -/
def pairText (p : Text × Tag) : Text :=
  p.1 ++ p.2.text

/-- The tokens of a text and the tag behind it. -/
def pairTokens (p : Text × Tag) : List Token :=
  (if p.1.isEmpty then [] else [.text p.1]) ++ [p.2.token]

theorem scanWith_tag {t : Tag} (h : t.name ∈ plainTags) (n : Nat) (r : Text) :
    scanWith (n + 1) (t.text ++ r) = t.token :: scanWith n r := by
  cases t with
  | opens tag => exact scanWith_opening h n r
  | closes tag => exact scanWith_closing h n r

theorem Tag.exists_text (t : Tag) : ∃ r, t.text = '<' :: r := by
  cases t with
  | opens tag => exact ⟨_, rfl⟩
  | closes tag => exact ⟨_, rfl⟩

/-- Texts and tags in turn are read as such. A step of fuel for each character is more than is needed. -/
theorem scanWith_pairs : ∀ {ps : List (Text × Tag)} {n : Nat}, (∀ p ∈ ps, IsPlain p.1 ∧ p.2.name ∈ plainTags) →
    (ps.flatMap pairText).length ≤ n → scanWith n (ps.flatMap pairText) = ps.flatMap pairTokens
  | [], 0, _, _ | [], n + 1, _, _ => rfl
  | (s, t) :: ps, n, h, hn => by
    rw [List.forall_mem_cons] at h
    obtain ⟨r, hr⟩ := t.exists_text
    have hlen : s.length + (r.length + 1) + (ps.flatMap pairText).length ≤ n := by
      rwa [List.flatMap_cons, List.length_append, pairText, List.length_append, hr, List.length_cons] at hn
    rw [List.flatMap_cons, List.flatMap_cons, pairText, pairTokens, List.append_assoc]
    cases s with
    | nil =>
      obtain ⟨m, rfl⟩ : ∃ m, n = m + 1 := ⟨n - 1, by omega⟩
      rw [List.nil_append, scanWith_tag h.1.2, scanWith_pairs h.2 (by omega)]
      rfl
    | cons c s =>
      rw [List.length_cons] at hlen
      obtain ⟨m, rfl⟩ : ∃ m, n = m + 2 := ⟨n - 2, by omega⟩
      rw [hr, List.cons_append (a := '<'), scanWith_text h.1.1 (List.cons_ne_nil c s), ← List.cons_append, ← hr,
        scanWith_tag h.1.2, scanWith_pairs h.2 (by omega)]
      rfl

theorem scan_pairs {ps : List (Text × Tag)} (h : ∀ p ∈ ps, IsPlain p.1 ∧ p.2.name ∈ plainTags) :
    scan (ps.flatMap pairText) = ps.flatMap pairTokens :=
  scanWith_pairs h (Nat.le_refl _)

end Token

open Token (blockTags plainTags IsPlain Tag pairText pairTokens)

/-- A paragraph or heading in simple markup: the text in front of it, its tag, and the pieces of its text, with a line
break between each two. -/
structure Written where
  front : Text
  tag : String
  first : Text
  more : List Text

namespace Written

/-- The element as it is written, with the text in front. -/
def text (e : Written) : Text :=
  e.front ++ Token.opening e.tag ++ Text.join (Token.opening "br") (e.first :: e.more) ++ Token.closing e.tag

/-- Pieces of text with the tag behind each of them. -/
def piecePairs (tag : String) : Text → List Text → List (Text × Tag)
  | s, [] => [(s, .closes tag)]
  | s, u :: us => (s, .opens "br") :: piecePairs tag u us

/-- The texts and tags of the element. -/
def pairs (e : Written) : List (Text × Tag) :=
  (e.front, .opens e.tag) :: piecePairs e.tag e.first e.more

theorem piecePairs_text (tag : String) : ∀ (s : Text) (us : List Text),
    (piecePairs tag s us).flatMap pairText = Text.join (Token.opening "br") (s :: us) ++ Token.closing tag
  | s, [] => by rw [piecePairs, List.flatMap_singleton, Text.join]; rfl
  | s, u :: us => by
    have hjoin : Text.join (Token.opening "br") (s :: u :: us) = s ++ Token.opening "br" ++ Text.join _ (u :: us) := rfl
    rw [piecePairs, List.flatMap_cons, piecePairs_text tag u us, hjoin, pairText]
    simp [Tag.text]

theorem pairs_text (e : Written) : e.pairs.flatMap pairText = e.text := by
  rw [pairs, List.flatMap_cons, piecePairs_text, text, pairText]
  simp [Token.Tag.text]

/-! ### Nodes -/

/-- The node for a text, none for the empty one. -/
def textNodes (s : Text) : List Node :=
  if s.isEmpty then [] else [.text .plain s]

/-- The nodes of the pieces of a text. -/
def pieceNodes : Text → List Text → List Node
  | s, [] => textNodes s
  | s, u :: us => textNodes s ++ .element "br" [] [] :: pieceNodes u us

/-- The element as a node. -/
def node (e : Written) : Node :=
  .element e.tag [] (pieceNodes e.first e.more)

/-- The nodes of the element and of the text in front. -/
def nodes (e : Written) : List Node :=
  textNodes e.front ++ [e.node]

/-- A text that is read as it stands: plain, and if it is of white space only, empty or a line break. -/
structure Kept (s : Text) : Prop where
  plain : IsPlain s
  settled : s.all Token.isBlank = true → s = [] ∨ s = ['\n']

/-- An element that is read as it stands. -/
structure Lawful (e : Written) : Prop where
  tag_mem : e.tag ∈ blockTags
  front : Kept e.front
  pieces : ∀ s ∈ e.first :: e.more, Kept s

theorem mem_plainTags {tag : String} (h : tag ∈ blockTags) : tag ∈ plainTags :=
  List.mem_cons_of_mem _ (List.mem_cons_of_mem _ (List.mem_cons_of_mem _ h))

theorem forall_mem_piecePairs {tag : String} (htag : tag ∈ blockTags) : ∀ {s : Text} {us : List Text},
    (∀ v ∈ s :: us, IsPlain v) → ∀ p ∈ piecePairs tag s us, IsPlain p.1 ∧ p.2.name ∈ plainTags
  | s, [], h => by
    rw [List.forall_mem_singleton] at h
    exact List.forall_mem_singleton.mpr ⟨h, mem_plainTags htag⟩
  | s, u :: us, h => by
    rw [List.forall_mem_cons] at h
    have hbr : "br" ∈ plainTags := by decide
    exact List.forall_mem_cons.mpr ⟨⟨h.1, hbr⟩, forall_mem_piecePairs htag h.2⟩

theorem Lawful.pairs {e : Written} (h : e.Lawful) : ∀ p ∈ e.pairs, IsPlain p.1 ∧ p.2.name ∈ plainTags :=
  List.forall_mem_cons.mpr ⟨⟨h.front.plain, mem_plainTags h.tag_mem⟩,
    forall_mem_piecePairs h.tag_mem fun v hv => (h.pieces v hv).plain⟩

end Written

/-! ## Growing the tree -/

namespace Growth

theorem settled_of_kept {s : Text} (h : Written.Kept s) (hne : s ≠ []) (g : Growth) : g.settled s = s := by
  rw [settled]
  split
  · rename_i hb
    rcases h.settled (Bool.and_eq_true_iff.mp hb).1 with rfl | rfl
    · exact (hne rfl).elim
    · rfl
  · rfl

/-- A text that is read as it stands and the tag behind it. -/
theorem foldl_step_pair {s : Text} (h : Written.Kept s) (t : Tag) (tag : String) (attrs : List (String × Text))
    (cs : List Node) (os : List Opened) (done : List Node) :
    (pairTokens (s, t)).foldl step ⟨⟨tag, attrs, cs⟩ :: os, done⟩ =
      step ⟨⟨tag, attrs, (Written.textNodes s).reverse ++ cs⟩ :: os, done⟩ t.token := by
  cases s with
  | nil => rfl
  | cons c s =>
    rw [pairTokens, List.isEmpty_cons, if_neg Bool.false_ne_true, List.singleton_append, List.foldl_cons,
      List.foldl_cons, List.foldl_nil, step, List.isEmpty_cons, if_neg Bool.false_ne_true,
      settled_of_kept h (List.cons_ne_nil c s)]
    rfl

theorem step_break (tag : String) (attrs : List (String × Text)) (cs : List Node) (os : List Opened)
    (done : List Node) :
    step ⟨⟨tag, attrs, cs⟩ :: os, done⟩ (.opens "br" [] false) =
      ⟨⟨tag, attrs, .element "br" [] [] :: cs⟩ :: os, done⟩ := by
  have hp : endsParagraph "br" = false := by decide
  have he : emptyTags.contains "br" = true := by decide
  rw [step, openTag, hp, Bool.and_false, he]
  rfl

theorem step_closes (tag : String) (attrs : List (String × Text)) (cs : List Node) (o : Opened) (os : List Opened)
    (done : List Node) : step ⟨⟨tag, attrs, cs⟩ :: o :: os, done⟩ (.closes tag) =
      ⟨o.add (.ofTree tag attrs cs.reverse) :: os, done⟩ := by
  rw [step, closeTag, List.findIdx?_cons, beq_self_eq_true]
  rfl

theorem step_opens {tag outer : String} (h : tag ∈ blockTags) (ho : outer ≠ "p") (attrs : List (String × Text))
    (cs : List Node) (os : List Opened) (done : List Node) :
    step ⟨⟨outer, attrs, cs⟩ :: os, done⟩ (.opens tag [] false) =
      ⟨⟨tag, [], []⟩ :: ⟨outer, attrs, cs⟩ :: os, done⟩ := by
  have he : emptyTags.contains tag = false := by
    revert tag
    decide
  rw [step, openTag, he]
  simp [ho]

theorem foldl_step_pieces {tag : String} {o : Opened} {os : List Opened} {done : List Node} :
    ∀ {s : Text} {us : List Text} {cs : List Node}, (∀ v ∈ s :: us, Written.Kept v) →
      ((Written.piecePairs tag s us).flatMap pairTokens).foldl step ⟨⟨tag, [], cs⟩ :: o :: os, done⟩ =
        ⟨o.add (.element tag [] (cs.reverse ++ Written.pieceNodes s us)) :: os, done⟩
  | s, [], cs, h => by
    rw [List.forall_mem_singleton] at h
    rw [Written.piecePairs, List.flatMap_singleton, foldl_step_pair h]
    refine (step_closes _ _ _ _ _ _).trans ?_
    rw [List.reverse_append, List.reverse_reverse]
    rfl
  | s, u :: us, cs, h => by
    rw [List.forall_mem_cons] at h
    rw [Written.piecePairs, List.flatMap_cons, List.foldl_append, foldl_step_pair h.1, Token.Tag.token, step_break,
      foldl_step_pieces h.2]
    simp [Written.pieceNodes]

theorem foldl_step_element {e : Written} (h : e.Lawful) {outer : String} (ho : outer ≠ "p")
    (attrs : List (String × Text)) (cs : List Node) (os : List Opened) (done : List Node) :
    (e.pairs.flatMap pairTokens).foldl step ⟨⟨outer, attrs, cs⟩ :: os, done⟩ =
      ⟨⟨outer, attrs, e.nodes.reverse ++ cs⟩ :: os, done⟩ := by
  rw [Written.pairs, List.flatMap_cons, List.foldl_append, foldl_step_pair h.front, Token.Tag.token,
    step_opens h.tag_mem ho, foldl_step_pieces h.pieces]
  simp [Opened.add, Written.nodes, Written.node]

/-- The elements become children of the element that is open. -/
theorem foldl_step_elements {outer : String} (ho : outer ≠ "p") {attrs : List (String × Text)} {os : List Opened}
    {done : List Node} : ∀ {es : List Written} {cs : List Node}, (∀ e ∈ es, e.Lawful) →
      ((es.flatMap Written.pairs).flatMap pairTokens).foldl step ⟨⟨outer, attrs, cs⟩ :: os, done⟩ =
        ⟨⟨outer, attrs, (es.flatMap Written.nodes).reverse ++ cs⟩ :: os, done⟩
  | [], _, _ => rfl
  | e :: es, cs, h => by
    rw [List.forall_mem_cons] at h
    rw [List.flatMap_cons, List.flatMap_append, List.foldl_append, foldl_step_element h.1 ho,
      foldl_step_elements ho h.2]
    simp

end Growth

/-! ## The page -/

namespace Node

theorem settleIn_eq (kind : TextKind) (ns : List Node) : settleIn kind ns = ns.map (settle kind) := by
  induction ns with
  | nil => rfl
  | cons n ns ih => rw [settleIn, ih, List.map_cons]

end Node

namespace Written

theorem settleIn_textNodes (s : Text) : Node.settleIn .plain (textNodes s) = textNodes s := by
  rw [textNodes]
  split <;> rfl

theorem settleIn_pieceNodes : ∀ (s : Text) (us : List Text), Node.settleIn .plain (pieceNodes s us) = pieceNodes s us
  | s, [] => settleIn_textNodes s
  | s, u :: us => by
    have ht := settleIn_textNodes s
    have hu := settleIn_pieceNodes u us
    rw [Node.settleIn_eq] at ht hu ⊢
    rw [pieceNodes, List.map_append, List.map_cons, ht, hu]
    rfl

theorem settleIn_nodes {e : Written} (h : e.tag ∈ blockTags) : Node.settleIn .plain e.nodes = e.nodes := by
  have hkind : TextKind.ofTag? e.tag = none := by
    generalize e.tag = tag at h
    revert tag
    decide
  have ht := settleIn_textNodes e.front
  rw [Node.settleIn_eq] at ht ⊢
  rw [nodes, List.map_append, ht, List.map_singleton, node, Node.settle, hkind]
  rw [Option.getD_none, settleIn_pieceNodes]

/-- Markup of paragraphs and headings is put into the body of a page. -/
theorem wholePage_text {es : List Written} (hne : es ≠ []) (h : ∀ e ∈ es, e.Lawful) :
    Node.wholePage (es.flatMap text) = Token.opening "html" ++ (Token.opening "body" ++ (es.flatMap text ++
      (Token.closing "body" ++ Token.closing "html"))) := by
  obtain ⟨e, es, rfl⟩ := List.exists_cons_of_ne_nil hne
  have hnot : Text.startsWith "<html".toList ((e :: es).flatMap text) = false := by
    have hlawful := h e List.mem_cons_self
    rw [List.flatMap_cons, text]
    cases hf : e.front with
    | nil =>
      have htag := hlawful.tag_mem
      generalize e.tag = tag at htag
      simp only [blockTags, List.mem_cons, List.not_mem_nil, or_false] at htag
      rcases htag with rfl | rfl | rfl | rfl | rfl | rfl | rfl <;> rfl
    | cons c cs =>
      have hc : '<' ≠ c := by
        rintro rfl
        exact hlawful.front.plain.1 (hf ▸ List.mem_cons_self)
      simp [Text.startsWith, Text.dropPrefix?, hc]
  have hempty : ((e :: es).flatMap text).isEmpty = false := by
    rw [List.flatMap_cons, text]
    simp [Token.opening]
  rw [Node.wholePage, hempty, hnot]
  simp [Token.opening, Token.closing]

/-- The pairs of a page with paragraphs and headings. -/
def pagePairs (es : List Written) : List (Text × Tag) :=
  ([], Tag.opens "html") :: ([], Tag.opens "body") ::
    (es.flatMap pairs ++ [([], Tag.closes "body"), ([], Tag.closes "html")])

theorem wholePage_pairs {es : List Written} (hne : es ≠ []) (h : ∀ e ∈ es, e.Lawful) :
    Node.wholePage (es.flatMap text) = (pagePairs es).flatMap pairText := by
  rw [wholePage_text hne h]
  simp [pagePairs, List.flatMap_append, List.flatMap_assoc, pairs_text, pairText, Token.Tag.text]

theorem plain_pagePairs {es : List Written} (h : ∀ e ∈ es, e.Lawful) :
    ∀ p ∈ pagePairs es, IsPlain p.1 ∧ p.2.name ∈ plainTags := by
  have hnil : IsPlain [] := ⟨List.not_mem_nil, List.not_mem_nil⟩
  simp only [pagePairs, List.forall_mem_cons, List.forall_mem_append]
  refine ⟨⟨hnil, by decide⟩, ⟨hnil, by decide⟩, fun p hp => ?_, ⟨hnil, by decide⟩, ⟨hnil, by decide⟩, by simp⟩
  obtain ⟨e, he, hp⟩ := List.mem_flatMap.mp hp
  exact (h e he).pairs p hp

/-- The elements grow in the body of the page. -/
theorem foldl_step_page {es : List Written} (hne : es ≠ []) (h : ∀ e ∈ es, e.Lawful) :
    (Token.scan (Node.wholePage (es.flatMap text))).foldl Growth.step ⟨[], []⟩ =
      ⟨[], [.element "html" [] [.element "body" [] (es.flatMap nodes)]]⟩ := by
  rw [wholePage_pairs hne h, Token.scan_pairs (plain_pagePairs h), pagePairs, List.flatMap_cons, List.flatMap_cons,
    List.flatMap_append, List.foldl_append, List.foldl_append, List.foldl_append]
  change List.foldl _ (List.foldl _ (⟨[⟨"body", [], []⟩, ⟨"html", [], []⟩], []⟩ : Growth) _) _ = _
  rw [Growth.foldl_step_elements (by decide) h, List.append_nil]
  have hclose : [([], Tag.closes "body"), ([], Tag.closes "html")].flatMap pairTokens =
      [.closes "body", .closes "html"] := rfl
  rw [hclose, List.foldl_cons, List.foldl_cons, List.foldl_nil, Growth.step_closes, List.reverse_reverse]
  rfl

/-- **Paragraphs and headings are read as they are written.** -/
theorem bodyOf_ofMarkup {es : List Written} (hne : es ≠ []) (h : ∀ e ∈ es, e.Lawful) :
    (Node.ofMarkup (es.flatMap text)).bodyOf = .element "body" [] (es.flatMap nodes) := by
  have hsettle : Node.settleIn .plain (es.flatMap nodes) = es.flatMap nodes := by
    rw [Node.settleIn_eq, List.map_flatMap]
    exact List.flatMap_congr fun e he => by rw [← Node.settleIn_eq, settleIn_nodes (h e he).tag_mem]
  have hbody : Node.settle .plain (.element "body" [] (es.flatMap nodes)) = .element "body" [] (es.flatMap nodes) :=
    congrArg (Node.element "body" []) hsettle
  have hpage : Node.ofMarkup (es.flatMap text) =
      Node.document [.element "html" [] [Node.settle .plain (.element "body" [] (es.flatMap nodes))]] := by
    rw [Node.ofMarkup, Node.ofTokens, foldl_step_page hne h]
    rfl
  rw [hpage, hbody]
  rfl

end Written

end Excerpt
