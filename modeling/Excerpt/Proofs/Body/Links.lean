import Excerpt.Body.Cleanup
import Excerpt.Proofs.Text.Words
import Mathlib.Data.List.Chain
import Mathlib.Data.List.Infix

/-!
# Links taken out of a text

A link ends where white space begins, so whether one begins is seen within a word (`linkBegins_takeWhile`), and each
word is dealt with on its own: what stands in front of its first link stays (`beforeLink`), and a word is gone if
nothing does. Blanks made one and trimmed change no word, so nothing that is left grows together into a new link.

`words_eraseLinks` puts this together: no link is left, a second pass finds nothing to do, and the words of the result
are the words of the text up to their first links.
-/

namespace Excerpt.Body

open Text (words isSpace SameWords)

variable {c : Char} {s t u v w : Text} {ws : List Text}

/-! ## Where a link begins -/

/-- Whether the given beginning of a link stands at the beginning of the text, and a character of the link behind it. -/
def followed (s t : Text) : Bool :=
  match afterWordOf? s t with
  | some (c :: _) => !isSpace c
  | _ => false

theorem linkBegins_eq (t : Text) : linkBegins t = linkStarts.any fun s => followed s t := rfl

theorem isSpace_of_isCaseOf {p : Char} (hp : isSpace p = false ∧ isSpace p.toUpper = false) (h : isCaseOf p c = true) :
    isSpace c = false := by
  simp only [isCaseOf, Bool.or_eq_true, Bool.and_eq_true, beq_iff_eq] at h
  rcases h with (rfl | rfl) | ⟨-, rfl⟩
  · exact hp.1
  · exact hp.2
  · decide

theorem followed_takeWhile : ∀ {s : Text}, (∀ p ∈ s, isSpace p = false ∧ isSpace p.toUpper = false) → ∀ t : Text,
    followed s (t.takeWhile fun c => !isSpace c) = followed s t
  | [], _, [] => rfl
  | [], _, c :: t => by
    cases hc : isSpace c with
    | true =>
      rw [List.takeWhile_cons_of_neg (by simp [hc])]
      simp [followed, afterWordOf?, hc]
    | false =>
      rw [List.takeWhile_cons_of_pos (by simp [hc])]
      simp [followed, afterWordOf?, hc]
  | _ :: _, _, [] => rfl
  | p :: s, hs, c :: t => by
    rw [List.forall_mem_cons] at hs
    cases hp : isCaseOf p c with
    | true =>
      rw [List.takeWhile_cons_of_pos (by simp [isSpace_of_isCaseOf hs.1 hp])]
      have ih := followed_takeWhile hs.2 t
      rw [followed, followed] at ih
      rw [followed, followed, afterWordOf?, afterWordOf?, if_pos hp, if_pos hp]
      exact ih
    | false =>
      have hno : followed (p :: s) (c :: t) = false := by
        rw [followed, afterWordOf?, if_neg (Bool.eq_false_iff.mp hp)]
      rw [hno, List.takeWhile_cons]
      split
      · rw [followed, afterWordOf?, if_neg (Bool.eq_false_iff.mp hp)]
      · rfl

/-- Whether a link begins a text is seen in front of the first white space. -/
theorem linkBegins_takeWhile (t : Text) : linkBegins (t.takeWhile fun c => !isSpace c) = linkBegins t := by
  have hall : (linkStarts.all fun s => s.all fun p => !isSpace p && !isSpace p.toUpper) = true := by decide
  have hstarts : ∀ s ∈ linkStarts, ∀ p ∈ s, isSpace p = false ∧ isSpace p.toUpper = false := by
    simpa only [List.all_eq_true, Bool.and_eq_true, Bool.not_eq_true'] using hall
  rw [linkBegins_eq, linkBegins_eq, Bool.eq_iff_iff, List.any_eq_true, List.any_eq_true]
  refine exists_congr fun s => and_congr_right fun hs => ?_
  rw [followed_takeWhile (hstarts s hs)]

theorem linkBegins_cons_of_space (hc : isSpace c = true) (t : Text) : linkBegins (c :: t) = false := by
  rw [← linkBegins_takeWhile, List.takeWhile_cons_of_neg (by simp [hc])]
  rfl

/-- The first piece of a text begins with a link if the text does. -/
theorem linkBegins_cons (hc : isSpace c = false) (ht : words.go t = w :: ws) :
    linkBegins (c :: w) = linkBegins (c :: t) := by
  obtain ⟨ws', hws'⟩ := Text.go_eq_takeWhile t
  obtain ⟨rfl, -⟩ := List.cons.inj (ht.symm.trans hws')
  rw [← linkBegins_takeWhile (c :: t), List.takeWhile_cons_of_pos (by simp [hc])]

theorem afterWordOf?_append (v : Text) :
    ∀ {s u r : Text}, afterWordOf? s u = some r → afterWordOf? s (u ++ v) = some (r ++ v)
  | [], _, _, h => by
    rw [afterWordOf?, Option.some.inj h]
  | _ :: _, [], _, h => by cases h
  | p :: s, c :: u, r, h => by
    rw [afterWordOf?] at h
    rw [List.cons_append, afterWordOf?]
    split at h
    · rename_i hp
      rw [if_pos hp, afterWordOf?_append v h]
    · cases h

theorem linkBegins_of_start (hu : u <+: t) (h : linkBegins u = true) : linkBegins t = true := by
  obtain ⟨v, rfl⟩ := hu
  rw [linkBegins_eq, List.any_eq_true] at h ⊢
  obtain ⟨s, hs, hfollowed⟩ := h
  refine ⟨s, hs, ?_⟩
  rw [followed] at hfollowed ⊢
  split at hfollowed
  · rename_i hr
    rw [afterWordOf?_append v hr]
    exact hfollowed
  · cases hfollowed

/-! ## Words up to their first links -/

/-- What stands in front of the first link. -/
def beforeLink : Text → Text
  | [] => []
  | c :: cs => if linkBegins (c :: cs) then [] else c :: beforeLink cs

theorem prefix_beforeLink : ∀ w : Text, beforeLink w <+: w
  | [] => List.prefix_rfl
  | c :: cs => by
    rw [beforeLink]
    split
    · exact List.nil_prefix
    · exact List.cons_prefix_cons.mpr ⟨rfl, prefix_beforeLink cs⟩

theorem beforeLink_eq_self : ∀ {w : Text}, hasLink w = false → beforeLink w = w
  | [], _ => rfl
  | c :: cs, h => by
    rw [hasLink, Bool.or_eq_false_iff] at h
    rw [beforeLink, h.1, if_neg Bool.false_ne_true, beforeLink_eq_self h.2]

theorem hasLink_beforeLink : ∀ w : Text, hasLink (beforeLink w) = false
  | [] => rfl
  | c :: cs => by
    rw [beforeLink]
    split
    · rfl
    · rename_i hc
      have hprefix : c :: beforeLink cs <+: c :: cs := List.cons_prefix_cons.mpr ⟨rfl, prefix_beforeLink cs⟩
      rw [hasLink, hasLink_beforeLink cs, Bool.or_false]
      exact Bool.eq_false_iff.mpr fun h => hc (linkBegins_of_start hprefix h)

/-- A link of a text is a link of one of its pieces. -/
theorem hasLink_eq_any_go : ∀ t : Text, hasLink t = (words.go t).any hasLink
  | [] => rfl
  | c :: t => by
    have ih := hasLink_eq_any_go t
    cases hc : isSpace c with
    | true => rw [hasLink, linkBegins_cons_of_space hc, ih, Text.go_cons_of_space hc]; rfl
    | false =>
      obtain ⟨w, ws, ht⟩ := List.exists_cons_of_ne_nil (Text.go_ne_nil t)
      rw [ht, List.any_cons] at ih
      rw [Text.go_cons_of_not_space hc ht, List.any_cons, hasLink, hasLink, linkBegins_cons hc ht, ih, Bool.or_assoc]

theorem hasLink_eq_any (t : Text) : hasLink t = (words t).any hasLink := by
  rw [hasLink_eq_any_go, words, List.any_filter]
  congr 1
  funext w
  cases w <;> rfl

/-- Links are taken out of each piece on its own; within a link, the rest of the first piece is gone. -/
theorem go_eraseLinksFrom : ∀ {t w : Text} {ws : List Text}, words.go t = w :: ws →
    words.go (eraseLinksFrom false t) = beforeLink w :: ws.map beforeLink ∧
      words.go (eraseLinksFrom true t) = [] :: ws.map beforeLink
  | [], _, _, h => by
    obtain ⟨rfl, rfl⟩ := List.cons.inj h
    exact ⟨rfl, rfl⟩
  | c :: t, w, ws, h => by
    obtain ⟨w', ws', ht⟩ := List.exists_cons_of_ne_nil (Text.go_ne_nil t)
    obtain ⟨hout, hin⟩ := go_eraseLinksFrom ht
    cases hc : isSpace c with
    | true =>
      rw [Text.go_cons_of_space hc, ht] at h
      obtain ⟨rfl, rfl⟩ := List.cons.inj h
      have hkeep : ∀ b, eraseLinksFrom b (c :: t) = c :: eraseLinksFrom false t := fun b => by
        rw [eraseLinksFrom, hc, linkBegins_cons_of_space hc, Bool.not_true, Bool.and_false, if_neg Bool.false_ne_true,
          if_neg Bool.false_ne_true]
      rw [hkeep, hkeep, Text.go_cons_of_space hc, hout]
      exact ⟨rfl, rfl⟩
    | false =>
      rw [Text.go_cons_of_not_space hc ht] at h
      obtain ⟨rfl, rfl⟩ := List.cons.inj h
      constructor
      · rw [eraseLinksFrom, Bool.false_and, if_neg Bool.false_ne_true, beforeLink, linkBegins_cons hc ht]
        split
        · exact hin
        · exact Text.go_cons_of_not_space hc hout
      · rw [eraseLinksFrom, hc, Bool.not_false, Bool.and_true, if_pos rfl]
        exact hin

theorem filter_map_filter (f : Text → Text) (hf : f [] = []) : ∀ ws : List Text,
    ((ws.filter fun w => !w.isEmpty).map f).filter (fun w => !w.isEmpty) = (ws.map f).filter fun w => !w.isEmpty
  | [] => rfl
  | [] :: ws => by
    rw [List.map_cons, hf]
    exact filter_map_filter f hf ws
  | (c :: w) :: ws => by
    have ih := filter_map_filter f hf ws
    rw [List.filter_cons_of_pos (by rfl), List.map_cons, List.map_cons, List.filter_cons, List.filter_cons, ih]

theorem words_eraseLinksFrom (t : Text) :
    words (eraseLinksFrom false t) = ((words t).map beforeLink).filter fun w => !w.isEmpty := by
  obtain ⟨w, ws, ht⟩ := List.exists_cons_of_ne_nil (Text.go_ne_nil t)
  rw [words, words, filter_map_filter beforeLink rfl, (go_eraseLinksFrom ht).1, ht, List.map_cons]

/-! ## Single blanks -/

/-- One blank in place of several parts the same words. -/
theorem words_singleBlanksFrom : ∀ t : Text,
    SameWords (singleBlanksFrom false t) t ∧ words (singleBlanksFrom true t) = words t
  | [] => ⟨SameWords.refl [], rfl⟩
  | c :: t => by
    obtain ⟨hfirst, hrest⟩ := words_singleBlanksFrom t
    by_cases hc : c = ' '
    · subst hc
      have hspace : isSpace ' ' = true := by decide
      rw [singleBlanksFrom, singleBlanksFrom, if_pos rfl, if_neg Bool.false_ne_true, if_pos rfl, if_pos rfl]
      exact ⟨SameWords.cons_space hspace hrest, hrest.trans (Text.words_cons_of_space hspace t).symm⟩
    · rw [singleBlanksFrom, singleBlanksFrom, if_neg hc, if_neg hc]
      exact ⟨hfirst.cons c, (hfirst.cons c).words_eq⟩

theorem words_singleBlanks (t : Text) : words (singleBlanks t) = words t :=
  (words_singleBlanksFrom t).1.words_eq

/-- Texts in which no blank follows a blank. -/
def Single (t : Text) : Prop :=
  t.IsChain fun a b => a = ' ' → b ≠ ' '

theorem single_singleBlanksFrom : ∀ t : Text,
    Single (singleBlanksFrom false t) ∧ Single (' ' :: singleBlanksFrom true t)
  | [] => ⟨.nil, .singleton _⟩
  | c :: t => by
    obtain ⟨hfirst, hrest⟩ := single_singleBlanksFrom t
    by_cases hc : c = ' '
    · subst hc
      rw [singleBlanksFrom, singleBlanksFrom, if_pos rfl, if_neg Bool.false_ne_true, if_pos rfl, if_pos rfl]
      exact ⟨hrest, hrest⟩
    · rw [singleBlanksFrom, singleBlanksFrom, if_neg hc, if_neg hc]
      have hcons : Single (c :: singleBlanksFrom false t) := List.isChain_cons.mpr ⟨fun _ _ h => (hc h).elim, hfirst⟩
      exact ⟨hcons, List.isChain_cons_cons.mpr ⟨fun _ => hc, hcons⟩⟩

theorem singleBlanksFrom_eq_self : ∀ {t : Text} {b : Bool}, Single t → (b = true → t.head? ≠ some ' ') →
    singleBlanksFrom b t = t
  | [], _, _, _ => rfl
  | c :: t, b, h, hb => by
    obtain ⟨hhead, ht⟩ := List.isChain_cons.mp h
    rw [singleBlanksFrom]
    by_cases hc : c = ' '
    · subst hc
      have hnot : b ≠ true := fun h => hb h rfl
      rw [if_pos rfl, if_neg hnot, singleBlanksFrom_eq_self ht fun _ he => hhead ' ' he rfl rfl]
    · rw [if_neg hc, singleBlanksFrom_eq_self (b := false) ht nofun]

theorem singleBlanks_trim (t : Text) : singleBlanks (Text.trim (singleBlanks t)) = Text.trim (singleBlanks t) := by
  obtain ⟨a, b, -, -, ht⟩ := Text.exists_trim (singleBlanks t)
  have hsingle : Single (singleBlanks t) := (single_singleBlanksFrom t).1
  have htrim : Single (Text.trim (singleBlanks t)) := by
    rw [ht] at hsingle
    exact hsingle.right_of_append.left_of_append
  exact singleBlanksFrom_eq_self htrim nofun

/-! ## The text without its links -/

theorem eraseLinksFrom_eq_self : ∀ {t : Text}, hasLink t = false → eraseLinksFrom false t = t
  | [], _ => rfl
  | c :: t, h => by
    rw [hasLink, Bool.or_eq_false_iff] at h
    rw [eraseLinksFrom, Bool.false_and, if_neg Bool.false_ne_true, h.1, if_neg Bool.false_ne_true,
      eraseLinksFrom_eq_self h.2]

/-- **A text without its links.** No link is left, so a second pass changes nothing. The words that are left are the
words of the text in their order, each up to its first link and gone if it begins with one; a word without a link is
kept whole. -/
theorem words_eraseLinks (t : Text) :
    hasLink (eraseLinks t) = false ∧ eraseLinks (eraseLinks t) = eraseLinks t ∧
      words (eraseLinks t) = ((words t).map beforeLink).filter (fun w => !w.isEmpty) ∧
      ∀ w, beforeLink w <+: w ∧ (hasLink w = false → beforeLink w = w) := by
  have hwords : words (eraseLinks t) = ((words t).map beforeLink).filter fun w => !w.isEmpty := by
    rw [eraseLinks, Text.words_trim, words_singleBlanks, words_eraseLinksFrom]
  have hlink : hasLink (eraseLinks t) = false := by
    rw [hasLink_eq_any, hwords, List.any_eq_false]
    intro w hw
    obtain ⟨w', -, rfl⟩ := List.mem_map.mp (List.mem_of_mem_filter hw)
    exact Bool.eq_false_iff.mp (hasLink_beforeLink w')
  refine ⟨hlink, ?_, hwords, fun w => ⟨prefix_beforeLink w, beforeLink_eq_self⟩⟩
  rw [eraseLinks, eraseLinksFrom_eq_self hlink, eraseLinks, singleBlanks_trim, Text.trim_trim]

/-- A link in brackets, and one that ends a word. -/
example : eraseLinks "see (https://a.b) or awww.x.y  now".toList = "see ( or a now".toList := by decide

end Excerpt.Body
