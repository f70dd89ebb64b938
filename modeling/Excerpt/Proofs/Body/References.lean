import Excerpt.Proofs.Body.Conservation
import Excerpt.Proofs.Body.SummaryEnd
import Mathlib.Data.List.DropRight
import Mathlib.Data.List.SplitBy

/-!
# References in a summary

`Phrase` is the syntax of prose with references: words, blanks, full stops with a blank behind them, and references in
square brackets. A text of the first three (`Prose`) goes into a summary as it is (`summarize_of_prose`). Brackets are
taken out of a text from the first opening one to the last closing one (`eraseBrackets_eq`), so of the phrases a summary
has those in front of the first reference and behind the last one (`summarize_phrases`).

Hence a summary keeps the prose just if there is nothing but white space between the references: `bare_summarize_iff`.
-/

namespace Excerpt.Body

open Text (bare isBlank)

/-! ## Phrases -/

/-- A part of a text with references. -/
inductive Phrase where
  | word (w : Text)
  | blank
  /-- A full stop and the blank behind it. -/
  | stop
  | reference (x : Text)
deriving DecidableEq, Repr

namespace Phrase

/-- The text of a phrase. -/
def text : Phrase → Text
  | word w => w
  | blank => [' ']
  | stop => ['.', ' ']
  | reference x => '[' :: x ++ [']']

/-- Whether words and references are made of letters and digits; a reference has at least one. -/
def Lawful : Phrase → Prop
  | word w => ∀ c ∈ w, Text.isAlphanumeric c = true
  | blank | stop => True
  | reference x => x ≠ [] ∧ ∀ c ∈ x, Text.isAlphanumeric c = true

instance : DecidablePred Lawful := fun p =>
  match p with
  | word w => decidable_of_iff (w.all Text.isAlphanumeric = true) List.all_eq_true
  | blank | stop => inferInstanceAs (Decidable True)
  | reference x => decidable_of_iff ((!x.isEmpty && x.all Text.isAlphanumeric) = true) (by simp [Lawful])

/-- Whether a phrase is no reference. -/
def isProse : Phrase → Bool
  | reference _ => false
  | word _ | blank | stop => true

end Phrase

/-- The text of phrases. -/
def textOf (ps : List Phrase) : Text :=
  ps.flatMap Phrase.text

@[simp] theorem textOf_append (ps qs : List Phrase) : textOf (ps ++ qs) = textOf ps ++ textOf qs :=
  List.flatMap_append

/-- The phrases that are no references. -/
def prose (ps : List Phrase) : List Phrase :=
  ps.filter Phrase.isProse

/-- The phrases in front of the first reference. -/
def proseBefore (ps : List Phrase) : List Phrase :=
  ps.takeWhile Phrase.isProse

/-- The phrases from the first reference to the last one. -/
def referenceSpan (ps : List Phrase) : List Phrase :=
  (ps.dropWhile Phrase.isProse).rdropWhile Phrase.isProse

/-- The phrases behind the last reference, if there is one. -/
def proseBehind (ps : List Phrase) : List Phrase :=
  (ps.dropWhile Phrase.isProse).rtakeWhile Phrase.isProse

theorem parts_append (ps : List Phrase) : proseBefore ps ++ (referenceSpan ps ++ proseBehind ps) = ps := by
  rw [referenceSpan, proseBehind, List.rdropWhile_append_rtakeWhile, proseBefore, List.takeWhile_append_dropWhile]

theorem isProse_of_mem_proseBefore {ps : List Phrase} : ∀ p ∈ proseBefore ps, p.isProse = true :=
  List.all_eq_true.mp List.all_takeWhile

theorem isProse_of_mem_proseBehind {ps : List Phrase} : ∀ p ∈ proseBehind ps, p.isProse = true :=
  fun _ => List.mem_rtakeWhile_imp

theorem prose_eq_self {ps : List Phrase} (h : ∀ p ∈ ps, p.isProse = true) : prose ps = ps :=
  List.filter_eq_self.mpr h

/-- The prose is what stands in front of the references, between them and behind them. -/
theorem prose_eq (ps : List Phrase) : prose ps = proseBefore ps ++ (prose (referenceSpan ps) ++ proseBehind ps) := by
  calc prose ps = prose (proseBefore ps ++ (referenceSpan ps ++ proseBehind ps)) := by rw [parts_append]
    _ = prose (proseBefore ps) ++ (prose (referenceSpan ps) ++ prose (proseBehind ps)) := by simp [prose]
    _ = proseBefore ps ++ (prose (referenceSpan ps) ++ proseBehind ps) := by
      rw [prose_eq_self isProse_of_mem_proseBefore, prose_eq_self isProse_of_mem_proseBehind]

/-- The phrases from the first reference to the last one begin and end with a bracket. -/
theorem exists_referenceSpan {ps : List Phrase} (hps : ∀ p ∈ ps, p.Lawful) (hne : referenceSpan ps ≠ []) :
    ∃ inside, inside ≠ [] ∧ textOf (referenceSpan ps) = '[' :: (inside ++ [']']) := by
  obtain ⟨p, rest, hfirst⟩ := List.exists_cons_of_ne_nil hne
  obtain ⟨init, q, hlast⟩ := List.eq_nil_or_concat' (referenceSpan ps) |>.resolve_left hne
  have hp : p.isProse = false := by
    obtain ⟨t, ht⟩ := List.rdropWhile_prefix Phrase.isProse (ps.dropWhile Phrase.isProse)
    have hhead := List.head?_dropWhile_not Phrase.isProse ps
    rw [← ht, show (ps.dropWhile Phrase.isProse).rdropWhile Phrase.isProse = p :: rest from hfirst] at hhead
    simpa using hhead
  have hq : q.isProse = false := by
    have hgetLast := List.rdropWhile_last_not Phrase.isProse _ hne
    simpa [show (ps.dropWhile Phrase.isProse).rdropWhile Phrase.isProse = init ++ [q] from hlast] using hgetLast
  have hmem : p ∈ ps := by
    rw [← parts_append ps, hfirst]
    simp
  cases p with
  | word | blank | stop => cases hp
  | reference x =>
    cases q with
    | word | blank | stop => cases hq
    | reference y =>
      obtain ⟨hx, -⟩ := hps _ hmem
      have hopen : textOf (referenceSpan ps) = '[' :: (x ++ ']' :: textOf rest) := by
        rw [hfirst]
        simp [textOf, Phrase.text]
      have hclose : textOf (referenceSpan ps) = (textOf init ++ '[' :: y) ++ [']'] := by
        rw [hlast]
        simp [textOf, Phrase.text]
      obtain ⟨c, inside, hinside⟩ := List.exists_cons_of_ne_nil
        (show textOf init ++ '[' :: y ≠ [] from List.append_ne_nil_of_right_ne_nil _ (List.cons_ne_nil _ _))
      rw [hinside, hopen] at hclose
      obtain ⟨rfl, hrest⟩ := List.cons.inj hclose
      refine ⟨inside, ?_, by rw [hopen, hrest]; rfl⟩
      rintro rfl
      -- A reference with nothing in front of its closing bracket would be empty.
      obtain ⟨d, x, rfl⟩ := List.exists_cons_of_ne_nil hx
      have hlength := congrArg List.length hrest
      simp at hlength

/-! ## Prose -/

/-- Texts of letters, digits, blanks, and full stops with a blank behind them. -/
inductive Prose : Text → Prop
  | nil : Prose []
  | char {c : Char} {t : Text} : Text.isAlphanumeric c = true → Prose t → Prose (c :: t)
  | blank {t : Text} : Prose t → Prose (' ' :: t)
  | stop {t : Text} : Prose t → Prose ('.' :: ' ' :: t)

namespace Prose

variable {t : Text}

theorem append {a b : Text} (ha : Prose a) (hb : Prose b) : Prose (a ++ b) := by
  induction ha with
  | nil => exact hb
  | char hc _ ih => exact char hc ih
  | blank _ ih => exact blank ih
  | stop _ ih => exact stop ih

theorem of_alphanumeric : ∀ {w : Text}, (∀ c ∈ w, Text.isAlphanumeric c = true) → Prose w
  | [], _ => nil
  | c :: w, h => by
    rw [List.forall_mem_cons] at h
    exact char h.1 (of_alphanumeric h.2)

theorem of_phrases {ps : List Phrase} (hps : ∀ p ∈ ps, p.Lawful) (h : ∀ p ∈ ps, p.isProse = true) :
    Prose (textOf ps) := by
  induction ps with
  | nil => exact nil
  | cons p ps ih =>
    rw [List.forall_mem_cons] at hps h
    refine append ?_ (ih hps.2 h.2)
    cases p with
    | word w => exact of_alphanumeric hps.1
    | blank => exact blank nil
    | stop => exact stop nil
    | reference x => cases h.1

/-- No other characters stand in prose. -/
theorem not_mem (h : Prose t) {c : Char} (hc : Text.isAlphanumeric c = false) (hblank : c ≠ ' ') (hstop : c ≠ '.') :
    c ∉ t := by
  induction h with
  | nil => exact List.not_mem_nil
  | @char d t hd _ ih =>
    refine List.not_mem_cons_of_ne_of_not_mem ?_ ih
    rintro rfl
    cases hc.symm.trans hd
  | blank _ ih => exact List.not_mem_cons_of_ne_of_not_mem hblank ih
  | stop _ ih => exact List.not_mem_cons_of_ne_of_not_mem hstop (List.not_mem_cons_of_ne_of_not_mem hblank ih)

/-- Behind a full stop there is a blank. -/
theorem behind_stop (h : Prose t) : ∀ {u v : Text}, t = u ++ '.' :: v → ∃ r, v = ' ' :: r := by
  induction h with
  | nil => simp
  | @char c t hc _ ih =>
    intro u v he
    cases u with
    | nil =>
      rw [(List.cons.inj he).1] at hc
      cases hc
    | cons d u => exact ih (List.cons.inj he).2
  | blank _ ih =>
    intro u v he
    cases u with
    | nil => cases (List.cons.inj he).1
    | cons d u => exact ih (List.cons.inj he).2
  | @stop t _ ih =>
    intro u v he
    cases u with
    | nil => exact ⟨t, (List.cons.inj he).2.symm⟩
    | cons d u =>
      have he := (List.cons.inj he).2
      cases u with
      | nil => cases (List.cons.inj he).1
      | cons d u => exact ih (List.cons.inj he).2

end Prose

/-! ## No link begins in prose -/

/-- A sign in the beginning of links has its place in the text, and the rest is looked for behind it. -/
theorem exists_of_afterWordOf? {p : Char} {v r : Text} : ∀ {u t : Text}, afterWordOf? (u ++ p :: v) t = some r →
    ∃ a c rest, t = a ++ c :: rest ∧ isCaseOf p c = true ∧ afterWordOf? v rest = some r
  | [], [], h => by cases h
  | [], c :: t, h => by
    rw [List.nil_append, afterWordOf?] at h
    split at h
    · rename_i hc
      exact ⟨[], c, t, rfl, hc, h⟩
    · cases h
  | _ :: _, [], h => by cases h
  | q :: u, c :: t, h => by
    rw [List.cons_append, afterWordOf?] at h
    split at h
    · obtain ⟨a, d, rest, rfl, hd, hrest⟩ := exists_of_afterWordOf? h
      exact ⟨c :: a, d, rest, rfl, hd, hrest⟩
    · cases h

/-- A sign that is no letter has no other case. -/
theorem eq_of_isCaseOf {p c : Char} (hp : p.toUpper = p) (hs : p ≠ 's') (h : isCaseOf p c = true) : c = p := by
  simpa [isCaseOf, hp, hs] using h

namespace Prose

variable {t : Text}

theorem afterWordOf?_colon (h : Prose t) (u v : Text) : afterWordOf? (u ++ ':' :: v) t = none := by
  rw [Option.eq_none_iff_forall_ne_some]
  intro r hr
  obtain ⟨a, c, rest, rfl, hc, -⟩ := exists_of_afterWordOf? hr
  obtain rfl := eq_of_isCaseOf (by decide) (by decide) hc
  exact h.not_mem (c := ':') (by decide) (by decide) (by decide) (List.mem_append_right _ List.mem_cons_self)

theorem exists_blank_of_afterWordOf? (h : Prose t) {u r : Text} (hr : afterWordOf? (u ++ ['.']) t = some r) :
    ∃ rest, r = ' ' :: rest := by
  obtain ⟨a, c, rest, rfl, hc, hrest⟩ := exists_of_afterWordOf? hr
  obtain rfl := eq_of_isCaseOf (by decide) (by decide) hc
  obtain rfl : rest = r := Option.some.inj hrest
  exact h.behind_stop rfl

theorem linkBegins_eq_false (h : Prose t) : linkBegins t = false := by
  have hhttps : afterWordOf? "https://".toList t = none := h.afterWordOf?_colon "https".toList "//".toList
  have hhttp : afterWordOf? "http://".toList t = none := h.afterWordOf?_colon "http".toList "//".toList
  rw [linkBegins, linkStarts, List.any_cons, List.any_cons, List.any_cons, hhttps, hhttp]
  cases hwww : afterWordOf? "www.".toList t with
  | none => rfl
  | some r =>
    obtain ⟨rest, rfl⟩ := h.exists_blank_of_afterWordOf? (u := "www".toList) hwww
    rfl

theorem hasLink_eq_false (h : Prose t) : hasLink t = false := by
  induction h with
  | nil => rfl
  | char hc ht ih => rw [hasLink, (char hc ht).linkBegins_eq_false, ih]; rfl
  | blank ht ih => rw [hasLink, (blank ht).linkBegins_eq_false, ih]; rfl
  | stop ht ih =>
    rw [hasLink, (stop ht).linkBegins_eq_false, hasLink, (blank ht).linkBegins_eq_false, ih]
    rfl

/-! ## Prose in a summary -/

theorem isDecoration_eq_false (h : Prose t) : isDecoration t = false := by
  have hhash : '#' ∉ t := h.not_mem (by decide) (by decide) (by decide)
  have htilde : '~' ∉ t := h.not_mem (by decide) (by decide) (by decide)
  have hline : '_' ∉ t := h.not_mem (by decide) (by decide) (by decide)
  have hequals : '=' ∉ t := h.not_mem (by decide) (by decide) (by decide)
  have hbar : '▬' ∉ t := h.not_mem (by decide +kernel) (by decide) (by decide)
  have hcontains : t.contains '▬' = false := by simpa using hbar
  rw [isDecoration, hcontains, Bool.or_false]
  cases t with
  | nil => rfl
  | cons c t =>
    simp only [List.mem_cons, not_or] at hhash htilde hline hequals
    simp [Ne.symm hhash.1, Ne.symm htilde.1, Ne.symm hline.1, Ne.symm hequals.1]

/-- A colon is not at the end of prose. -/
theorem endSentence_eq (h : Prose t) : endSentence t = t := by
  have hno : ':' ∉ t := h.not_mem (by decide) (by decide) (by decide)
  rw [endSentence, if_neg]
  rw [Text.endsWith, beq_iff_eq]
  exact fun hlast => hno (List.mem_of_getLast? hlast)

end Prose

/-- **Prose goes into a summary as it is.** -/
theorem summarize_of_prose {b : Block} (hb : b.kind = .text) (ht : Prose (plainText b)) (least greatest : Int) :
    summarize [] least greatest [b] = plainText b := by
  have hoffered : offeredText b = plainText b := by rw [offeredText, ht.hasLink_eq_false]; rfl
  have hc : contribution [] b = .text (plainText b) := by
    rw [contribution_none rfl, hoffered, ht.hasLink_eq_false, ht.isDecoration_eq_false, hb]
    rfl
  have hsummary : summaryFrom [] least greatest .start [] [b] = plainText b := by
    rw [summaryFrom]
    simp [hb, hc, Progress.admits, joinSummary, summaryFrom]
  rw [summarize, hsummary, ht.endSentence_eq]

/-! ## What is left of phrases -/

theorem eraseBrackets_of_not_mem {t : Text} (h : '[' ∉ t) : eraseBrackets t = t := by
  rw [eraseBrackets, Text.cut?_of_not_mem h]

/-- Brackets are taken out from the first opening one to the last closing one. -/
theorem eraseBrackets_eq {a inside b : Text} (ha : '[' ∉ a) (hb : ']' ∉ b) (hne : inside ≠ []) :
    eraseBrackets (a ++ '[' :: (inside ++ ']' :: b)) = a ++ b := by
  have hback : (inside ++ ']' :: b).reverse = b.reverse ++ ']' :: inside.reverse := by simp
  rw [eraseBrackets, Text.cut?_append_cons _ ha]
  dsimp only
  rw [hback, Text.cut?_append_cons _ (by simpa using hb)]
  simp [hne]

theorem eraseRules_eq_self {t : Text} (h : '_' ∉ t) : eraseRules t = t := by
  have hkeep : ∀ run ∈ t.splitBy fun a b => (a == '_') == (b == '_'),
      (!(run.head? == some '_' && 2 ≤ run.length)) = true := by
    intro run hrun
    have hno : run.head? ≠ some '_' := fun hhead => by
      have hmem : '_' ∈ (t.splitBy fun a b => (a == '_') == (b == '_')).flatten :=
        List.mem_flatten.mpr ⟨run, hrun, List.mem_of_head? hhead⟩
      rw [List.flatten_splitBy] at hmem
      exact h hmem
    simp [hno]
  rw [eraseRules, List.filter_eq_self.mpr hkeep, List.flatten_splitBy]

section Phrases

variable {ps : List Phrase} (hps : ∀ p ∈ ps, p.Lawful)
include hps

/-- The characters of phrases. -/
theorem not_mem_textOf {c : Char} (hc : Text.isAlphanumeric c = false) (hsigns : c ∉ [' ', '.', '[', ']']) :
    c ∉ textOf ps := by
  simp only [List.mem_cons, List.not_mem_nil, or_false, not_or] at hsigns
  obtain ⟨hblank, hstop, hopen, hclose⟩ := hsigns
  have hword : ∀ {w : Text}, (∀ d ∈ w, Text.isAlphanumeric d = true) → c ∉ w := fun hw hmem => by
    cases hc.symm.trans (hw c hmem)
  rw [textOf, List.mem_flatMap]
  rintro ⟨p, hp, hmem⟩
  have hlawful := hps p hp
  cases p with
  | word w => exact hword hlawful hmem
  | blank => exact hblank (List.mem_singleton.mp hmem)
  | stop => simp [Phrase.text, hblank, hstop] at hmem
  | reference x => simp [Phrase.text, hopen, hclose, hword hlawful.2] at hmem

theorem prose_sides : Prose (textOf (proseBefore ps)) ∧ Prose (textOf (proseBehind ps)) := by
  have hmem : ∀ {qs : List Phrase}, qs ⊆ ps → (∀ p ∈ qs, p.isProse = true) → Prose (textOf qs) := fun hsub hqs =>
    Prose.of_phrases (fun p hp => hps p (hsub hp)) hqs
  have hall := parts_append ps
  refine ⟨hmem (fun p hp => ?_) isProse_of_mem_proseBefore, hmem (fun p hp => ?_) isProse_of_mem_proseBehind⟩
  · exact hall ▸ List.mem_append_left _ hp
  · exact hall ▸ List.mem_append_right _ (List.mem_append_right _ hp)

/-- Of phrases with references, those from the first to the last one are taken out. -/
theorem eraseBrackets_textOf : eraseBrackets (textOf ps) = textOf (proseBefore ps) ++ textOf (proseBehind ps) := by
  obtain ⟨hbefore, hbehind⟩ := prose_sides hps
  have htext : textOf ps = textOf (proseBefore ps) ++ (textOf (referenceSpan ps) ++ textOf (proseBehind ps)) := by
    rw [← textOf_append, ← textOf_append, parts_append]
  rw [htext]
  by_cases hspan : referenceSpan ps = []
  · rw [hspan]
    exact eraseBrackets_of_not_mem ((hbefore.append hbehind).not_mem (by decide) (by decide) (by decide))
  · obtain ⟨inside, hne, hinside⟩ := exists_referenceSpan hps hspan
    rw [hinside, List.cons_append, List.append_assoc, List.singleton_append]
    exact eraseBrackets_eq (hbefore.not_mem (by decide) (by decide) (by decide))
      (hbehind.not_mem (by decide) (by decide) (by decide)) hne

/-- **The summary of phrases** is what stands in front of the first reference and behind the last one. -/
theorem summarize_phrases {b : Block} (hb : b.kind = .text) (ht : b.text = textOf ps) (least greatest : Int) :
    summarize [] least greatest [b] = textOf (proseBefore ps) ++ textOf (proseBehind ps) := by
  obtain ⟨hbefore, hbehind⟩ := prose_sides hps
  have hprose := hbefore.append hbehind
  have hnewline : (textOf ps).filter (· != '\n') = textOf ps := by
    refine List.filter_eq_self.mpr fun c hc => bne_iff_ne.mpr ?_
    rintro rfl
    exact not_mem_textOf hps (by decide) (by decide) hc
  have hplain : plainText b = textOf (proseBefore ps) ++ textOf (proseBehind ps) := by
    rw [plainText, ht, hnewline, erase_of_not_mem (not_mem_textOf hps (by decide) (by decide)),
      eraseBrackets_textOf hps, eraseRules_eq_self (hprose.not_mem (by decide) (by decide) (by decide))]
  rw [summarize_of_prose hb (hplain ▸ hprose), hplain]

/-- **What a summary keeps of phrases**: it has what stands in front of the first reference and behind the last one,
hence all the prose just if nothing but white space stands between the references. -/
theorem bare_summarize_iff {b : Block} (hb : b.kind = .text) (ht : b.text = textOf ps) (least greatest : Int) :
    summarize [] least greatest [b] = textOf (proseBefore ps) ++ textOf (proseBehind ps) ∧
      (bare (summarize [] least greatest [b]) = bare (textOf (prose ps)) ↔
        isBlank (textOf (prose (referenceSpan ps))) = true) := by
  have hsummary := summarize_phrases hps hb ht least greatest
  refine ⟨hsummary, ?_⟩
  rw [hsummary, prose_eq, textOf_append, textOf_append, Text.bare_append, Text.bare_append, Text.bare_append,
    List.append_cancel_left_eq, ← Text.bare_eq_nil_iff]
  exact List.self_eq_append_left

end Phrases

/-- A text with two references side by side. -/
theorem bare_summarize_iff_side_by_side :
    let ps : List Phrase := [.word "See".toList, .blank, .reference "1".toList, .blank, .reference "2".toList, .stop,
      .word "More".toList]
    let b : Block := ⟨"p", .text, false, textOf ps, none, .block, false⟩
    (∀ p ∈ ps, p.Lawful) ∧ b.text = "See [1] [2]. More".toList ∧ summarize [] 100 400 [b] = "See . More".toList ∧
      bare (summarize [] 100 400 [b]) = bare (textOf (prose ps)) := by
  intro ps b
  have hps : ∀ p ∈ ps, p.Lawful := by decide
  obtain ⟨hsummary, hiff⟩ := bare_summarize_iff hps (b := b) rfl rfl 100 400
  exact ⟨hps, by decide, hsummary.trans (by decide), hiff.mpr (by decide)⟩

/-- A word between two references is lost. -/
theorem summarize_between_references :
    ¬ ∀ (ps : List Phrase) (b : Block) (least greatest : Int), (∀ p ∈ ps, p.Lawful) → b.kind = .text →
    b.text = textOf ps →
      bare (summarize [] least greatest [b]) = bare (textOf (prose ps)) := by
  intro h
  let ps : List Phrase := [.word "a".toList, .blank, .reference "1".toList, .blank, .word "b".toList, .blank,
    .reference "2".toList, .blank, .word "c".toList]
  have hps : ∀ p ∈ ps, p.Lawful := by decide
  exact absurd (h ps ⟨"p", .text, false, textOf ps, none, .block, false⟩ 100 400 hps rfl rfl) (by decide)

end Excerpt.Body
