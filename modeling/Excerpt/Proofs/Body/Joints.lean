import Excerpt.Proofs.Body.Parts

/-!
# Joints of cleaned texts

A text put together from two is cleaned as the two by themselves, but for the white space between them: what is left of
that depends on what it is and on the characters around it (`gap`, `clean_append`). Inside the texts nothing changes,
since a step of the cleaning passes on no more than what the last character was (`tightenFrom_front`,
`singleBlanksFrom_front`).
-/

namespace Excerpt.Body

open Text (isBlank isSpace isWord trim)

/-- The steps of the cleaning but for the trimming. -/
def neat (t : Text) : Text :=
  singleBlanks (tighten (evenBlanks t))

/-- The text of a leaf of one line, trimmed and cleaned. -/
def clean (t : Text) : Text :=
  cleanText (trim t)

/-- What cleaning leaves of white space between two texts; `closing` says that a word is in front of it and a closing
mark behind. -/
def gap (closing : Bool) (s : Text) : Text :=
  if closing && (evenBlanks s).all (· == ' ') then [] else singleBlanks (evenBlanks s)

theorem mem_of_mem_clean {c : Char} {t : Text} (hc : c ≠ ' ') (h : c ∈ clean t) : c ∈ t :=
  Text.mem_of_mem_trim (mem_of_mem_cleanText hc h)

/-! ## Behind a character that is no blank -/

section Front

variable {c : Char} {x : Text}

theorem closes_front (hc : c ≠ ' ') (u x : Text) : closes (u ++ c :: x) = closes (u ++ [c]) := by
  rw [closes, closes, afterBlanks, List.dropWhile_append, List.dropWhile_append]
  split
  · rw [List.dropWhile_cons_of_neg (by simpa using hc), List.dropWhile_cons_of_neg (by simpa using hc)]
    rfl
  · cases h : List.dropWhile (· == ' ') u with
    | nil => simp_all
    | cons d u => rfl

theorem tightenFrom_front (hc : c ≠ ' ') (x : Text) : ∀ (w : Bool) (u : Text),
    tightenFrom w (u ++ c :: x) = tightenFrom w (u ++ [c]) ++ tightenFrom (isWord c) x
  | w, [] => by
    rw [List.nil_append, List.nil_append, tightenFrom, tightenFrom, if_neg hc, if_neg hc]
    rfl
  | w, d :: u => by
    rw [List.cons_append, List.cons_append, tightenFrom, tightenFrom, closes_front hc, tightenFrom_front hc x true u,
      tightenFrom_front hc x false u, tightenFrom_front hc x (isWord d) u]
    split
    · split <;> rfl
    · rfl

theorem singleBlanksFrom_front (hc : c ≠ ' ') (x : Text) : ∀ (r : Bool) (u : Text),
    singleBlanksFrom r (u ++ c :: x) = singleBlanksFrom r (u ++ [c]) ++ singleBlanksFrom false x
  | r, [] => by
    rw [List.nil_append, List.nil_append, singleBlanksFrom, singleBlanksFrom, if_neg hc, if_neg hc]
    rfl
  | r, d :: u => by
    rw [List.cons_append, List.cons_append, singleBlanksFrom, singleBlanksFrom, singleBlanksFrom_front hc x true u,
      singleBlanksFrom_front hc x false u]
    split
    · split <;> rfl
    · rfl

theorem exists_tightenFrom_last (hc : c ≠ ' ') : ∀ (w : Bool) (u : Text), ∃ u', tightenFrom w (u ++ [c]) = u' ++ [c]
  | w, [] => ⟨[], by rw [List.nil_append, tightenFrom, if_neg hc]; rfl⟩
  | w, d :: u => by
    obtain ⟨u₁, h₁⟩ := exists_tightenFrom_last hc true u
    obtain ⟨u₂, h₂⟩ := exists_tightenFrom_last hc false u
    obtain ⟨u₃, h₃⟩ := exists_tightenFrom_last hc (isWord d) u
    rw [List.cons_append, tightenFrom, h₁, h₂, h₃]
    split
    · split
      · exact ⟨u₁, rfl⟩
      · exact ⟨' ' :: u₂, rfl⟩
    · exact ⟨d :: u₃, rfl⟩

theorem exists_singleBlanksFrom_last (hc : c ≠ ' ') :
    ∀ (r : Bool) (u : Text), ∃ u', singleBlanksFrom r (u ++ [c]) = u' ++ [c]
  | r, [] => ⟨[], by rw [List.nil_append, singleBlanksFrom, if_neg hc]; rfl⟩
  | r, d :: u => by
    obtain ⟨u₁, h₁⟩ := exists_singleBlanksFrom_last hc true u
    obtain ⟨u₂, h₂⟩ := exists_singleBlanksFrom_last hc false u
    rw [List.cons_append, singleBlanksFrom, h₁, h₂]
    split
    · split
      · exact ⟨u₁, rfl⟩
      · exact ⟨' ' :: u₁, rfl⟩
    · exact ⟨d :: u₂, rfl⟩

end Front

/-! ## White space in front of a character that is no blank -/

section Space

variable {d : Char} {s v : Text}

theorem isWord_of_isSpace {c : Char} (h : isSpace c = true) : isWord c = false := by
  rw [isWord, Bool.or_eq_false_iff]
  constructor
  · rw [beq_eq_false_iff_ne]
    rintro rfl
    cases h
  · rw [← Bool.not_eq_true]
    intro ha
    rw [isSpace_of_isAlphanumeric ha] at h
    cases h

theorem closes_space (hd : d ≠ ' ') (hs : isBlank s = true) :
    closes (s ++ d :: v) = (isClosingMark d && s.all (· == ' ')) := by
  induction s with
  | nil =>
    rw [List.nil_append, closes, afterBlanks, List.dropWhile_cons_of_neg (by simpa using hd)]
    exact (Bool.and_true _).symm
  | cons c s ih =>
    rw [isBlank, List.all_cons, Bool.and_eq_true] at hs
    by_cases hc : c = ' '
    · subst hc
      exact ih hs.2
    · have hmark : isClosingMark c = false := isClosingMark_of_isSpace hs.1
      rw [List.cons_append, closes, afterBlanks, List.dropWhile_cons_of_neg (by simpa using hc), List.all_cons]
      simp [hmark, hc]

theorem tightenFrom_false_space (hs : isBlank s = true) (x : Text) :
    tightenFrom false (s ++ x) = s ++ tightenFrom false x := by
  induction s with
  | nil => rfl
  | cons c s ih =>
    rw [isBlank, List.all_cons, Bool.and_eq_true] at hs
    rw [List.cons_append, tightenFrom, isWord_of_isSpace hs.1, ih hs.2]
    split
    · rename_i hc
      rw [hc]
      rfl
    · rfl

/-- Blanks alone are taken out, if they are between a word and a closing mark. -/
theorem tightenFrom_space (hd : d ≠ ' ') (w : Bool) (hs : isBlank s = true) : tightenFrom w (s ++ d :: v) =
    (if w && isClosingMark d && s.all (· == ' ') then [] else s) ++ tightenFrom false (d :: v) := by
  cases w with
  | false => exact tightenFrom_false_space hs _
  | true =>
    rw [Bool.true_and]
    induction s with
    | nil =>
      rw [List.nil_append, tightenFrom, if_neg hd, tightenFrom, if_neg hd, ite_self]
      rfl
    | cons c s ih =>
      have hall := hs
      rw [isBlank, List.all_cons, Bool.and_eq_true] at hall
      rw [List.cons_append, tightenFrom, closes_space hd hall.2]
      by_cases hc : c = ' '
      · subst hc
        rw [if_pos rfl, ih hall.2, tightenFrom_false_space hall.2, List.all_cons, beq_self_eq_true, Bool.true_and,
          Bool.true_and]
        cases isClosingMark d && s.all (· == ' ') <;> rfl
      · rw [if_neg hc, isWord_of_isSpace hall.1, tightenFrom_false_space hall.2]
        simp [hc]

theorem singleBlanksFrom_space (hd : d ≠ ' ') (v : Text) : ∀ (r : Bool) (s : Text),
    singleBlanksFrom r (s ++ d :: v) = singleBlanksFrom r s ++ singleBlanksFrom false (d :: v)
  | r, [] => by
    rw [List.nil_append, singleBlanksFrom.eq_def r, singleBlanksFrom.eq_def false (d :: v)]
    simp only [if_neg hd]
    rfl
  | r, c :: s => by
    rw [List.cons_append, singleBlanksFrom, singleBlanksFrom, singleBlanksFrom_space hd v true s,
      singleBlanksFrom_space hd v false s]
    split
    · split <;> rfl
    · rfl

end Space

/-! ## Two texts -/

section Two

variable {c d : Char} {s : Text}

theorem ne_blank_of_not_isSpace (h : isSpace c = false) : c ≠ ' ' := by
  rintro rfl
  cases h

theorem evenBlanks_cons_of_not_isSpace (h : isSpace c = false) (t : Text) :
    evenBlanks (c :: t) = c :: evenBlanks t := by
  have hodd : isOddBlank c = false := by
    rw [← Bool.not_eq_true]
    intro ho
    rw [isSpace_of_isOddBlank ho] at h
    cases h
  rw [evenBlanks, List.map_cons, hodd]
  rfl

theorem evenBlanks_append (a b : Text) : evenBlanks (a ++ b) = evenBlanks a ++ evenBlanks b :=
  List.map_append

theorem isBlank_evenBlanks (t : Text) : isBlank (evenBlanks t) = isBlank t := by
  rw [Bool.eq_iff_iff, ← Text.bare_eq_nil_iff, ← Text.bare_eq_nil_iff, evenBlanks, bare_evenBlanks]

/-- Two texts with white space between them: the steps of the cleaning treat each by itself. -/
theorem neat_append (hc : isSpace c = false) (hd : isSpace d = false) (hs : isBlank s = true) (u v : Text) :
    neat (u ++ c :: (s ++ d :: v)) = neat (u ++ [c]) ++ (gap (isWord c && isClosingMark d) s ++ neat (d :: v)) := by
  have hc' := ne_blank_of_not_isSpace hc
  have hd' := ne_blank_of_not_isSpace hd
  have hs' : isBlank (evenBlanks s) = true := by rw [isBlank_evenBlanks, hs]
  obtain ⟨u', hu⟩ := exists_tightenFrom_last hc' false (evenBlanks u)
  have hleft : evenBlanks (u ++ [c]) = evenBlanks u ++ [c] := by
    rw [evenBlanks_append, evenBlanks_cons_of_not_isSpace hc]; rfl
  have hright : evenBlanks (d :: v) = d :: evenBlanks v := evenBlanks_cons_of_not_isSpace hd v
  rw [neat, neat, neat, evenBlanks_append, evenBlanks_cons_of_not_isSpace hc, evenBlanks_append, hleft, hright, tighten,
    tightenFrom_front hc', tightenFrom_space hd' _ hs', tighten, hu, tighten, List.append_assoc, List.singleton_append,
    singleBlanks, singleBlanksFrom_front hc', singleBlanks, singleBlanks]
  congr 1
  obtain ⟨v', hv⟩ : ∃ v', tightenFrom false (d :: evenBlanks v) = d :: v' := ⟨_, by rw [tightenFrom, if_neg hd']⟩
  rw [hv, singleBlanksFrom_space hd', gap]
  congr 1
  split <;> rfl

end Two

/-! ## White space at the ends -/

/-- The white space at the end of one text and at the beginning of the next. -/
def between (u v : Text) : Text :=
  u.rtakeWhile isSpace ++ v.takeWhile isSpace

/-- Whether a word ends the first text, and a closing mark begins the second. -/
def closesWord (u v : Text) : Bool :=
  ((trim u).getLast?.map isWord).getD false && ((trim v).head?.map isClosingMark).getD false

section Ends

variable {t u v : Text} {c d : Char}

theorem trim_eq_self (hd : isSpace d = false) (hc : isSpace c = false) (hfirst : t = d :: v) (hlast : t = u ++ [c]) :
    trim t = t := by
  have hone : Text.trimEnd isSpace [c] = [c] := by rw [Text.trimEnd_cons_of_not hc]; rfl
  rw [trim, Text.trimBy, Text.trimStart, hfirst, List.dropWhile_cons_of_neg (by rw [hd]; exact Bool.false_ne_true),
    ← hfirst, hlast, Text.trimEnd_append_of_ne_nil (by rw [hone]; exact List.cons_ne_nil c []), hone]

/-- A text that is not blank has white space around what begins and ends with other characters. -/
theorem exists_ends (h : isBlank t = false) : ∃ d v u c, isSpace d = false ∧ isSpace c = false ∧ trim t = d :: v ∧
    trim t = u ++ [c] ∧ t = t.takeWhile isSpace ++ (trim t ++ t.rtakeWhile isSpace) := by
  have hne : trim t ≠ [] := fun hnil => by
    rw [Text.trim_eq_nil_iff, h] at hnil
    cases hnil
  obtain ⟨d, v, hfirst⟩ := List.exists_cons_of_ne_nil hne
  obtain ⟨u, c, hlast⟩ := (List.eq_nil_or_concat' (trim t)).resolve_left hne
  have hd : isSpace d = false := Text.isSpace_of_head?_trim (by rw [hfirst]; rfl)
  have hc : isSpace c = false := Text.isSpace_of_getLast?_trim (by rw [hlast, List.getLast?_concat])
  obtain ⟨a, b, ha, hb, ht⟩ := Text.exists_trim t
  have hfront : t.takeWhile isSpace = a := by
    rw [ht, hfirst, List.takeWhile_append_of_pos (List.all_eq_true.mp ha), List.cons_append,
      List.takeWhile_cons_of_neg (by rw [hd]; exact Bool.false_ne_true), List.append_nil]
  have hback : t.rtakeWhile isSpace = b := by
    have hall : ∀ c ∈ b.reverse, isSpace c = true := fun c hmem => List.all_eq_true.mp hb c (List.mem_reverse.mp hmem)
    rw [ht, hlast, List.rtakeWhile]
    simp only [List.reverse_append, List.reverse_cons, List.nil_append, List.append_assoc, List.cons_append]
    rw [List.takeWhile_append_of_pos hall, List.takeWhile_cons_of_neg (by rw [hc]; exact Bool.false_ne_true),
      List.append_nil, List.reverse_reverse]
  exact ⟨d, v, u, c, hd, hc, hfirst, hlast, by rw [hfront, hback, ← ht]⟩

theorem isBlank_rtakeWhile (t : Text) : isBlank (t.rtakeWhile isSpace) = true :=
  List.all_eq_true.mpr fun _ h => List.mem_rtakeWhile_imp h

theorem isBlank_between (u v : Text) : isBlank (between u v) = true := by
  rw [between, Text.isBlank_append, isBlank_rtakeWhile, Bool.true_and]
  exact List.all_takeWhile

/-- Texts that are not blank are trimmed at the outer ends only. -/
theorem trim_append_between (hu : isBlank u = false) (hv : isBlank v = false) :
    trim (u ++ v) = trim u ++ (between u v ++ trim v) := by
  obtain ⟨d, x, -, -, hd, -, hfirst, -, hut⟩ := exists_ends hu
  obtain ⟨-, -, y, c, -, hc, -, hlast, hvt⟩ := exists_ends hv
  have hwhole : u ++ v = u.takeWhile isSpace ++ ((trim u ++ (between u v ++ trim v)) ++ v.rtakeWhile isSpace) := by
    conv_lhs => rw [hut, hvt]
    simp only [between, List.append_assoc]
  rw [hwhole, Text.trim_blank_append List.all_takeWhile, Text.trim_append_blank (isBlank_rtakeWhile v)]
  refine trim_eq_self hd hc (u := trim u ++ (between u v ++ y)) (v := x ++ (between u v ++ trim v)) ?_ ?_
  · rw [hfirst]
    rfl
  · rw [hlast]
    simp only [List.append_assoc]

/-- The cleaned text begins as the text does, and nothing is left to trim. -/
theorem clean_eq_neat (h : isBlank t = false) : clean t = neat (trim t) ∧ (clean t).head? = (trim t).head? := by
  obtain ⟨d, v, u, c, hd, hc, hfirst, hlast, -⟩ := exists_ends h
  have hstart : ∃ v', neat (trim t) = d :: v' := by
    rw [hfirst, neat, evenBlanks_cons_of_not_isSpace hd, tighten, tightenFrom,
      if_neg (ne_blank_of_not_isSpace hd), singleBlanks, singleBlanksFrom, if_neg (ne_blank_of_not_isSpace hd)]
    exact ⟨_, rfl⟩
  have hend : ∃ u', neat (trim t) = u' ++ [c] := by
    obtain ⟨u', hu'⟩ := exists_tightenFrom_last (ne_blank_of_not_isSpace hc) false (evenBlanks u)
    rw [hlast, neat, evenBlanks_append, evenBlanks_cons_of_not_isSpace hc, tighten,
      show evenBlanks [] = [] from rfl, hu', singleBlanks]
    exact exists_singleBlanksFrom_last (ne_blank_of_not_isSpace hc) false u'
  obtain ⟨v', hstart⟩ := hstart
  obtain ⟨u', hend⟩ := hend
  have hclean : clean t = neat (trim t) := trim_eq_self hd hc hstart hend
  refine ⟨hclean, ?_⟩
  rw [hclean, hstart, hfirst]
  rfl

/-- **Texts one behind the other are cleaned one by one**, but for the white space between them. -/
theorem clean_append (hu : isBlank u = false) (hv : isBlank v = false) :
    clean (u ++ v) = clean u ++ (gap (closesWord u v) (between u v) ++ clean v) := by
  have huv : isBlank (u ++ v) = false := by rw [Text.isBlank_append, hu, Bool.false_and]
  obtain ⟨-, -, x, c, -, hc, -, hlast, -⟩ := exists_ends hu
  obtain ⟨d, y, -, -, hd, -, hfirst, -, -⟩ := exists_ends hv
  have hword : closesWord u v = (isWord c && isClosingMark d) := by
    rw [closesWord, hlast, hfirst, List.getLast?_concat]
    rfl
  rw [(clean_eq_neat huv).1, (clean_eq_neat hu).1, (clean_eq_neat hv).1, trim_append_between hu hv, hword,
    hlast, hfirst, List.append_assoc, List.singleton_append, neat_append hc hd (isBlank_between u v)]

end Ends

/-! ## What is left between -/

/-- Blanks of all widths. -/
def isAnyBlank (c : Char) : Bool :=
  c == ' ' || isOddBlank c

/-- Texts that are not blank meet as in one text: between them there are blanks if the second begins with a letter or
digit, and nothing, or blanks between a word and a closing mark, otherwise. -/
def Meets (u v : Text) : Prop :=
  isBlank u = false ∧ isBlank v = false ∧
    if ((trim v).head?.map Text.isAlphanumeric).getD false = true then
      between u v ≠ [] ∧ (between u v).all isAnyBlank = true
    else between u v = [] ∨ closesWord u v = true ∧ (between u v).all isAnyBlank = true

instance (u v : Text) : Decidable (Meets u v) :=
  inferInstanceAs (Decidable (isBlank u = false ∧ isBlank v = false ∧
    if ((trim v).head?.map Text.isAlphanumeric).getD false = true then
      between u v ≠ [] ∧ (between u v).all isAnyBlank = true
    else between u v = [] ∨ closesWord u v = true ∧ (between u v).all isAnyBlank = true))

section Gap

variable {s t : Text}

theorem all_evenBlanks (s : Text) : (evenBlanks s).all (· == ' ') = s.all isAnyBlank := by
  rw [evenBlanks, List.all_map]
  congr 1
  funext c
  simp only [Function.comp, isAnyBlank]
  cases isOddBlank c <;> simp

theorem singleBlanksFrom_all_blank : ∀ {t : Text}, t.all (· == ' ') = true → singleBlanksFrom true t = []
  | [], _ => rfl
  | c :: t, h => by
    rw [List.all_cons, Bool.and_eq_true, beq_iff_eq] at h
    rw [singleBlanksFrom, if_pos h.1, if_pos rfl, singleBlanksFrom_all_blank h.2]

theorem all_blank_of_singleBlanksFrom : ∀ {r : Bool} {t : Text}, (singleBlanksFrom r t).all (· == ' ') = true →
    t.all (· == ' ') = true
  | _, [], _ => rfl
  | r, c :: t, h => by
    rw [singleBlanksFrom] at h
    split at h
    · rename_i hc
      rw [List.all_cons, hc, beq_self_eq_true, Bool.true_and]
      split at h
      · exact all_blank_of_singleBlanksFrom h
      · rw [List.all_cons, Bool.and_eq_true] at h
        exact all_blank_of_singleBlanksFrom h.2
    · rename_i hc
      rw [List.all_cons, Bool.and_eq_true, beq_iff_eq] at h
      exact (hc h.1).elim

theorem singleBlanks_eq_nil_iff : singleBlanks t = [] ↔ t = [] := by
  cases t with
  | nil => exact iff_of_true rfl rfl
  | cons c t =>
    rw [singleBlanks, singleBlanksFrom]
    split <;> simp

theorem singleBlanks_eq_blank_iff : singleBlanks t = [' '] ↔ t ≠ [] ∧ t.all (· == ' ') = true := by
  constructor
  · intro h
    refine ⟨?_, all_blank_of_singleBlanksFrom (r := false) ?_⟩
    · rintro rfl
      cases h
    · rw [← singleBlanks, h]
      rfl
  · rintro ⟨hne, hall⟩
    obtain ⟨c, t, rfl⟩ := List.exists_cons_of_ne_nil hne
    rw [List.all_cons, Bool.and_eq_true, beq_iff_eq] at hall
    rw [singleBlanks, singleBlanksFrom, if_pos hall.1, if_neg Bool.false_ne_true, singleBlanksFrom_all_blank hall.2]

theorem evenBlanks_eq_nil_iff : evenBlanks s = [] ↔ s = [] :=
  List.map_eq_nil_iff

theorem gap_eq_nil_iff {closing : Bool} : gap closing s = [] ↔ s = [] ∨ closing = true ∧ s.all isAnyBlank = true := by
  rw [gap, all_evenBlanks]
  cases hall : closing && s.all isAnyBlank with
  | true => simp_all
  | false =>
    rw [if_neg Bool.false_ne_true, singleBlanks_eq_nil_iff, evenBlanks_eq_nil_iff, ← Bool.and_eq_true, hall]
    simp

theorem gap_eq_blank_iff : gap false s = [' '] ↔ s ≠ [] ∧ s.all isAnyBlank = true := by
  rw [gap, Bool.false_and, if_neg Bool.false_ne_true, singleBlanks_eq_blank_iff, all_evenBlanks, ne_eq,
    evenBlanks_eq_nil_iff]

/-- Between texts that meet, cleaning them together leaves what is put between them one by one. -/
theorem gap_eq_joint_iff {u v : Text} (hu : isBlank u = false) (hv : isBlank v = false) :
    gap (closesWord u v) (between u v) = joint true (clean v) ↔ Meets u v := by
  rw [Meets, hu, hv, joint, (clean_eq_neat hv).2, Bool.true_and]
  cases halnum : ((trim v).head?.map Text.isAlphanumeric).getD false with
  | true =>
    have hno : closesWord u v = false := by
      rw [closesWord, Bool.and_eq_false_iff]
      right
      cases hhead : (trim v).head? with
      | none => rfl
      | some d =>
        rw [hhead] at halnum
        have hd : Text.isAlphanumeric d = true := halnum
        refine Bool.eq_false_iff.mpr fun hm => ?_
        rcases isClosingMark_iff.mp hm with rfl | rfl | rfl <;> cases hd
    rw [hno, if_pos rfl, if_pos rfl, gap_eq_blank_iff]
    simp
  | false =>
    rw [if_neg Bool.false_ne_true, if_neg Bool.false_ne_true, gap_eq_nil_iff]
    simp

end Gap

/-! ## Texts one by one and as one -/

section Chain

variable {t u v : Text}

/-- White space in front of texts that begin with other characters can be told from them. -/
theorem append_inj_of_isBlank {a a' x x' : Text} (ha : isBlank a = true) (ha' : isBlank a' = true)
    (hx : ∃ c, x.head? = some c ∧ isSpace c = false) (hx' : ∃ c, x'.head? = some c ∧ isSpace c = false) :
    a ++ x = a' ++ x' ↔ a = a' ∧ x = x' := by
  refine ⟨fun h => ?_, fun h => by rw [h.1, h.2]⟩
  have htake : ∀ {a x : Text}, isBlank a = true → (∃ c, x.head? = some c ∧ isSpace c = false) →
      (a ++ x).takeWhile isSpace = a := by
    rintro a x ha ⟨c, hhead, hc⟩
    obtain ⟨y, rfl⟩ : ∃ y, x = c :: y := by
      cases x with
      | nil => cases hhead
      | cons d y => exact ⟨y, by rw [Option.some.inj hhead]⟩
    rw [List.takeWhile_append_of_pos (List.all_eq_true.mp ha), List.takeWhile_cons_of_neg (by rw [hc]; decide),
      List.append_nil]
  have hfront : a = a' := by rw [← htake ha hx, h, htake ha' hx']
  rw [hfront] at h
  exact ⟨hfront, List.append_cancel_left h⟩

theorem isBlank_gap {closing : Bool} {s : Text} (h : isBlank s = true) : isBlank (gap closing s) = true := by
  rw [gap]
  split
  · rfl
  · rw [← isBlank_evenBlanks] at h
    exact List.all_eq_true.mpr fun c hc => List.all_eq_true.mp h c ((singleBlanksFrom_sublist false _).subset hc)

theorem isBlank_joint (spaced : Bool) (t : Text) : isBlank (joint spaced t) = true := by
  rw [joint]
  split <;> rfl

theorem exists_head_clean (h : isBlank t = false) : ∃ c, (clean t).head? = some c ∧ isSpace c = false := by
  obtain ⟨d, x, -, -, hd, -, hfirst, -, -⟩ := exists_ends h
  refine ⟨d, ?_, hd⟩
  rw [(clean_eq_neat h).2, hfirst]
  rfl

/-- What comes behind the second text does not tell how it meets the first. -/
theorem meets_append (hv : isBlank v = false) (r : Text) :
    between u (v ++ r) = between u v ∧ closesWord u (v ++ r) = closesWord u v := by
  obtain ⟨d, x, -, -, hd, -, hfirst, -, hvt⟩ := exists_ends hv
  have hblank : ∀ c ∈ v.takeWhile isSpace, isSpace c = true := List.all_eq_true.mp List.all_takeWhile
  have hvr : v ++ r = v.takeWhile isSpace ++ d :: (x ++ (v.rtakeWhile isSpace ++ r)) := by
    conv_lhs => rw [hvt, hfirst]
    simp only [List.append_assoc, List.cons_append]
  have htake : (v ++ r).takeWhile isSpace = v.takeWhile isSpace := by
    rw [hvr, List.takeWhile_append_of_pos hblank, List.takeWhile_cons_of_neg (by rw [hd]; exact Bool.false_ne_true),
      List.append_nil]
  have hhead : (trim (v ++ r)).head? = (trim v).head? := by
    have hb : isBlank (v ++ r) = false := by rw [Text.isBlank_append, hv, Bool.false_and]
    obtain ⟨e, y, -, -, -, -, hwhole, -, hvrt⟩ := exists_ends hb
    rw [htake, hwhole, hvr] at hvrt
    rw [hwhole, hfirst, (List.cons.inj (List.append_cancel_left hvrt)).1]
    rfl
  rw [between, between, closesWord, closesWord, htake, hhead]
  exact ⟨rfl, rfl⟩

/-- **Texts one by one and as one**: they are cleaned to the same text just if they meet. -/
theorem clean_flatten_iff : ∀ {us : List Text} {u : Text}, isBlank u = false → (∀ t ∈ us, isBlank t = false) →
    (clean (u :: us).flatten = clean u ++ (us.flatMap fun t => joint true (clean t) ++ clean t) ↔
    (u :: us).IsChain Meets)
  | [], u, _, _ => by simp
  | v :: us, u, hu, hus => by
    rw [List.forall_mem_cons] at hus
    obtain ⟨hbetween, hcloses⟩ := meets_append (u := u) hus.1 us.flatten
    have hrest : isBlank (v :: us).flatten = false := by
      rw [List.flatten_cons, Text.isBlank_append, hus.1, Bool.false_and]
    have hhead : ∃ c, (clean v ++ us.flatMap fun t => joint true (clean t) ++ clean t).head? = some c ∧
        isSpace c = false := by
      obtain ⟨c, hc, hspace⟩ := exists_head_clean hus.1
      exact ⟨c, by rw [List.head?_append, hc]; rfl, hspace⟩
    have hgap : isBlank (gap (closesWord u v) (between u v)) = true := isBlank_gap (isBlank_between u v)
    have hsplit : clean (u :: v :: us).flatten =
        clean u ++ (gap (closesWord u v) (between u v) ++ clean (v :: us).flatten) := by
      rw [List.flatten_cons, clean_append hu hrest, List.flatten_cons, hbetween, hcloses]
    rw [hsplit, List.flatMap_cons, List.append_assoc, List.append_right_inj,
      append_inj_of_isBlank hgap (isBlank_joint _ _) (exists_head_clean hrest) hhead, gap_eq_joint_iff hu hus.1,
      clean_flatten_iff hus.1 hus.2, List.isChain_cons_cons]

end Chain

end Excerpt.Body
