import Mathlib.Data.List.TakeDrop
import Mathlib.Data.List.TakeWhile
import Excerpt.Proofs.Text.Trim
import Excerpt.Template

/-!
# What templates mean

`Template.Reads` reads a template from left to right in one go: `$` and all digits behind it are a group, `$` and the
name of a property in braces are its value, and every other character is itself. Every template has exactly one reading
(`exists_reads`, `Reads.unique`).

A template is written as a replacement in three passes over its text. Each pass leaves alone what the ones before have
written: doubled backslashes hold no `$`, and neither does `\g<digits>`; and a name in braces is there after the first
two passes exactly if it was there before (`braced?_grouped`). So the parts of the replacement are those of the reading
(`read?_escaped`).
-/

namespace Excerpt.Template

/-! ## Readings -/

/-- A property name: word characters and hyphens, at least one. -/
def IsName (name : Text) : Prop :=
  name ≠ [] ∧ ∀ c ∈ name, isNameChar c = true

/-- A group or a property is named at the start of a text: `$` and a digit, or `$` and the name of a property in
braces. -/
def Refers (props : Properties) (t : Text) : Prop :=
  (∃ d r, t = '$' :: d :: r ∧ Text.isDecimal d = true) ∨
    ∃ name value r, t = '$' :: '\x7b' :: (name ++ '\x7d' :: r) ∧ IsName name ∧ props.lookup name = some value

/-- What a template reads as, from left to right. -/
inductive Reads (props : Properties) : Text → List Part → Prop
  | nil : Reads props [] []
  | group {ds rest : Text} {parts : List Part} (hne : ds ≠ []) (hds : ∀ d ∈ ds, Text.isDecimal d = true)
      (hrest : digitFirst rest = false) (h : Reads props rest parts) :
        Reads props ('$' :: (ds ++ rest)) (.group ds :: parts)
  | property {name value rest : Text} {parts : List Part} (hname : IsName name)
      (hvalue : props.lookup name = some value)
      (h : Reads props rest parts) :
      Reads props ('$' :: '\x7b' :: (name ++ '\x7d' :: rest)) (value.map .char ++ parts)
  | char {c : Char} {rest : Text} {parts : List Part} (hc : ¬ Refers props (c :: rest)) (h : Reads props rest parts) :
      Reads props (c :: rest) (.char c :: parts)

/-- The digits at the start of a text. -/
theorem takeWhile_digits {ds rest : Text} (hds : ∀ d ∈ ds, Text.isDecimal d = true) (hrest : digitFirst rest = false) :
    (ds ++ rest).takeWhile Text.isDecimal = ds := by
  rw [List.takeWhile_append_of_pos hds]
  cases rest with
  | nil => rw [List.takeWhile_nil, List.append_nil]
  | cons d r => rw [List.takeWhile_cons_of_neg (by simpa [digitFirst] using hrest), List.append_nil]

theorem takeWhile_name {name r : Text} (hname : ∀ c ∈ name, isNameChar c = true) :
    (name ++ '\x7d' :: r).takeWhile isNameChar = name := by
  rw [List.takeWhile_append_of_pos hname, List.takeWhile_cons_of_neg (by decide), List.append_nil]

section Unique

variable {props : Properties} {ds name value rest : Text}

theorem refers_group (hne : ds ≠ []) (hds : ∀ d ∈ ds, Text.isDecimal d = true) :
    Refers props ('$' :: (ds ++ rest)) := by
  obtain ⟨d, ds, rfl⟩ := List.exists_cons_of_ne_nil hne
  exact .inl ⟨d, ds ++ rest, rfl, hds d List.mem_cons_self⟩

theorem refers_property (hname : IsName name) (hvalue : props.lookup name = some value) :
    Refers props ('$' :: '\x7b' :: (name ++ '\x7d' :: rest)) :=
  .inr ⟨name, value, rest, rfl, hname, hvalue⟩

/-- Digits are not a brace. -/
theorem digits_ne_brace {r : Text} (hne : ds ≠ []) (hds : ∀ d ∈ ds, Text.isDecimal d = true) :
    ds ++ rest ≠ '\x7b' :: r := by
  obtain ⟨d, ds, rfl⟩ := List.exists_cons_of_ne_nil hne
  intro h
  rw [List.cons_append, List.cons.injEq] at h
  have hd := hds d List.mem_cons_self
  rw [h.1] at hd
  exact absurd hd (by decide)

/-- Digits in front of a text are found again. -/
theorem digits_append_inj {ds' rest' : Text} (h : ds ++ rest = ds' ++ rest') (hds : ∀ d ∈ ds, Text.isDecimal d = true)
    (hrest : digitFirst rest = false) (hds' : ∀ d ∈ ds', Text.isDecimal d = true) (hrest' : digitFirst rest' = false) :
    ds = ds' ∧ rest = rest' := by
  have hsame : ds = ds' := by rw [← takeWhile_digits hds hrest, h, takeWhile_digits hds' hrest']
  subst hsame
  exact ⟨rfl, List.append_cancel_left h⟩

/-- A name in front of a closing brace is found again. -/
theorem name_append_inj {name' rest' : Text} (h : name ++ '\x7d' :: rest = name' ++ '\x7d' :: rest')
    (hname : IsName name)
    (hname' : IsName name') : name = name' ∧ rest = rest' := by
  have hsame : name = name' := by rw [← takeWhile_name (r := rest) hname.2, h, takeWhile_name hname'.2]
  subst hsame
  exact ⟨rfl, (List.cons.inj (List.append_cancel_left h)).2⟩

/-- A template has at most one reading. -/
theorem Reads.unique {t : Text} {parts parts' : List Part} (h : Reads props t parts) (h' : Reads props t parts') :
    parts = parts' := by
  induction h generalizing parts' with
  | nil => cases h'; rfl
  | @group ds rest parts hne hds hrest h ih =>
    generalize ht : '$' :: (ds ++ rest) = t at h'
    cases h' with
    | nil => cases ht
    | group hne' hds' hrest' h' =>
      obtain ⟨rfl, rfl⟩ := digits_append_inj (List.cons.inj ht).2 hds hrest hds' hrest'
      rw [ih h']
    | property hname _ _ => exact absurd (List.cons.inj ht).2 (digits_ne_brace hne hds)
    | char hc _ => exact (hc (ht ▸ refers_group hne hds)).elim
  | @property name value rest parts hname hvalue h ih =>
    generalize ht : '$' :: '\x7b' :: (name ++ '\x7d' :: rest) = t at h'
    cases h' with
    | nil => cases ht
    | group hne' hds' _ _ => exact absurd (List.cons.inj ht).2.symm (digits_ne_brace hne' hds')
    | property hname' hvalue' h' =>
      obtain ⟨rfl, rfl⟩ := name_append_inj (List.cons.inj (List.cons.inj ht).2).2 hname hname'
      rw [ih h', Option.some.inj (hvalue.symm.trans hvalue')]
    | char hc _ => exact (hc (ht ▸ refers_property hname hvalue)).elim
  | @char c rest parts hc h ih =>
    generalize ht : c :: rest = t at h'
    cases h' with
    | nil => cases ht
    | group hne' hds' _ _ => exact (hc (ht ▸ refers_group hne' hds')).elim
    | property hname' hvalue' _ => exact (hc (ht ▸ refers_property hname' hvalue')).elim
    | char _ h' =>
      cases ht
      rw [ih h']

end Unique

/-- Every template has a reading. -/
theorem exists_reads (props : Properties) (t : Text) : ∃ parts, Reads props t parts := by
  induction hn : t.length using Nat.strongRecOn generalizing t with
  | ind n ih =>
    have hshorter : ∀ r : Text, r.length < t.length → ∃ parts, Reads props r parts := fun r hr => ih _ (hn ▸ hr) r rfl
    cases t with
    | nil => exact ⟨[], .nil⟩
    | cons c rest =>
      by_cases hc : Refers props (c :: rest)
      · rcases hc with ⟨d, r, ht, hd⟩ | ⟨name, value, r, ht, hname, hvalue⟩
        · obtain ⟨rfl, rfl⟩ := List.cons.inj ht
          -- All digits behind the dollar sign belong to the group.
          have hsplit := List.takeWhile_append_dropWhile (p := Text.isDecimal) (l := d :: r)
          have hne : (d :: r).takeWhile Text.isDecimal ≠ [] := by
            rw [List.takeWhile_cons_of_pos hd]
            exact List.cons_ne_nil _ _
          have hrest : digitFirst ((d :: r).dropWhile Text.isDecimal) = false := by
            cases hdrop : (d :: r).dropWhile Text.isDecimal with
            | nil => rfl
            | cons e s =>
              have he : Text.isDecimal e = false := Text.not_of_head?_dropWhile (by rw [hdrop]; rfl)
              simpa [digitFirst] using he
          obtain ⟨parts, hparts⟩ := hshorter ((d :: r).dropWhile Text.isDecimal)
            (Nat.lt_succ_of_le (List.dropWhile_sublist _).length_le)
          have hreads := Reads.group hne (fun e he => List.mem_takeWhile_imp he) hrest hparts
          rw [hsplit] at hreads
          exact ⟨_, hreads⟩
        · obtain ⟨rfl, rfl⟩ := List.cons.inj ht
          have hlt : r.length < ('$' :: '\x7b' :: (name ++ '\x7d' :: r)).length := by
            simp only [List.length_cons, List.length_append]
            omega
          obtain ⟨parts, hparts⟩ := hshorter r hlt
          exact ⟨_, .property hname hvalue hparts⟩
      · obtain ⟨parts, hparts⟩ := hshorter rest (Nat.lt_succ_self _)
        exact ⟨_, .char hc hparts⟩

/-! ## The first two passes -/

/-- A template with its backslashes doubled and its groups written. -/
def grouped (t : Text) : Text :=
  groupsFrom false (doubleBackslashes t)

section Grouped

variable {c : Char} {t ds : Text}

theorem doubleBackslashes_cons_of_ne (hc : c ≠ '\\') (t : Text) :
    doubleBackslashes (c :: t) = c :: doubleBackslashes t := by
  simp [doubleBackslashes, Text.replaceChar, hc]

theorem doubleBackslashes_backslash (t : Text) :
    doubleBackslashes ('\\' :: t) = '\\' :: '\\' :: doubleBackslashes t := by
  simp [doubleBackslashes, Text.replaceChar]

theorem digitFirst_doubleBackslashes (t : Text) : digitFirst (doubleBackslashes t) = digitFirst t := by
  cases t with
  | nil => rfl
  | cons c t =>
    by_cases hc : c = '\\'
    · rw [hc, doubleBackslashes_backslash]
      rfl
    · rw [doubleBackslashes_cons_of_ne hc]
      rfl

theorem isDecimal_ne_backslash (h : Text.isDecimal c = true) : c ≠ '\\' := by
  rintro rfl
  exact absurd h (by decide)

theorem doubleBackslashes_digits : ∀ {ds : Text}, (∀ d ∈ ds, Text.isDecimal d = true) → ∀ t : Text,
    doubleBackslashes (ds ++ t) = ds ++ doubleBackslashes t
  | [], _, _ => rfl
  | d :: ds, h, t => by
    rw [List.forall_mem_cons] at h
    rw [List.cons_append, doubleBackslashes_cons_of_ne (isDecimal_ne_backslash h.1), doubleBackslashes_digits h.2,
      List.cons_append]

theorem groupsFrom_cons_of_ne (hc : c ≠ '$') (t : Text) : groupsFrom false (c :: t) = c :: groupsFrom false t := by
  simp [groupsFrom, hc]

theorem groupsFrom_dollar (ht : digitFirst t = false) : groupsFrom false ('$' :: t) = '$' :: groupsFrom false t := by
  simp [groupsFrom, ht]

theorem groupsFrom_dollar_digit (ht : digitFirst t = true) :
    groupsFrom false ('$' :: t) = '\\' :: 'g' :: '<' :: groupsFrom true t := by
  simp [groupsFrom, ht]

/-- The digits of a group are written up to the last one. -/
theorem groupsFrom_digits (ht : digitFirst t = false) : ∀ {ds : Text}, (∀ d ∈ ds, Text.isDecimal d = true) →
    groupsFrom true (ds ++ t) = ds ++ '>' :: groupsFrom false t
  | [], _ => by
    cases t with
    | nil => rfl
    | cons c t =>
      have hc : Text.isDecimal c = false := ht
      simp [groupsFrom, hc]
  | d :: ds, h => by
    rw [List.forall_mem_cons] at h
    rw [List.cons_append, groupsFrom, h.1, Bool.and_self, if_pos rfl, groupsFrom_digits ht h.2, List.cons_append]

theorem grouped_backslash (t : Text) : grouped ('\\' :: t) = '\\' :: '\\' :: grouped t := by
  rw [grouped, doubleBackslashes_backslash, groupsFrom_cons_of_ne (by decide),
    groupsFrom_cons_of_ne (by decide), grouped]

theorem grouped_dollar (ht : digitFirst t = false) : grouped ('$' :: t) = '$' :: grouped t := by
  rw [grouped, doubleBackslashes_cons_of_ne (by decide), groupsFrom_dollar (by rw [digitFirst_doubleBackslashes, ht]),
    grouped]

theorem grouped_cons_of_ne (hescape : c ≠ '\\') (hdollar : c ≠ '$') (t : Text) : grouped (c :: t) = c :: grouped t := by
  rw [grouped, doubleBackslashes_cons_of_ne hescape, groupsFrom_cons_of_ne hdollar, grouped]

theorem grouped_group (hne : ds ≠ []) (hds : ∀ d ∈ ds, Text.isDecimal d = true) (ht : digitFirst t = false) :
    grouped ('$' :: (ds ++ t)) = '\\' :: 'g' :: '<' :: (ds ++ '>' :: grouped t) := by
  have hfirst : digitFirst (ds ++ doubleBackslashes t) = true := by
    obtain ⟨d, ds, rfl⟩ := List.exists_cons_of_ne_nil hne
    exact hds d List.mem_cons_self
  rw [grouped, doubleBackslashes_cons_of_ne (by decide), doubleBackslashes_digits hds, groupsFrom_dollar_digit hfirst,
    groupsFrom_digits (by rw [digitFirst_doubleBackslashes, ht]) hds, grouped]

theorem grouped_append {w : Text} (hw : ∀ c ∈ w, c ≠ '\\' ∧ c ≠ '$') (t : Text) :
    grouped (w ++ t) = w ++ grouped t := by
  induction w with
  | nil => rfl
  | cons c w ih =>
    rw [List.forall_mem_cons] at hw
    rw [List.cons_append, grouped_cons_of_ne hw.1.1 hw.1.2, ih hw.2, List.cons_append]

/-- A character that neither pass writes comes from the same character. -/
theorem of_grouped_eq_cons {u : Text} (hescape : c ≠ '\\') (hdollar : c ≠ '$') (h : grouped t = c :: u) :
    ∃ r, t = c :: r ∧ u = grouped r := by
  cases t with
  | nil => cases h
  | cons d r =>
    by_cases hd : d = '\\'
    · rw [hd, grouped_backslash, List.cons.injEq] at h
      exact (hescape h.1.symm).elim
    by_cases hd' : d = '$'
    · cases hfirst : digitFirst r with
      | false =>
        rw [hd', grouped_dollar hfirst, List.cons.injEq] at h
        exact (hdollar h.1.symm).elim
      | true =>
        rw [hd', grouped, doubleBackslashes_cons_of_ne (by decide),
          groupsFrom_dollar_digit (by rw [digitFirst_doubleBackslashes, hfirst]), List.cons.injEq] at h
        exact (hescape h.1.symm).elim
    · rw [grouped_cons_of_ne hd hd', List.cons.injEq] at h
      exact ⟨r, by rw [h.1], h.2.symm⟩

theorem of_grouped_eq_append {w : Text} (hw : ∀ c ∈ w, c ≠ '\\' ∧ c ≠ '$') {u : Text} (h : grouped t = w ++ u) :
    ∃ r, t = w ++ r ∧ u = grouped r := by
  induction w generalizing t with
  | nil => exact ⟨t, rfl, h.symm⟩
  | cons c w ih =>
    rw [List.forall_mem_cons] at hw
    obtain ⟨r, rfl, hr⟩ := of_grouped_eq_cons hw.1.1 hw.1.2 h
    obtain ⟨r', rfl, hr'⟩ := ih hw.2 hr.symm
    exact ⟨r', rfl, hr'⟩

end Grouped

/-! ## Names in braces -/

section Names

variable {name t : Text}

theorem isNameChar_plain {c : Char} (h : isNameChar c = true) : c ≠ '\\' ∧ c ≠ '$' := by
  constructor <;> rintro rfl <;> exact absurd h (by decide)

/-- A name and its braces hold nothing that the first two passes write. -/
theorem IsName.plain (h : IsName name) : ∀ c ∈ '\x7b' :: (name ++ ['\x7d']), c ≠ '\\' ∧ c ≠ '$' := by
  intro c hc
  rw [List.mem_cons, List.mem_append, List.mem_singleton] at hc
  rcases hc with rfl | hc | rfl
  · decide
  · exact isNameChar_plain (h.2 c hc)
  · decide

theorem braced?_eq_some_iff {rest : Text} :
    braced? t = some (name, rest) ↔ t = '\x7b' :: (name ++ '\x7d' :: rest) ∧ IsName name := by
  constructor
  · intro h
    unfold braced? at h
    split at h
    · rename_i r
      rw [List.span_eq_takeWhile_dropWhile] at h
      split at h
      · rename_i c cs rest' hspan
        cases h
        obtain ⟨htake, hdrop⟩ := Prod.mk.inj hspan
        refine ⟨?_, List.cons_ne_nil _ _, ?_⟩
        · rw [← htake, ← hdrop, List.takeWhile_append_dropWhile]
        · rw [← htake]
          exact fun d hd => List.mem_takeWhile_imp hd
      · cases h
    · cases h
  · rintro ⟨rfl, hne, hname⟩
    obtain ⟨c, cs, rfl⟩ := List.exists_cons_of_ne_nil hne
    have hdrop : ((c :: cs) ++ '\x7d' :: rest).dropWhile isNameChar = '\x7d' :: rest := by
      rw [List.dropWhile_append_of_pos hname, List.dropWhile_cons_of_neg (by decide)]
    rw [braced?, List.span_eq_takeWhile_dropWhile, takeWhile_name hname, hdrop]
    rfl

/-- A name in braces that is there after the first two passes was there before. -/
theorem of_braced?_grouped {u : Text} (h : braced? (grouped t) = some (name, u)) :
    IsName name ∧ ∃ r, t = '\x7b' :: (name ++ '\x7d' :: r) := by
  obtain ⟨ht, hname⟩ := braced?_eq_some_iff.mp h
  have hsplit : grouped t = '\x7b' :: (name ++ ['\x7d']) ++ u := by rw [ht]; simp
  obtain ⟨r, hr, -⟩ := of_grouped_eq_append hname.plain hsplit
  exact ⟨hname, r, by rw [hr]; simp⟩

end Names

/-! ## The third pass -/

section Properties

variable {props : Properties} {c : Char} {name value : Text}

theorem propertiesFrom_skip (props : Properties) : ∀ w t : Text,
    propertiesFrom props w.length (w ++ t) = propertiesFrom props 0 t
  | [], _ => rfl
  | _ :: w, t => propertiesFrom_skip props w t

theorem propertiesFrom_cons_of_ne (hc : c ≠ '$') (t : Text) :
    propertiesFrom props 0 (c :: t) = c :: propertiesFrom props 0 t := by
  simp [propertiesFrom, hc]

theorem propertiesFrom_append {w : Text} (hw : '$' ∉ w) (t : Text) :
    propertiesFrom props 0 (w ++ t) = w ++ propertiesFrom props 0 t := by
  induction w with
  | nil => rfl
  | cons c w ih =>
    rw [List.mem_cons, not_or] at hw
    rw [List.cons_append, propertiesFrom_cons_of_ne (Ne.symm hw.1), ih hw.2, List.cons_append]

/-- A dollar sign and a name in braces stand for a text, with its backslashes doubled. -/
theorem propertiesFrom_braced (hname : IsName name) (t : Text) :
    propertiesFrom props 0 ('$' :: '\x7b' :: (name ++ '\x7d' :: t)) =
      doubleBackslashes (propertyText props name) ++ propertiesFrom props 0 t := by
  have hbraced : braced? ('\x7b' :: (name ++ '\x7d' :: t)) = some (name, t) := braced?_eq_some_iff.mpr ⟨rfl, hname⟩
  have hskip := propertiesFrom_skip props ('\x7b' :: (name ++ ['\x7d'])) t
  rw [propertiesFrom, beq_self_eq_true, if_pos rfl, hbraced]
  simp only [List.length_cons, List.length_append, List.length_nil, List.cons_append, List.append_assoc,
    List.nil_append] at hskip ⊢
  rw [hskip]

theorem propertiesFrom_property (hname : IsName name) (hvalue : props.lookup name = some value) (t : Text) :
    propertiesFrom props 0 ('$' :: '\x7b' :: (name ++ '\x7d' :: t)) =
      doubleBackslashes value ++ propertiesFrom props 0 t := by
  rw [propertiesFrom_braced hname, propertyText, hvalue]

theorem doubleBackslashes_eq_self : ∀ {w : Text}, '\\' ∉ w → doubleBackslashes w = w
  | [], _ => rfl
  | c :: w, h => by
    rw [List.mem_cons, not_or] at h
    rw [doubleBackslashes_cons_of_ne (Ne.symm h.1), doubleBackslashes_eq_self h.2]

/-- A dollar sign stays if no property is named behind it; a name in braces that is none of a property stays as well. -/
theorem propertiesFrom_dollar {t : Text} (h : ∀ name rest, braced? t = some (name, rest) → props.lookup name = none) :
    propertiesFrom props 0 ('$' :: t) = '$' :: propertiesFrom props 0 t := by
  cases hbraced : braced? t with
  | none => simp [propertiesFrom, hbraced]
  | some p =>
    obtain ⟨name, rest⟩ := p
    obtain ⟨rfl, hname⟩ := braced?_eq_some_iff.mp hbraced
    have hplain := hname.plain
    have hdollar : '$' ∉ '\x7b' :: (name ++ ['\x7d']) := fun hmem => (hplain _ hmem).2 rfl
    have hescape : '\\' ∉ '$' :: '\x7b' :: (name ++ ['\x7d']) := by
      rw [List.mem_cons, not_or]
      exact ⟨by decide, fun hmem => (hplain _ hmem).1 rfl⟩
    have htext : propertyText props name = '$' :: '\x7b' :: (name ++ ['\x7d']) := by
      rw [propertyText, h name rest hbraced]
      rfl
    have hsplit : '\x7b' :: (name ++ '\x7d' :: rest) = '\x7b' :: (name ++ ['\x7d']) ++ rest := by simp
    rw [propertiesFrom_braced hname, htext, doubleBackslashes_eq_self hescape, hsplit, propertiesFrom_append hdollar]
    rfl

end Properties

/-! ## Reading what has been written -/

section Reading

variable {count : Nat} {c : Char} {props : Properties} {t ds : Text}

theorem partsFrom?_cons_of_ne (hc : c ≠ '\\') (t : Text) :
    partsFrom? count none (c :: t) = (partsFrom? count none t).map (.char c :: ·) := by
  rw [partsFrom?]
  · exact hc
  · exact fun _ h _ => hc h
  · exact fun _ h _ => hc h

theorem partsFrom?_backslash (t : Text) :
    partsFrom? count none ('\\' :: '\\' :: t) = (partsFrom? count none t).map (.char '\\' :: ·) := by
  rw [partsFrom?]

/-- A text with its backslashes doubled is read as its characters. -/
theorem partsFrom?_doubleBackslashes (w t : Text) : partsFrom? count none (doubleBackslashes w ++ t) =
    (partsFrom? count none t).map (w.map .char ++ ·) := by
  induction w with
  | nil => simp [doubleBackslashes, Text.replaceChar]
  | cons c w ih =>
    by_cases hc : c = '\\'
    · rw [hc, doubleBackslashes_backslash, List.cons_append, List.cons_append, partsFrom?_backslash, ih, Option.map_map]
      rfl
    · rw [doubleBackslashes_cons_of_ne hc, List.cons_append, partsFrom?_cons_of_ne hc, ih, Option.map_map]
      rfl

/-- The digits of a group are read up to the closing angle. -/
theorem partsFrom?_digits : ∀ {ds : Text}, (∀ d ∈ ds, Text.isDecimal d = true) → ∀ done t : Text,
    partsFrom? count (some done) (ds ++ '>' :: t) =
      if namesGroup count (done.reverse ++ ds) then
        (partsFrom? count none t).map (.group (done.reverse ++ ds) :: ·)
      else none
  | [], _, done, t => by
    rw [List.append_nil, List.nil_append, partsFrom?, beq_self_eq_true, if_pos rfl]
  | d :: ds, h, done, t => by
    rw [List.forall_mem_cons] at h
    have hd : (d == '>') = false := by
      rw [beq_eq_false_iff_ne]
      rintro rfl
      exact absurd h.1 (by decide)
    have hdone : (d :: done).reverse ++ ds = done.reverse ++ d :: ds := by simp
    rw [List.cons_append, partsFrom?, hd, ← hdone, ← partsFrom?_digits h.2]
    rfl

/-- The part is a character, or names a group that is there. -/
def Part.isNamed (count : Nat) : Part → Bool
  | .char _ => true
  | .group ds => namesGroup count ds

theorem escaped_cons_of_ne (hescape : c ≠ '\\') (hdollar : c ≠ '$') (t : Text) :
    escaped (c :: t) props = c :: escaped t props := by
  rw [escaped, ← grouped, grouped_cons_of_ne hescape hdollar, propertiesFrom_cons_of_ne hdollar]
  rfl

theorem escaped_backslash (t : Text) : escaped ('\\' :: t) props = '\\' :: '\\' :: escaped t props := by
  rw [escaped, ← grouped, grouped_backslash, propertiesFrom_cons_of_ne (by decide),
    propertiesFrom_cons_of_ne (by decide)]
  rfl

theorem escaped_dollar (ht : ¬ Refers props ('$' :: t)) : escaped ('$' :: t) props = '$' :: escaped t props := by
  have hfirst : digitFirst t = false := by
    cases t with
    | nil => rfl
    | cons d r =>
      rw [digitFirst, ← Bool.not_eq_true]
      exact fun hd => ht (.inl ⟨d, r, rfl, hd⟩)
  rw [escaped, ← grouped, grouped_dollar hfirst, propertiesFrom_dollar]
  · rfl
  · intro name rest hbraced
    obtain ⟨hname, r, rfl⟩ := of_braced?_grouped hbraced
    rw [Option.eq_none_iff_forall_ne_some]
    exact fun value hvalue => ht (.inr ⟨name, value, r, rfl, hname, hvalue⟩)

theorem escaped_group (hne : ds ≠ []) (hds : ∀ d ∈ ds, Text.isDecimal d = true) (ht : digitFirst t = false) :
    escaped ('$' :: (ds ++ t)) props = '\\' :: 'g' :: '<' :: (ds ++ '>' :: escaped t props) := by
  have hdollar : '$' ∉ '\\' :: 'g' :: '<' :: (ds ++ ['>']) := by
    intro hmem
    simp only [List.mem_cons, List.mem_append, Char.reduceEq, List.not_mem_nil, or_false, false_or] at hmem
    exact absurd (hds _ hmem) (by decide)
  have hsplit : '\\' :: 'g' :: '<' :: (ds ++ '>' :: grouped t) = '\\' :: 'g' :: '<' :: (ds ++ ['>']) ++ grouped t := by
    simp
  rw [escaped, ← grouped, grouped_group hne hds ht, hsplit, propertiesFrom_append hdollar, escaped, ← grouped]
  simp

theorem escaped_property {name value : Text} (hname : IsName name)
    (hvalue : props.lookup name = some value) (t : Text) :
    escaped ('$' :: '\x7b' :: (name ++ '\x7d' :: t)) props = doubleBackslashes value ++ escaped t props := by
  have hsplit : '\x7b' :: (name ++ '\x7d' :: t) = '\x7b' :: (name ++ ['\x7d']) ++ t := by simp
  have hgrouped : grouped ('$' :: '\x7b' :: (name ++ '\x7d' :: t)) =
      '$' :: '\x7b' :: (name ++ '\x7d' :: grouped t) := by
    rw [grouped_dollar rfl, hsplit, grouped_append hname.plain]
    simp
  rw [escaped, ← grouped, hgrouped, propertiesFrom_property hname hvalue, escaped, ← grouped]

/-- **The parts of the replacement are those of the reading**, if every group that the template names is there. -/
theorem read?_escaped {parts : List Part} (h : Reads props t parts) (count : Nat) :
    read? count (escaped t props) = if parts.all (Part.isNamed count) then some parts else none := by
  rw [read?]
  induction h with
  | nil => rfl
  | @group ds rest parts hne hds hrest h ih =>
    rw [escaped_group hne hds hrest, partsFrom?, partsFrom?_digits hds, ih, List.all_cons, Part.isNamed,
      List.reverse_nil, List.nil_append]
    cases namesGroup count ds <;> cases parts.all (Part.isNamed count) <;> rfl
  | @property name value rest parts hname hvalue h ih =>
    have hchars : (value.map Part.char).all (Part.isNamed count) = true := by
      rw [List.all_map, List.all_eq_true]
      exact fun _ _ => rfl
    rw [escaped_property hname hvalue, partsFrom?_doubleBackslashes, ih, List.all_append, hchars, Bool.true_and]
    cases parts.all (Part.isNamed count) <;> rfl
  | @char c rest parts hc h ih =>
    have hread : partsFrom? count none (escaped (c :: rest) props) =
        (partsFrom? count none (escaped rest props)).map (.char c :: ·) := by
      by_cases hescape : c = '\\'
      · rw [hescape, escaped_backslash, partsFrom?_backslash]
      by_cases hdollar : c = '$'
      · subst hdollar
        rw [escaped_dollar hc, partsFrom?_cons_of_ne hescape]
      · rw [escaped_cons_of_ne hescape hdollar, partsFrom?_cons_of_ne hescape]
    rw [hread, ih, List.all_cons, Part.isNamed, Bool.true_and]
    cases parts.all (Part.isNamed count) <;> rfl

end Reading

end Excerpt.Template
