import Excerpt.Css.Parser
import Mathlib.Data.List.Basic

/-!
# Compounds of a tag, a class and an id

A name without escapes (`IsIdentifier`) is read up to a character that ends it (`IsIdentifier.name?_append`). So a tag,
a class and an id, each behind its sign, are read as tests one after the other (`simple_tag`, `simple_cls`,
`simple_id`), and the main statement `parse_compound`: a compound of them is read as the tests of its parts.
-/

namespace Excerpt.Css

/-! ## Names -/

/-- A name that is written without escapes: letters, digits, hyphens and underscores, neither a digit nor a hyphen
first. -/
structure IsIdentifier (t : Text) : Prop where
  head : ∃ c r, t = c :: r ∧ isNameStart c = true
  char : ∀ c ∈ t, isNameChar c = true

/-- A text that no name goes on in, nor a namespace. -/
def EndsName (rest : Text) : Prop :=
  ∀ c, rest.head? = some c → isNameChar c = false ∧ c ≠ '\\' ∧ c ≠ '|'

section Names

variable {t rest : Text}

theorem IsIdentifier.ne_nil (ht : IsIdentifier t) : t ≠ [] := by
  obtain ⟨c, r, rfl, -⟩ := ht.head
  exact List.cons_ne_nil c r

theorem IsIdentifier.not_mem (ht : IsIdentifier t) {c : Char} (hc : isNameChar c = false) : c ∉ t := by
  intro hmem
  rw [ht.char c hmem] at hc
  cases hc

/-- A name does not begin with a character of another kind. -/
theorem IsIdentifier.append_ne (ht : IsIdentifier t) {d : Char} (hd : isNameStart d = false) (rest r : Text) :
    t ++ rest ≠ d :: r := by
  obtain ⟨c, r', rfl, hc⟩ := ht.head
  rintro he
  rw [(List.cons.inj he).1, hd] at hc
  cases hc

theorem endsName_nil : EndsName [] :=
  fun _ hc => by cases hc

theorem endsName_cons {c : Char} (h : isNameChar c = false ∧ c ≠ '\\' ∧ c ≠ '|') (r : Text) : EndsName (c :: r) :=
  fun _ hd => Option.some.inj hd ▸ h

theorem nameChars_append (hrest : EndsName rest) : ∀ {t : Text} {n : Nat}, (∀ c ∈ t, isNameChar c = true) →
    t.length ≤ n → nameChars n (t ++ rest) = (t, rest)
  | [], 0, _, _ => rfl
  | [], n + 1, _, _ => by
    cases rest with
    | nil => rfl
    | cons c r =>
      obtain ⟨hc, hne, -⟩ := hrest c rfl
      rw [List.nil_append, nameChars, if_neg (by simp [hc])]
      exact hne
  | c :: t, n + 1, h, hn => by
    rw [List.forall_mem_cons] at h
    rw [List.cons_append, nameChars, if_pos h.1, nameChars_append hrest h.2 (Nat.le_of_succ_le_succ hn)]
    rintro rfl
    exact absurd h.1 (by decide)

theorem IsIdentifier.nameBegins_append (ht : IsIdentifier t) (rest : Text) : nameBegins (t ++ rest) = true := by
  have hhyphen : ∀ r, t ++ rest ≠ '-' :: r := ht.append_ne (by decide) rest
  obtain ⟨c, r, rfl, hc⟩ := ht.head
  have hne : c ≠ '-' := fun he => hhyphen (r ++ rest) (by rw [he]; rfl)
  rw [List.cons_append, nameBegins, hc, Bool.true_or]
  · intro _ he
    exact absurd he hne
  · intro _ _ he
    exact absurd he hne

/-- **A name is read up to what ends it.** -/
theorem IsIdentifier.name?_append (ht : IsIdentifier t) (hrest : EndsName rest) :
    name? (t ++ rest) = some (String.ofList t, rest) := by
  rw [name?, if_pos (ht.nameBegins_append rest), nameChars_append hrest ht.char (by simp)]

/-! ## Simple selectors -/

theorem simple_cls (ht : IsIdentifier t) (hrest : EndsName rest) (n : Nat) :
    simple (n + 1) ('.' :: (t ++ rest)) = .ok (some ([.cls (String.ofList t)], false), rest) := by
  rw [simple, ht.name?_append hrest]
  rfl

theorem simple_id (ht : IsIdentifier t) (hrest : EndsName rest) (n : Nat) :
    simple (n + 1) ('#' :: (t ++ rest)) = .ok (some ([.id (String.ofList t)], false), rest) := by
  rw [simple, ht.name?_append hrest]
  rfl

theorem simple_tag (ht : IsIdentifier t) (hrest : EndsName rest) (n : Nat) :
    simple (n + 1) (t ++ rest) = .ok (some ([.tag (String.ofList t)], true), rest) := by
  have hbar : ∀ r, rest ≠ '|' :: r := by
    rintro r rfl
    exact (hrest '|' rfl).2.2 rfl
  rw [simple, ht.name?_append hrest]
  · split
    · rename_i heq
      cases heq
    · rename_i r heq
      exact (hbar _ (congrArg Prod.snd (Option.some.inj heq))).elim
    · rename_i r _ heq
      exact (hbar _ (congrArg Prod.snd (Option.some.inj heq))).elim
    · rename_i heq
      cases heq
      rfl
  -- The other simple selectors begin with signs.
  all_goals
    intros
    rename_i he
    exact ht.append_ne (by decide) _ _ he

end Names

/-! ## Compounds -/

/-- The tag, the class and the id of a compound; a part that is missing is empty. -/
structure Compound where
  tag : Text
  cls : Text
  id : Text

namespace Compound

/-- A part behind its sign, or nothing for an empty part. -/
def signed (sign : Char) (part : Text) : Text :=
  if part.isEmpty then [] else sign :: part

/-- The compound as it is written. -/
def text (p : Compound) : Text :=
  p.tag ++ (signed '.' p.cls ++ signed '#' p.id)

/-- The tests of a part. -/
def testsOf (test : String → Test) (part : Text) : List Test :=
  if part.isEmpty then [] else [test (String.ofList part)]

/-- The tests of a compound. -/
def tests (p : Compound) : List Test :=
  testsOf .tag p.tag ++ testsOf .cls p.cls ++ testsOf .id p.id

/-- Whether the parts that are not empty are names, and there is one. -/
structure Written (p : Compound) : Prop where
  tag : p.tag = [] ∨ IsIdentifier p.tag
  cls : p.cls = [] ∨ IsIdentifier p.cls
  id : p.id = [] ∨ IsIdentifier p.id
  nonempty : p.text ≠ []

end Compound

section Reading

variable {t rest : Text} {n : Nat} {tests : List Test}

/-- A character that no blanks, comments and parentheses begin with. -/
def Plain (c : Char) : Prop :=
  isBlank c = false ∧ c ≠ '/' ∧ c ≠ ')'

theorem Plain.skip_cons {c : Char} (h : Plain c) (t : Text) : skip (c :: t) = c :: t := by
  obtain ⟨hblank, hslash, -⟩ := h
  have hafter : afterBlank? (c :: t) = none := by
    rw [afterBlank?, hblank]
    · rfl
    · rintro r rfl
      cases hblank
    · intro r he
      exact absurd he hslash
  rw [skip, List.length_cons, skipBlanks, hafter]

theorem Plain.close?_cons {c : Char} (h : Plain c) (t : Text) : close? (c :: t) = none := by
  rw [close?, h.skip_cons]
  split
  · rename_i he
    exact (h.2.2 (List.cons.inj he).1).elim
  · rfl

theorem plain_of_isNameStart {c : Char} (h : isNameStart c = true) : Plain c := by
  refine ⟨Bool.eq_false_iff.mpr fun hblank => ?_, ?_, ?_⟩
  · simp only [isBlank, Bool.or_eq_true, beq_iff_eq] at hblank
    rcases hblank with (((rfl | rfl) | rfl) | rfl) | rfl <;> exact absurd h (by decide)
  · rintro rfl
    exact absurd h (by decide)
  · rintro rfl
    exact absurd h (by decide)

/-- The signs of classes and ids. -/
theorem plain_sign {c : Char} (h : c = '.' ∨ c = '#') : Plain c := by
  rcases h with rfl | rfl <;> exact ⟨rfl, by decide, by decide⟩

/-- A compound goes on with the tests of a simple selector. -/
theorem chains_simple {new : List Test} {isTag : Bool} {c : Char} (hc : Plain c)
    (hsimple : simple n (c :: t) = .ok (some (new, isTag), rest)) (htag : isTag = true → tests = []) :
    chains (n + 1) ⟨false, false⟩ [] none tests (c :: t) =
        chains n ⟨false, false⟩ [] none (new.reverse ++ tests) rest := by
  have hfits : (isTag && !tests.isEmpty) = false := by
    cases isTag with
    | false => rfl
    | true => rw [htag rfl]; rfl
  rw [chains, hc.skip_cons, hc.close?_cons, hsimple]
  simp [hfits]

theorem chains_end (hn : 1 ≤ n) (htests : tests ≠ []) :
    chains n ⟨false, false⟩ [] none tests [] = .ok ([.only tests.reverse], []) := by
  obtain ⟨m, rfl⟩ := Nat.exists_eq_add_of_le' hn
  have hempty : tests.isEmpty = false := by simpa using htests
  simp [chains, skip, skipBlanks, hempty, extend]

theorem chains_tag (ht : IsIdentifier t) (hrest : EndsName rest) (n : Nat) :
    chains (n + 2) ⟨false, false⟩ [] none [] (t ++ rest) =
      chains (n + 1) ⟨false, false⟩ [] none [.tag (String.ofList t)] rest := by
  have hsimple := simple_tag ht hrest n
  obtain ⟨c, r, rfl, hc⟩ := ht.head
  exact chains_simple (plain_of_isNameStart hc) hsimple fun _ => rfl

theorem chains_cls (ht : IsIdentifier t) (hrest : EndsName rest) (n : Nat) (tests : List Test) :
    chains (n + 2) ⟨false, false⟩ [] none tests ('.' :: (t ++ rest)) =
      chains (n + 1) ⟨false, false⟩ [] none (.cls (String.ofList t) :: tests) rest :=
  chains_simple (plain_sign (.inl rfl)) (simple_cls ht hrest n) fun h => by cases h

theorem chains_id (ht : IsIdentifier t) (hrest : EndsName rest) (n : Nat) (tests : List Test) :
    chains (n + 2) ⟨false, false⟩ [] none tests ('#' :: (t ++ rest)) =
      chains (n + 1) ⟨false, false⟩ [] none (.id (String.ofList t) :: tests) rest :=
  chains_simple (plain_sign (.inr rfl)) (simple_id ht hrest n) fun h => by cases h

end Reading

section Parts

open Compound

variable {tag cls id : Text} {n : Nat} {tests : List Test}

theorem signed_of_identifier {sign : Char} {part : Text} (h : IsIdentifier part) : signed sign part = sign :: part := by
  rw [signed, if_neg (by simpa using h.ne_nil)]

theorem testsOf_of_identifier {test : String → Test} {part : Text} (h : IsIdentifier part) :
    testsOf test part = [test (String.ofList part)] := by
  rw [testsOf, if_neg (by simpa using h.ne_nil)]

theorem endsName_signed_id (id : Text) : EndsName (signed '#' id) := by
  rw [signed]
  split
  · exact endsName_nil
  · exact endsName_cons (by decide) _

theorem endsName_signed (cls id : Text) : EndsName (signed '.' cls ++ signed '#' id) := by
  rw [signed]
  split
  · exact endsName_signed_id id
  · exact endsName_cons (by decide) _

theorem chains_signed_id (hid : id = [] ∨ IsIdentifier id) (hn : 2 ≤ n) (hsome : tests ≠ [] ∨ id ≠ []) :
    chains n ⟨false, false⟩ [] none tests (signed '#' id) = .ok ([.only (tests.reverse ++ testsOf .id id)], []) := by
  obtain ⟨m, rfl⟩ := Nat.exists_eq_add_of_le' hn
  rcases hid with rfl | hid
  · have htests : tests ≠ [] := hsome.resolve_right fun h => h rfl
    rw [show signed '#' [] = [] from rfl, chains_end (Nat.le_add_left 1 (m + 1)) htests,
      show testsOf .id [] = [] from rfl, List.append_nil]
  · have hread := chains_id hid endsName_nil m tests
    rw [List.append_nil, chains_end (Nat.le_add_left 1 m) (List.cons_ne_nil _ _)] at hread
    rw [signed_of_identifier hid, testsOf_of_identifier hid, hread, List.reverse_cons]

theorem chains_signed (hcls : cls = [] ∨ IsIdentifier cls) (hid : id = [] ∨ IsIdentifier id) (hn : 3 ≤ n)
    (hsome : tests ≠ [] ∨ cls ≠ [] ∨ id ≠ []) :
    chains n ⟨false, false⟩ [] none tests (signed '.' cls ++ signed '#' id) =
      .ok ([.only (tests.reverse ++ testsOf .cls cls ++ testsOf .id id)], []) := by
  obtain ⟨m, rfl⟩ := Nat.exists_eq_add_of_le' hn
  rcases hcls with rfl | hcls
  · have hsome' : tests ≠ [] ∨ id ≠ [] := hsome.imp_right fun h => h.resolve_left fun hne => hne rfl
    rw [show signed '.' [] = [] from rfl, List.nil_append, chains_signed_id hid (Nat.le_add_left 2 (m + 1)) hsome',
      show testsOf .cls [] = [] from rfl, List.append_nil]
  · rw [signed_of_identifier hcls, testsOf_of_identifier hcls, List.cons_append,
      chains_cls hcls (endsName_signed_id id), chains_signed_id hid (Nat.le_add_left 2 m) (.inl (List.cons_ne_nil _ _)),
      List.reverse_cons]

/-- A compound begins with a name or a sign. -/
theorem exists_plain_head {p : Compound} (hp : p.Written) : ∃ c r, p.text = c :: r ∧ Plain c := by
  have hne := hp.nonempty
  rw [text] at hne ⊢
  rcases hp.tag with htag | htag
  · rw [htag, List.nil_append] at hne ⊢
    rcases hp.cls with hcls | hcls
    · rw [hcls, show signed '.' [] = [] from rfl, List.nil_append] at hne ⊢
      rcases hp.id with hid | hid
      · rw [hid] at hne
        exact (hne rfl).elim
      · exact ⟨'#', p.id, signed_of_identifier hid, plain_sign (.inr rfl)⟩
    · exact ⟨'.', p.cls ++ signed '#' p.id, by rw [signed_of_identifier hcls]; rfl, plain_sign (.inl rfl)⟩
  · obtain ⟨c, r, hcons, hc⟩ := htag.head
    exact ⟨c, r ++ _, by rw [hcons]; rfl, plain_of_isNameStart hc⟩

/-- **A compound is read as the tests of its parts.** -/
theorem parse_compound {p : Compound} (hp : p.Written) : parse p.text = .ok [.only p.tests] := by
  have hskip : skip p.text = p.text := by
    obtain ⟨c, r, hcons, hc⟩ := exists_plain_head hp
    rw [hcons, hc.skip_cons]
  have hfuel : 4 ≤ 6 * p.text.length + 6 := by omega
  obtain ⟨m, hm⟩ := Nat.exists_eq_add_of_le' hfuel
  rw [parse, hskip, hm, text, tests]
  rcases hp.tag with htag | htag
  · have hsome : p.cls ≠ [] ∨ p.id ≠ [] := by
      rw [← not_and_or]
      rintro ⟨hcls, hid⟩
      exact hp.nonempty (by rw [text, htag, hcls, hid]; rfl)
    rw [htag, List.nil_append, chains_signed hp.cls hp.id (Nat.le_add_left 3 (m + 1)) (.inr hsome)]
    rfl
  · rw [chains_tag htag (endsName_signed _ _),
      chains_signed hp.cls hp.id (Nat.le_add_left 3 m) (.inl (List.cons_ne_nil _ _)), testsOf_of_identifier htag]
    rfl

end Parts

end Excerpt.Css
