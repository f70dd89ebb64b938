import Excerpt.Doc.Json
import Excerpt.Proofs.Doc.Entries

/-!
# Reading the JSON form back

A plain document is made of empty values, truth values and strings, and its mappings have distinct strings as keys.
`parse?_render` says that a plain document is read back from its JSON form.

The reader spends one unit of fuel on each level and each item. The length of the text is enough, because every level
and every item has a character of its own.
-/

namespace Excerpt

/-- A document without numbers, dates and bytes, in which every key is a string and stands once. -/
inductive Doc.Plain : Doc → Prop
  | null : Plain .null
  | bool (b : Bool) : Plain (.bool b)
  | str (s : String) : Plain (.str s)
  | list {ds : List Doc} : (∀ d ∈ ds, Plain d) → Plain (.list ds)
  | fields {ps : List (String × Doc)} : (ps.map Prod.fst).Nodup → (∀ p ∈ ps, Plain p.2) → Plain (.ofFields ps)

namespace Json

open Doc (Plain)

/-! ## Strings -/

/-- The number that four hexadecimal digits stand for. -/
def hexNumber? : Text → Option Nat
  | [a, b, c, d] => hex4? a b c d
  | _ => none

theorem hexNumber?_hexDigits : ∀ n < 0x20, hexNumber? (Text.hexDigits 4 n) = some n := by
  decide

theorem stringUnits?_hex {n : Nat} (h : n < 0x20) (rest : Text) :
    stringUnits? ('\\' :: 'u' :: Text.hexDigits 4 n ++ rest) = (stringUnits? rest).map fun p => (n :: p.1, p.2) := by
  have hn := hexNumber?_hexDigits n h
  rw [hexNumber?.eq_def] at hn
  split at hn
  · rename_i hd
    rw [hd]
    change stringUnits? ('\\' :: 'u' :: _ :: _ :: _ :: _ :: rest) = _
    rw [stringUnits?, hn]
    cases stringUnits? rest <;> rfl
  · cases hn

theorem stringUnits?_short {e c : Char} (hu : e ≠ 'u') (h : shortEscape? e = some c) (rest : Text) :
    stringUnits? ('\\' :: e :: rest) = (stringUnits? rest).map fun p => (c.toNat :: p.1, p.2) := by
  rw [stringUnits?, h]
  · cases stringUnits? rest <;> rfl
  · intro _ _ _ _ _ he _
    exact hu he

theorem stringUnits?_plain {c : Char} (hq : c ≠ '"') (hb : c ≠ '\\') (hc : ¬ c.toNat < 0x20) (rest : Text) :
    stringUnits? (c :: rest) = (stringUnits? rest).map fun p => (c.toNat :: p.1, p.2) := by
  rw [stringUnits?, if_neg (by simp [hc, hb])]
  · exact hq
  all_goals simp [hb]

/-- A character is read back from its form inside a string. -/
theorem stringUnits?_escapeChar (c : Char) (rest : Text) :
    stringUnits? (escapeChar c ++ rest) = (stringUnits? rest).map fun p => (c.toNat :: p.1, p.2) := by
  rw [escapeChar]
  split
  · rename_i h
    rcases h with rfl | rfl <;> exact stringUnits?_short (by decide) rfl rest
  rename_i hquote
  rw [not_or] at hquote
  split
  · subst_vars
    exact stringUnits?_short (by decide) rfl rest
  split
  · subst_vars
    exact stringUnits?_short (by decide) rfl rest
  split
  · subst_vars
    exact stringUnits?_short (by decide) rfl rest
  split
  · subst_vars
    exact stringUnits?_short (by decide) rfl rest
  split
  · subst_vars
    exact stringUnits?_short (by decide) rfl rest
  split
  · rename_i hlow
    exact stringUnits?_hex hlow rest
  · rename_i hlow
    exact stringUnits?_plain hquote.1 hquote.2 hlow rest

theorem stringUnits?_flatMap (rest : Text) : ∀ t : Text,
    stringUnits? (t.flatMap escapeChar ++ '"' :: rest) = some (t.map Char.toNat, rest)
  | [] => by
    rw [List.flatMap_nil, List.nil_append, stringUnits?]
    rfl
  | c :: t => by
    rw [List.flatMap_cons, List.append_assoc, stringUnits?_escapeChar, stringUnits?_flatMap rest t]
    rfl

/-- A character is no half of a pair. -/
theorem not_surrogate (c : Char) : ¬ (0xD800 ≤ c.toNat ∧ c.toNat < 0xE000) := by
  have hc : c.toNat.isValidChar := c.valid
  rw [Nat.isValidChar] at hc
  omega

theorem joinPairs_map_toNat : ∀ t : Text, joinPairs (t.map Char.toNat) = t
  | [] => rfl
  | [c] => by
    rw [List.map_cons, List.map_nil, joinPairs, if_neg (not_surrogate c), Char.ofNat_toNat]
  | c :: d :: t => by
    have ih := joinPairs_map_toNat (d :: t)
    have hc := not_surrogate c
    rw [List.map_cons] at ih
    rw [List.map_cons, List.map_cons, joinPairs, if_neg (by omega), if_neg hc, ih, Char.ofNat_toNat]

theorem string?_flatMap (t rest : Text) :
    string? (t.flatMap escapeChar ++ '"' :: rest) = some (String.ofList t, rest) := by
  rw [string?, stringUnits?_flatMap, Option.map_some]
  exact congrArg (fun u => some (String.ofList u, rest)) (joinPairs_map_toNat t)

/-! ## Blanks -/

/-- The text begins with a character that is neither a blank nor closes a list or mapping. -/
def Opens (t : Text) : Prop :=
  ∃ c r, t = c :: r ∧ (c = '"' ∨ c = '[' ∨ c = '\x7b' ∨ c = 'n' ∨ c = 't' ∨ c = 'f')

theorem Opens.append {t : Text} (h : Opens t) (rest : Text) : Opens (t ++ rest) := by
  obtain ⟨c, r, rfl, hc⟩ := h
  exact ⟨c, r ++ rest, rfl, hc⟩

theorem skipBlanks_of_opens {t : Text} (h : Opens t) : skipBlanks t = t := by
  obtain ⟨c, r, rfl, hc⟩ := h
  rcases hc with rfl | rfl | rfl | rfl | rfl | rfl <;> rfl

theorem opens_render {d : Doc} (h : Plain d) : Opens (render d) := by
  cases h with
  | null => exact ⟨'n', _, rfl, by simp⟩
  | bool b =>
    cases b with
    | true => exact ⟨'t', _, rfl, by simp⟩
    | false => exact ⟨'f', _, rfl, by simp⟩
  | str s => exact ⟨'"', _, rfl, by simp⟩
  | @list ds _ => cases ds <;> exact ⟨'[', _, rfl, by simp⟩
  | @fields ps _ _ => cases ps <;> exact ⟨'\x7b', _, rfl, by simp⟩

/-! ## Documents -/

/-- The reader reads a document back in front of any rest, with as much fuel as its form has characters. -/
def ReadsBack (d : Doc) : Prop :=
  ∀ n rest, (render d).length ≤ n → value? n (render d ++ rest) = some (d, rest)

theorem readsBack_scalar {v : Scalar} (h : Plain (.scalar v)) : ReadsBack (.scalar v) := by
  intro n rest hn
  cases n with
  | zero =>
    obtain ⟨c, r, hr, -⟩ := opens_render h
    rw [hr] at hn
    cases hn
  | succ n =>
    cases h with
    | null => rfl
    | bool b => cases b <;> rfl
    | str s =>
      change value? (n + 1) ('"' :: (s.toList.flatMap escapeChar ++ ['"']) ++ rest) = _
      rw [List.cons_append, List.append_assoc, List.singleton_append, value?, string?_flatMap]
      simp

theorem length_pos_of_plain {d : Doc} (h : Plain d) : 0 < (render d).length := by
  obtain ⟨c, r, hr, -⟩ := opens_render h
  rw [hr]
  exact Nat.succ_pos _

/-- One item or more are read back, each of which is read back alone. -/
theorem items?_render : ∀ (ds : List Doc) (d : Doc) (n : Nat) (rest : Text), (∀ e ∈ d :: ds, Plain e ∧ ReadsBack e) →
    (render d).length + (renderItems ds).length ≤ n →
    items? n (render d ++ (renderItems ds ++ rest)) = some (d :: ds, rest)
  | [], d, n, rest, h, hn => by
    obtain ⟨hp, hd⟩ := h d List.mem_cons_self
    have hpos := length_pos_of_plain hp
    obtain ⟨m, rfl⟩ : ∃ m, n = m + 1 := ⟨n - 1, by omega⟩
    rw [renderItems, List.length_singleton] at hn
    rw [items?, hd m _ (by omega)]
    rfl
  | e :: ds, d, n, rest, h, hn => by
    obtain ⟨hp, hd⟩ := h d List.mem_cons_self
    have hpos := length_pos_of_plain hp
    have hrest : ∀ x ∈ e :: ds, Plain x ∧ ReadsBack x := fun x hx => h x (List.mem_cons_of_mem _ hx)
    obtain ⟨m, rfl⟩ : ∃ m, n = m + 1 := ⟨n - 1, by omega⟩
    rw [renderItems, List.length_append, List.length_cons] at hn
    have hopen : Opens (render e ++ (renderItems ds ++ rest)) := (opens_render (hrest e List.mem_cons_self).1).append _
    have hitems := items?_render ds e m rest hrest (by omega)
    rw [items?, hd m _ (by omega), renderItems]
    simp only [List.cons_append, List.append_assoc, Option.bind_eq_bind, Option.bind_some]
    change ((items? m (skipBlanks (render e ++ (renderItems ds ++ rest)))).bind fun p => some (d :: p.1, p.2)) = _
    rw [skipBlanks_of_opens hopen, hitems]
    rfl

/-- After an opening bracket, anything but its end is read as items. -/
theorem value?_items (n : Nat) {t : Text} (h : Opens t) :
    value? (n + 1) ('[' :: t) = (items? n t).map fun p => (.list p.1, p.2) := by
  rw [value?, skipBlanks_of_opens h]
  obtain ⟨c, r, rfl, hc⟩ := h
  rcases hc with rfl | rfl | rfl | rfl | rfl | rfl <;> rfl

/-- After an opening brace, anything but its end is read as entries. -/
theorem value?_entries (n : Nat) {t : Text} (h : Opens t) :
    value? (n + 1) ('\x7b' :: t) = (entries? n t).map fun p => (.map (Doc.Entries.ofPairs p.1), p.2) := by
  rw [value?, skipBlanks_of_opens h]
  obtain ⟨c, r, rfl, hc⟩ := h
  rcases hc with rfl | rfl | rfl | rfl | rfl | rfl <;> rfl

theorem readsBack_list {ds : List Doc} (h : ∀ d ∈ ds, Plain d ∧ ReadsBack d) : ReadsBack (.list ds) := by
  intro n rest hn
  cases ds with
  | nil =>
    rw [render, List.length_cons] at hn
    obtain ⟨m, rfl⟩ : ∃ m, n = m + 1 := ⟨n - 1, by omega⟩
    rfl
  | cons d ds =>
    rw [render, List.length_append, List.length_cons] at hn
    obtain ⟨m, rfl⟩ : ∃ m, n = m + 1 := ⟨n - 1, by omega⟩
    have hopen := (opens_render (h d List.mem_cons_self).1).append (renderItems ds ++ rest)
    rw [render, List.append_assoc, List.cons_append, value?_items m hopen, items?_render ds d m rest h (by omega)]
    rfl

/-- A key in front of its value. -/
theorem renderKey_append (k : String) (rest : Text) :
    renderKey (.str k) ++ rest = '"' :: (k.toList.flatMap escapeChar ++ '"' :: rest) := by
  simp [renderKey, renderText]

theorem entries?_key (n : Nat) (k : String) (t : Text) : entries? (n + 1) (renderKey (.str k) ++ ':' :: t) =
    (do
      let (d, r) ← value? n (skipBlanks t)
      match skipBlanks r with
      | '\x7d' :: rest => return ([(.str k, d)], rest)
      | ',' :: r =>
        let (es, rest) ← entries? n (skipBlanks r)
        return ((.str k, d) :: es, rest)
      | _ => none) := by
  rw [renderKey_append, entries?, string?_flatMap, Option.bind_eq_bind, Option.bind_some, String.ofList_toList]
  rfl

/-- One entry or more are read back, each of whose values is read back alone. -/
theorem entries?_render : ∀ (ps : List (String × Doc)) (p : String × Doc) (n : Nat) (rest : Text),
    (∀ q ∈ p :: ps, Plain q.2 ∧ ReadsBack q.2) →
    (render p.2).length + (renderEntries (Doc.Entries.ofStrings ps)).length ≤ n →
    entries? n (renderKey (.str p.1) ++ ':' :: (render p.2 ++ (renderEntries (Doc.Entries.ofStrings ps) ++ rest))) =
      some (Doc.Entries.ofStrings (p :: ps), rest)
  | [], p, n, rest, h, hn => by
    obtain ⟨hp, hd⟩ := h p List.mem_cons_self
    have hpos := length_pos_of_plain hp
    change _ + List.length ['\x7d'] ≤ n at hn
    rw [List.length_singleton] at hn
    obtain ⟨m, rfl⟩ : ∃ m, n = m + 1 := ⟨n - 1, by omega⟩
    rw [entries?_key, skipBlanks_of_opens ((opens_render hp).append _), hd m _ (by omega)]
    rfl
  | q :: ps, p, n, rest, h, hn => by
    obtain ⟨hp, hd⟩ := h p List.mem_cons_self
    have hpos := length_pos_of_plain hp
    have hrest : ∀ x ∈ q :: ps, Plain x.2 ∧ ReadsBack x.2 := fun x hx => h x (List.mem_cons_of_mem _ hx)
    have hcons : renderEntries (Doc.Entries.ofStrings (q :: ps)) =
        ',' :: (renderKey (.str q.1) ++ ':' :: (render q.2 ++ renderEntries (Doc.Entries.ofStrings ps))) := by
      simp [Doc.Entries.ofStrings, renderEntries]
    rw [hcons] at hn ⊢
    simp only [List.length_cons, List.length_append] at hn
    obtain ⟨m, rfl⟩ : ∃ m, n = m + 1 := ⟨n - 1, by omega⟩
    rw [entries?_key, skipBlanks_of_opens ((opens_render hp).append _), hd m _ (by omega)]
    simp only [List.cons_append, List.append_assoc, Option.bind_eq_bind, Option.bind_some]
    have hentries := entries?_render ps q m rest hrest (by omega)
    have hopen : Opens (renderKey (.str q.1) ++
        ':' :: (render q.2 ++ (renderEntries (Doc.Entries.ofStrings ps) ++ rest))) := by
      rw [renderKey_append]
      exact ⟨'"', _, rfl, .inl rfl⟩
    change (do
      let (es, rest) ← entries? m (skipBlanks (renderKey (.str q.1) ++
        ':' :: (render q.2 ++ (renderEntries (Doc.Entries.ofStrings ps) ++ rest))))
      return ((Scalar.str p.1, p.2) :: es, rest)) = _
    rw [skipBlanks_of_opens hopen, hentries]
    rfl

theorem readsBack_fields {ps : List (String × Doc)} (hk : (ps.map Prod.fst).Nodup)
    (h : ∀ p ∈ ps, Plain p.2 ∧ ReadsBack p.2) : ReadsBack (.ofFields ps) := by
  intro n rest hn
  cases ps with
  | nil =>
    change List.length ['\x7b', '\x7d'] ≤ n at hn
    rw [List.length_cons] at hn
    obtain ⟨m, rfl⟩ : ∃ m, n = m + 1 := ⟨n - 1, by omega⟩
    rfl
  | cons p ps =>
    have hform : render (.ofFields (p :: ps)) =
        '\x7b' :: (renderKey (.str p.1) ++ ':' :: (render p.2 ++ renderEntries (Doc.Entries.ofStrings ps))) := by
      simp [Doc.ofFields, Doc.Entries.ofStrings, render]
    rw [hform] at hn ⊢
    simp only [List.length_cons, List.length_append] at hn
    obtain ⟨m, rfl⟩ : ∃ m, n = m + 1 := ⟨n - 1, by omega⟩
    have hopen : Opens (renderKey (.str p.1) ++
        ':' :: (render p.2 ++ (renderEntries (Doc.Entries.ofStrings ps) ++ rest))) := by
      rw [renderKey_append]
      exact ⟨'"', _, rfl, .inl rfl⟩
    simp only [List.cons_append, List.append_assoc]
    rw [value?_entries m hopen, entries?_render ps p m rest h (by omega), Option.map_some,
      Doc.Entries.ofPairs_ofStrings hk]
    rfl

theorem readsBack_of_plain {d : Doc} (h : Plain d) : ReadsBack d := by
  induction h with
  | null => exact readsBack_scalar .null
  | bool b => exact readsBack_scalar (.bool b)
  | str s => exact readsBack_scalar (.str s)
  | list h ih => exact readsBack_list fun d hd => ⟨h d hd, ih d hd⟩
  | fields hk h ih => exact readsBack_fields hk fun p hp => ⟨h p hp, ih p hp⟩

/-- **A plain document is read back from its JSON form.** -/
theorem parse?_render {d : Doc} (h : Plain d) : parse? (render d) = some d := by
  have hback := readsBack_of_plain h ((render d).length + 1) [] (Nat.le_succ _)
  rw [List.append_nil] at hback
  rw [parse?, skipBlanks_of_opens (opens_render h), hback]
  rfl

end Json

end Excerpt
