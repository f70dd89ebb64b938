import Mathlib.Data.List.Basic
import Excerpt.Regex.Matcher

/-!
# Where expressions occur

Matching reads on: what follows a match starts at a later position of the same text (`Regex.run_advances`, with one
lemma for each kind of loop). So an occurrence stands in the text as it is given, with its surroundings
(`Pattern.stands_of_findFrom?`).

The occurrences of a pattern one after another are `Pattern.Scans`. Replacing takes the first of them, or all, and
leaves the text between them as it is (`Woven`): `Pattern.replace_woven`, where the steps that `replace` is given
suffice because no two empty occurrences stand at one place.
-/

namespace Excerpt

/-! ## Positions -/

namespace Cursor

/-- A position that is reached from another one by reading on. -/
def Follows (c d : Cursor) : Prop :=
  ∃ read, c.after = read ++ d.after ∧ d.before = read.reverse ++ c.before ∧ d.place = c.place + read.length

theorem Follows.refl (c : Cursor) : c.Follows c :=
  ⟨[], rfl, rfl, rfl⟩

theorem Follows.trans {c d e : Cursor} (hcd : c.Follows d) (hde : d.Follows e) : c.Follows e := by
  obtain ⟨read, hafter, hbefore, hplace⟩ := hcd
  obtain ⟨read', hafter', hbefore', hplace'⟩ := hde
  refine ⟨read ++ read', ?_, ?_, ?_⟩
  · rw [hafter, hafter', List.append_assoc]
  · rw [hbefore', hbefore, List.reverse_append, List.append_assoc]
  · rw [hplace', hplace, List.length_append, Nat.add_assoc]

/-- Captures do not matter for a position. -/
theorem Follows.withCaptures {c d : Cursor} (h : c.Follows d) (captures : List (Nat × Text)) :
    c.Follows { d with captures := captures } :=
  h

theorem follows_step {c : Cursor} {x : Char} {rest : Text} (h : c.after = x :: rest) : c.Follows (c.step x rest) :=
  ⟨[x], h, rfl, rfl⟩

theorem follows_of_skip? {rule : CaseRule} : ∀ {t : Text} {c d : Cursor}, c.skip? rule t = some d → c.Follows d
  | [], c, d, h => by
    cases h
    exact .refl c
  | x :: xs, c, d, h => by
    rw [skip?] at h
    split at h
    · cases h
    · rename_i y rest hafter
      split at h
      · exact (follows_step hafter).trans (follows_of_skip? h)
      · cases h

end Cursor

namespace Regex

/-! ## Matching reads on -/

/-- What follows a match starts at a position that is reached by reading on. -/
def Advances (body : Next → Next) : Prop :=
  ∀ (next : Next) (c r : Cursor), body next c = some r → ∃ d, c.Follows d ∧ next d = some r

/-- A match and then one more. -/
theorem Advances.andThen {body : Next → Next} (hbody : Advances body) {next then' : Next} {c r : Cursor}
    (h : body then' c = some r) (hthen : ∀ {d}, then' d = some r → ∃ e, d.Follows e ∧ next e = some r) :
    ∃ e, c.Follows e ∧ next e = some r := by
  obtain ⟨d, hcd, hd⟩ := hbody _ _ _ h
  obtain ⟨e, hde, he⟩ := hthen hd
  exact ⟨e, hcd.trans hde, he⟩

section Loops

variable {body : Next → Next} (hbody : Advances body) {least : Nat} {most : Option Nat} {next : Next}

include hbody

theorem greedyLoop_advances : ∀ {fuel count : Nat} {last : Option Nat} {c r : Cursor},
    greedyLoop body least most next fuel count last c = some r → ∃ d, c.Follows d ∧ next d = some r
  | 0, _, _, _, _, h => by cases h
  | fuel + 1, count, last, c, r, h => by
    rw [greedyLoop] at h
    split at h
    · exact hbody.andThen h greedyLoop_advances
    · split at h
      · split at h
        · rename_i hsome
          cases h
          exact hbody.andThen hsome greedyLoop_advances
        · exact ⟨c, .refl c, h⟩
      · exact ⟨c, .refl c, h⟩

theorem lazyLoop_advances : ∀ {fuel count : Nat} {last : Option Nat} {c r : Cursor},
    lazyLoop body least most next fuel count last c = some r → ∃ d, c.Follows d ∧ next d = some r
  | 0, _, _, _, _, h => by cases h
  | fuel + 1, count, last, c, r, h => by
    rw [lazyLoop] at h
    split at h
    · exact hbody.andThen h lazyLoop_advances
    · split at h
      · rename_i hsome
        exact ⟨c, .refl c, hsome.trans h⟩
      · split at h
        · exact hbody.andThen h lazyLoop_advances
        · cases h

/-- A match on its own ends at a position that is reached by reading on. -/
theorem Advances.follows {c d : Cursor} (h : body some c = some d) : c.Follows d := by
  obtain ⟨e, hce, he⟩ := hbody _ _ _ h
  exact Option.some.inj he ▸ hce

theorem possessiveLoop_advances : ∀ {fuel count : Nat} {last : Option Nat} {c r : Cursor},
    possessiveLoop body least most fuel count last c = some r → c.Follows r
  | 0, _, _, _, _, h => by cases h
  | fuel + 1, count, last, c, r, h => by
    rw [possessiveLoop] at h
    split at h
    · split at h
      · rename_i hsome
        exact (hbody.follows hsome).trans (possessiveLoop_advances h)
      · cases h
    · split at h
      · split at h
        · rename_i hsome
          exact (hbody.follows hsome).trans (possessiveLoop_advances h)
        · cases h
          exact .refl c
      · cases h
        exact .refl c

end Loops

/-- What is matched after an expression starts at a position that is reached by reading on. -/
theorem run_advances : ∀ a : Regex, Advances a.run
  | .empty => fun _ c _ h => ⟨c, .refl c, h⟩
  | .any newlines => fun next c r h => by
    rw [run] at h
    split at h
    · cases h
    · rename_i x rest hafter
      split at h
      · exact ⟨c.step x rest, Cursor.follows_step hafter, h⟩
      · cases h
  | .set s => fun next c r h => by
    rw [run] at h
    split at h
    · cases h
    · rename_i x rest hafter
      split at h
      · exact ⟨c.step x rest, Cursor.follows_step hafter, h⟩
      · cases h
  | .anchor a => fun next c r h => by
    rw [run] at h
    split at h
    · exact ⟨c, .refl c, h⟩
    · cases h
  | .seq a b => fun next c r h => by
    rw [run] at h
    exact (run_advances a).andThen h (run_advances b _ _ _)
  | .alt a b => fun next c r h => by
    rw [run] at h
    split at h
    · rename_i hsome
      cases h
      exact run_advances a _ _ _ hsome
    · exact run_advances b _ _ _ h
  | .group none a => fun next c r h => by
    rw [run] at h
    exact run_advances a _ _ _ h
  | .group (some n) a => fun next c r h => by
    rw [run] at h
    obtain ⟨d, hcd, hd⟩ := run_advances a _ _ _ h
    exact ⟨_, hcd.withCaptures _, hd⟩
  | .loop least most .greedy a => fun next c r h => by
    rw [run] at h
    exact greedyLoop_advances (run_advances a) h
  | .loop least most .lazy a => fun next c r h => by
    rw [run] at h
    exact lazyLoop_advances (run_advances a) h
  | .loop least most .possessive a => fun next c r h => by
    rw [run] at h
    split at h
    · rename_i d hsome
      exact ⟨d, possessiveLoop_advances (run_advances a) hsome, h⟩
    · cases h
  | .backref n rule => fun next c r h => by
    rw [run] at h
    split at h
    · cases h
    · split at h
      · rename_i d hsome
        exact ⟨d, Cursor.follows_of_skip? hsome, h⟩
      · cases h
  | .ahead negated a | .behind negated _ a => fun next c r h => by
    rw [run] at h
    split at h
    · split at h
      · cases h
      · exact ⟨_, (Cursor.Follows.refl c).withCaptures _, h⟩
    · split at h
      · exact ⟨c, .refl c, h⟩
      · cases h
  | .atomic a => fun next c r h => by
    rw [run] at h
    split at h
    · rename_i d hsome
      exact ⟨d, (run_advances a).follows hsome, h⟩
    · cases h
  | .ifGroup n a b => fun next c r h => by
    rw [run] at h
    split at h
    · exact run_advances a _ _ _ h
    · exact run_advances b _ _ _ h

end Regex

namespace Pattern

variable {p : Pattern}

/-! ## One occurrence -/

/-- The occurrence stands in the rest of a text at or after a position, with `gap` in front of it. -/
structure Stands (o : Occurrence) (before : Text) (place : Nat) (rest gap : Text) : Prop where
  rest_eq : rest = gap ++ o.matched ++ o.after
  before_eq : o.before = gap.reverse ++ before
  place_eq : o.place = place + gap.length

theorem stands_of_matchAt? {nonempty : Bool} {c : Cursor} {o : Occurrence} (h : p.matchAt? nonempty c = some o) :
    Stands o c.before c.place c.after [] ∧ (nonempty = true → o.matched ≠ []) := by
  obtain ⟨r, hr, rfl⟩ := Option.map_eq_some_iff.mp h
  obtain ⟨d, ⟨read, hafter, -, hplace⟩, hd⟩ := Regex.run_advances p.regex _ _ _ hr
  split at hd
  · cases hd
  · rename_i hnonempty
    cases hd
    have hmatched : c.after.take (r.place - c.place) = read := by
      rw [hafter, hplace, Nat.add_sub_cancel_left, List.take_left]
    refine ⟨⟨?_, rfl, rfl⟩, fun hne hnil => hnonempty ?_⟩
    · rw [hmatched, hafter, List.nil_append]
    · have hread : read = [] := hmatched.symm.trans hnil
      simp [hne, hplace, hread]

theorem stands_of_findFrom? : ∀ {rest : Text} {nonempty : Bool} {before : Text} {place : Nat} {o : Occurrence},
    p.findFrom? nonempty before place rest = some o →
    ∃ gap, Stands o before place rest gap ∧ (nonempty = true → gap = [] → o.matched ≠ [])
  | [], nonempty, before, place, o, h => by
    obtain ⟨hstands, hne⟩ := stands_of_matchAt? h
    exact ⟨[], hstands, fun hn _ => hne hn⟩
  | x :: rest, nonempty, before, place, o, h => by
    rw [findFrom?] at h
    split at h
    · rename_i hsome
      cases h
      obtain ⟨hstands, hne⟩ := stands_of_matchAt? hsome
      exact ⟨[], hstands, fun hn _ => hne hn⟩
    · obtain ⟨gap, ⟨hrest, hbefore, hplace⟩, -⟩ := stands_of_findFrom? h
      refine ⟨x :: gap, ⟨?_, ?_, ?_⟩, fun _ hnil => by cases hnil⟩
      · rw [hrest, List.cons_append, List.cons_append]
      · rw [hbefore, List.reverse_cons, List.append_assoc, List.singleton_append]
      · rw [hplace, List.length_cons, Nat.add_assoc, Nat.add_comm 1]

/-! ## All occurrences -/

/-- The occurrences of a pattern from a position on, each the first one behind the one before; none is empty at the
place where an empty one ended (`afterEmpty`). -/
inductive Scans (p : Pattern) : Bool → Text → Nat → Text → List Occurrence → Prop
  | done {afterEmpty : Bool} {before : Text} {place : Nat} {rest : Text}
      (h : p.findFrom? afterEmpty before place rest = none) : Scans p afterEmpty before place rest []
  | next {afterEmpty : Bool} {before : Text} {place : Nat} {rest : Text} {o : Occurrence} {os : List Occurrence}
      (h : p.findFrom? afterEmpty before place rest = some o)
      (hos : Scans p o.matched.isEmpty (o.matched.reverse ++ o.before) (o.place + o.matched.length) o.after os) :
      Scans p afterEmpty before place rest (o :: os)

/-- The occurrences of a pattern in a text, one after another. -/
def OccursAs (p : Pattern) (t : Text) (os : List Occurrence) : Prop :=
  p.Scans false [] 0 t os

/-- A text with occurrences replaced and the text between them as it is. -/
inductive Woven (new : Occurrence → Text) : Text → List Occurrence → Text → Prop
  | rest (t : Text) : Woven new t [] t
  | next (gap : Text) {o : Occurrence} {os : List Occurrence} {out : Text} (h : Woven new o.after os out) :
      Woven new (gap ++ o.matched ++ o.after) (o :: os) (gap ++ new o ++ out)

/-- The first `limit` of several things, or all of them. -/
def upTo {α : Type} : Option Nat → List α → List α
  | none, as => as
  | some n, as => as.take n

theorem upTo_zero {α : Type} (as : List α) : upTo (some 0) as = [] := by
  rw [upTo, List.take_zero]

theorem upTo_nil {α : Type} (limit : Option Nat) : upTo limit ([] : List α) = [] := by
  cases limit with
  | none => rfl
  | some n => rw [upTo, List.take_nil]

theorem upTo_cons {α : Type} {limit : Option Nat} (h : limit ≠ some 0) (a : α) (as : List α) :
    upTo limit (a :: as) = a :: upTo (limit.map (· - 1)) as := by
  match limit, h with
  | none, _ => rfl
  | some (n + 1), _ => rfl

/-- How many occurrences may still come: an empty and another one for each character, and an empty one at the end,
unless the last one was empty. -/
def room (afterEmpty : Bool) (rest : Text) : Nat :=
  2 * rest.length + if afterEmpty then 0 else 1

/-- Behind an occurrence there is less room. -/
theorem room_lt {afterEmpty : Bool} {before gap rest : Text} {place : Nat} {o : Occurrence}
    (hstands : Stands o before place rest gap) (hne : afterEmpty = true → gap = [] → o.matched ≠ []) :
    room o.matched.isEmpty o.after < room afterEmpty rest := by
  have hlength : rest.length = gap.length + o.matched.length + o.after.length := by
    rw [hstands.rest_eq, List.length_append, List.length_append]
  rw [room, room, hlength]
  cases hm : o.matched with
  | cons x xs =>
    simp only [List.isEmpty_cons, Bool.false_eq_true, if_false, List.length_cons]
    omega
  | nil =>
    simp only [List.isEmpty_nil, if_true, List.length_nil]
    cases gap with
    | cons x xs =>
      simp only [List.length_cons]
      omega
    | nil =>
      cases afterEmpty with
      | true => exact (hne rfl rfl hm).elim
      | false => simp

/-- With more steps than there is room, replacing goes through the occurrences one after another. -/
theorem replaceFrom_woven (p : Pattern) :
    ∀ {fuel : Nat} {afterEmpty : Bool} {before : Text} {place : Nat} {rest : Text}, room afterEmpty rest < fuel →
    ∃ os, p.Scans afterEmpty before place rest os ∧ ∀ (limit : Option Nat) (new : Occurrence → Text),
      Woven new rest (upTo limit os) (p.replaceFrom new fuel limit afterEmpty before place rest)
  | 0, _, _, _, _, h => by cases h
  | fuel + 1, afterEmpty, before, place, rest, h => by
    cases hfind : p.findFrom? afterEmpty before place rest with
    | none =>
      refine ⟨[], .done hfind, fun limit new => ?_⟩
      rw [upTo_nil, replaceFrom, hfind]
      split <;> exact .rest rest
    | some o =>
      obtain ⟨gap, hstands, hne⟩ := stands_of_findFrom? hfind
      have hroom : room o.matched.isEmpty o.after < fuel :=
        Nat.lt_of_lt_of_le (room_lt hstands hne) (Nat.le_of_lt_succ h)
      obtain ⟨os, hos, hwoven⟩ : ∃ os, p.Scans o.matched.isEmpty (o.matched.reverse ++ o.before)
          (o.place + o.matched.length) o.after os ∧ ∀ limit new, Woven new o.after (upTo limit os)
            (p.replaceFrom new fuel limit o.matched.isEmpty (o.matched.reverse ++ o.before)
              (o.place + o.matched.length) o.after) := replaceFrom_woven p hroom
      refine ⟨o :: os, .next hfind hos, fun limit new => ?_⟩
      rw [replaceFrom, hfind]
      by_cases hlimit : limit = some 0
      · rw [if_pos hlimit, hlimit, upTo_zero]
        exact .rest rest
      · have hgap : rest.take (o.place - place) = gap := by
          rw [hstands.place_eq, Nat.add_sub_cancel_left, hstands.rest_eq, List.append_assoc, List.take_left]
        have hnext := Woven.next gap (hwoven (limit.map (· - 1)) new)
        rw [← hstands.rest_eq] at hnext
        rw [if_neg hlimit, upTo_cons hlimit]
        simp only [hgap]
        exact hnext

/-- **What replacing does**: the occurrences of the pattern, or the first of them up to the limit, are replaced, and the
text between them stays as it is. -/
theorem replace_woven (p : Pattern) (t : Text) :
    ∃ os, p.OccursAs t os ∧ ∀ (limit : Option Nat) (new : Occurrence → Text),
      Woven new t (upTo limit os) (p.replace limit new t) :=
  replaceFrom_woven p (by simp [room])

/-- A pattern occurs in a text exactly if it has a first occurrence. -/
theorem OccursAs.occursIn_iff {t : Text} {os : List Occurrence} (h : p.OccursAs t os) :
    p.occursIn t = true ↔ os ≠ [] := by
  rw [occursIn, find?]
  cases h with
  | done hnone => simp [hnone]
  | next hsome _ => simp [hsome]

end Pattern

end Excerpt
