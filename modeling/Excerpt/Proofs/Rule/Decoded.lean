import Excerpt.Rule.Decoded

/-!
# When reading succeeds

A sequence of reading steps gives a value exactly if each step does: `seq_eq_ok`, `map_eq_ok`, `andThen_eq_ok`,
`under_eq_ok`. With them the success of a reader is taken apart attribute by attribute.
-/

namespace Excerpt

/-- What is known of an outcome once it is a value holds of some value. -/
theorem exists_of_toOption {ε α β : Type} {x : Except ε α} {f : α → β} {b : β} (h : x.toOption.map f = some b) :
    ∃ a, x = .ok a ∧ f a = b := by
  cases x with
  | error e => cases h
  | ok a => exact ⟨a, rfl, Option.some.inj h⟩

namespace Decoded

variable {α β : Type}

theorem map_eq_ok {f : α → β} {d : Decoded α} {b : β} : f <$> d = .ok b ↔ ∃ a, d = .ok a ∧ f a = b := by
  cases d <;> simp [Functor.map, map]

/-- Operations on readings give a value exactly if their parts do. -/
theorem seq_eq_ok {f : Decoded (α → β)} {d : Decoded α} {b : β} :
    f <*> d = .ok b ↔ ∃ g a, f = .ok g ∧ d = .ok a ∧ g a = b := by
  cases f <;> cases d <;> simp [Seq.seq, apply]

theorem andThen_eq_ok {d : Decoded α} {f : α → Decoded β} {b : β} :
    d.andThen f = .ok b ↔ ∃ a, d = .ok a ∧ f a = .ok b := by
  cases d <;> simp [andThen]

/-- Where a value stands is told in failures only. -/
theorem under_eq_ok {s : DocStep} {d : Decoded α} {a : α} : under s d = .ok a ↔ d = .ok a := by
  cases d <;> simp [under]

theorem optional_eq_ok {read : Doc → Decoded α} {d : Doc} {a? : Option α} :
    optional read d = .ok a? ↔ (d.isNull = true ∧ a? = none) ∨
      (d.isNull = false ∧ ∃ a, read d = .ok a ∧ a? = some a) := by
  rw [optional]
  cases d.isNull with
  | true => simp [eq_comm]
  | false => cases read d <;> simp [map, eq_comm]

end Decoded

end Excerpt
