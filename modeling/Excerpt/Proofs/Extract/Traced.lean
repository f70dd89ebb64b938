import Excerpt.Extract.Notice

/-!
# Results of traced parts

What the result of a traced part is made of: `result_bind` takes a sequence apart, and `bind_eq_ok` says when it ends
without a fault. Notices never decide a result.
-/

namespace Excerpt.Traced

variable {α β : Type}

@[simp] theorem result_pure (a : α) : (pure a : Traced α).result = .ok a := rfl

@[simp] theorem result_fail (e : Fault) : (fail e : Traced α).result = .error e := rfl

/-- Results are put together without regard to the notices. -/
theorem result_bind (t : Traced α) (f : α → Traced β) :
    (t >>= f).result = t.result.bind fun a => (f a).result := by
  obtain ⟨ns, r⟩ := t
  cases r <;> rfl

theorem bind_eq_ok {t : Traced α} {f : α → Traced β} {b : β} :
    (t >>= f).result = .ok b ↔ ∃ a, t.result = .ok a ∧ (f a).result = .ok b := by
  rw [result_bind]
  cases t.result <;> simp [Except.bind]

end Excerpt.Traced
