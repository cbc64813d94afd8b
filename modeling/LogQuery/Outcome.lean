/-!
# Results that may be errors

How a sequence of steps succeeds: each of them does.
-/

namespace LogQuery

/-- Two steps in a row succeed exactly when the first does and the second does on its result. -/
theorem bind_eq_ok {ε α β : Type} {first : Except ε α} {next : α → Except ε β} {result : β} :
    first >>= next = .ok result ↔ ∃ value, first = .ok value ∧ next value = .ok result := by
  cases first <;> simp [bind, Except.bind]

end LogQuery
