/-!
# Cuts of a list

The first definition that matches and the last of the loosest operators are both
found by cutting a list at one element.  Two such cuts are the same, or each has
the other's element on one of its sides, where a condition on that side rules it
out.
-/

namespace Lexwork

/-- Two cuts of a list agree, or the element of one stands before that of the other. -/
theorem cut_trichotomy {α : Type} {before before' after after' : List α} {a b : α}
    (same : before ++ a :: after = before' ++ b :: after') :
    (before = before' ∧ a = b ∧ after = after') ∨
      (a ∈ before' ∧ b ∈ after) ∨ (b ∈ before ∧ a ∈ after') := by
  rcases List.append_eq_append_iff.mp same with ⟨between, first, rest⟩ | ⟨between, first, rest⟩
  · cases between with
    | nil =>
        obtain ⟨rfl, rfl⟩ := List.cons.inj rest
        exact .inl ⟨by simp [first], rfl, rfl⟩
    | cons head tail =>
        obtain ⟨rfl, rfl⟩ := List.cons.inj rest
        exact .inr (.inl ⟨by simp [first], by simp⟩)
  · cases between with
    | nil =>
        obtain ⟨rfl, rfl⟩ := List.cons.inj rest
        exact .inl ⟨by simp [first], rfl, rfl⟩
    | cons head tail =>
        obtain ⟨rfl, rfl⟩ := List.cons.inj rest
        exact .inr (.inr ⟨by simp [first], by simp⟩)

end Lexwork
