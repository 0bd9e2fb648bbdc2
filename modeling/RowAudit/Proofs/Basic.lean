/-!
# Steps that may fail

What the success or the error of a composed step says about its parts, and when a list of steps
succeeds as a whole.
-/

namespace RowAudit

section
variable {ε α β : Type} {x : Except ε α} {b : β} {e : ε}

/-- Two steps in sequence succeed only if both do. -/
theorem exists_of_bind_eq_ok {f : α → Except ε β} (h : x >>= f = .ok b) :
    ∃ a, x = .ok a ∧ f a = .ok b := by
  cases x with
  | error e => cases h
  | ok a => exact ⟨a, rfl, h⟩

/-- What a mapped step gives is the image of what the step gives. -/
theorem exists_of_map_eq_ok {f : α → β} (h : x.map f = .ok b) : ∃ a, x = .ok a ∧ b = f a := by
  cases x with
  | error e => cases h
  | ok a => exact ⟨a, rfl, (Except.ok.inj h).symm⟩

/-- The error of a mapped step is that of the step. -/
theorem error_of_map {f : α → β} (h : x.map f = .error e) : x = .error e := by
  cases x with
  | ok a => cases h
  | error e' => exact congrArg Except.error (Except.error.inj h)

end

section
variable {α β : Type} {f : α → Option β} {xs : List α}

/-- Steps that all succeed give the list of what they give. -/
theorem mapM_of_isSome (h : ∀ x ∈ xs, (f x).isSome = true) : xs.mapM f = some (xs.filterMap f) := by
  induction xs with
  | nil => rfl
  | cons x xs ih =>
    obtain ⟨hx, hxs⟩ := List.forall_mem_cons.1 h
    obtain ⟨y, hy⟩ := Option.isSome_iff_exists.1 hx
    simp [hy, ih hxs]

/-- Steps of which one fails give nothing. -/
theorem mapM_eq_none (h : ∃ x ∈ xs, f x = none) : xs.mapM f = none := by
  induction xs with
  | nil => simp at h
  | cons x xs ih =>
    rw [List.mapM_cons]
    cases hx : f x with
    | none => rfl
    | some y =>
      have hxs : ∃ x ∈ xs, f x = none := by simpa [hx] using h
      simp [ih hxs]

end

end RowAudit
