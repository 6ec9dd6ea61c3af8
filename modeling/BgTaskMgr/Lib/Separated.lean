import Mathlib.Data.List.Basic

/-!
# Lists around a separator

A list is determined by what stands before and after a separator when one of the two sides
does not contain it: the first separator ends a clean front, the last one starts a clean end.
-/

set_option autoImplicit false

universe u

namespace List

variable {α : Type u} {separator : α} {front front' back back' : List α}

theorem append_separator_inj_of_front (clean : separator ∉ front) (clean' : separator ∉ front') :
    front ++ separator :: back = front' ++ separator :: back' ↔ front = front' ∧ back = back' := by
  constructor
  · intro same
    induction front generalizing front' with
    | nil =>
        cases front' with
        | nil => exact ⟨rfl, (List.cons.inj same).2⟩
        | cons head rest =>
            obtain ⟨rfl, -⟩ := List.cons.inj same
            simp at clean'
    | cons head rest ih =>
        cases front' with
        | nil =>
            obtain ⟨rfl, -⟩ := List.cons.inj same
            simp at clean
        | cons head' rest' =>
            obtain ⟨rfl, tails⟩ := List.cons.inj same
            simp only [mem_cons, not_or] at clean clean'
            obtain ⟨rfl, backs⟩ := ih clean.2 clean'.2 tails
            exact ⟨rfl, backs⟩
  · rintro ⟨rfl, rfl⟩
    rfl

theorem append_separator_inj_of_back (clean : separator ∉ back) (clean' : separator ∉ back') :
    front ++ separator :: back = front' ++ separator :: back' ↔ front = front' ∧ back = back' := by
  have reversed : front ++ separator :: back = front' ++ separator :: back' ↔
      back.reverse ++ separator :: front.reverse =
        back'.reverse ++ separator :: front'.reverse := by
    rw [← reverse_inj]
    simp
  rw [reversed, append_separator_inj_of_front (by simpa using clean) (by simpa using clean'),
    reverse_inj, reverse_inj, and_comm]

end List
