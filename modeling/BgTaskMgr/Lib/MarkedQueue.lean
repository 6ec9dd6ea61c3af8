import Mathlib.Data.List.Forall2

/-!
# Queues with marks

A queue beside which a mark is kept for every entry: the marks follow when an entry is taken
out anywhere and when entries with one mark are put behind.
-/

set_option autoImplicit false

namespace MarkedQueue

universe u v

variable {α : Type u} {β : Type v} {marks : α → β → Prop}

theorem eraseIdx {entries : List α} {marksOf : List β}
    (both : List.Forall₂ marks entries marksOf) (index : Nat) :
    List.Forall₂ marks (entries.eraseIdx index) (marksOf.eraseIdx index) := by
  induction both generalizing index with
  | nil => exact .nil
  | cons here rest ih =>
      cases index with
      | zero => exact rest
      | succ index => exact .cons here (ih index)

theorem replicate {entries : List α} {mark : β} (all : ∀ entry ∈ entries, marks entry mark) :
    List.Forall₂ marks entries (List.replicate entries.length mark) := by
  induction entries with
  | nil => exact .nil
  | cons entry rest ih =>
      exact .cons (all entry List.mem_cons_self) (ih (fun other member =>
        all other (List.mem_cons_of_mem _ member)))

theorem exists_mark {entries : List α} {marksOf : List β}
    (both : List.Forall₂ marks entries marksOf) {index : Nat} {entry : α}
    (here : entries[index]? = some entry) :
    ∃ mark, marksOf[index]? = some mark ∧ marks entry mark := by
  induction both generalizing index with
  | nil => exact absurd here (by simp)
  | @cons first mark _ _ holds rest ih =>
      cases index with
      | zero =>
          obtain rfl : first = entry := by simpa using here
          exact ⟨mark, rfl, holds⟩
      | succ index => exact ih here

end MarkedQueue
