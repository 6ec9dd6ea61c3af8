import Mathlib.Data.Finset.Basic
import Mathlib.Data.List.Induction

/-!
# Observers of a set

Members join a set and leave it, and observers are told of each change.  An observer that
comes late asks for the set and follows what it is told from then on.  It may be told once
more of changes that the answer reflects: what counts of a key is its last change.
-/

set_option autoImplicit false

universe u

namespace Observers

variable {κ : Type u} [DecidableEq κ]

/-- The set as an observer knows it after more changes; a change names a key and whether it
joins. -/
def follow (known : Finset κ) (changes : List (κ × Bool)) : Finset κ :=
  changes.foldl (fun known change =>
    if change.2 then insert change.1 known else known.erase change.1) known

def lastOf (key : κ) (changes : List (κ × Bool)) : Option Bool :=
  ((changes.filter (fun change => change.1 = key)).getLast?).map Prod.snd

variable {known : Finset κ} {key : κ}

theorem lastOf_append (first second : List (κ × Bool)) :
    lastOf key (first ++ second) = (lastOf key second).or (lastOf key first) := by
  unfold lastOf
  rw [List.filter_append, List.getLast?_append]
  cases (second.filter (fun change => change.1 = key)).getLast? with
  | none => rfl
  | some change => rfl

theorem lastOf_singleton (change : κ × Bool) :
    lastOf key [change] = if change.1 = key then some change.2 else none := by
  unfold lastOf
  by_cases same : change.1 = key
  · simp [same]
  · simp [same]

/-- A key is known by its last change, or as before where there is none. -/
theorem mem_follow (changes : List (κ × Bool)) :
    key ∈ follow known changes ↔ (lastOf key changes).getD (decide (key ∈ known)) = true := by
  induction changes using List.reverseRecOn with
  | nil => simp [follow, lastOf]
  | append_singleton changes change ih =>
      have last : follow known (changes ++ [change]) =
          if change.2 then insert change.1 (follow known changes)
          else (follow known changes).erase change.1 := by
        unfold follow
        rw [List.foldl_append]
        rfl
      rw [last, lastOf_append, lastOf_singleton]
      by_cases same : change.1 = key
      · subst same
        cases change.2 with
        | true => simp
        | false => simp
      · have apart : key ≠ change.1 := fun isKey => same isKey.symm
        rw [if_neg same, Option.none_or, ← ih]
        cases change.2 with
        | true => simp [apart]
        | false => simp [apart]

/-- An observer that asks after the first two parts and is told the second and the third
knows what one knows that was told everything. -/
theorem catch_up (early pending later : List (κ × Bool)) :
    follow (follow known (early ++ pending)) (pending ++ later) =
      follow known (early ++ pending ++ later) := by
  ext key
  simp only [mem_follow, lastOf_append]
  cases lastOf key later with
  | some joins => simp
  | none =>
      cases lastOf key pending with
      | some joins => simp
      | none =>
          simp only [Option.none_or, Option.getD_none]
          exact decide_eq_true_iff

end Observers
