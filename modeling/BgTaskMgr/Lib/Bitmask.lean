import Mathlib.Data.BitVec
import Mathlib.Data.List.Nodup

/-!
# Sets of small indices as bit masks

A mask of width `w` and a list of indices below `w` are two representations of one
set.  `maskOf` builds the mask; the lemmas relate the updates of one representation
to those of the other.
-/

set_option autoImplicit false

namespace Bitmask

variable {w : Nat}

def bit (w : Nat) (index : Nat) : BitVec w := 1#w <<< index

def maskOf (w : Nat) (indices : List Nat) : BitVec w :=
  indices.foldr (fun index mask => bit w index ||| mask) 0#w

theorem getLsbD_bit {index i : Nat} (inside : i < w) :
    (bit w index).getLsbD i = decide (i = index) := by
  by_cases same : i = index
  · subst same
    simp [bit, inside]
  · simp only [bit, BitVec.getLsbD_shiftLeft, BitVec.getLsbD_one, same, decide_false]
    by_cases below : i < index
    · simp [below]
    · have later : i - index ≠ 0 := by omega
      simp [later]

theorem getLsbD_maskOf (indices : List Nat) {i : Nat} (inside : i < w) :
    (maskOf w indices).getLsbD i = decide (i ∈ indices) := by
  induction indices with
  | nil => simp [maskOf]
  | cons index rest ih =>
      have split : maskOf w (index :: rest) = bit w index ||| maskOf w rest := rfl
      rw [split, BitVec.getLsbD_or, getLsbD_bit inside, ih]
      simp [Bool.decide_or]

theorem and_bit_eq_zero_iff {mask : BitVec w} {index : Nat} (inside : index < w) :
    mask &&& bit w index = 0#w ↔ mask.getLsbD index = false := by
  constructor
  · intro clear
    have here := congrArg (fun m => m.getLsbD index) clear
    simpa [getLsbD_bit inside] using here
  · intro clear
    refine BitVec.eq_of_getLsbD_eq (fun i inBounds => ?_)
    rw [BitVec.getLsbD_and, getLsbD_bit inBounds]
    by_cases same : i = index
    · simp [same, clear]
    · simp [same]

theorem maskOf_append (first second : List Nat) :
    maskOf w (first ++ second) = maskOf w first ||| maskOf w second := by
  refine BitVec.eq_of_getLsbD_eq (fun i inBounds => ?_)
  rw [BitVec.getLsbD_or, getLsbD_maskOf _ inBounds, getLsbD_maskOf _ inBounds,
    getLsbD_maskOf _ inBounds]
  simp [Bool.decide_or]

theorem maskOf_filter_clear (indices : List Nat) (erased : BitVec w) :
    maskOf w (indices.filter (fun index => bit w index &&& erased = 0#w)) =
      maskOf w indices &&& ~~~erased := by
  refine BitVec.eq_of_getLsbD_eq (fun i inBounds => ?_)
  have dropped : bit w i &&& erased = 0#w ↔ erased.getLsbD i = false := by
    rw [BitVec.and_comm]
    exact and_bit_eq_zero_iff inBounds
  rw [BitVec.getLsbD_and, BitVec.getLsbD_not, getLsbD_maskOf _ inBounds,
    getLsbD_maskOf _ inBounds, decide_eq_true inBounds, Bool.true_and]
  simp only [List.mem_filter, decide_eq_true_iff, dropped, Bool.decide_and]
  cases erased.getLsbD i <;> rfl

theorem xor_eq_and_not {mask erased : BitVec w} (subset : mask &&& erased = erased) :
    mask ^^^ erased = mask &&& ~~~erased := by
  refine BitVec.eq_of_getLsbD_eq (fun i inBounds => ?_)
  have here := congrArg (fun m => m.getLsbD i) subset
  simp only [BitVec.getLsbD_and] at here
  simp only [BitVec.getLsbD_xor, BitVec.getLsbD_and, BitVec.getLsbD_not, inBounds]
  cases first : mask.getLsbD i <;> cases second : erased.getLsbD i <;> simp_all

theorem or_xor_and {before after : BitVec w} (grows : before &&& after = before) :
    before ||| (after ^^^ (before &&& after)) = after := by
  refine BitVec.eq_of_getLsbD_eq (fun i _ => ?_)
  have here := congrArg (fun m => m.getLsbD i) grows
  simp only [BitVec.getLsbD_and] at here
  simp only [BitVec.getLsbD_or, BitVec.getLsbD_xor, BitVec.getLsbD_and]
  cases first : before.getLsbD i <;> cases second : after.getLsbD i <;> simp_all

theorem and_or_self (mask more : BitVec w) : mask &&& (mask ||| more) = mask := by
  refine BitVec.eq_of_getLsbD_eq (fun i _ => ?_)
  simp only [BitVec.getLsbD_and, BitVec.getLsbD_or]
  cases mask.getLsbD i <;> rfl

end Bitmask
