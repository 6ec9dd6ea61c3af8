import Mathlib.Algebra.Group.Int.Defs
import Mathlib.Algebra.Group.Nat.Defs
import Mathlib.Data.List.TakeWhile
import Mathlib.Tactic.Common

/-!
# Numbers as text

`atoi` reads back what a decimal writer wrote, within the range of a 64-bit `strtol` cut to
32 bits, and a comma behind each number lets a list of them be split again.
-/

set_option autoImplicit false

namespace NumberText

/-! ## Reading one number -/

def isSpace (c : Char) : Bool := c = ' ' || (9 ≤ c.toNat && c.toNat ≤ 13)

def magnitude (text : List Char) : Nat := Nat.ofDigitChars 10 (text.takeWhile Char.isDigit) 0

/-- Base ten, with `long` of 64 bits: out of range values stop at the bound. -/
def strtol (text : List Char) : Int :=
  match text.dropWhile isSpace with
  | [] => 0
  | first :: rest =>
    if first = '-' then max (-2 ^ 63) (-magnitude rest)
    else if first = '+' then min (2 ^ 63 - 1) (magnitude rest)
    else min (2 ^ 63 - 1) (magnitude (first :: rest))

/-- `strtol` cast to a 32-bit `int`. -/
def atoi (text : String) : Int := (strtol text.toList).bmod (2 ^ 32)

theorem isDigit_of_mem_toDigits {n : Nat} {c : Char} (member : c ∈ Nat.toDigits 10 n) :
    c.isDigit = true :=
  Nat.isDigit_of_mem_toDigits (by decide) (by decide) member

theorem magnitude_toDigits (n : Nat) : magnitude (Nat.toDigits 10 n) = n := by
  have whole : (Nat.toDigits 10 n).takeWhile Char.isDigit = Nat.toDigits 10 n := by
    rw [List.takeWhile_eq_self_iff]
    intro c member
    exact isDigit_of_mem_toDigits member
  rw [magnitude, whole, Nat.ofDigitChars_ten_toDigits]

theorem not_isSpace_of_isDigit {c : Char} (digit : c.isDigit = true) : isSpace c = false := by
  have low : 48 ≤ c.toNat := by
    simp only [Char.isDigit, Bool.and_eq_true, decide_eq_true_eq] at digit
    exact digit.1
  have blank : c ≠ ' ' := by
    rintro rfl
    exact absurd low (by decide)
  simp only [isSpace, Bool.or_eq_false_iff, decide_eq_false_iff_not, Bool.and_eq_false_iff]
  exact ⟨blank, Or.inr (by omega)⟩

theorem strtol_toDigits (n : Nat) : strtol (Nat.toDigits 10 n) = min (2 ^ 63 - 1) (n : Int) := by
  cases digits : Nat.toDigits 10 n with
  | nil => exact absurd digits Nat.toDigits_ne_nil
  | cons first rest =>
      have digit : first.isDigit = true := by
        apply isDigit_of_mem_toDigits (n := n)
        simp [digits]
      have minus : first ≠ '-' := by
        rintro rfl
        exact absurd digit (by decide)
      have plus : first ≠ '+' := by
        rintro rfl
        exact absurd digit (by decide)
      rw [strtol, List.dropWhile_cons_of_neg (by simp [not_isSpace_of_isDigit digit])]
      simp only [if_neg minus, if_neg plus]
      rw [← digits, magnitude_toDigits]

theorem strtol_minus (n : Nat) :
    strtol ('-' :: Nat.toDigits 10 n) = max (-2 ^ 63) (-(n : Int)) := by
  rw [strtol, List.dropWhile_cons_of_neg (by decide)]
  simp only [if_true]
  rw [magnitude_toDigits]

theorem strtol_repr {z : Int} (low : -2 ^ 63 ≤ z) (high : z < 2 ^ 63) :
    strtol z.repr.toList = z := by
  rw [Int.repr_eq_if]
  by_cases sign : 0 ≤ z
  · rw [if_pos sign, Nat.toList_repr, strtol_toDigits]
    omega
  · rw [if_neg sign, String.toList_append, Nat.toList_repr]
    apply (strtol_minus _).trans
    omega

theorem atoi_repr {z : Int} (low : -2 ^ 31 ≤ z) (high : z < 2 ^ 31) : atoi z.repr = z := by
  rw [atoi, strtol_repr (by omega) (by omega)]
  exact Int.bmod_eq_of_le (by omega) (by omega)

theorem atoi_repr_unsigned {n : Nat} (high : n < 2 ^ 32) :
    (atoi n.repr % 2 ^ 32).toNat = n := by
  have whole : strtol n.repr.toList = n := by
    rw [Nat.toList_repr, strtol_toDigits]
    omega
  rw [atoi, whole, Int.bmod_def]
  split
  · omega
  · omega

/-! ## Lists of numbers -/

def commaText (numbers : List Nat) : String := String.join (numbers.map (fun n => n.repr ++ ","))

def commaParts (text : String) : List String :=
  ((text.toList.splitOn ',').filter (fun part => !part.isEmpty)).map String.ofList

theorem commaText_cons (n : Nat) (numbers : List Nat) :
    (commaText (n :: numbers)).toList =
      Nat.toDigits 10 n ++ ',' :: (commaText numbers).toList := by
  simp [commaText, String.join_cons]

theorem comma_notMem_toDigits (n : Nat) : ',' ∉ Nat.toDigits 10 n := by
  intro member
  exact absurd (isDigit_of_mem_toDigits member) (by decide)

theorem mem_commaText {numbers : List Nat} {c : Char} (member : c ∈ (commaText numbers).toList) :
    c = ',' ∨ c.isDigit = true := by
  induction numbers with
  | nil => exact absurd member List.not_mem_nil
  | cons n numbers ih =>
      rw [commaText_cons] at member
      rcases List.mem_append.mp member with digit | later
      · exact Or.inr (isDigit_of_mem_toDigits digit)
      · rcases List.mem_cons.mp later with comma | rest
        · exact Or.inl comma
        · exact ih rest

theorem commaParts_commaText (numbers : List Nat) :
    commaParts (commaText numbers) = numbers.map Nat.repr := by
  induction numbers with
  | nil => rfl
  | cons n numbers ih =>
      rw [commaParts, commaText_cons,
        List.splitOn_append_cons_self_of_not_mem (comma_notMem_toDigits n),
        List.filter_cons_of_pos (by simp), List.map_cons, ← Nat.repr_eq_ofList_toDigits]
      exact congrArg _ ih

end NumberText
