import Mathlib.Data.List.Basic

/-!
# Runs of a step function

A system is a total step function on states; a run feeds it a list of labels.
`Admissible` says that a condition on the state before each step holds all along
the run, and `run_invariant` is the induction every safety result goes through.
-/

set_option autoImplicit false

universe u v

namespace StepSystem

variable {σ : Type u} {ι : Type v}

def run (step : σ → ι → σ) (s : σ) (labels : List ι) : σ :=
  labels.foldl step s

/-- Every step of the run meets `ok` in the state it is taken from. -/
def Admissible (step : σ → ι → σ) (ok : σ → ι → Prop) : σ → List ι → Prop
  | _, [] => True
  | s, label :: rest => ok s label ∧ Admissible step ok (step s label) rest

/-- How many steps of the run satisfy `p` in the state they are taken from. -/
def count (step : σ → ι → σ) (p : σ → ι → Bool) : σ → List ι → Nat
  | _, [] => 0
  | s, label :: rest => (if p s label then 1 else 0) + count step p (step s label) rest

instance Admissible.decidable (step : σ → ι → σ) (ok : σ → ι → Prop)
    [∀ s label, Decidable (ok s label)] :
    (s : σ) → (labels : List ι) → Decidable (Admissible step ok s labels)
  | _, [] => isTrue trivial
  | s, label :: rest =>
      have := Admissible.decidable step ok (step s label) rest
      inferInstanceAs (Decidable (ok s label ∧ Admissible step ok (step s label) rest))

@[simp]
theorem run_nil (step : σ → ι → σ) (s : σ) : run step s [] = s := rfl

@[simp]
theorem run_cons (step : σ → ι → σ) (s : σ) (label : ι) (rest : List ι) :
    run step s (label :: rest) = run step (step s label) rest := rfl

theorem run_append (step : σ → ι → σ) (s : σ) (first second : List ι) :
    run step s (first ++ second) = run step (run step s first) second :=
  List.foldl_append

theorem Admissible.and_forall {step : σ → ι → σ} {ok : σ → ι → Prop} {onLabel : ι → Prop}
    {s : σ} {labels : List ι} (admissible : Admissible step ok s labels)
    (each : ∀ label ∈ labels, onLabel label) :
    Admissible step (fun s label => onLabel label ∧ ok s label) s labels := by
  induction labels generalizing s with
  | nil => trivial
  | cons label rest ih =>
      obtain ⟨okHead, okRest⟩ := admissible
      exact ⟨⟨each label (by simp), okHead⟩,
        ih okRest (fun later member => each later (by simp [member]))⟩

theorem Admissible.last {step : σ → ι → σ} {ok : σ → ι → Prop} {s : σ} {labels : List ι}
    {label : ι} (admissible : Admissible step ok s (labels ++ [label])) :
    ok (run step s labels) label := by
  induction labels generalizing s with
  | nil => exact admissible.1
  | cons _ _ ih => exact ih admissible.2

/-- An admissible run is admissible up to a step, at it and from it on. -/
theorem Admissible.split {step : σ → ι → σ} {ok : σ → ι → Prop} {s : σ} {earlier later : List ι}
    {label : ι} (admissible : Admissible step ok s (earlier ++ label :: later)) :
    Admissible step ok s earlier ∧ ok (run step s earlier) label ∧
      Admissible step ok (step (run step s earlier) label) later := by
  induction earlier generalizing s with
  | nil => exact ⟨trivial, admissible.1, admissible.2⟩
  | cons _ _ ih =>
      obtain ⟨before, here, after⟩ := ih admissible.2
      exact ⟨⟨admissible.1, before⟩, here, after⟩

theorem Admissible.and {step : σ → ι → σ} {ok other : σ → ι → Prop} {s : σ} {labels : List ι}
    (first : Admissible step ok s labels) (second : Admissible step other s labels) :
    Admissible step (fun s label => ok s label ∧ other s label) s labels := by
  induction labels generalizing s with
  | nil => trivial
  | cons label rest ih =>
      obtain ⟨okHead, okRest⟩ := first
      obtain ⟨otherHead, otherRest⟩ := second
      exact ⟨⟨okHead, otherHead⟩, ih okRest otherRest⟩

/-- What one admissible step preserves, an admissible run preserves. -/
theorem run_invariant {step : σ → ι → σ} {ok : σ → ι → Prop} {inv : σ → Prop}
    (preserve : ∀ s label, inv s → ok s label → inv (step s label))
    (labels : List ι) (s : σ) (start : inv s) (admissible : Admissible step ok s labels) :
    inv (run step s labels) := by
  induction labels generalizing s with
  | nil => exact start
  | cons label rest ih =>
      obtain ⟨okHead, okRest⟩ := admissible
      exact ih (step s label) (preserve s label start okHead) okRest

/-- What a step with a good label preserves, a run of good labels preserves. -/
theorem run_invariant_forall {step : σ → ι → σ} {onLabel : ι → Prop} {inv : σ → Prop}
    (preserve : ∀ s label, inv s → onLabel label → inv (step s label))
    (labels : List ι) (s : σ) (start : inv s) (each : ∀ label ∈ labels, onLabel label) :
    inv (run step s labels) := by
  induction labels generalizing s with
  | nil => exact start
  | cons label rest ih =>
      exact ih (step s label) (preserve s label start (each label (by simp)))
        (fun later member => each later (by simp [member]))

theorem run_preserves {step : σ → ι → σ} {inv : σ → Prop}
    (preserve : ∀ s label, inv s → inv (step s label))
    (labels : List ι) (s : σ) (start : inv s) : inv (run step s labels) := by
  induction labels generalizing s with
  | nil => exact start
  | cons label rest ih => exact ih (step s label) (preserve s label start)

/-- What holds of every step from a state of the invariant holds all along a run that keeps
the invariant. -/
theorem admissible_of_invariant {step : σ → ι → σ} {ok other : σ → ι → Prop} {inv : σ → Prop}
    (holds : ∀ s label, inv s → other s label)
    (preserve : ∀ s label, inv s → ok s label → inv (step s label))
    (labels : List ι) (s : σ) (start : inv s) (admissible : Admissible step ok s labels) :
    Admissible step other s labels := by
  induction labels generalizing s with
  | nil => trivial
  | cons label rest ih =>
      obtain ⟨okHead, okRest⟩ := admissible
      exact ⟨holds s label start, ih (step s label) (preserve s label start okHead) okRest⟩

/-- Two conditions that agree where the invariant holds admit the same runs, when a step
that meets them keeps the invariant. -/
theorem admissible_iff_of_invariant {step : σ → ι → σ} {ok other : σ → ι → Prop}
    {onLabel : ι → Prop} {inv : σ → Prop}
    (agree : ∀ s label, inv s → onLabel label → (ok s label ↔ other s label))
    (preserve : ∀ s label, inv s → onLabel label → other s label → inv (step s label))
    (labels : List ι) (s : σ) (start : inv s) (each : ∀ label ∈ labels, onLabel label) :
    Admissible step ok s labels ↔ Admissible step other s labels := by
  induction labels generalizing s with
  | nil => exact Iff.rfl
  | cons label rest ih =>
      have good : onLabel label := each label (by simp)
      have goodRest : ∀ later ∈ rest, onLabel later :=
        fun later member => each later (by simp [member])
      have head := agree s label start good
      constructor
      · rintro ⟨okHead, okRest⟩
        have otherHead := head.mp okHead
        exact ⟨otherHead, (ih _ (preserve s label start good otherHead) goodRest).mp okRest⟩
      · rintro ⟨otherHead, otherRest⟩
        exact ⟨head.mpr otherHead,
          (ih _ (preserve s label start good otherHead) goodRest).mpr otherRest⟩

/-- When a step keeps an invariant exactly under a condition, the invariant holds all along a
run exactly when every step meets the condition. -/
theorem invariant_along_iff {step : σ → ι → σ} {ok : σ → ι → Prop} {inv : σ → Prop}
    (exact : ∀ s label, inv s → (inv (step s label) ↔ ok s label))
    (labels : List ι) (s : σ) (start : inv s) :
    (∀ earlier later, labels = earlier ++ later → inv (run step s earlier)) ↔
      Admissible step ok s labels := by
  induction labels generalizing s with
  | nil =>
      refine ⟨fun _ => trivial, fun _ earlier later split => ?_⟩
      rw [(List.append_eq_nil_iff.mp split.symm).1]
      exact start
  | cons label rest ih =>
      constructor
      · intro along
        have first : inv (step s label) := along [label] rest rfl
        refine ⟨(exact s label start).mp first, (ih _ first).mp ?_⟩
        intro earlier later split
        exact along (label :: earlier) later (by rw [split]; rfl)
      · rintro ⟨okHead, okRest⟩ earlier later split
        have first : inv (step s label) := (exact s label start).mpr okHead
        cases earlier with
        | nil => exact start
        | cons head earlier =>
            obtain ⟨rfl, split'⟩ := List.cons.inj split
            exact (ih _ first).mpr okRest earlier later split'

end StepSystem
