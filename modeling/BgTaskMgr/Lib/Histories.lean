import BgTaskMgr.Lib.StepSystem
import Mathlib.Data.List.Induction

/-!
# Histories of a run

What held at some state of a run since a label that starts everything anew.
-/

set_option autoImplicit false

universe u v w

namespace StepSystem

variable {σ : Type u} {ι : Type v} (step : σ → ι → σ) (resets : ι → Prop) (p : σ → Prop) (s : σ)

/-- At some state since the last reset of the run the property held. -/
def OnceSince (labels : List ι) : Prop :=
  ∃ earlier later, labels = earlier ++ later ∧ (∀ label ∈ later, ¬ resets label) ∧
    p (run step s earlier)

theorem onceSince_nil : OnceSince step resets p s [] ↔ p s := by
  constructor
  · rintro ⟨earlier, later, split, -, held⟩
    obtain ⟨rfl, rfl⟩ := List.append_eq_nil_iff.mp split.symm
    exact held
  · intro held
    exact ⟨[], [], rfl, by simp, held⟩

/-- It holds now, or it held before and the last label is no reset. -/
theorem onceSince_concat (labels : List ι) (label : ι) :
    OnceSince step resets p s (labels ++ [label]) ↔
      p (run step s (labels ++ [label])) ∨ ¬ resets label ∧ OnceSince step resets p s labels := by
  constructor
  · rintro ⟨earlier, later, split, calm, held⟩
    rcases List.eq_nil_or_concat later with rfl | ⟨before, last, rfl⟩
    · rw [List.append_nil] at split
      exact Or.inl (split ▸ held)
    · rw [List.concat_eq_append, ← List.append_assoc] at split
      obtain ⟨rfl, same⟩ := List.append_inj' split rfl
      obtain rfl := List.singleton_inj.mp same
      refine Or.inr ⟨calm label (by simp), earlier, before, rfl, ?_, held⟩
      intro other member
      exact calm other (by simp [member])
  · rintro (held | ⟨calm, earlier, later, rfl, calmBefore, held⟩)
    · exact ⟨labels ++ [label], [], (List.append_nil _).symm, by simp, held⟩
    · refine ⟨earlier, later ++ [label], List.append_assoc _ _ _, ?_, held⟩
      intro other member
      rcases List.mem_append.mp member with before | last
      · exact calmBefore other before
      · obtain rfl := List.mem_singleton.mp last
        exact calm

/-- A property of a run and its history, kept by every step, holds of every run. -/
theorem run_history {inv : σ → List ι → Prop} (start : inv s [])
    (preserve : ∀ labels label, inv (run step s labels) labels →
      inv (step (run step s labels) label) (labels ++ [label]))
    (labels : List ι) : inv (run step s labels) labels := by
  induction labels using List.reverseRecOn with
  | nil => exact start
  | append_singleton labels label ih =>
      rw [run_append, run_cons, run_nil]
      exact preserve labels label ih

theorem run_admissible_history {ok : σ → ι → Prop} {inv : σ → List ι → Prop} (start : inv s [])
    (preserve : ∀ labels label, inv (run step s labels) labels →
      ok (run step s labels) label → inv (step (run step s labels) label) (labels ++ [label]))
    (labels : List ι) (admissible : Admissible step ok s labels) :
    inv (run step s labels) labels := by
  induction labels using List.reverseRecOn with
  | nil => exact start
  | append_singleton labels label ih =>
      obtain ⟨before, here, -⟩ := Admissible.split admissible
      rw [run_append, run_cons, run_nil]
      exact preserve labels label (ih before) here

/-- What holds at the end of a run and did not at its start has come by one step, and has held
ever since. -/
theorem last_rise (fails : ¬ p s) (labels : List ι) (holds : p (run step s labels)) :
    ∃ earlier label later, labels = earlier ++ label :: later ∧ ¬ p (run step s earlier) ∧
      ∀ middle rest, later = middle ++ rest →
        p (run step s (earlier ++ label :: middle)) := by
  induction labels using List.reverseRecOn with
  | nil => exact absurd holds fails
  | append_singleton labels label ih =>
      by_cases before : p (run step s labels)
      · obtain ⟨earlier, first, later, rfl, missing, since⟩ := ih before
        refine ⟨earlier, first, later ++ [label], by simp, missing, ?_⟩
        intro middle rest split
        rcases List.eq_nil_or_concat rest with rfl | ⟨rest, last, rfl⟩
        · rw [List.append_nil] at split
          rw [← split]
          simpa using holds
        · rw [List.concat_eq_append, ← List.append_assoc] at split
          exact since middle rest (List.append_inj' split rfl).1
      · refine ⟨labels, label, [], rfl, before, ?_⟩
        intro middle rest split
        obtain ⟨rfl, -⟩ := List.append_eq_nil_iff.mp split.symm
        exact holds

/-! ## What a run puts out -/

def outputs {α : Type w} (out : σ → ι → List α) : σ → List ι → List α
  | _, [] => []
  | s, label :: rest => out s label ++ outputs out (step s label) rest

theorem log_run {α : Type w} {out : σ → ι → List α} {log : σ → List α}
    (adds : ∀ s label, log (step s label) = log s ++ out s label) (labels : List ι) :
    log (run step s labels) = log s ++ outputs step out s labels := by
  induction labels generalizing s with
  | nil => exact (List.append_nil _).symm
  | cons label rest ih => rw [run_cons, ih, adds, outputs, List.append_assoc]

end StepSystem
