import BgTaskMgr.Lib.KeyedMap
import BgTaskMgr.Lib.StepSystem

/-!
# Registers

A register holds a value or none.  A system keeps one, say under a key of a map and in a file,
and each of its steps is an event to it; what the register holds is the fold of the events.
-/

set_option autoImplicit false

universe u v w

namespace Register

inductive Event (α : Type u) where
  | keep
  | put (value : α)
  /-- A value that is held changes. -/
  | change (value : α)
  /-- A value is taken in where none is held. -/
  | takeIn (saved : Option α)
  | drop (chosen : α → Bool)

variable {α : Type u}

def Event.apply : Event α → Option α → Option α
  | keep, held => held
  | put value, _ => some value
  | change value, held => held.map (fun _ => value)
  | takeIn saved, held => held.or saved
  | drop chosen, held => held.filter (fun value => !chosen value)

@[simp]
theorem Event.apply_drop_all (held : Option α) :
    (Event.drop (fun _ => true)).apply held = none := by
  cases held with
  | none => rfl
  | some value => rfl

def after (events : List (Event α)) (held : Option α) : Option α :=
  events.foldl (fun held event => event.apply held) held

section System

variable {σ : Type v} {ι : Type w} (step : σ → ι → σ) (event : σ → ι → Event α)

def events : σ → List ι → List (Event α)
  | _, [] => []
  | s, label :: rest => event s label :: events (step s label) rest

/-- A register that each step keeps by its event holds the fold of the events. -/
theorem held_run {ok : σ → ι → Prop} {inv : σ → Prop} {held : σ → Option α}
    (preserve : ∀ s label, inv s → ok s label → inv (step s label) ∧
      held (step s label) = (event s label).apply (held s)) (labels : List ι) :
    ∀ s, inv s → StepSystem.Admissible step ok s labels →
      held (StepSystem.run step s labels) = after (events step event s labels) (held s) := by
  induction labels with
  | nil => exact fun _ _ _ => rfl
  | cons label rest ih =>
      rintro s holds ⟨here, later⟩
      obtain ⟨holds', same⟩ := preserve s label holds here
      rw [StepSystem.run_cons, ih _ holds' later, same]
      rfl

theorem held_run_always {inv : σ → Prop} {held : σ → Option α}
    (preserve : ∀ s label, inv s → inv (step s label) ∧
      held (step s label) = (event s label).apply (held s)) (labels : List ι) (s : σ)
    (start : inv s) :
    held (StepSystem.run step s labels) = after (events step event s labels) (held s) := by
  have unconditional : ∀ s, StepSystem.Admissible step (fun _ _ => True) s labels := by
    induction labels with
    | nil => exact fun _ => trivial
    | cons label rest ih => exact fun s => ⟨trivial, ih (step s label)⟩
  exact held_run step event (fun s label holds _ => preserve s label holds) labels s start
    (unconditional s)

end System

/-! ## A register of a condition -/

/-- Whether something holds, as a register without a value. -/
def mark (p : Prop) [Decidable p] : Option Unit := if p then some () else none

theorem isSome_mark {p : Prop} [Decidable p] : (mark p).isSome = true ↔ p := by
  unfold mark
  split
  · rename_i holds
    exact iff_of_true rfl holds
  · rename_i fails
    exact iff_of_false (by simp) fails

theorem mark_congr {p q : Prop} [Decidable p] [Decidable q] (same : p ↔ q) : mark p = mark q := by
  unfold mark
  by_cases holds : q
  · rw [if_pos (same.mpr holds), if_pos holds]
  · rw [if_neg (fun here => holds (same.mp here)), if_neg holds]

theorem apply_put_mark {p q : Prop} [Decidable p] [Decidable q] (holds : q) :
    (Event.put ()).apply (mark p) = mark q := (if_pos holds).symm

theorem apply_drop_mark {p q : Prop} [Decidable p] [Decidable q] (fails : ¬ q) :
    (Event.drop (fun _ => true)).apply (mark p) = mark q := by
  rw [Event.apply_drop_all]
  exact (if_neg fails).symm

/-! ## A register under a key -/

section Keyed

variable {κ : Type v} [DecidableEq κ] {β : Type w}

def under (field : β → α) (key : κ) (map : KeyedMap κ β) : Option α := (map.lookup key).map field

variable {field : β → α} {key other : κ} {map : KeyedMap κ β}

theorem under_adjust {f : β → β} {value : α} (sets : ∀ entry, field (f entry) = value) :
    under field key (KeyedMap.adjust other f map) =
      (if key = other then Event.change value else .keep).apply (under field key map) := by
  unfold under
  rw [KeyedMap.lookup_adjust]
  split
  · rw [Option.map_map]
    show _ = ((map.lookup key).map field).map (fun _ => value)
    rw [Option.map_map]
    exact congrArg (fun g => Option.map g (map.lookup key)) (funext sets)
  · rfl

theorem under_emplace (entry : β) :
    under field key (KeyedMap.emplace other entry map) =
      (if key = other then Event.takeIn (some (field entry)) else .keep).apply
        (under field key map) := by
  unfold under
  rw [KeyedMap.lookup_emplace]
  split
  · rename_i here
    subst here
    cases map.lookup key with
    | none => rfl
    | some former => rfl
  · rfl

theorem under_erase :
    under field key (map.erase other) =
      (if key = other then Event.drop (fun _ => true) else .keep).apply (under field key map) := by
  unfold under
  rw [KeyedMap.lookup_erase]
  split
  · cases map.lookup key with
    | none => rfl
    | some former => rfl
  · rfl

end Keyed

end Register
