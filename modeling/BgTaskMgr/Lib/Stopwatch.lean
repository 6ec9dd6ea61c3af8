import Mathlib.Data.Int.Order.Basic
import Mathlib.Tactic.Common

/-!
# Stopwatches

A stopwatch adds up the time for which it runs.  Starting it while it runs and stopping it
while it stands change nothing.  `read_presses` says that it shows what it showed before and
the time for which it ran since, whatever is pressed in between.
-/

set_option autoImplicit false

structure Stopwatch where
  base : Option Int := none
  spent : Int := 0

namespace Stopwatch

inductive Press where
  | start
  | stop
  | nothing

def Press.runs (running : Bool) : Press → Bool
  | start => true
  | stop => false
  | nothing => running

/-- The time up to `now` for which a watch runs, with `since` the time that is counted up to. -/
def runningTime (running : Bool) (since : Int) : List (Int × Press) → Int → Int
  | [], now => if running then now - since else 0
  | (time, press) :: rest, now =>
      (if running then time - since else 0) + runningTime (press.runs running) time rest now

def runs (watch : Stopwatch) : Bool := watch.base.isSome

def start (now : Int) (watch : Stopwatch) : Stopwatch :=
  match watch.base with
  | none => { watch with base := some now }
  | some _ => watch

def stop (now : Int) (watch : Stopwatch) : Stopwatch :=
  match watch.base with
  | none => watch
  | some base => ⟨none, watch.spent + (now - base)⟩

def press (watch : Stopwatch) : Int × Press → Stopwatch
  | (now, .start) => watch.start now
  | (now, .stop) => watch.stop now
  | (_, .nothing) => watch

def read (now : Int) (watch : Stopwatch) : Int :=
  match watch.base with
  | none => watch.spent
  | some base => watch.spent + (now - base)

theorem runs_press (watch : Stopwatch) (time : Int) (press : Press) :
    (watch.press (time, press)).runs = press.runs watch.runs := by
  obtain ⟨base, spent⟩ := watch
  cases press with
  | nothing => rfl
  | start =>
      cases base with
      | none => rfl
      | some base => rfl
  | stop =>
      cases base with
      | none => rfl
      | some base => rfl

theorem read_press (watch : Stopwatch) (time : Int) (press : Press) :
    (watch.press (time, press)).read time = watch.read time := by
  obtain ⟨base, spent⟩ := watch
  cases press with
  | nothing => rfl
  | start =>
      cases base with
      | none => simp [Stopwatch.press, start, read]
      | some base => rfl
  | stop =>
      cases base with
      | none => rfl
      | some base => simp [Stopwatch.press, stop, read]

theorem read_later (watch : Stopwatch) (since now : Int) :
    watch.read now = watch.read since + if watch.runs then now - since else 0 := by
  obtain ⟨base, spent⟩ := watch
  cases base with
  | none => simp [read, runs]
  | some base =>
      simp only [read, runs, Option.isSome_some, if_true]
      omega

/-- A watch shows what it showed and the time for which it ran since. -/
theorem read_presses (watch : Stopwatch) (since : Int) (presses : List (Int × Press))
    (now : Int) : (presses.foldl press watch).read now =
      watch.read since + runningTime watch.runs since presses now := by
  induction presses generalizing watch since with
  | nil => exact read_later watch since now
  | cons first rest ih =>
      obtain ⟨time, pressed⟩ := first
      rw [List.foldl_cons, ih _ time, runs_press, read_press, read_later watch since time,
        runningTime]
      omega

theorem runningTime_nonneg {running : Bool} {since now : Int} {presses : List (Int × Press)}
    (clock : (since :: presses.map Prod.fst ++ [now]).Pairwise (· ≤ ·)) :
    0 ≤ runningTime running since presses now := by
  induction presses generalizing running since with
  | nil =>
      have ordered : since ≤ now := by simpa using clock
      rw [runningTime]
      split
      · omega
      · omega
  | cons first rest ih =>
      obtain ⟨time, pressed⟩ := first
      have ordered : since ≤ time := List.rel_of_pairwise_cons clock List.mem_cons_self
      have later := @ih (pressed.runs running) time (List.Pairwise.of_cons clock)
      rw [runningTime]
      split
      · omega
      · omega

end Stopwatch
