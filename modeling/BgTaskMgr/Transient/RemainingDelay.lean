import BgTaskMgr.Lib.StepSystem
import BgTaskMgr.Lib.Stopwatch
import BgTaskMgr.Transient.DecisionMaker

/-!
# The remaining delay of a request

A request is a stopwatch with a limit: `StartAccounting` and the two `StopAccounting` press
it, and `GetRemainDelayTime` is what its reading leaves of the delay.  A base time of 0
stands for a watch that does not run.  The sums that `int64_t` holds are at most the clock.
-/

set_option autoImplicit false

namespace BgTaskMgr.Transient

/-! ## Histories -/

/-- The calls of a package that account its requests; `start (-1)` is `StartAccounting()`. -/
inductive AccountingCall where
  | start (requestId : Int)
  | stop (requestId : Int)
  | stopAll

namespace AccountingCall

def apply (params : Params) (s : PkgDelaySuspendInfo × TimerManager) :
    Env × AccountingCall → PkgDelaySuspendInfo × TimerManager
  | (env, .start requestId) => s.1.startAccounting params env.config env.now requestId s.2
  | (env, .stop requestId) => s.1.stopAccounting env.now requestId s.2
  | (env, .stopAll) => s.1.stopAccountingAll params env.config env.now s.2

def press (requestId : Int) : AccountingCall → Stopwatch.Press
  | start other => if other = -1 ∨ requestId = other then .start else .nothing
  | stop other => if requestId = other then .stop else .nothing
  | stopAll => .stop

def presses (requestId : Int) (calls : List (Env × AccountingCall)) :
    List (Int × Stopwatch.Press) :=
  calls.map (fun label => (label.1.now, label.2.press requestId))

end AccountingCall

/-- The time up to `now` for which a request is accounted: from a call that starts it, or the
last such, to the next one that stops it. -/
def accountedTime (requestId : Int) (calls : List (Env × AccountingCall)) (now : Int) : Int :=
  Stopwatch.runningTime false 0 (AccountingCall.presses requestId calls) now

/-! ## A request as a stopwatch -/

namespace DelaySuspendInfoEx

def watch (info : DelaySuspendInfoEx) : Stopwatch :=
  ⟨if info.baseTime = 0 then none else some info.baseTime, info.spendTime⟩

def account (info : DelaySuspendInfoEx) (label : Env × AccountingCall) : DelaySuspendInfoEx :=
  match label.2.press info.requestId with
  | .start => info.startAccounting label.1.now
  | .stop => info.stopAccounting label.1.now
  | .nothing => info

theorem watch_startAccounting {now : Int} (running : 0 < now) (info : DelaySuspendInfoEx) :
    (info.startAccounting now).watch = info.watch.start now := by
  unfold startAccounting
  by_cases idle : info.baseTime = 0
  · simp [watch, Stopwatch.start, idle, running.ne']
  · simp [watch, Stopwatch.start, idle]

theorem watch_stopAccounting (now : Int) (info : DelaySuspendInfoEx) :
    (info.stopAccounting now).watch = info.watch.stop now := by
  unfold stopAccounting
  by_cases idle : info.baseTime = 0
  · simp [watch, Stopwatch.stop, idle]
  · simp [watch, Stopwatch.stop, idle]

/-- What stays of a request that is accounted, and that its base time is one of the clock. -/
structure SameRequest (before after : DelaySuspendInfoEx) : Prop where
  requestId : after.requestId = before.requestId
  actualDelayTime : after.actualDelayTime = before.actualDelayTime
  baseTime : 0 ≤ before.baseTime → 0 ≤ after.baseTime

theorem sameRequest_account {label : Env × AccountingCall} (running : 0 < label.1.now)
    (info : DelaySuspendInfoEx) : SameRequest info (info.account label) := by
  unfold account
  split
  · unfold startAccounting
    split
    · exact ⟨rfl, rfl, fun _ => running.le⟩
    · exact ⟨rfl, rfl, id⟩
  · unfold stopAccounting
    split
    · exact ⟨rfl, rfl, fun _ => le_refl 0⟩
    · exact ⟨rfl, rfl, id⟩
  · exact ⟨rfl, rfl, id⟩

theorem watch_account {label : Env × AccountingCall} (running : 0 < label.1.now)
    (info : DelaySuspendInfoEx) :
    (info.account label).watch =
      info.watch.press (label.1.now, label.2.press info.requestId) := by
  unfold account
  split
  · rename_i pressed
    rw [pressed]
    exact watch_startAccounting running info
  · rename_i pressed
    rw [pressed]
    exact watch_stopAccounting label.1.now info
  · rename_i pressed
    rw [pressed]
    rfl

theorem watch_foldl_account (info : DelaySuspendInfoEx) {calls : List (Env × AccountingCall)}
    (running : ∀ label ∈ calls, 0 < label.1.now) :
    SameRequest info (calls.foldl account info) ∧
      (calls.foldl account info).watch =
        (AccountingCall.presses info.requestId calls).foldl Stopwatch.press info.watch := by
  induction calls generalizing info with
  | nil => exact ⟨⟨rfl, rfl, id⟩, rfl⟩
  | cons label rest ih =>
      have starts : 0 < label.1.now := running label List.mem_cons_self
      have same := sameRequest_account starts info
      obtain ⟨later, watched⟩ := ih (info.account label)
        (fun other member => running other (List.mem_cons_of_mem _ member))
      rw [List.foldl_cons]
      constructor
      · exact ⟨later.requestId.trans same.requestId,
          later.actualDelayTime.trans same.actualDelayTime,
          fun base => later.baseTime (same.baseTime base)⟩
      · rw [watched, same.requestId, watch_account starts]
        rfl

theorem getRemainDelayTime_eq {info : DelaySuspendInfoEx} {now : Int}
    (base : 0 ≤ info.baseTime) (delay : 0 ≤ info.actualDelayTime)
    (fits : info.actualDelayTime ≤ intMax) (spent : 0 ≤ info.watch.read now)
    (short : info.watch.read now ≤ intMax) :
    info.getRemainDelayTime now = max 0 (info.actualDelayTime - info.watch.read now) := by
  have reading : (if info.baseTime > 0 then info.spendTime + (now - info.baseTime)
      else info.spendTime) = info.watch.read now := by
    unfold watch
    by_cases idle : info.baseTime = 0
    · simp [idle, Stopwatch.read]
    · have positive : info.baseTime > 0 := by omega
      simp [idle, positive, Stopwatch.read]
  unfold getRemainDelayTime
  dsimp only
  rw [reading]
  unfold intMax at fits short
  have exact : toInt32 (info.watch.read now) = info.watch.read now := by
    unfold toInt32
    rw [Int.bmod_def]
    omega
  rw [exact]
  have left : toInt32 (info.actualDelayTime - info.watch.read now) =
      info.actualDelayTime - info.watch.read now := by
    unfold toInt32
    rw [Int.bmod_def]
    omega
  rw [left]
  split
  · omega
  · omega

theorem getAdvanceCallbackTime_eq (now : Int) (info : DelaySuspendInfoEx) :
    info.getAdvanceCallbackTime now = max 0 (info.getRemainDelayTime now - 6000) := by
  unfold getAdvanceCallbackTime advanceTime
  dsimp only
  split
  · omega
  · omega

end DelaySuspendInfoEx

/-! ## Histories of a package -/

namespace PkgDelaySuspendInfo

theorem requestList_apply (params : Params) (s : PkgDelaySuspendInfo × TimerManager)
    (label : Env × AccountingCall) :
    (AccountingCall.apply params s label).1.requestList =
      s.1.requestList.map (fun info => info.account label) := by
  obtain ⟨env, call⟩ := label
  cases call with
  | start requestId =>
      unfold AccountingCall.apply
      rw [startAccounting_requestList]
      apply List.map_congr_left
      intro info _
      by_cases picked : requestId = -1 ∨ info.requestId = requestId
      · simp [selects, DelaySuspendInfoEx.account, AccountingCall.press, picked]
      · simp [selects, DelaySuspendInfoEx.account, AccountingCall.press, picked]
  | stop requestId =>
      unfold AccountingCall.apply
      rw [stopAccounting_requestList]
      apply List.map_congr_left
      intro info _
      by_cases picked : info.requestId = requestId
      · simp [DelaySuspendInfoEx.account, AccountingCall.press, picked]
      · simp [DelaySuspendInfoEx.account, AccountingCall.press, picked]
  | stopAll =>
      unfold AccountingCall.apply
      rw [stopAccountingAll_requestList]
      rfl

theorem requestList_run (params : Params) (s : PkgDelaySuspendInfo × TimerManager)
    (calls : List (Env × AccountingCall)) :
    (StepSystem.run (AccountingCall.apply params) s calls).1.requestList =
      s.1.requestList.map (fun info => calls.foldl DelaySuspendInfoEx.account info) := by
  induction calls generalizing s with
  | nil => simp
  | cons label rest ih =>
      rw [StepSystem.run_cons, ih, requestList_apply, List.map_map]
      rfl

/-- The clock at the calls and at `now` is positive and does not go back. -/
def ClockRuns (calls : List (Env × AccountingCall)) (now : Int) : Prop :=
  (∀ time ∈ calls.map (fun label => label.1.now) ++ [now], 0 < time) ∧
    (calls.map (fun label => label.1.now) ++ [now]).Pairwise (· ≤ ·)

theorem accountedTime_nonneg {calls : List (Env × AccountingCall)} {now : Int}
    (clock : ClockRuns calls now) (requestId : Int) : 0 ≤ accountedTime requestId calls now := by
  apply Stopwatch.runningTime_nonneg
  have times : (AccountingCall.presses requestId calls).map Prod.fst =
      calls.map (fun label => label.1.now) := by
    rw [AccountingCall.presses, List.map_map]
    rfl
  rw [times, List.cons_append, List.pairwise_cons]
  exact ⟨fun time member => (clock.1 time member).le, clock.2⟩

/-- A request that was not accounted before the calls has what they leave of its delay. -/
theorem remaining_after {info : DelaySuspendInfoEx} {calls : List (Env × AccountingCall)}
    {now : Int} (clock : ClockRuns calls now) (idle : info.baseTime = 0)
    (unspent : info.spendTime = 0) (delay : 0 ≤ info.actualDelayTime)
    (fits : info.actualDelayTime ≤ intMax)
    (short : accountedTime info.requestId calls now ≤ intMax) :
    (calls.foldl DelaySuspendInfoEx.account info).getRemainDelayTime now =
      max 0 (info.actualDelayTime - accountedTime info.requestId calls now) := by
  have running : ∀ label ∈ calls, 0 < label.1.now := by
    intro label member
    exact clock.1 _ (List.mem_append_left _ (List.mem_map_of_mem member))
  obtain ⟨same, watched⟩ := DelaySuspendInfoEx.watch_foldl_account info running
  have reading : (calls.foldl DelaySuspendInfoEx.account info).watch.read now =
      accountedTime info.requestId calls now := by
    rw [watched, Stopwatch.read_presses _ 0]
    simp [DelaySuspendInfoEx.watch, idle, unspent, Stopwatch.read, Stopwatch.runs, accountedTime]
  have spent := accountedTime_nonneg clock info.requestId
  rw [← reading] at spent short ⊢
  rw [← same.actualDelayTime] at delay fits ⊢
  exact DelaySuspendInfoEx.getRemainDelayTime_eq (same.baseTime idle.ge) delay fits spent short

/-- Whatever starts and stops the requests of a package, one that was not accounted before
has its delay left, less exactly the time for which it was accounted. -/
theorem remaining_delay_exact (params : Params) (self : PkgDelaySuspendInfo)
    (timers : TimerManager) {info : DelaySuspendInfoEx} {calls : List (Env × AccountingCall)}
    {now : Int} (clock : ClockRuns calls now) (idle : info.baseTime = 0)
    (unspent : info.spendTime = 0) (delay : 0 ≤ info.actualDelayTime)
    (fits : info.actualDelayTime ≤ intMax)
    (short : accountedTime info.requestId calls now ≤ intMax) :
    (∀ i : Nat, self.requestList[i]? = some info → ∃ after : DelaySuspendInfoEx,
      (StepSystem.run (AccountingCall.apply params) (self, timers) calls).1.requestList[i]? =
        some after ∧ after.requestId = info.requestId ∧
      after.getRemainDelayTime now =
        max 0 (info.actualDelayTime - accountedTime info.requestId calls now) ∧
      after.getAdvanceCallbackTime now =
        max 0 (max 0 (info.actualDelayTime - accountedTime info.requestId calls now) - 6000)) ∧
    (self.requestList.find? (fun other => other.requestId = info.requestId) = some info →
      (StepSystem.run (AccountingCall.apply params) (self, timers) calls).1.getRemainDelayTime now
          info.requestId =
        max 0 (info.actualDelayTime - accountedTime info.requestId calls now)) := by
  have left := remaining_after clock idle unspent delay fits short
  have named : ∀ other : DelaySuspendInfoEx,
      (calls.foldl DelaySuspendInfoEx.account other).requestId = other.requestId := by
    intro other
    apply (DelaySuspendInfoEx.watch_foldl_account other ?_).1.requestId
    intro label member
    exact clock.1 _ (List.mem_append_left _ (List.mem_map_of_mem member))
  constructor
  · intro i stored
    refine ⟨calls.foldl DelaySuspendInfoEx.account info, ?_, named info, left, ?_⟩
    · rw [requestList_run, List.getElem?_map, stored]
      rfl
    · rw [DelaySuspendInfoEx.getAdvanceCallbackTime_eq, left]
  · intro first
    have same : (fun other : DelaySuspendInfoEx => decide (other.requestId = info.requestId)) ∘
        (fun other => calls.foldl DelaySuspendInfoEx.account other) =
          fun other => decide (other.requestId = info.requestId) := by
      funext other
      rw [Function.comp_apply, named]
    unfold getRemainDelayTime
    rw [requestList_run, List.find?_map, same, first]
    exact left

def delayedRequest : DelaySuspendInfoEx where
  requestId := 1
  actualDelayTime := 20000

def delayedPkg : PkgDelaySuspendInfo where
  pkg := "app"
  uid := 100
  quota := 600000
  requestList := [delayedRequest]

def delayHistory : List (Env × AccountingCall) :=
  [(quietEnv 1000, .start 1), (quietEnv 2000, .start 1), (quietEnv 4000, .stop 1),
    (quietEnv 5000, .stopAll), (quietEnv 7000, .start (-1))]

theorem remaining_delay_exact_restarted :
    (StepSystem.run (AccountingCall.apply {}) (delayedPkg, {}) delayHistory).1.getRemainDelayTime
      10000 1 = 14000 := by
  have clock : ClockRuns delayHistory 10000 := by
    unfold ClockRuns
    decide
  exact (@remaining_delay_exact {} delayedPkg {} delayedRequest delayHistory 10000 clock rfl rfl
    (by decide) (by decide) (by decide)).2 rfl

end PkgDelaySuspendInfo

end BgTaskMgr.Transient
