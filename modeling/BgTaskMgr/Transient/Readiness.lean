import BgTaskMgr.Transient.Manager
import Mathlib

/-!
# Readiness of the transient task manager

The manager gets ready once, when its initialisation finds the services it needs, and no
operation takes that back.
-/

set_option autoImplicit false

namespace BgTaskMgr.Transient.BgTransientTaskMgr

section

variable (params : Params) (env : Env) (self : BgTransientTaskMgr)

@[simp]
theorem isReady_cancelSuspendDelayLocked (requestId : Int) :
    (self.cancelSuspendDelayLocked params env requestId).2.isReady = self.isReady := by
  unfold cancelSuspendDelayLocked
  dsimp only
  split
  · rfl
  · rfl

theorem isReady_handleExpiredCallbackDeath (remote : Remote) :
    (self.handleExpiredCallbackDeath params env remote).isReady = self.isReady := by
  unfold handleExpiredCallbackDeath
  dsimp only
  split
  · rfl
  · split
    · rfl
    · rfl

theorem isReady_handleRequestExpired (requestId : Int) :
    (self.handleRequestExpired requestId).isReady = self.isReady := by
  unfold handleRequestExpired
  dsimp only
  split
  · split
    · rfl
    · rfl
  · rfl

theorem isReady_cancelSnapshot (requestIdList : List Int) :
    (self.cancelSnapshot params env requestIdList).isReady = self.isReady := by
  unfold cancelSnapshot
  induction requestIdList generalizing self with
  | nil => rfl
  | cons requestId rest ih => rw [List.foldl_cons, ih, isReady_cancelSuspendDelayLocked]

/-- Only its initialisation makes the manager ready, and nothing makes it unready. -/
theorem isReady_step (op : Op) (started : ∀ servicesUp, op ≠ .initNecessaryState servicesUp) :
    (self.step params (env, op)).isReady = self.isReady := by
  cases op with
  | initNecessaryState servicesUp => exact absurd rfl (started servicesUp)
  | requestSuspendDelay uid pid callback =>
      show (self.requestSuspendDelay params env uid pid callback).2.isReady = _
      unfold requestSuspendDelay requestSuspendDelayLocked
      grind
  | cancelSuspendDelay uid pid requestId =>
      show (self.cancelSuspendDelay params env uid pid requestId).2.isReady = _
      unfold cancelSuspendDelay
      grind [isReady_cancelSuspendDelayLocked]
  | watchdogEvent requestId =>
      unfold step forceCancelSuspendDelay
      dsimp only
      split
      · exact isReady_cancelSuspendDelayLocked params env _ requestId
      · rfl
  | expiredCallbackDeath remote =>
      exact isReady_handleExpiredCallbackDeath params env self remote
  | timerEvent requestId => exact isReady_handleRequestExpired _ requestId
  | appCacheStateChanged uid pid bundleName =>
      show (self.onAppCacheStateChanged uid pid bundleName).isReady = _
      unfold onAppCacheStateChanged
      grind
  | appCacheLocked index =>
      unfold step
      dsimp only
      split
      · rfl
      · exact isReady_cancelSnapshot params env _ _
  | getAllTransientTasks uid pid =>
      show (self.getAllTransientTasks params env uid pid).2.isReady = _
      unfold getAllTransientTasks
      grind
  | dumpAllRequestId =>
      unfold step dumpAllRequestId
      grind
  | pause uid =>
      show (self.pauseTransientTaskTimeForInner params env uid).2.isReady = _
      unfold pauseTransientTaskTimeForInner
      grind
  | start uid =>
      show (self.startTransientTaskTimeForInner params env uid).2.isReady = _
      unfold startTransientTaskTimeForInner
      grind
  | suspendManagerDie =>
      unfold step handleSuspendManagerDie
      grind
  | processStateChanged processData =>
      unfold step
      grind
  | processDied processData =>
      unfold step
      grind
  | inputEvent event stringArg =>
      unfold step
      grind
  | setDump isDump =>
      unfold step
      grind

end

end BgTaskMgr.Transient.BgTransientTaskMgr
