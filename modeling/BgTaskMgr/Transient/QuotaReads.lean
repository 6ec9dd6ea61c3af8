import BgTaskMgr.Transient.ReadComparison

/-!
# Reading the quota

The manager's calls with and without further reads.  Without an allowance the reads cost
nothing.  The allowance of an exempted package is taken off each span, and there a read costs or
saves quota.
-/

set_option autoImplicit false

namespace BgTaskMgr.Transient

/-! ## Managers that differ by reads -/

namespace BgTransientTaskMgr

/-- The managers of two runs that differ by reads: only the decision makers differ. -/
def Alike (plain : String → Bool) (now : Int) (one other : BgTransientTaskMgr) : Prop :=
  ∃ decision, other = { one with decisionMaker := decision } ∧
    one.decisionMaker.Alike plain now decision

section

variable {plain : String → Bool} {params : Params} {env : Env} {one other : BgTransientTaskMgr}

theorem Alike.of_decision {decision : DecisionMaker}
    (same : one.decisionMaker.Alike plain env.now decision) :
    Alike plain env.now one { one with decisionMaker := decision } :=
  ⟨decision, rfl, same⟩

theorem Alike.requestSuspendDelay (alike : Alike plain env.now one other)
    (free : PkgDelaySuspendInfo.NoAllowance plain env.config) (uid pid : Int)
    (callback : ExpiredCallback)
    (exempted : ∀ name, env.bundleNameForUid uid = some name → plain name = false →
      env.config.isTransientTaskExemptedQuatoApp name = true) :
    Alike plain env.now (one.requestSuspendDelay params env uid pid callback).2
      (other.requestSuspendDelay params env uid pid callback).2 := by
  obtain ⟨decision, rfl, same⟩ := alike
  unfold BgTransientTaskMgr.requestSuspendDelay
  dsimp only
  split
  · exact ⟨decision, rfl, same⟩
  split
  · exact ⟨decision, rfl, same⟩
  rename_i name remote legal
  have named : env.bundleNameForUid uid = some name := lookup_of_legal legal
  unfold requestSuspendDelayLocked
  dsimp only
  split
  · exact ⟨decision, rfl, same⟩
  obtain ⟨sameVerdict, sameId, decided⟩ := same.decide params free ⟨name, uid, pid⟩
    { pid := pid } (exempted name named)
  rw [← sameVerdict, ← sameId]
  split
  · exact ⟨_, rfl, decided⟩
  · exact ⟨_, rfl, decided⟩

theorem Alike.cancelSuspendDelayLocked (alike : Alike plain env.now one other)
    (free : PkgDelaySuspendInfo.NoAllowance plain env.config) (requestId : Int) :
    Alike plain env.now (one.cancelSuspendDelayLocked params env requestId).2
      (other.cancelSuspendDelayLocked params env requestId).2 := by
  obtain ⟨decision, rfl, same⟩ := alike
  have removed := same.removeRequest params free (one.keyInfoMap.lookup requestId)
    requestId
  unfold BgTransientTaskMgr.cancelSuspendDelayLocked removeWatchdog
  dsimp only
  split
  · exact ⟨_, rfl, removed⟩
  · exact ⟨_, rfl, removed⟩

theorem Alike.cancelSuspendDelay (alike : Alike plain env.now one other)
    (free : PkgDelaySuspendInfo.NoAllowance plain env.config) (uid pid requestId : Int) :
    Alike plain env.now (one.cancelSuspendDelay params env uid pid requestId).2
      (other.cancelSuspendDelay params env uid pid requestId).2 := by
  obtain ⟨decision, rfl, same⟩ := alike
  unfold BgTransientTaskMgr.cancelSuspendDelay
  dsimp only
  split
  · exact Alike.of_decision same
  split
  · exact Alike.of_decision same
  split
  · exact Alike.of_decision same
  · unfold verifyRequestIdLocked
    dsimp only
    split
    · exact (Alike.of_decision same).cancelSuspendDelayLocked free requestId
    · exact Alike.of_decision same

theorem Alike.forceCancelSuspendDelay (alike : Alike plain env.now one other)
    (free : PkgDelaySuspendInfo.NoAllowance plain env.config) (requestId : Int) :
    Alike plain env.now (one.forceCancelSuspendDelay params env requestId)
      (other.forceCancelSuspendDelay params env requestId) := by
  obtain ⟨decision, rfl, same⟩ := alike
  unfold BgTransientTaskMgr.forceCancelSuspendDelay
  dsimp only
  split
  · exact (Alike.of_decision same).cancelSuspendDelayLocked free requestId
  · exact Alike.of_decision same

theorem Alike.handleExpiredCallbackDeath (alike : Alike plain env.now one other)
    (free : PkgDelaySuspendInfo.NoAllowance plain env.config) (remote : Remote) :
    Alike plain env.now (one.handleExpiredCallbackDeath params env remote)
      (other.handleExpiredCallbackDeath params env remote) := by
  obtain ⟨decision, rfl, same⟩ := alike
  unfold BgTransientTaskMgr.handleExpiredCallbackDeath removeWatchdog
  dsimp only
  split
  · exact ⟨decision, rfl, same⟩
  · rename_i callbackIter _
    split
    · exact ⟨decision, rfl, same⟩
    · rename_i keyInfo _
      exact ⟨_, rfl, same.removeRequest params free (some keyInfo) callbackIter.1⟩

theorem Alike.handleRequestExpired (alike : Alike plain env.now one other) (requestId : Int) :
    Alike plain env.now (one.handleRequestExpired requestId)
      (other.handleRequestExpired requestId) := by
  obtain ⟨decision, rfl, same⟩ := alike
  unfold BgTransientTaskMgr.handleRequestExpired
  dsimp only
  split
  · split
    · exact ⟨decision, rfl, same⟩
    · exact ⟨decision, rfl, same⟩
  · exact ⟨decision, rfl, same⟩

theorem Alike.onAppCacheStateChanged (alike : Alike plain env.now one other) (uid pid : Int)
    (bundleName : String) :
    Alike plain env.now (one.onAppCacheStateChanged uid pid bundleName)
      (other.onAppCacheStateChanged uid pid bundleName) := by
  obtain ⟨decision, rfl, same⟩ := alike
  have sameIds : one.decisionMaker.getRequestIdListByKey ⟨bundleName, uid, pid⟩ =
      decision.getRequestIdListByKey ⟨bundleName, uid, pid⟩ := by
    unfold DecisionMaker.getRequestIdListByKey
    rcases same.pkgs.lookup (KeyInfo.mapKey ⟨bundleName, uid, pid⟩) with
      ⟨missing, missing'⟩ | ⟨pkgInfo, pkgInfo', found, found', alike⟩
    · rw [missing, missing']
    · rw [found, found']
      exact alike.requestIds
  unfold BgTransientTaskMgr.onAppCacheStateChanged
  dsimp only
  rw [← sameIds]
  split
  · exact ⟨decision, rfl, same⟩
  · split
    · exact ⟨decision, rfl, same⟩
    · split
      · exact ⟨decision, rfl, same⟩
      · exact ⟨decision, rfl, same⟩

theorem Alike.pause (alike : Alike plain env.now one other)
    (free : PkgDelaySuspendInfo.NoAllowance plain env.config) (uid : Int) :
    Alike plain env.now (one.pauseTransientTaskTimeForInner params env uid).2
      (other.pauseTransientTaskTimeForInner params env uid).2 := by
  obtain ⟨decision, rfl, same⟩ := alike
  unfold BgTransientTaskMgr.pauseTransientTaskTimeForInner
  dsimp only
  split
  · exact ⟨decision, rfl, same⟩
  split
  · exact ⟨decision, rfl, same⟩
  split
  · exact ⟨decision, rfl, same⟩
  split
  · exact ⟨decision, rfl, same⟩
  · rename_i name _
    obtain ⟨sameVerdict, paused⟩ := same.pauseTransientTaskTimeForInner params free uid name
    rw [← sameVerdict]
    split
    · exact ⟨_, rfl, paused⟩
    · exact ⟨_, rfl, paused⟩

theorem Alike.start (alike : Alike plain env.now one other)
    (free : PkgDelaySuspendInfo.NoAllowance plain env.config) (uid : Int) :
    Alike plain env.now (one.startTransientTaskTimeForInner params env uid).2
      (other.startTransientTaskTimeForInner params env uid).2 := by
  obtain ⟨decision, rfl, same⟩ := alike
  unfold BgTransientTaskMgr.startTransientTaskTimeForInner
  dsimp only
  split
  · exact ⟨decision, rfl, same⟩
  split
  · exact ⟨decision, rfl, same⟩
  split
  · exact ⟨decision, rfl, same⟩
  split
  · exact ⟨decision, rfl, same⟩
  · rename_i name _
    obtain ⟨sameVerdict, started⟩ := same.startTransientTaskTimeForInner params free uid name
    rw [← sameVerdict]
    split
    · exact ⟨_, rfl, started⟩
    · exact ⟨_, rfl, started⟩

theorem Alike.handleSuspendManagerDie (alike : Alike plain env.now one other)
    (free : PkgDelaySuspendInfo.NoAllowance plain env.config) :
    Alike plain env.now (one.handleSuspendManagerDie params env)
      (other.handleSuspendManagerDie params env) := by
  obtain ⟨decision, rfl, same⟩ := alike
  have restarts (uid : Int) (first second : DecisionMaker)
      (same : first.Alike plain env.now second) :
      (restartUid params env first uid).Alike plain env.now
        (restartUid params env second uid) := by
    unfold restartUid
    split
    · exact same
    · exact (same.startTransientTaskTimeForInner params free uid _).2
  exact ⟨_, rfl, List.foldl_rel same (fun uid _ => restarts uid)⟩

theorem Alike.getAllTransientTasks (alike : Alike plain env.now one other)
    (free : PkgDelaySuspendInfo.NoAllowance plain env.config) (uid pid : Int) :
    Alike plain env.now one (other.getAllTransientTasks params env uid pid).2 := by
  obtain ⟨decision, rfl, same⟩ := alike
  unfold BgTransientTaskMgr.getAllTransientTasks
  dsimp only
  split
  · exact ⟨decision, rfl, same⟩
  split
  · exact ⟨decision, rfl, same⟩
  split
  · exact ⟨decision, rfl, same⟩
  · exact ⟨_, rfl, same.getQuota free _⟩

theorem Alike.dumpAllRequestId (alike : Alike plain env.now one other)
    (free : PkgDelaySuspendInfo.NoAllowance plain env.config) :
    Alike plain env.now one (other.dumpAllRequestId params env) := by
  obtain ⟨decision, rfl, same⟩ := alike
  refine ⟨_, rfl, ?_⟩
  apply List.foldlRecOn (motive := one.decisionMaker.Alike plain env.now) _ _ same
  intro second same record _
  exact same.getQuota free record.2

/-- The request that the operation makes for a package of the second kind is exempted. -/
def RequestsExempted (plain : String → Bool) (env : Env) (op : Op) : Prop :=
  ∀ uid pid callback name, op = .requestSuspendDelay uid pid callback →
    env.bundleNameForUid uid = some name → plain name = false →
      env.config.isTransientTaskExemptedQuatoApp name = true

def IsRead : Op → Prop
  | .getAllTransientTasks _ _ => True
  | .dumpAllRequestId => True
  | _ => False

theorem Alike.read (alike : Alike plain env.now one other)
    (free : PkgDelaySuspendInfo.NoAllowance plain env.config) {op : Op} (isRead : IsRead op) :
    Alike plain env.now one (other.step params (env, op)) := by
  cases op with
  | getAllTransientTasks uid pid => exact alike.getAllTransientTasks free uid pid
  | dumpAllRequestId =>
      change Alike plain env.now one
        (if other.isReady then other.dumpAllRequestId params env else other)
      split
      · exact alike.dumpAllRequestId free
      · exact alike
  | _ => exact isRead.elim

theorem Alike.symm (alike : Alike plain env.now one other) : Alike plain env.now other one := by
  obtain ⟨decision, rfl, same⟩ := alike
  exact ⟨one.decisionMaker, rfl, same.symm⟩

theorem Alike.readTwice (alike : Alike plain env.now one other)
    (free : PkgDelaySuspendInfo.NoAllowance plain env.config) {op : Op} (isRead : IsRead op) :
    Alike plain env.now (one.step params (env, op)) (other.step params (env, op)) :=
  ((alike.read free isRead).symm.read free isRead).symm

theorem Alike.whenReady (alike : Alike plain env.now one other) {f : DecisionMaker → DecisionMaker}
    (keeps : ∀ first second, first.Alike plain env.now second →
      (f first).Alike plain env.now (f second)) :
    Alike plain env.now
      (if one.isReady then { one with decisionMaker := f one.decisionMaker } else one)
      (if other.isReady then { other with decisionMaker := f other.decisionMaker } else other) := by
  obtain ⟨decision, rfl, same⟩ := alike
  dsimp only
  split
  · exact ⟨_, rfl, keeps _ _ same⟩
  · exact ⟨decision, rfl, same⟩

theorem Alike.step (alike : Alike plain env.now one other)
    (free : PkgDelaySuspendInfo.NoAllowance plain env.config) {op : Op}
    (exempted : RequestsExempted plain env op) :
    Alike plain env.now (one.step params (env, op)) (other.step params (env, op)) := by
  cases op with
  | requestSuspendDelay uid pid callback =>
      exact alike.requestSuspendDelay free uid pid callback
        (fun name => exempted uid pid callback name rfl)
  | cancelSuspendDelay uid pid requestId => exact alike.cancelSuspendDelay free uid pid requestId
  | expiredCallbackDeath remote => exact alike.handleExpiredCallbackDeath free remote
  | appCacheStateChanged uid pid bundleName =>
      exact alike.onAppCacheStateChanged uid pid bundleName
  | getAllTransientTasks uid pid =>
      exact alike.readTwice free trivial
  | dumpAllRequestId =>
      exact alike.readTwice free trivial
  | pause uid => exact alike.pause free uid
  | start uid => exact alike.start free uid
  | initNecessaryState servicesUp =>
      obtain ⟨decision, rfl, same⟩ := alike
      cases servicesUp with
      | false => exact ⟨decision, rfl, same⟩
      | true => exact ⟨decision, rfl, same⟩
  | watchdogEvent requestId =>
      obtain ⟨decision, rfl, same⟩ := alike
      have handled : Alike plain env.now { one with watchdog := one.watchdog.erase requestId }
          { one with decisionMaker := decision, watchdog := one.watchdog.erase requestId } :=
        ⟨decision, rfl, same⟩
      exact handled.forceCancelSuspendDelay free requestId
  | timerEvent requestId =>
      obtain ⟨decision, rfl, same⟩ := alike
      -- the timers are not compared
      have fired : Alike plain env.now
          { one with decisionMaker := { one.decisionMaker with
              timerManager := ⟨one.decisionMaker.timerManager.events.eraseP
                (fun event => event.1 = requestId)⟩ } }
          { one with decisionMaker := { decision with
              timerManager := ⟨decision.timerManager.events.eraseP
                (fun event => event.1 = requestId)⟩ } } :=
        ⟨_, rfl, { same with }⟩
      exact fired.handleRequestExpired requestId
  | appCacheLocked index =>
      obtain ⟨decision, rfl, same⟩ := alike
      simp only [BgTransientTaskMgr.step]
      split
      · exact Alike.of_decision same
      · rename_i requestIdList _
        refine List.foldl_rel ⟨decision, rfl, same⟩ ?_
        intro requestId _ first second alike
        exact alike.cancelSuspendDelayLocked free requestId
  | suspendManagerDie =>
      obtain ⟨decision, rfl, same⟩ := alike
      change Alike plain env.now
        (if one.isReady then one.handleSuspendManagerDie params env else one)
        (if one.isReady then
          { one with decisionMaker := decision }.handleSuspendManagerDie params env
        else { one with decisionMaker := decision })
      split
      · exact (Alike.of_decision same).handleSuspendManagerDie free
      · exact Alike.of_decision same
  | processStateChanged processData =>
      exact alike.whenReady (fun _ _ same => same.onProcessStateChanged free processData)
  | processDied processData =>
      exact alike.whenReady (fun _ _ same => same.onProcessDied free processData)
  | inputEvent event stringArg =>
      obtain ⟨decision, rfl, same⟩ := alike
      exact (Alike.of_decision same).whenReady (fun _ _ same =>
        same.onInputEvent free one.transientPauseUid event stringArg)
  | setDump isDump =>
      have dumps (first second : DecisionMaker) (same : first.Alike plain env.now second) :
          (first.step params (env, .setDump isDump)).Alike plain env.now
            (second.step params (env, .setDump isDump)) :=
        { same with
          deviceInfoManager := congrArg
            (fun device : DeviceInfoManager => { device with isDump := isDump })
            same.deviceInfoManager }
      exact alike.whenReady dumps

/-! ## How long a package has been counting -/

/-- The base time of each counting package stands for a moment since the key's `began`. -/
def SpansSince (began : String × Int → Int) (time : Int) (s : BgTransientTaskMgr) : Prop :=
  ∀ key pkgInfo, s.decisionMaker.pkgDelaySuspendInfoMap.lookup key = some pkgInfo →
    pkgInfo.SpanSince (began key) time

theorem spanSince_call {began : Int} (passed : began ≤ env.now) (call : DecisionMaker.PkgCall)
    (timers : TimerManager) {pkgInfo : PkgDelaySuspendInfo}
    (span : pkgInfo.SpanSince began env.now) :
    (call.apply params env timers pkgInfo).1.SpanSince began env.now := by
  intro counting
  cases call with
  | updateQuota => exact ⟨env.now, passed, le_refl _, rfl⟩
  | start requestId =>
      have cases := PkgDelaySuspendInfo.startAccounting_cases params env.config env.now requestId
        timers pkgInfo
      change (pkgInfo.startAccounting params env.config env.now requestId timers).1.isCounting =
        true at counting
      change ∃ base, began ≤ base ∧ base ≤ env.now ∧
        (pkgInfo.startAccounting params env.config env.now requestId timers).1.baseTime =
          toInt32 base
      rcases cases with ⟨-, shape⟩ | ⟨-, shape⟩
      · rw [shape] at counting ⊢
        exact span counting
      · rw [shape]
        exact ⟨env.now, passed, le_refl _, rfl⟩
  | stopAll => exact absurd counting (by simp [DecisionMaker.PkgCall.apply])

theorem spanSince_remove {began : Int} (requestId : Int) (timers : TimerManager)
    {pkgInfo : PkgDelaySuspendInfo} (span : pkgInfo.SpanSince began env.now) :
    (pkgInfo.removeRequest params env.config env.now requestId timers).1.SpanSince began
      env.now := by
  unfold PkgDelaySuspendInfo.removeRequest
  split
  · dsimp only
    split
    · intro counting
      exact absurd counting (by simp)
    · exact span
  · exact span

theorem spanSince_moves {key : String × Int} {began : Int} (passed : began ≤ env.now)
    {before after : Option PkgDelaySuspendInfo} (moves : PkgMoves params env key before after)
    (span : ∀ pkgInfo, before = some pkgInfo → pkgInfo.SpanSince began env.now) :
    ∀ pkgInfo, after = some pkgInfo → pkgInfo.SpanSince began env.now := by
  induction moves with
  | refl => exact span
  | tail _ move ih =>
      rintro last isLast
      cases move with
      | make =>
          obtain rfl := Option.some.inj isLast
          intro counting
          exact absurd counting (by simp [PkgDelaySuspendInfo.make])
      | call pkgInfo call timers =>
          obtain rfl := Option.some.inj isLast
          exact spanSince_call passed call timers (ih pkgInfo rfl)
      | add pkgInfo delayInfo delayTime needSetTime =>
          obtain rfl := Option.some.inj isLast
          exact ih pkgInfo rfl
      | remove pkgInfo requestId timers =>
          obtain rfl := Option.some.inj isLast
          exact spanSince_remove requestId timers (ih pkgInfo rfl)

theorem spanSince_drives {key : String × Int} {began : Int} (passed : began ≤ env.now)
    {before after : DecisionMaker} (drives : Drives params env before after)
    (span : ∀ pkgInfo, before.pkgDelaySuspendInfoMap.lookup key = some pkgInfo →
      pkgInfo.SpanSince began env.now) :
    ∀ pkgInfo, after.pkgDelaySuspendInfoMap.lookup key = some pkgInfo →
      pkgInfo.SpanSince began env.now := by
  induction drives with
  | refl => exact span
  | tail _ step ih =>
      cases step with
      | fired timers => exact ih
      | call op _ =>
          rcases DecisionMaker.pkgMoves_step op key with ⟨-, moves⟩ | ⟨-, moves⟩
          · exact spanSince_moves passed moves ih
          · refine spanSince_moves passed moves ?_
            intro pkgInfo refilled counting
            unfold DecisionMaker.refilled at refilled
            obtain ⟨old, -, rfl⟩ := Option.map_eq_some_iff.mp refilled
            exact ⟨env.now, passed, le_refl _, rfl⟩

/-- Since when a package counts after a step at `now`, if it does. -/
def beganNext (s : BgTransientTaskMgr) (began : String × Int → Int) (now : Int)
    (key : String × Int) : Int :=
  if s.isCountingAt key then began key else now

theorem beganNext_le {s : BgTransientTaskMgr} {began : String × Int → Int} {now : Int}
    (passed : ∀ key, began key ≤ now) (key : String × Int) : s.beganNext began now key ≤ now := by
  unfold beganNext
  split
  · exact passed key
  · exact le_refl now

theorem le_beganNext (s : BgTransientTaskMgr) {began : String × Int → Int} {low now : Int}
    (early : ∀ key, low ≤ began key) (later : low ≤ now) (key : String × Int) :
    low ≤ s.beganNext began now key := by
  unfold beganNext
  split
  · exact early key
  · exact later

/-- A package that begins to count in a step has its base time then. -/
theorem spansSince_step {s : BgTransientTaskMgr} {began : String × Int → Int} {time : Int}
    (spans : s.SpansSince began time) (op : Op) (notBack : time ≤ env.now)
    (passed : ∀ key, began key ≤ time) :
    (s.step params (env, op)).SpansSince (s.beganNext began env.now) env.now := by
  intro key
  refine spanSince_drives ?_ (drives_step params env op) ?_
  · exact beganNext_le (fun key => (passed key).trans notBack) key
  · intro pkgInfo found counting
    have isCounting : s.isCountingAt key = true := by
      simp [isCountingAt, found, counting]
    obtain ⟨base, after, before, isBase⟩ := spans key pkgInfo found counting
    unfold beganNext
    rw [if_pos isCounting]
    exact ⟨base, after, before.trans notBack, isBase⟩

theorem spansSince_idle {s : BgTransientTaskMgr} {began : String × Int → Int} {time now : Int}
    (spans : s.SpansSince began time) (notBack : time ≤ now) :
    s.SpansSince (s.beganNext began now) now := by
  intro key pkgInfo found counting
  have isCounting : s.isCountingAt key = true := by
    simp [isCountingAt, found, counting]
  obtain ⟨base, after, before, isBase⟩ := spans key pkgInfo found counting
  unfold beganNext
  rw [if_pos isCounting]
  exact ⟨base, after, before.trans notBack, isBase⟩

theorem Alike.later {began : String × Int → Int} {time now : Int}
    (alike : Alike plain time one other) (spans : one.SpansSince began time)
    (spans' : other.SpansSince began time) (notBack : time ≤ now)
    (short : ∀ key, plain key.1 = true → one.isCountingAt key = true →
      now - began key ≤ intMax) : Alike plain now one other := by
  obtain ⟨decision, rfl, same⟩ := alike
  refine ⟨decision, rfl, { same with pkgs := same.pkgs.mono ?_ }⟩
  intro key pkgInfo pkgInfo' found found' related
  refine related.later (spans key pkgInfo found) (spans' key pkgInfo' found') notBack ?_
  intro isPlain counting
  exact short key isPlain (by simp [isCountingAt, found, counting])

theorem Alike.isCountingAt (alike : Alike plain env.now one other) (key : String × Int) :
    one.isCountingAt key = other.isCountingAt key := by
  obtain ⟨decision, rfl, same⟩ := alike
  unfold BgTransientTaskMgr.isCountingAt
  rcases same.pkgs.lookup key with ⟨missing, missing'⟩ | ⟨pkgInfo, pkgInfo', found, found', same⟩
  · rw [missing, missing']
  · rw [found, found']
    exact same.isCounting

end

/-! ## The two runs -/

/-- The same calls without and with inserted reads. -/
structure TwoRuns where
  bare : BgTransientTaskMgr := {}
  full : BgTransientTaskMgr := {}
  /-- The clock at the last step. -/
  time : Int
  /-- Since when each package has been counting, if it is. -/
  began : String × Int → Int := fun _ => time

def TwoRuns.step (params : Params) (self : TwoRuns) (label : Bool × Env × Op) : TwoRuns where
  bare := if label.1 then self.bare else self.bare.step params label.2
  full := self.full.step params label.2
  time := label.2.1.now
  began := self.bare.beganNext self.began label.2.1.now

/-- Marked labels are reads, the clock does not go back, no plain package has an allowance or
has been counting for more than `INT_MAX` ms, and any other package is exempted when it makes a
request. -/
structure TwoRuns.Comparable (plain : String → Bool) (runs : TwoRuns) (label : Bool × Env × Op) :
    Prop where
  reads : label.1 = true → IsRead label.2.2
  notBack : runs.time ≤ label.2.1.now
  free : PkgDelaySuspendInfo.NoAllowance plain label.2.1.config
  short : ∀ key, plain key.1 = true → runs.bare.isCountingAt key = true →
    label.2.1.now - runs.began key ≤ intMax
  exempted : RequestsExempted plain label.2.1 label.2.2

structure TwoRuns.Agree (plain : String → Bool) (runs : TwoRuns) : Prop where
  alike : Alike plain runs.time runs.bare runs.full
  spans : runs.bare.SpansSince runs.began runs.time
  spans' : runs.full.SpansSince runs.began runs.time
  passed : ∀ key, runs.began key ≤ runs.time

theorem agree_step (params : Params) (plain : String → Bool) (runs : TwoRuns)
    (label : Bool × Env × Op) (agree : runs.Agree plain)
    (comparable : runs.Comparable plain label) :
    (runs.step params label).Agree plain := by
  obtain ⟨inserted, env, op⟩ := label
  obtain ⟨reads, notBack, free, short, exempted⟩ := comparable
  have now : Alike plain env.now runs.bare runs.full :=
    agree.alike.later agree.spans agree.spans' notBack short
  have sameBegan : runs.bare.beganNext runs.began env.now =
      runs.full.beganNext runs.began env.now := by
    funext key
    unfold beganNext
    rw [now.isCountingAt]
  have stepped : (runs.full.step params (env, op)).SpansSince
      (runs.bare.beganNext runs.began env.now) env.now := by
    rw [sameBegan]
    exact spansSince_step agree.spans' op notBack agree.passed
  have passed : ∀ key, runs.bare.beganNext runs.began env.now key ≤ env.now :=
    beganNext_le (fun key => (agree.passed key).trans notBack)
  cases inserted with
  | true => exact ⟨now.read free (reads rfl), spansSince_idle agree.spans notBack, stepped, passed⟩
  | false =>
      exact ⟨now.step free exempted, spansSince_step agree.spans op notBack agree.passed, stepped,
        passed⟩

def quotaAt (params : Params) (env : Env) (key : String × Int) (s : BgTransientTaskMgr) : Int :=
  (s.decisionMaker.getQuota params env ⟨key.1, key.2, -1⟩).1

theorem quotaAt_eq {one other : BgTransientTaskMgr} {plain : String → Bool} {env : Env}
    (params : Params) (alike : Alike plain env.now one other)
    (free : PkgDelaySuspendInfo.NoAllowance plain env.config) {key : String × Int}
    (isPlain : plain key.1 = true) : quotaAt params env key other = quotaAt params env key one := by
  obtain ⟨decision, rfl, same⟩ := alike
  unfold quotaAt DecisionMaker.getQuota
  rcases same.pkgs.lookup key with ⟨missing, missing'⟩ | ⟨pkgInfo, pkgInfo', found, found', related⟩
  · simp only [KeyInfo.mapKey, missing, missing']
  · simp only [KeyInfo.mapKey, found, found']
    rw [PkgDelaySuspendInfo.quota_eq_dueQuota (related.pkg' ▸ free _ isPlain),
      PkgDelaySuspendInfo.quota_eq_dueQuota (related.pkg ▸ free _ isPlain), related.quota isPlain]

/-- In every pair of runs whose steps meet the condition, a plain package has the same quota with
and without the reads, once both settle it at the same time. -/
theorem reads_cost_nothing (params : Params) (plain : String → Bool) (start : Int)
    (labels : List (Bool × Env × Op))
    (comparable : StepSystem.Admissible (TwoRuns.step params) (TwoRuns.Comparable plain)
      { time := start } labels) (env : Env) (key : String × Int) (isPlain : plain key.1 = true) :
    let last := StepSystem.run (TwoRuns.step params) { time := start } labels
    last.Comparable plain (true, env, .dumpAllRequestId) →
      quotaAt params env key last.full = quotaAt params env key last.bare := by
  intro last settles
  have empty : TwoRuns.Agree plain { time := start } := by
    refine ⟨⟨{}, rfl, ?_⟩, ?_, ?_, fun _ => le_refl start⟩
    · exact ⟨rfl, rfl, rfl, KeyedMap.related_empty, rfl, rfl⟩
    · intro key pkgInfo found
      exact absurd found (by simp)
    · intro key pkgInfo found
      exact absurd found (by simp)
  have agree : last.Agree plain :=
    StepSystem.run_invariant (agree_step params plain) labels _ empty comparable
  exact quotaAt_eq params (agree.alike.later agree.spans agree.spans' settles.notBack
    settles.short) settles.free isPlain

def readLabels (config : BgtaskConfig) : List (Bool × Env × Op) :=
  [(false, { quietEnv 1000 with config := config }, .initNecessaryState true),
    (false, { quietEnv 1100 with config := config }, .requestSuspendDelay 100 7 (.of 1)),
    (true, { quietEnv 2000 with config := config }, .getAllTransientTasks 100 7)]

theorem reads_cost_nothing_plain :
    let last := StepSystem.run (TwoRuns.step {}) { time := 1000 }
      (readLabels ⟨fun _ => false, 1500⟩)
    quotaAt {} { quietEnv 3000 with config := ⟨fun _ => false, 1500⟩ } ("app", 100) last.full =
      quotaAt {} { quietEnv 3000 with config := ⟨fun _ => false, 1500⟩ } ("app", 100)
        last.bare := by
  have free : PkgDelaySuspendInfo.NoAllowance (fun _ => true) ⟨fun _ => false, 1500⟩ := by
    intro pkg _
    rfl
  have exempted (env : Env) (op : Op) : RequestsExempted (fun _ => true) env op := by
    intro uid pid callback name _ _ isPlain
    exact absurd isPlain (by simp)
  have comparable (runs : TwoRuns) (inserted : Bool) (now : Int) (op : Op)
      (reads : inserted = true → IsRead op) (notBack : runs.time ≤ now)
      (early : ∀ key, 1000 ≤ runs.began key) (soon : now ≤ 3000) :
      runs.Comparable (fun _ => true)
        (inserted, { quietEnv now with config := ⟨fun _ => false, 1500⟩ }, op) := by
    refine ⟨reads, notBack, free, ?_, exempted _ _⟩
    intro key _ _
    have late := early key
    change now - runs.began key ≤ 2147483647
    omega
  have first (key : String × Int) : (1000 : Int) ≤ 1000 := le_refl _
  have second := le_beganNext {} first (le_refl 1000)
  have third := le_beganNext (BgTransientTaskMgr.step {} {}
    ({ quietEnv 1000 with config := ⟨fun _ => false, 1500⟩ }, .initNecessaryState true)) second
      (show (1000 : Int) ≤ 1100 by decide)
  refine reads_cost_nothing {} (fun _ => true) 1000 (readLabels ⟨fun _ => false, 1500⟩)
    ⟨?_, ?_, ?_, trivial⟩ { quietEnv 3000 with config := ⟨fun _ => false, 1500⟩ } ("app", 100) rfl
    ?_
  · exact comparable _ _ _ _ (by simp) (by decide) first (by decide)
  · exact comparable _ _ _ _ (by simp) (by decide) second (by decide)
  · exact comparable _ _ _ _ (fun _ => trivial) (by decide) third (by decide)
  · exact comparable _ _ _ _ (fun _ => trivial) (by decide)
      (le_beganNext _ third (by decide)) (by decide)

/-- An exempted app has the allowance once more after a read: what it spent is not charged. -/
theorem read_saves_quota :
    let last := StepSystem.run (TwoRuns.step {}) { time := 1000 }
      (readLabels ⟨fun _ => true, 1500⟩)
    (∀ label ∈ readLabels ⟨fun _ => true, 1500⟩, label.1 = true →
        label.2.2 = .getAllTransientTasks 100 7) ∧
      quotaAt {} { quietEnv 3000 with config := ⟨fun _ => true, 1500⟩ } ("app", 100) last.bare =
        599600 ∧
      quotaAt {} { quietEnv 3000 with config := ⟨fun _ => true, 1500⟩ } ("app", 100) last.full =
        600000 := by
  refine ⟨?_, by decide, by decide⟩
  simp [readLabels]

end BgTransientTaskMgr

end BgTaskMgr.Transient
