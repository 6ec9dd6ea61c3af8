import BgTaskMgr.Transient.Effects
import BgTaskMgr.Transient.StoreConsistency

/-!
# Apps apart

What the manager keeps of an app (its package with the requests, the quota and the accounting,
the background window, its ids with their callbacks and watchdogs, and whether it is paused) is
written only by what concerns the app: its own calls and processes, events of its own ids, the
screen, a new day, and the end of a pause.
-/

set_option autoImplicit false

namespace BgTaskMgr.Transient

open StepSystem

namespace DecisionMaker

structure SameApp (app : String × Int) (before after : DecisionMaker) : Prop where
  pkg : after.pkgDelaySuspendInfoMap.lookup app = before.pkgDelaySuspendInfoMap.lookup app
  window : after.pkgBgDurationMap.lookup app = before.pkgBgDurationMap.lookup app

section

variable {app : String × Int} {params : Params} {env : Env} {d middle after : DecisionMaker}

theorem SameApp.refl (d : DecisionMaker) : SameApp app d d := ⟨rfl, rfl⟩

theorem SameApp.trans (early : SameApp app d middle) (late : SameApp app middle after) :
    SameApp app d after :=
  ⟨late.pkg.trans early.pkg, late.window.trans early.window⟩

theorem sameApp_updatePkg {key : String × Int} (apart : app ≠ key)
    (f : TimerManager → PkgDelaySuspendInfo → PkgDelaySuspendInfo × TimerManager) :
    SameApp app d (d.updatePkg key f) := by
  refine ⟨?_, ?_⟩
  · rw [updatePkg_lookup, if_neg apart]
  · unfold updatePkg
    split
    · rfl
    · rfl

theorem sameApp_updateForeground (uid pid : Int) (isForeground : Bool) :
    SameApp app d (d.updateForegroundUidPidMap uid pid isForeground) := by
  unfold updateForegroundUidPidMap
  dsimp only
  split
  · exact ⟨rfl, rfl⟩
  split
  · exact ⟨rfl, rfl⟩
  · exact ⟨rfl, rfl⟩

theorem sameApp_foldl {α : Type} {f : DecisionMaker → α → DecisionMaker} (items : List α)
    (each : ∀ d item, item ∈ items → SameApp app d (f d item)) :
    SameApp app d (items.foldl f d) := by
  induction items generalizing d with
  | nil => exact .refl d
  | cons item rest ih =>
      exact (each d item (by simp)).trans
        (ih (fun d other member => each d other (List.mem_cons_of_mem item member)))

theorem sameApp_tryStartAccounting {uid : Int} {bundleName : String}
    (apart : app ≠ (bundleName, uid)) :
    SameApp app d (d.tryStartAccounting params env uid bundleName).2 := by
  unfold tryStartAccounting
  split
  · exact .refl d
  split
  · dsimp only
    exact sameApp_updatePkg apart _
  · exact .refl d

theorem sameApp_handleStateChange {bundleName : String} {uid : Int}
    (apart : app ≠ (bundleName, uid)) (isForeground isBackground : Bool) :
    SameApp app d (d.handleStateChange params env bundleName uid isForeground isBackground) := by
  unfold handleStateChange
  dsimp only
  split
  · have moved := @sameApp_updatePkg app d (bundleName, uid) apart
      (fun timers pkgInfo => pkgInfo.stopAccountingAll params env.config env.now timers)
    refine ⟨moved.pkg, ?_⟩
    rw [KeyedMap.lookup_erase, if_neg apart]
    exact moved.window
  split
  · split
    · exact .refl d
    split
    · have moved := @sameApp_updatePkg app d (bundleName, uid) apart
        (fun timers pkgInfo => pkgInfo.startAccounting params env.config env.now (-1) timers)
      refine ⟨moved.pkg, ?_⟩
      rw [KeyedMap.lookup_insert, if_neg apart]
      exact moved.window
    · exact .refl d
  · exact .refl d

theorem sameApp_onProcessStateChanged {processData : ProcessData}
    (apart : app ≠ (processData.bundleName, processData.uid)) :
    SameApp app d (d.onProcessStateChanged params env processData) := by
  unfold onProcessStateChanged
  dsimp only
  split
  · exact (sameApp_updateForeground _ _ _).trans (sameApp_handleStateChange apart _ _)
  · exact sameApp_updateForeground _ _ _

theorem sameApp_onProcessDied {processData : ProcessData}
    (apart : app ≠ (processData.bundleName, processData.uid)) :
    SameApp app d (d.onProcessDied params env processData) :=
  (sameApp_updateForeground _ _ _).trans (sameApp_tryStartAccounting apart)

theorem sameApp_resetDayQuotaLocked
    (sameDay : isAfterOneDay params d.lastRequestTime env.now = false) :
    SameApp app d (d.resetDayQuotaLocked params env) := by
  unfold resetDayQuotaLocked
  rw [if_neg (by simp [sameDay])]
  exact .refl d

theorem sameApp_grant {key : KeyInfo} (apart : app ≠ key.mapKey)
    (delayInfo : DelaySuspendInfoEx) (pkgInfo : PkgDelaySuspendInfo) (needSetTime : Bool) :
    SameApp app d (d.grant params env key delayInfo pkgInfo needSetTime).2 := by
  have stored (added : PkgDelaySuspendInfo) :
      SameApp app d (d.newDelaySuspendRequestId.2.storeRequest key added) := by
    refine ⟨?_, rfl⟩
    show ((d.pkgDelaySuspendInfoMap.insert key.mapKey added).lookup app) = _
    rw [KeyedMap.lookup_insert, if_neg apart]
  unfold grant
  dsimp only
  split
  · dsimp only
    exact (stored _).trans (sameApp_updatePkg apart _)
  · exact stored _

theorem sameApp_decide {key : KeyInfo} (apart : app ≠ key.mapKey)
    (sameDay : isAfterOneDay params d.lastRequestTime env.now = false)
    (delayInfo : DelaySuspendInfoEx) : SameApp app d (d.decide params env key delayInfo).2.2 := by
  have quota (d : DecisionMaker) :
      SameApp app d (d.decideQuota params env key delayInfo).2.2 := by
    unfold decideQuota
    dsimp only
    split
    · exact sameApp_grant apart _ _ _
    · refine ⟨?_, rfl⟩
      rw [KeyedMap.lookup_insert, if_neg apart]
  have reset := @sameApp_resetDayQuotaLocked app params env d sameDay
  unfold decide
  dsimp only
  split
  · split
    · exact reset
    · exact reset.trans (quota _)
  · exact reset.trans (quota _)

theorem sameApp_removeRequest {key : Option KeyInfo}
    (apart : ∀ keyInfo, key = some keyInfo → app ≠ keyInfo.mapKey) (requestId : Int) :
    SameApp app d (d.removeRequest params env key requestId) := by
  unfold removeRequest
  split
  · exact .refl d
  · rename_i keyInfo
    split
    · exact .refl d
    · have moved := @sameApp_updatePkg app d keyInfo.mapKey (apart keyInfo rfl)
        (fun timers pkgInfo =>
          pkgInfo.removeRequest params env.config env.now requestId timers)
      exact ⟨moved.pkg, moved.window⟩

theorem sameApp_pause {uid : Int} {name : String} (apart : app ≠ (name, uid)) :
    SameApp app d (d.pauseTransientTaskTimeForInner params env uid name).2 := by
  unfold pauseTransientTaskTimeForInner
  split
  · exact .refl d
  split
  · exact .refl d
  · dsimp only
    exact sameApp_updatePkg apart _

theorem sameApp_start {uid : Int} {name : String} (apart : app ≠ (name, uid)) :
    SameApp app d (d.startTransientTaskTimeForInner params env uid name).2 := by
  unfold startTransientTaskTimeForInner
  split
  · exact .refl d
  · exact sameApp_tryStartAccounting apart

theorem sameApp_getQuota {key : KeyInfo} (apart : app ≠ key.mapKey) :
    SameApp app d (d.getQuota params env key).2 := by
  unfold getQuota
  split
  · dsimp only
    exact sameApp_updatePkg apart _
  · exact .refl d

theorem sameApp_handleScreenOn
    (apart : app ∉ env.foregroundApplications.getD []) :
    SameApp app d (d.handleScreenOn params env) := by
  unfold handleScreenOn
  split
  · exact .refl d
  · rename_i fgAppList running
    rw [running, Option.getD_some] at apart
    refine sameApp_foldl fgAppList (fun d fgApp member => sameApp_updatePkg ?_ _)
    rintro rfl
    exact apart member

end

end DecisionMaker

open DecisionMaker

namespace BgTransientTaskMgr

structure SameOf (app : String × Int) (before after : BgTransientTaskMgr) : Prop where
  decision : SameApp app before.decisionMaker after.decisionMaker
  ids : ∀ id, after.Holds app id ↔ before.Holds app id
  keyInfos : ∀ id, before.Holds app id → after.keyInfoMap.lookup id = before.keyInfoMap.lookup id
  callbacks : ∀ id, before.Holds app id →
    after.expiredCallbackMap.lookup id = before.expiredCallbackMap.lookup id
  watchdogs : ∀ id, before.Holds app id → after.watchdog.count id = before.watchdog.count id
  paused : app.2 ∈ after.transientPauseUid ↔ app.2 ∈ before.transientPauseUid

def Concerns (params : Params) (app : String × Int) (s : BgTransientTaskMgr) : Env × Op → Prop
  | (_, .initNecessaryState _) => False
  | (env, .requestSuspendDelay uid _ _) =>
      (uid = app.2 ∧ env.bundleNameForUid uid = some app.1) ∨
        isAfterOneDay params s.decisionMaker.lastRequestTime env.now = true ∨
        s.Holds app s.decisionMaker.newDelaySuspendRequestId.1
  | (env, .cancelSuspendDelay uid _ _) => uid = app.2 ∧ env.bundleNameForUid uid = some app.1
  | (_, .watchdogEvent requestId) => s.Holds app requestId
  | (_, .expiredCallbackDeath remote) =>
      ∃ id, s.Holds app id ∧ s.expiredCallbackMap.lookup id = some remote
  | (_, .timerEvent requestId) => s.Holds app requestId
  | (_, .appCacheStateChanged _ _ _) => False
  | (_, .appCacheLocked index) =>
      ∃ requestIdList, s.cacheSnapshots[index]? = some requestIdList ∧
        ∃ id ∈ requestIdList, s.Holds app id
  | (env, .getAllTransientTasks uid _) => uid = app.2 ∧ env.bundleNameForUid uid = some app.1
  | (_, .dumpAllRequestId) => ∃ id, s.Holds app id
  | (_, .pause uid) => uid = app.2
  | (_, .start uid) => uid = app.2
  | (_, .suspendManagerDie) => app.2 ∈ s.transientPauseUid
  | (_, .processStateChanged processData) => app = (processData.bundleName, processData.uid)
  | (_, .processDied processData) => app = (processData.bundleName, processData.uid)
  | (env, .inputEvent event _) =>
      (event = .screenOn ∧ app ∈ env.foregroundApplications.getD []) ∨ event = .screenOff
  | (_, .setDump _) => False

section

variable {app : String × Int} {params : Params} {env : Env} {s middle after : BgTransientTaskMgr}

theorem SameOf.refl (s : BgTransientTaskMgr) : SameOf app s s :=
  ⟨.refl _, fun _ => .rfl, fun _ _ => rfl, fun _ _ => rfl, fun _ _ => rfl, .rfl⟩

theorem SameOf.trans (early : SameOf app s middle) (late : SameOf app middle after) :
    SameOf app s after where
  decision := early.decision.trans late.decision
  ids id := (late.ids id).trans (early.ids id)
  keyInfos id held := (late.keyInfos id ((early.ids id).mpr held)).trans (early.keyInfos id held)
  callbacks id held :=
    (late.callbacks id ((early.ids id).mpr held)).trans (early.callbacks id held)
  watchdogs id held :=
    (late.watchdogs id ((early.ids id).mpr held)).trans (early.watchdogs id held)
  paused := late.paused.trans early.paused

/-- A step that only writes the decision maker, and there nothing of the app. -/
theorem SameOf.of_decision {decision : DecisionMaker}
    (same : SameApp app s.decisionMaker decision) :
    SameOf app s { s with decisionMaker := decision } :=
  ⟨same, fun _ => .rfl, fun _ _ => rfl, fun _ _ => rfl, fun _ _ => rfl, .rfl⟩

theorem sameOf_removeWatchdog {requestId : Int} (apart : ¬ s.Holds app requestId) :
    SameOf app s (s.removeWatchdog requestId) := by
  refine ⟨.refl _, fun _ => .rfl, fun _ _ => rfl, fun _ _ => rfl, fun id held => ?_, .rfl⟩
  have other : id ≠ requestId := fun same => apart (same ▸ held)
  exact List.count_filter (by simpa using other)

/-- The key of an id that is not the app's is another one. -/
theorem mapKey_ne {requestId : Int} {keyInfo : KeyInfo} (apart : ¬ s.Holds app requestId)
    (found : s.keyInfoMap.lookup requestId = some keyInfo) : app ≠ keyInfo.mapKey := by
  rintro rfl
  apply apart
  unfold Holds
  rw [found]
  rfl

theorem sameOf_erased {requestId : Int} {decision : DecisionMaker}
    {callbacks : KeyedMap Int Remote} (apart : ¬ s.Holds app requestId)
    (same : SameApp app s.decisionMaker decision)
    (kept : ∀ id, id ≠ requestId → callbacks.lookup id = s.expiredCallbackMap.lookup id) :
    SameOf app s { s with
      decisionMaker := decision
      keyInfoMap := s.keyInfoMap.erase requestId
      expiredCallbackMap := callbacks } := by
  have other {id : Int} (held : s.Holds app id) : id ≠ requestId :=
    fun isId => apart (isId ▸ held)
  refine ⟨same, fun id => ?_, fun id held => ?_, fun id held => kept id (other held),
    fun _ _ => rfl, .rfl⟩
  · unfold Holds
    dsimp only
    rw [KeyedMap.lookup_erase]
    split
    · rename_i isId
      subst isId
      exact iff_of_false (by simp) apart
    · rfl
  · dsimp only
    rw [KeyedMap.lookup_erase, if_neg (other held)]

theorem sameOf_cancelSuspendDelayLocked {requestId : Int} (apart : ¬ s.Holds app requestId) :
    SameOf app s (s.cancelSuspendDelayLocked params env requestId).2 := by
  have freed := sameOf_removeWatchdog apart
  have removed : SameApp app s.decisionMaker (s.decisionMaker.removeRequest params env
      (s.keyInfoMap.lookup requestId) requestId) :=
    sameApp_removeRequest (fun keyInfo found => mapKey_ne apart found) requestId
  unfold cancelSuspendDelayLocked
  dsimp only
  split
  · refine freed.trans (@sameOf_erased app (s.removeWatchdog requestId) requestId _ _ apart removed
      (fun id other => ?_))
    rw [KeyedMap.lookup_erase, if_neg other]
  · exact freed.trans (@sameOf_erased app (s.removeWatchdog requestId) requestId _ _ apart removed
      (fun _ _ => rfl))

theorem sameOf_cancelSnapshot {requestIdList : List Int}
    (apart : ∀ id ∈ requestIdList, ¬ s.Holds app id) :
    SameOf app s (s.cancelSnapshot params env requestIdList) := by
  unfold cancelSnapshot
  induction requestIdList generalizing s with
  | nil => exact .refl s
  | cons requestId rest ih =>
      have one := @sameOf_cancelSuspendDelayLocked app params env s requestId
        (apart requestId (by simp))
      refine one.trans (ih (fun id member held => ?_))
      exact apart id (by simp [member]) ((one.ids id).mp held)

/-- A request of another app, on the same day and with an id that is not the app's. -/
theorem sameOf_requestSuspendDelay {uid pid : Int} {callback : ExpiredCallback}
    (apart : ¬ Concerns params app s (env, .requestSuspendDelay uid pid callback)) :
    SameOf app s (s.requestSuspendDelay params env uid pid callback).2 := by
  obtain ⟨notOwn, sameDay, free⟩ : ¬ (uid = app.2 ∧ env.bundleNameForUid uid = some app.1) ∧
      isAfterOneDay params s.decisionMaker.lastRequestTime env.now = false ∧
      ¬ s.Holds app s.decisionMaker.newDelaySuspendRequestId.1 := by
    simpa [Concerns] using apart
  unfold requestSuspendDelay
  split
  · exact .refl s
  split
  · exact .refl s
  rename_i name remote legal
  have lookup := lookup_of_legal legal
  have other : app ≠ (KeyInfo.mk name uid pid).mapKey := by
    rintro rfl
    exact notOwn ⟨rfl, lookup⟩
  unfold requestSuspendDelayLocked
  split
  · exact .refl s
  dsimp only
  have same := @sameApp_decide app params env s.decisionMaker ⟨name, uid, pid⟩ other sameDay
    { pid := pid }
  split
  · rename_i granted
    have id : (s.decisionMaker.decide params env ⟨name, uid, pid⟩ { pid := pid }).2.1.requestId =
        s.decisionMaker.newDelaySuspendRequestId.1 :=
      ((decide_spec params env s.decisionMaker ⟨name, uid, pid⟩ { pid := pid }).granted
        granted).1
    have fresh {requestId : Int} (held : s.Holds app requestId) :
        requestId ≠ s.decisionMaker.newDelaySuspendRequestId.1 := fun isNew => free (isNew ▸ held)
    rw [id]
    refine ⟨same, fun requestId => ?_, fun requestId held => ?_, fun requestId held => ?_,
      fun _ _ => rfl, .rfl⟩
    · unfold Holds
      dsimp only
      rw [KeyedMap.lookup_insert]
      split
      · rename_i isNew
        subst isNew
        exact iff_of_false (fun mine => other (Option.some.inj mine).symm) free
      · rfl
    · dsimp only
      rw [KeyedMap.lookup_insert, if_neg (fresh held)]
    · dsimp only
      rw [KeyedMap.lookup_insert, if_neg (fresh held)]
  · exact .of_decision same

theorem sameOf_cancelSuspendDelay {uid pid requestId : Int}
    (apart : ¬ (uid = app.2 ∧ env.bundleNameForUid uid = some app.1)) :
    SameOf app s (s.cancelSuspendDelay params env uid pid requestId).2 := by
  unfold cancelSuspendDelay
  split
  · exact .refl s
  split
  · exact .refl s
  split
  · exact .refl s
  rename_i name lookup
  split
  · rename_i verified
    refine sameOf_cancelSuspendDelayLocked (fun held => apart ?_)
    -- the id belongs to the caller
    unfold Holds at held
    unfold verifyRequestIdLocked at verified
    obtain ⟨keyInfo, found, isApp⟩ := Option.map_eq_some_iff.mp held
    rw [found] at verified
    simp only [Bool.and_eq_true, decide_eq_true_eq] at verified
    obtain ⟨rfl, rfl⟩ := verified
    subst isApp
    exact ⟨rfl, lookup⟩
  · exact .refl s

theorem sameOf_handleExpiredCallbackDeath {remote : Remote}
    (apart : ∀ id, s.Holds app id → s.expiredCallbackMap.lookup id ≠ some remote) :
    SameOf app s (s.handleExpiredCallbackDeath params env remote) := by
  unfold handleExpiredCallbackDeath
  split
  · exact .refl s
  rename_i callbackIter search
  have dies : s.expiredCallbackMap.lookup callbackIter.1 = some remote := by
    have isRemote := List.find?_some search
    rw [← of_decide_eq_true isRemote]
    exact KeyedMap.mem_entries_iff.mp (List.mem_of_find?_eq_some search)
  have free : ¬ s.Holds app callbackIter.1 := fun held => apart callbackIter.1 held dies
  have freed := sameOf_removeWatchdog free
  dsimp only
  split
  · refine freed.trans ⟨.refl _, fun _ => .rfl, fun _ _ => rfl, fun id held => ?_,
      fun _ _ => rfl, .rfl⟩
    have other : id ≠ callbackIter.1 := by
      rintro rfl
      exact free held
    dsimp only
    rw [KeyedMap.lookup_erase, if_neg other]
  · rename_i keyInfo found
    refine freed.trans (@sameOf_erased app (s.removeWatchdog callbackIter.1) callbackIter.1 _ _
      free ?_ (fun id other => ?_))
    · refine sameApp_removeRequest (fun other isKey => ?_) _
      obtain rfl := Option.some.inj isKey
      exact mapKey_ne free found
    · rw [KeyedMap.lookup_erase, if_neg other]

theorem sameOf_watchdogEvent {requestId : Int} (apart : ¬ s.Holds app requestId) :
    SameOf app s ({ s with watchdog := s.watchdog.erase requestId }.forceCancelSuspendDelay params
      env requestId) := by
  have taken : SameOf app s { s with watchdog := s.watchdog.erase requestId } := by
    refine ⟨.refl _, fun _ => .rfl, fun _ _ => rfl, fun _ _ => rfl, fun id held => ?_, .rfl⟩
    have other : id ≠ requestId := fun same => apart (same ▸ held)
    exact List.count_erase_of_ne other
  unfold forceCancelSuspendDelay
  split
  · exact taken.trans (sameOf_cancelSuspendDelayLocked apart)
  · exact taken

theorem sameOf_handleRequestExpired {requestId : Int} (apart : ¬ s.Holds app requestId) :
    SameOf app s (s.handleRequestExpired requestId) := by
  unfold handleRequestExpired
  split
  · dsimp only
    split
    · refine ⟨.refl _, fun _ => .rfl, fun _ _ => rfl, fun _ _ => rfl, fun id held => ?_, .rfl⟩
      have other : requestId ≠ id := fun same => apart (same ▸ held)
      dsimp only
      rw [List.count_append, List.count_singleton, if_neg (by simpa using other), Nat.add_zero]
    · exact ⟨.refl _, fun _ => .rfl, fun _ _ => rfl, fun _ _ => rfl, fun _ _ => rfl, .rfl⟩
  · exact .refl s

theorem sameOf_pause {uid : Int} (apart : uid ≠ app.2) :
    SameOf app s (s.pauseTransientTaskTimeForInner params env uid).2 := by
  unfold pauseTransientTaskTimeForInner
  split
  · exact .refl s
  split
  · exact .refl s
  split
  · exact .refl s
  split
  · exact .refl s
  rename_i name _
  have other : app ≠ (name, uid) := by
    rintro rfl
    exact apart rfl
  have same := @sameApp_pause app params env s.decisionMaker uid name other
  dsimp only
  split
  · refine ⟨same, fun _ => .rfl, fun _ _ => rfl, fun _ _ => rfl, fun _ _ => rfl, ?_⟩
    simp [apart.symm]
  · exact .of_decision same

theorem sameOf_start {uid : Int} (apart : uid ≠ app.2) :
    SameOf app s (s.startTransientTaskTimeForInner params env uid).2 := by
  unfold startTransientTaskTimeForInner
  split
  · exact .refl s
  split
  · exact .refl s
  split
  · exact .refl s
  split
  · exact .refl s
  rename_i name _
  have other : app ≠ (name, uid) := by
    rintro rfl
    exact apart rfl
  have same := @sameApp_start app params env s.decisionMaker uid name other
  dsimp only
  split
  · refine ⟨same, fun _ => .rfl, fun _ _ => rfl, fun _ _ => rfl, fun _ _ => rfl, ?_⟩
    simp [apart.symm]
  · exact .of_decision same

theorem sameOf_handleSuspendManagerDie (apart : app.2 ∉ s.transientPauseUid) :
    SameOf app s (s.handleSuspendManagerDie params env) := by
  have same : SameApp app s.decisionMaker
      ((s.transientPauseUid.sort (· ≤ ·)).foldl (restartUid params env) s.decisionMaker) := by
    refine sameApp_foldl _ (fun d uid member => ?_)
    unfold restartUid
    split
    · exact .refl d
    · rename_i name _
      refine sameApp_start ?_
      rintro rfl
      exact apart ((Finset.mem_sort _).mp member)
  refine ⟨same, fun _ => .rfl, fun _ _ => rfl, fun _ _ => rfl, fun _ _ => rfl, ?_⟩
  exact iff_of_false (Finset.notMem_empty _) apart

theorem sameOf_getAllTransientTasks {uid pid : Int}
    (apart : ¬ (uid = app.2 ∧ env.bundleNameForUid uid = some app.1)) :
    SameOf app s (s.getAllTransientTasks params env uid pid).2 := by
  unfold getAllTransientTasks
  split
  · exact .refl s
  split
  · exact .refl s
  split
  · exact .refl s
  rename_i name lookup
  refine .of_decision (sameApp_getQuota ?_)
  rintro rfl
  exact apart ⟨rfl, lookup⟩

theorem sameOf_dumpAllRequestId (apart : ∀ id, ¬ s.Holds app id) :
    SameOf app s (s.dumpAllRequestId params env) := by
  refine .of_decision (sameApp_foldl _ (fun d record member => sameApp_getQuota ?_))
  exact mapKey_ne (apart record.1) (KeyedMap.mem_entries_iff.mp member)

/-- A step that is not about the app leaves everything of it as it is. -/
theorem sameOf_step {label : Env × Op} (apart : ¬ Concerns params app s label) :
    SameOf app s (s.step params label) := by
  have ready {after : BgTransientTaskMgr} (same : SameOf app s after) :
      SameOf app s (if s.isReady then after else s) := by
    split
    · exact same
    · exact .refl s
  obtain ⟨env, op⟩ := label
  cases op with
  | initNecessaryState servicesUp =>
      show SameOf app s (if servicesUp then { s with isReady := true } else s)
      split
      · exact ⟨.refl _, fun _ => .rfl, fun _ _ => rfl, fun _ _ => rfl, fun _ _ => rfl, .rfl⟩
      · exact .refl s
  | requestSuspendDelay uid pid callback => exact sameOf_requestSuspendDelay apart
  | cancelSuspendDelay uid pid requestId => exact sameOf_cancelSuspendDelay apart
  | watchdogEvent requestId => exact sameOf_watchdogEvent apart
  | expiredCallbackDeath remote =>
      exact sameOf_handleExpiredCallbackDeath (fun id held dies => apart ⟨id, held, dies⟩)
  | timerEvent requestId =>
      let timers : TimerManager := ⟨s.decisionMaker.timerManager.events.eraseP
        (fun event => event.1 = requestId)⟩
      have fired : SameOf app s { s with
          decisionMaker := { s.decisionMaker with timerManager := timers } } :=
        .of_decision ⟨rfl, rfl⟩
      exact fired.trans (sameOf_handleRequestExpired apart)
  | appCacheStateChanged uid pid bundleName =>
      show SameOf app s (s.onAppCacheStateChanged uid pid bundleName)
      unfold onAppCacheStateChanged
      split
      · exact .refl s
      split
      · exact .refl s
      dsimp only
      split
      · exact .refl s
      · exact ⟨.refl _, fun _ => .rfl, fun _ _ => rfl, fun _ _ => rfl, fun _ _ => rfl, .rfl⟩
  | appCacheLocked index =>
      simp only [step]
      split
      · exact .refl s
      · rename_i requestIdList waiting
        have left : SameOf app s { s with cacheSnapshots := s.cacheSnapshots.eraseIdx index } :=
          ⟨.refl _, fun _ => .rfl, fun _ _ => rfl, fun _ _ => rfl, fun _ _ => rfl, .rfl⟩
        exact left.trans (sameOf_cancelSnapshot (fun id member held =>
          apart ⟨requestIdList, waiting, id, member, held⟩))
  | getAllTransientTasks uid pid => exact sameOf_getAllTransientTasks apart
  | dumpAllRequestId => exact ready (sameOf_dumpAllRequestId (fun id held => apart ⟨id, held⟩))
  | pause uid => exact sameOf_pause apart
  | start uid => exact sameOf_start apart
  | suspendManagerDie => exact ready (sameOf_handleSuspendManagerDie apart)
  | processStateChanged processData =>
      exact ready (.of_decision (sameApp_onProcessStateChanged apart))
  | processDied processData => exact ready (.of_decision (sameApp_onProcessDied apart))
  | inputEvent event stringArg =>
      refine ready (.of_decision ?_)
      obtain ⟨off, screenOff⟩ := not_or.mp apart
      have device : SameApp app s.decisionMaker { s.decisionMaker with
          deviceInfoManager := s.decisionMaker.deviceInfoManager.onInputEvent event stringArg } :=
        ⟨rfl, rfl⟩
      unfold onInputEvent
      dsimp only
      split
      · exact device.trans (sameApp_handleScreenOn (fun running => off ⟨rfl, running⟩))
      · exact absurd rfl screenOff
      · exact ⟨rfl, rfl⟩
  | setDump isDump => exact ready (.of_decision ⟨rfl, rfl⟩)

/-- Along a run none of whose steps is about an app, everything that the manager keeps of the
app stays as it is, and so do the answers to its queries. -/
theorem apps_apart (params : Params) (app : String × Int) (s : BgTransientTaskMgr)
    (labels : List (Env × Op))
    (apart : Admissible (step params) (fun s label => ¬ Concerns params app s label) s labels) :
    let after := run (step params) s labels
    SameOf app s after ∧
      (∀ pid, after.decisionMaker.getRequestIdListByKey ⟨app.1, app.2, pid⟩ =
        s.decisionMaker.getRequestIdListByKey ⟨app.1, app.2, pid⟩) ∧
      ∀ env pid id, after.decisionMaker.getRemainingDelayTime env ⟨app.1, app.2, pid⟩ id =
        s.decisionMaker.getRemainingDelayTime env ⟨app.1, app.2, pid⟩ id := by
  intro after
  have same : SameOf app s after :=
    run_invariant (fun _ _ early apart => early.trans (sameOf_step apart)) labels s (.refl s) apart
  refine ⟨same, fun pid => ?_, fun env pid id => ?_⟩
  · unfold getRequestIdListByKey
    rw [show (KeyInfo.mk app.1 app.2 pid).mapKey = app from rfl, same.decision.pkg]
  · unfold getRemainingDelayTime
    rw [show (KeyInfo.mk app.1 app.2 pid).mapKey = app from rfl, same.decision.pkg]

def asked : BgTransientTaskMgr :=
  run (step {}) {} [(quietEnv 500, .initNecessaryState true),
    (quietEnv 1000, .requestSuspendDelay 100 7 (.of 1))]

def neighbour : List (Env × Op) :=
  [(quietEnv 1100, .requestSuspendDelay 200 8 (.of 2)),
    (quietEnv 1200, .processStateChanged ⟨"app", 200, 8, .foreground⟩),
    (quietEnv 1300, .cancelSuspendDelay 200 8 2)]

theorem apps_apart_neighbour :
    (run (step {}) asked neighbour).decisionMaker.getRequestIdListByKey ⟨"app", 100, 7⟩ = [1] := by
  have apart : Admissible (step {}) (fun s label => ¬ Concerns {} ("app", 100) s label) asked
      neighbour := by
    refine ⟨?_, ?_, ?_, trivial⟩
    · rintro (⟨own, -⟩ | newDay | held)
      · exact absurd own (by decide)
      · exact absurd newDay (by decide)
      · exact absurd held (by decide)
    · intro own
      exact absurd (congrArg Prod.snd own) (by decide)
    · rintro ⟨own, -⟩
      exact absurd own (by decide)
  exact ((apps_apart {} ("app", 100) asked neighbour apart).2.1 7).trans (by decide)

end

end BgTransientTaskMgr

end BgTaskMgr.Transient
