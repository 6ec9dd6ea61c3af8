import BgTaskMgr.Continuous.Authorisation
import BgTaskMgr.Continuous.Isolation
import BgTaskMgr.Continuous.TaskFile

/-!
# The store of authorisations

What each operation does to the authorisation records, their file and the callbacks, and
what holds of the store along runs: whether records stand under the label of their app, and
whether the callbacks that wait have a record.
-/

set_option autoImplicit false

namespace BgTaskMgr.Continuous

open BgContinuousTaskMgr

/-! ## Apps and their labels -/

structure AuthApp where
  bundleName : String
  userId : Int
  appIndex : Int
  deriving DecidableEq, Repr

def BannerNotificationRecord.app (record : BannerNotificationRecord) : AuthApp :=
  ⟨record.bundleName, record.userId, record.appIndex⟩

/-- The key under which the authorisation of an app belongs. -/
def AuthApp.label (app : AuthApp) : String :=
  createBannerNotificationLabel app.bundleName app.userId app.appIndex

theorem AuthApp.label_injective {first second : AuthApp} (same : first.label = second.label) :
    first = second := by
  unfold label createBannerNotificationLabel at same
  rw [String.append_right_inj] at same
  simp only [String.append_assoc] at same
  obtain ⟨users, rest⟩ := split_numbered same
  obtain ⟨indices, bundles⟩ := split_numbered rest
  obtain ⟨firstBundle, firstUser, firstIndex⟩ := first
  obtain ⟨secondBundle, secondUser, secondIndex⟩ := second
  dsimp only at users indices bundles
  rw [users, indices, bundles]

theorem isAuthOf_iff (app : AuthApp) (record : BannerNotificationRecord) :
    isAuthOf app.bundleName app.userId app.appIndex record = true ↔ record.app = app := by
  obtain ⟨bundleName, userId, appIndex⟩ := app
  simp [isAuthOf, BannerNotificationRecord.app, and_assoc]

theorem findAuthRecord_some {app : AuthApp} {records : KeyedMap String BannerNotificationRecord}
    {entry : Σ _ : String, BannerNotificationRecord}
    (search : findAuthRecord app.bundleName app.userId app.appIndex records = some entry) :
    records.lookup entry.1 = some entry.2 ∧ entry.2.app = app := by
  have matched := List.find?_some search
  exact ⟨KeyedMap.mem_entries_iff.mp (List.mem_of_find?_eq_some search),
    (isAuthOf_iff app entry.2).mp matched⟩

theorem findAuthRecord_none {app : AuthApp} {records : KeyedMap String BannerNotificationRecord} :
    findAuthRecord app.bundleName app.userId app.appIndex records = none ↔
      ∀ key record, records.lookup key = some record → record.app ≠ app := by
  unfold findAuthRecord
  rw [List.find?_eq_none]
  constructor
  · intro missed key record found same
    exact missed ⟨key, record⟩ (KeyedMap.mem_entries_iff.mpr found)
      ((isAuthOf_iff app record).mpr same)
  · intro none entry member matched
    exact none entry.1 entry.2 (KeyedMap.mem_entries_iff.mp member)
      ((isAuthOf_iff app entry.2).mp matched)

/-! ## What a step can do -/

namespace AuthMgr

def recordAt (self : AuthMgr) (key : String) : Option BannerNotificationRecord :=
  self.mgr.bannerNotificationRecord.lookup key

def callbackAt (self : AuthMgr) (key : String) : Option Nat :=
  self.expiredCallbackMap.lookup key

end AuthMgr

def notGranted (record : BannerNotificationRecord) : Bool :=
  record.authResult != UserAuthResult.grantedOnce &&
    record.authResult != UserAuthResult.grantedAlways

/-- The records that an operation takes out on a condition: banners that the user deletes,
one-time authorisations of an app that stopped, and those of a bundle that changed. -/
def takes (env : AuthEnv) (s : AuthMgr) : AuthOp → String → BannerNotificationRecord → Bool
  | .service (.task (.stopBannerContinuousTaskByUser label)), key, record =>
      s.mgr.isSysReady && key == label && notGranted record
  | .service (.task (.onCanceled pair deleteReason)), key, record =>
      s.mgr.isSysReady && key == pair.1 && notGranted record && isBannerLabel pair.1 &&
        deleteReason != .appCancel &&
        s.mgr.tools.published.any (fun notification => notification.pair == pair)
  | .service (.task (.onAppStopped uid)), _, record =>
      s.mgr.isSysReady && (env.appIndexAndBundleName uid).any (fun app =>
        record.bundleName == app.2 && record.appIndex == app.1 &&
          record.authResult == UserAuthResult.grantedOnce)
  | .service (.task (.onBundleInfoChanged action bundleName _ userId appIndex)), _, record =>
      s.mgr.isSysReady && action == .removedOrChanged && isAuthOf bundleName userId appIndex record
  | _, _, _ => false

/-- An operation by which the user or the system decides on the record under a key. -/
inductive Decides (env : AuthEnv) (key : String) (record : BannerNotificationRecord) :
    AuthOp → Prop where
  | set (taskParam : BackgroundTaskStateInfo)
      (app : record.app = ⟨taskParam.bundleName, taskParam.userId, taskParam.appIndex⟩) :
      Decides env key record (.setBackgroundTaskState (some taskParam))
  | dialog (authResult bundleUid : Int) (bundleName : String) (appIndex : Int)
      (label : key = AuthApp.label ⟨bundleName, env.osAccountLocalId bundleUid, appIndex⟩) :
      Decides env key record
        (.onPermissionDialogButtonClick authResult bundleUid bundleName appIndex)
  | banner (buttonType : Int) :
      Decides env key record (.onBannerNotificationActionButtonClick buttonType key)

/-- An operation that erases the record under a key with its callback. -/
inductive Erases (env : AuthEnv) (s : AuthMgr) (key : String) : AuthOp → Prop where
  | removed (callingUid : Int) (taskParam : ContinuousTaskParam)
      (label : key = AuthApp.label ⟨env.clientBundleName callingUid,
        env.osAccountLocalId callingUid, taskParam.appIndex⟩) :
      Erases env s key (.removeAuthRecord callingUid (some taskParam))
  | died (remote : Nat) (registered : s.findCallback remote = some key) :
      Erases env s key (.handleAuthExpiredCallbackDeath remote)

def Refreshed (env : AuthEnv) (s after : AuthMgr) : Prop :=
  after.mgr.authFile = if env.saveOk then after.mgr.bannerNotificationRecord else s.mgr.authFile

def Loads (env : AuthEnv) : Prop := env.allRunningProcesses.isSome = true ∧ env.fileReadable = true

def Backup.cut (env : AuthEnv) (replyOk : Bool) : Backup → Bool
  | .unreadable => false
  | .torn => true
  | .malformed => true
  | .records _ => !replyOk || !env.fileReadable

inductive AuthEffect (env : AuthEnv) (s after : AuthMgr) (op : AuthOp) : Prop where
  | kept (records : ∀ key, after.recordAt key = s.recordAt key)
      (file : after.mgr.authFile = s.mgr.authFile)
      (callbacks : ∀ key, after.callbackAt key = s.callbackAt key)
      (ready : after.mgr.isSysReady = s.mgr.isSysReady)
  | renamed (name : BannerNotificationRecord → String)
      (records : ∀ key, after.recordAt key = (s.recordAt key).map (fun record =>
        { record with appName := name record }))
      (file : after.mgr.authFile = s.mgr.authFile)
      (callbacks : ∀ key, after.callbackAt key = s.callbackAt key)
      (ready : after.mgr.isSysReady = s.mgr.isSysReady)
  | restarted (isOp : op = .service .restart) (records : ∀ key, after.recordAt key = none)
      (file : after.mgr.authFile = s.mgr.authFile) (callbacks : ∀ key, after.callbackAt key = none)
      (ready : after.mgr.isSysReady = false)
  | loaded (isOp : op = .service .initRequiredResourceInfo) (unready : s.mgr.isSysReady = false)
      (loads : Loads env)
      (records : after.mgr.bannerNotificationRecord =
        (jsonOrder s.mgr.authFile).foldl addRestored s.mgr.bannerNotificationRecord)
      (refreshed : Refreshed env s after)
      (callbacks : ∀ key, after.callbackAt key = s.callbackAt key)
      (ready : after.mgr.isSysReady = true)
  | unloaded (isOp : op = .service .initRequiredResourceInfo) (unready : s.mgr.isSysReady = false)
      (misses : ¬ Loads env) (records : ∀ key, after.recordAt key = s.recordAt key)
      (file : after.mgr.authFile = s.mgr.authFile ∨ Refreshed env s after)
      (callbacks : ∀ key, after.callbackAt key = s.callbackAt key)
      (ready : after.mgr.isSysReady = true)
  | taken (running : s.mgr.isSysReady = true)
      (records : ∀ key record, after.recordAt key = some record ↔
        s.recordAt key = some record ∧ takes env s op key record = false)
      (refreshed : Refreshed env s after)
      (callbacks : ∀ key, after.callbackAt key = s.callbackAt key)
      (ready : after.mgr.isSysReady = s.mgr.isSysReady)
  | decided (running : s.mgr.isSysReady = true) (key : String)
      (record : BannerNotificationRecord) (authResult : Int)
      (found : s.recordAt key = some record) (decides : Decides env key record op)
      (records : ∀ other, after.recordAt other =
        if other = key then some { record with authResult := authResult } else s.recordAt other)
      (refreshed : Refreshed env s after)
      (callbacks : ∀ other, after.callbackAt other = s.callbackAt other ∨
        after.callbackAt other = none)
      (ready : after.mgr.isSysReady = s.mgr.isSysReady)
  | inserted (running : s.mgr.isSysReady = true) (banner : BannerNotificationRecord)
      (absent : ∀ key record, s.recordAt key = some record → record.app ≠ banner.app)
      (records : ∀ other, after.recordAt other =
        if other = banner.app.label then some ((s.recordAt banner.app.label).getD banner)
        else s.recordAt other)
      (refreshed : Refreshed env s after)
      (callbacks : ∀ other, other ≠ banner.app.label → after.callbackAt other = s.callbackAt other)
      (ready : after.mgr.isSysReady = s.mgr.isSysReady)
      (id : banner.notificationId = -1 ∨
        banner.notificationId = after.mgr.tools.notificationIdIndex)
  | erased (running : s.mgr.isSysReady = true) (key : String) (erases : Erases env s key op)
      (records : ∀ other, after.recordAt other = if other = key then none else s.recordAt other)
      (refreshed : (s.recordAt key = none ∧ after.mgr.authFile = s.mgr.authFile) ∨
        Refreshed env s after)
      (callbacks : ∀ other, after.callbackAt other =
        if other = key then none else s.callbackAt other)
      (ready : after.mgr.isSysReady = s.mgr.isSysReady)
  | replaced (running : s.mgr.isSysReady = true) (backup : Backup) (replyOk : Bool)
      (isOp : op = .onRestore backup replyOk) (cut : backup.cut env replyOk = true)
      (records : ∀ key, after.recordAt key = s.recordAt key)
      (callbacks : ∀ key, after.callbackAt key = s.callbackAt key)
      (ready : after.mgr.isSysReady = s.mgr.isSysReady)
      (file : after.mgr.authFile = ∅ ∨ backup = .records after.mgr.authFile)
  | restored (running : s.mgr.isSysReady = true) (root : KeyedMap String BannerNotificationRecord)
      (isOp : op = .onRestore (.records root) true) (readable : env.fileReadable = true)
      (records : after.mgr.bannerNotificationRecord =
        (jsonOrder root).foldl addRestored s.mgr.bannerNotificationRecord)
      (file : after.mgr.authFile =
        if env.saveOk then after.mgr.bannerNotificationRecord else root)
      (callbacks : ∀ key, after.callbackAt key = s.callbackAt key)
      (ready : after.mgr.isSysReady = s.mgr.isSysReady)

/-! ## Steps of the service -/

section Service

@[simp]
theorem refreshAuthRecord_records (s : BgContinuousTaskMgr) (env : Env) :
    (s.refreshAuthRecord env).bannerNotificationRecord = s.bannerNotificationRecord := by
  unfold refreshAuthRecord
  split
  · rfl
  · rfl

@[simp]
theorem refreshAuthRecord_ready (s : BgContinuousTaskMgr) (env : Env) :
    (s.refreshAuthRecord env).isSysReady = s.isSysReady := by
  unfold refreshAuthRecord
  split
  · rfl
  · rfl

@[simp]
theorem refreshAuthRecord_file (s : BgContinuousTaskMgr) (env : Env) :
    (s.refreshAuthRecord env).authFile =
      if env.saveOk then s.bannerNotificationRecord else s.authFile := by
  unfold refreshAuthRecord
  split
  · rfl
  · rfl

theorem removeBanners_ready (s : BgContinuousTaskMgr) (env : Env)
    (chosen : BannerNotificationRecord → Bool) :
    (s.removeBanners env chosen).isSysReady = s.isSysReady := by
  unfold removeBanners
  split
  · exact refreshAuthRecord_ready _ env
  · rfl

@[simp]
theorem refreshAuthRecord_tools (s : BgContinuousTaskMgr) (env : Env) :
    (s.refreshAuthRecord env).tools = s.tools := by
  unfold refreshAuthRecord
  split
  · rfl
  · rfl

variable {env : AuthEnv} {s : AuthMgr}

theorem authEffect_of_asides {op : ServiceOp} (running : op ≠ .restart)
    (asides : (s.mgr.serviceStep (env.toEnv, op)).asides = s.mgr.asides)
    (ready : (s.mgr.serviceStep (env.toEnv, op)).isSysReady = s.mgr.isSysReady) :
    AuthEffect env s (s.serviceOp env op) (.service op) := by
  have records := congrArg Asides.bannerNotificationRecord asides
  have file := congrArg Asides.authFile asides
  refine .kept (fun key => congrArg (fun map => map.lookup key) records) file ?_ ready
  intro key
  cases op with
  | task op => rfl
  | initRequiredResourceInfo => rfl
  | restart => exact absurd rfl running

theorem authEffect_taken {op : TaskOp} {written : BgContinuousTaskMgr}
    (running : s.mgr.isSysReady = true)
    (step : s.mgr.serviceStep (env.toEnv, .task op) = written.refreshAuthRecord env.toEnv)
    (file : written.authFile = s.mgr.authFile) (ready : written.isSysReady = s.mgr.isSysReady)
    (records : ∀ key record, written.bannerNotificationRecord.lookup key = some record ↔
      s.recordAt key = some record ∧ takes env s (.service (.task op)) key record = false) :
    AuthEffect env s (s.serviceOp env (.task op)) (.service (.task op)) := by
  have after : (s.serviceOp env (.task op)).mgr = written.refreshAuthRecord env.toEnv := step
  refine .taken running ?_ ?_ (fun _ => rfl) ?_
  · intro key record
    rw [AuthMgr.recordAt, after, refreshAuthRecord_records]
    exact records key record
  · rw [Refreshed, after, refreshAuthRecord_file, refreshAuthRecord_records, file]
  · rw [after, refreshAuthRecord_ready, ready]

theorem authEffect_removeBanners {op : TaskOp} {ended : BgContinuousTaskMgr}
    {chosen : BannerNotificationRecord → Bool} (running : s.mgr.isSysReady = true)
    (asides : ended.asides = s.mgr.asides) (ready : ended.isSysReady = s.mgr.isSysReady)
    (step : s.mgr.serviceStep (env.toEnv, .task op) = ended.removeBanners env.toEnv chosen)
    (chooses : ∀ key record, takes env s (.service (.task op)) key record = chosen record) :
    AuthEffect env s (s.serviceOp env (.task op)) (.service (.task op)) := by
  unfold removeBanners at step
  split at step
  · refine authEffect_taken running step (congrArg Asides.authFile asides) ready ?_
    intro key record
    have same : ended.bannerNotificationRecord = s.mgr.bannerNotificationRecord :=
      congrArg Asides.bannerNotificationRecord asides
    rw [KeyedMap.lookup_filterVal, Option.filter_eq_some_iff, same, chooses, AuthMgr.recordAt]
    simp
  · refine authEffect_of_asides (by simp) ?_ ?_
    · rw [step]
      exact asides
    · rw [step]
      exact ready

theorem authEffect_stopBanner {op : TaskOp} {label : String} {before : BgContinuousTaskMgr}
    (asides : before.asides = s.mgr.asides) (ready : before.isSysReady = s.mgr.isSysReady)
    (step : s.mgr.serviceStep (env.toEnv, .task op) =
      before.stopBannerContinuousTaskByUser env.toEnv label)
    (chooses : ∀ key record, takes env s (.service (.task op)) key record =
      (s.mgr.isSysReady && key == label && notGranted record)) :
    AuthEffect env s (s.serviceOp env (.task op)) (.service (.task op)) := by
  have same : before.bannerNotificationRecord = s.mgr.bannerNotificationRecord :=
    congrArg Asides.bannerNotificationRecord asides
  have kept (unchanged : s.mgr.serviceStep (env.toEnv, .task op) = before) :
      AuthEffect env s (s.serviceOp env (.task op)) (.service (.task op)) := by
    refine authEffect_of_asides (by simp) ?_ ?_
    · rw [unchanged]
      exact asides
    · rw [unchanged]
      exact ready
  unfold stopBannerContinuousTaskByUser at step
  split at step
  · exact kept step
  rename_i banner found
  split at step
  · rename_i goes
    simp only [Bool.and_eq_true, decide_eq_true_eq, ne_eq] at goes
    obtain ⟨⟨isReady, notOnce⟩, notAlways⟩ := goes
    rw [same] at found
    refine authEffect_taken (ready.symm.trans isReady) step (congrArg Asides.authFile asides) ready
      ?_
    intro key record
    rw [KeyedMap.lookup_erase, chooses, ← ready, isReady, same]
    by_cases here : key = label
    · subst here
      rw [if_pos rfl]
      simp only [reduceCtorEq, Bool.true_and, beq_self_eq_true, false_iff, not_and]
      intro stored
      obtain rfl := Option.some.inj (found.symm.trans stored)
      simp [notGranted, notOnce, notAlways]
    · rw [if_neg here]
      simp [here, AuthMgr.recordAt]
  · exact kept step

theorem records_avSessionNotifyInner (s : BgContinuousTaskMgr) (env : Env) (uid : Int)
    (isPublish : Bool) :
    let after := (s.avSessionNotifyUpdateNotificationInner env uid isPublish).2
    after.bannerNotificationRecord = s.bannerNotificationRecord ∧ after.authFile = s.authFile := by
  have notified : ∀ (s : BgContinuousTaskMgr) isPublish key record,
      (s.avSessionNotifyTask env isPublish key record).2.bannerNotificationRecord =
          s.bannerNotificationRecord ∧
        (s.avSessionNotifyTask env isPublish key record).2.authFile = s.authFile := by
    intro s isPublish key record
    have asides := asides_avSessionNotifyTask s env isPublish key record
    exact ⟨congrArg Asides.bannerNotificationRecord asides, congrArg Asides.authFile asides⟩
  unfold avSessionNotifyUpdateNotificationInner removeAudioPlaybackDelayTask
  grind

/-- What a step of the service does to the store, when it is about neither the records nor the
file. -/
theorem authEffect_of_records {op : TaskOp}
    (records : (s.mgr.taskStep (env.toEnv, op)).bannerNotificationRecord =
      s.mgr.bannerNotificationRecord)
    (file : (s.mgr.taskStep (env.toEnv, op)).authFile = s.mgr.authFile) :
    AuthEffect env s (s.serviceOp env (.task op)) (.service (.task op)) :=
  .kept (fun key => congrArg (fun map => map.lookup key) records) file (fun _ => rfl)
    (taskStep_ready (s := s.mgr) (env.toEnv, op)).1

/-- A cancellation that is not the app's own ends a banner or a task. -/
theorem authEffect_onCanceled (pair : String × Int) (deleteReason : DeleteReason) :
    AuthEffect env s (s.serviceOp env (.task (.onCanceled pair deleteReason)))
      (.service (.task (.onCanceled pair deleteReason))) := by
  have step : s.mgr.serviceStep (env.toEnv, .task (.onCanceled pair deleteReason)) =
      s.mgr.onCanceled env.toEnv pair deleteReason := rfl
  have kept (asides : (s.mgr.onCanceled env.toEnv pair deleteReason).asides = s.mgr.asides) :
      AuthEffect env s (s.serviceOp env (.task (.onCanceled pair deleteReason)))
        (.service (.task (.onCanceled pair deleteReason))) :=
    authEffect_of_records (congrArg Asides.bannerNotificationRecord asides)
      (congrArg Asides.authFile asides)
  cases search : s.mgr.tools.published.find? (fun notification => notification.pair == pair) with
  | none =>
      refine kept ?_
      unfold onCanceled
      rw [search]
  | some notification =>
      have matched := List.find?_some search
      have shown : s.mgr.tools.published.any (fun notification => notification.pair == pair) =
          true :=
        List.any_eq_true.mpr ⟨notification, List.mem_of_find?_eq_some search, matched⟩
      have label : notification.label = pair.1 := by
        rw [← beq_iff_eq.mp matched]
        rfl
      unfold onCanceled at step kept
      simp only [search] at step kept
      by_cases own : deleteReason = .appCancel
      · refine kept ?_
        rw [if_pos own]
      rw [if_neg own] at step kept
      unfold cancelNotificationByBgTask at step kept
      by_cases isBanner : isBannerLabel notification.label = true
      · rw [if_pos isBanner, label] at step
        refine authEffect_stopBanner (asides_setTools s.mgr (s.mgr.tools.withdraw pair))
          rfl step ?_
        intro key record
        rw [label] at isBanner
        simp [takes, shown, isBanner, own]
      · rw [if_neg isBanner] at kept
        refine kept ?_
        split
        · rfl
        · rw [if_neg own, asides_stopContinuousTaskByUser]
          rfl

theorem authEffect_task (op : TaskOp) :
    AuthEffect env s (s.serviceOp env (.task op)) (.service (.task op)) := by
  by_cases apart : concernsAsides op = false
  · have asides := asides_taskStep s.mgr env.toEnv op apart
    exact authEffect_of_records (congrArg Asides.bannerNotificationRecord asides)
      (congrArg Asides.authFile asides)
  have ready := (taskStep_ready (s := s.mgr) (env.toEnv, op)).1
  cases op with
  | avSessionNotifyUpdateNotification callingUid uid pid isPublish =>
      have inner := records_avSessionNotifyInner s.mgr env.toEnv uid isPublish
      refine authEffect_of_records ?_ ?_
      · change (s.mgr.avSessionNotifyUpdateNotification env.toEnv callingUid uid pid
          isPublish).2.bannerNotificationRecord = _
        unfold avSessionNotifyUpdateNotification
        grind
      · change (s.mgr.avSessionNotifyUpdateNotification env.toEnv callingUid uid pid
          isPublish).2.authFile = _
        unfold avSessionNotifyUpdateNotification
        grind
  | runDelayedNotify =>
      have inner := fun s uid => records_avSessionNotifyInner s env.toEnv uid false
      refine authEffect_of_records ?_ ?_
      · change (s.mgr.runDelayedNotify env.toEnv).bannerNotificationRecord = _
        unfold runDelayedNotify
        grind
      · change (s.mgr.runDelayedNotify env.toEnv).authFile = _
        unfold runDelayedNotify
        grind
  | onAppStopped uid =>
      have step : s.mgr.serviceStep (env.toEnv, .task (.onAppStopped uid)) =
          s.mgr.onAppStopped env.toEnv uid := rfl
      have kept (asides : (s.mgr.onAppStopped env.toEnv uid).asides = s.mgr.asides) :
          AuthEffect env s (s.serviceOp env (.task (.onAppStopped uid)))
            (.service (.task (.onAppStopped uid))) :=
        authEffect_of_records (congrArg Asides.bannerNotificationRecord asides)
          (congrArg Asides.authFile asides)
      unfold onAppStopped at step kept
      by_cases isReady : s.mgr.isSysReady = true
      · have running : ¬ (!s.mgr.isSysReady) = true := by simp [isReady]
        rw [if_neg running] at step kept
        cases stopped : env.appIndexAndBundleName uid with
        | none =>
            simp only [stopped] at kept
            exact kept (asides_endStopped s.mgr env.toEnv uid)
        | some app =>
            simp only [stopped] at step
            refine authEffect_removeBanners isReady (asides_endStopped s.mgr env.toEnv uid) ?_ step
              ?_
            · rw [← ready, ← removeBanners_ready _ env.toEnv]
              exact congrArg BgContinuousTaskMgr.isSysReady step.symm
            · intro key record
              simp [takes, isReady, stopped]
      · rw [if_pos (by simpa using isReady)] at kept
        exact kept rfl
  | onBundleInfoChanged action bundleName uid userId appIndex =>
      have step : s.mgr.serviceStep (env.toEnv,
          .task (.onBundleInfoChanged action bundleName uid userId appIndex)) =
            s.mgr.onBundleInfoChanged env.toEnv action bundleName uid userId appIndex := rfl
      have kept (asides : (s.mgr.onBundleInfoChanged env.toEnv action bundleName uid userId
            appIndex).asides = s.mgr.asides) :
          AuthEffect env s
            (s.serviceOp env (.task (.onBundleInfoChanged action bundleName uid userId appIndex)))
            (.service (.task (.onBundleInfoChanged action bundleName uid userId appIndex))) :=
        authEffect_of_records (congrArg Asides.bannerNotificationRecord asides)
          (congrArg Asides.authFile asides)
      unfold onBundleInfoChanged at step kept
      by_cases isReady : s.mgr.isSysReady = true
      · have running : ¬ (!s.mgr.isSysReady) = true := by simp [isReady]
        rw [if_neg running] at step kept
        cases action with
        | added => exact kept rfl
        | removedOrChanged =>
            refine authEffect_removeBanners isReady (by rfl) (by rfl) step ?_
            intro key record
            simp [takes, isReady, isAuthOf, Bool.and_comm, Bool.and_left_comm]
        | dataCleared =>
            refine kept ?_
            rw [asides_endCleared]
            rfl
      · rw [if_pos (by simpa using isReady)] at kept
        exact kept rfl
  | onCanceled pair deleteReason => exact authEffect_onCanceled pair deleteReason
  | stopBannerContinuousTaskByUser label =>
      exact authEffect_stopBanner rfl rfl rfl (fun key record => rfl)
  | onBundleResourcesChanged =>
      refine .renamed (fun banner => env.mainAbilityLabel banner.bundleName banner.userId) ?_ rfl
        (fun _ => rfl) rfl
      intro key
      exact KeyedMap.lookup_mapVal _ _ key
  | _ => exact absurd rfl apart

theorem asides_checkPersistenceData (s : BgContinuousTaskMgr) (env : Env)
    (allProcesses : List Int) : (s.checkPersistenceData env allProcesses).asides = s.asides := by
  have scanned : (s.forEachTask (checkRestored env allProcesses)).asides = s.asides := by
    refine asides_forEachTask s (fun key record current => ?_)
    have cancelled := asides_cancelNotification
    have cached := asides_setCachedBundleInfo
    unfold checkRestored
    grind
  exact scanned

/-- The start of the service: the file is read once its processes are known. -/
theorem authEffect_init :
    AuthEffect env s (s.serviceOp env .initRequiredResourceInfo)
      (.service .initRequiredResourceInfo) := by
  have step : (s.serviceOp env .initRequiredResourceInfo).mgr =
      if s.mgr.isSysReady then s.mgr else s.mgr.initRequiredResourceInfo env.toEnv := rfl
  cases ready : s.mgr.isSysReady with
  | true =>
      rw [ready, if_pos rfl] at step
      exact .kept (fun key => by rw [AuthMgr.recordAt, step]; rfl) (by rw [step]) (fun _ => rfl)
        (by rw [step])
  | false =>
      rw [ready, if_neg (by simp)] at step
      unfold initRequiredResourceInfo handlePersistenceData at step
      set prompted : BgContinuousTaskMgr := { s.mgr with
        texts := getNotificationPrompt env.resourceString
          { s.mgr.texts with modeForNotificationText := initNotificationText } } with isPrompted
      have restored : (prompted.restoreTaskRecord env.toEnv).asides = s.mgr.asides := by
        unfold restoreTaskRecord
        split
        · rfl
        · rfl
      cases processes : env.allRunningProcesses with
      | none =>
          simp only [processes] at step
          refine .unloaded rfl ready (by simp [Loads, processes]) (fun key => ?_) (.inl ?_)
            (fun _ => rfl) ?_
          · rw [AuthMgr.recordAt, step]
            exact congrArg (fun map : KeyedMap String BannerNotificationRecord => map.lookup key)
              (congrArg Asides.bannerNotificationRecord restored)
          · rw [step]
            exact congrArg Asides.authFile restored
          · rw [step]
      | some allProcesses =>
          simp only [processes] at step
          set scanned := (((prompted.restoreTaskRecord env.toEnv).checkPersistenceData env.toEnv
            allProcesses).saveTasks env.toEnv).restoreApplyRecord env.toEnv with isScanned
          have asides : scanned.asides = s.mgr.asides := by
            have applied : ∀ s : BgContinuousTaskMgr, (s.restoreApplyRecord env.toEnv).asides =
                s.asides := by
              intro s
              unfold restoreApplyRecord
              split
              · rfl
              · rfl
            rw [isScanned, applied, asides_saveTasks, asides_checkPersistenceData, restored]
          have records : scanned.bannerNotificationRecord = s.mgr.bannerNotificationRecord :=
            congrArg Asides.bannerNotificationRecord asides
          have file : scanned.authFile = s.mgr.authFile := congrArg Asides.authFile asides
          have after : (s.serviceOp env .initRequiredResourceInfo).mgr.bannerNotificationRecord =
              (scanned.restoreAuthRecord env.toEnv).bannerNotificationRecord := by
            rw [step]
            exact refreshAuthRecord_records _ env.toEnv
          have refreshed : Refreshed env s (s.serviceOp env .initRequiredResourceInfo) := by
            rw [Refreshed, after, step]
            refine (refreshAuthRecord_file _ env.toEnv).trans ?_
            have unwritten : (scanned.restoreAuthRecord env.toEnv).authFile = s.mgr.authFile := by
              unfold restoreAuthRecord
              split
              · exact file
              · exact file
            rw [unwritten]
          cases readable : env.fileReadable with
          | true =>
              refine .loaded rfl ready ⟨by simp [processes], readable⟩ ?_ refreshed (fun _ => rfl)
                (by rw [step])
              rw [after, restoreAuthRecord, if_neg (by simp [readable])]
              dsimp only
              rw [file, records]
          | false =>
              refine .unloaded rfl ready (by simp [Loads, readable]) (fun key => ?_)
                (.inr refreshed) (fun _ => rfl) (by rw [step])
              rw [AuthMgr.recordAt, after, restoreAuthRecord, if_pos (by simp [readable]), records]
              rfl

theorem authEffect_service (op : ServiceOp) :
    AuthEffect env s (s.serviceOp env op) (.service op) := by
  cases op with
  | task op => exact authEffect_task op
  | initRequiredResourceInfo => exact authEffect_init
  | restart => exact .restarted rfl (fun _ => rfl) rfl (fun _ => rfl) rfl

end Service

/-! ## Steps about authorisation -/

section Authorisation

variable {env : AuthEnv} {s : AuthMgr}

theorem AuthEffect.refl (op : AuthOp) : AuthEffect env s s op :=
  .kept (fun _ => rfl) rfl (fun _ => rfl) rfl

/-- A step that changes neither the manager, apart from its notifications, nor the callbacks. -/
theorem AuthEffect.of_tools {op : AuthOp} {after : AuthMgr} (tools : NotificationTools)
    (mgr : after.mgr = s.mgr.setTools tools)
    (callbacks : after.expiredCallbackMap = s.expiredCallbackMap) : AuthEffect env s after op := by
  refine .kept (fun key => ?_) ?_ (fun key => ?_) ?_
  · rw [AuthMgr.recordAt, mgr]
    rfl
  · rw [mgr]
    rfl
  · rw [AuthMgr.callbackAt, callbacks]
    rfl
  · rw [mgr]
    rfl

structure Written (env : AuthEnv) (s after : AuthMgr)
    (records : KeyedMap String BannerNotificationRecord) : Prop where
  records : after.mgr.bannerNotificationRecord = records
  refreshed : Refreshed env s after
  ready : after.mgr.isSysReady = s.mgr.isSysReady

theorem written_refresh {stored : AuthMgr} (file : stored.mgr.authFile = s.mgr.authFile)
    (ready : stored.mgr.isSysReady = s.mgr.isSysReady) :
    Written env s (stored.refreshAuthRecord env).2 stored.mgr.bannerNotificationRecord := by
  have records : (stored.refreshAuthRecord env).2.mgr.bannerNotificationRecord =
      stored.mgr.bannerNotificationRecord := refreshAuthRecord_records stored.mgr env.toEnv
  refine ⟨records, ?_, (refreshAuthRecord_ready stored.mgr env.toEnv).trans ready⟩
  rw [Refreshed, records, ← file]
  exact refreshAuthRecord_file stored.mgr env.toEnv

theorem written_setRecords (records : KeyedMap String BannerNotificationRecord) :
    Written env s ((s.setRecords records).refreshAuthRecord env).2 records :=
  written_refresh rfl rfl

theorem Written.of_tools {after final : AuthMgr}
    {records : KeyedMap String BannerNotificationRecord} (written : Written env s after records)
    (tools : NotificationTools) (mgr : final.mgr = after.mgr.setTools tools) :
    Written env s final records := by
  obtain ⟨stored, refreshed, ready⟩ := written
  refine ⟨?_, ?_, ?_⟩
  · rw [mgr]
    exact stored
  · rw [Refreshed, mgr]
    exact refreshed
  · rw [mgr]
    exact ready

theorem Written.recordAt {after : AuthMgr} {records : KeyedMap String BannerNotificationRecord}
    (written : Written env s after records) (key : String) :
    after.recordAt key = records.lookup key := by
  rw [AuthMgr.recordAt, written.records]

theorem triggerCallback_mgr (s : AuthMgr) (key : String) (authResult : Int) :
    (s.triggerCallback key authResult).mgr = s.mgr := by
  unfold AuthMgr.triggerCallback
  split
  · rfl
  · rfl

theorem callbackAt_triggerCallback (s : AuthMgr) (key other : String) (authResult : Int) :
    (s.triggerCallback key authResult).callbackAt other = s.callbackAt other ∨
      (s.triggerCallback key authResult).callbackAt other = none := by
  unfold AuthMgr.triggerCallback
  split
  · exact .inl rfl
  · simp only [AuthMgr.callbackAt, KeyedMap.lookup_erase]
    split
    · exact .inr rfl
    · exact .inl rfl

theorem authEffect_decided {op : AuthOp} {after : AuthMgr} {key : String}
    {record : BannerNotificationRecord} {authResult : Int} (running : s.mgr.isSysReady = true)
    (found : s.recordAt key = some record) (decides : Decides env key record op)
    (written : Written env s after (KeyedMap.adjust key
      (fun record => { record with authResult := authResult }) s.mgr.bannerNotificationRecord))
    (callbacks : ∀ other, after.callbackAt other = s.callbackAt other ∨
      after.callbackAt other = none) : AuthEffect env s after op := by
  refine .decided running key record authResult found decides (fun other => ?_) written.refreshed
    callbacks written.ready
  rw [written.recordAt, KeyedMap.lookup_adjust]
  split
  · rename_i here
    rw [here]
    exact congrArg (fun stored => Option.map _ stored) found
  · rfl

theorem authEffect_inserted {op : AuthOp} {after : AuthMgr} {banner : BannerNotificationRecord}
    (running : s.mgr.isSysReady = true)
    (absent : findAuthRecord banner.bundleName banner.userId banner.appIndex
      s.mgr.bannerNotificationRecord = none)
    (written : Written env s after
      (KeyedMap.emplace banner.app.label banner s.mgr.bannerNotificationRecord))
    (callbacks : ∀ other, other ≠ banner.app.label → after.callbackAt other = s.callbackAt other)
    (id : banner.notificationId = -1 ∨
      banner.notificationId = after.mgr.tools.notificationIdIndex) :
    AuthEffect env s after op := by
  refine .inserted running banner ((@findAuthRecord_none banner.app _).mp absent)
    (fun other => ?_) written.refreshed callbacks written.ready id
  rw [written.recordAt, KeyedMap.lookup_emplace]
  rfl

theorem authEffect_setBackgroundTaskStateInner (running : s.mgr.isSysReady = true)
    (taskParam : BackgroundTaskStateInfo) :
    AuthEffect env s (s.setBackgroundTaskStateInner env taskParam).2
      (.setBackgroundTaskState (some taskParam)) := by
  unfold AuthMgr.setBackgroundTaskStateInner
  dsimp only
  cases search : findAuthRecord taskParam.bundleName taskParam.userId taskParam.appIndex
      s.mgr.bannerNotificationRecord with
  | none =>
      let banner : BannerNotificationRecord :=
        { bundleName := taskParam.bundleName
          userId := taskParam.userId
          appIndex := taskParam.appIndex
          authResult := taskParam.userAuthResult }
      have absent : findAuthRecord banner.bundleName banner.userId banner.appIndex
          s.mgr.bannerNotificationRecord = none := search
      exact authEffect_inserted running absent (written_setRecords _) (fun _ _ => rfl) (.inl rfl)
  | some found =>
      obtain ⟨stored, same⟩ := @findAuthRecord_some
        ⟨taskParam.bundleName, taskParam.userId, taskParam.appIndex⟩ _ _ search
      exact authEffect_decided running stored (.set taskParam same) (written_setRecords _)
        (fun _ => .inl rfl)

theorem authEffect_setBackgroundTaskState (taskParam : Option BackgroundTaskStateInfo) :
    AuthEffect env s (s.setBackgroundTaskState env taskParam).2
      (.setBackgroundTaskState taskParam) := by
  unfold AuthMgr.setBackgroundTaskState
  split
  · exact .refl _
  rename_i running
  split
  · exact .refl _
  split
  · exact .refl _
  · exact authEffect_setBackgroundTaskStateInner (by simpa using running) _

theorem authEffect_onPermissionDialogButtonClick (authResult bundleUid : Int)
    (bundleName : String) (appIndex : Int) :
    AuthEffect env s
      (s.onPermissionDialogButtonClick env authResult bundleUid bundleName appIndex)
      (.onPermissionDialogButtonClick authResult bundleUid bundleName appIndex) := by
  unfold AuthMgr.onPermissionDialogButtonClick
  dsimp only
  split
  · exact .refl _
  rename_i running
  split
  · exact .refl _
  split
  · exact .refl _
  rename_i stored
  rw [Option.isNone_iff_eq_none] at stored
  obtain ⟨record, found⟩ := Option.ne_none_iff_exists'.mp stored
  refine authEffect_decided (by simpa using running) found
    (.dialog authResult bundleUid bundleName appIndex rfl)
    ((written_setRecords _).of_tools _ (triggerCallback_mgr _ _ _)) ?_
  exact fun other => callbackAt_triggerCallback _ _ other authResult

theorem authEffect_onBannerNotificationActionButtonClick (buttonType : Int) (label : String) :
    AuthEffect env s (s.onBannerNotificationActionButtonClick env buttonType label)
      (.onBannerNotificationActionButtonClick buttonType label) := by
  unfold AuthMgr.onBannerNotificationActionButtonClick
  dsimp only
  split
  · exact .refl _
  rename_i running
  split
  · rename_i record authResult found _
    refine @authEffect_decided env s _ _ label record authResult (by simpa using running) found
      (.banner buttonType) ?_ (fun other => ?_)
    · refine Written.of_tools ?_ _ (triggerCallback_mgr _ _ _)
      split
      · exact (written_setRecords _).of_tools _ rfl
      · exact written_setRecords _
    · split
      · exact callbackAt_triggerCallback _ _ other authResult
      · exact callbackAt_triggerCallback _ _ other authResult
  · exact .refl _

theorem authEffect_erased {op : AuthOp} {after : AuthMgr} {key : String}
    (running : s.mgr.isSysReady = true) (erases : Erases env s key op)
    (records : (s.recordAt key = none ∧ after.mgr = s.mgr) ∨
      Written env s after (s.mgr.bannerNotificationRecord.erase key))
    (callbacks : after.expiredCallbackMap = s.expiredCallbackMap.erase key) :
    AuthEffect env s after op := by
  have erased : ∀ other, after.callbackAt other =
      if other = key then none else s.callbackAt other := by
    intro other
    rw [AuthMgr.callbackAt, callbacks, KeyedMap.lookup_erase]
    rfl
  obtain ⟨missing, same⟩ | written := records
  · refine .erased running key erases (fun other => ?_) (.inl ⟨missing, ?_⟩) erased ?_
    · rw [AuthMgr.recordAt, same]
      split
      · rename_i here
        rw [here]
        exact missing
      · rfl
    · rw [same]
    · rw [same]
  · refine .erased running key erases (fun other => ?_) (.inr written.refreshed) erased
      written.ready
    rw [written.recordAt, KeyedMap.lookup_erase]
    rfl

theorem authEffect_removeAuthRecord (callingUid : Int) (taskParam : Option ContinuousTaskParam) :
    AuthEffect env s (s.removeAuthRecord env callingUid taskParam).2
      (.removeAuthRecord callingUid taskParam) := by
  unfold AuthMgr.removeAuthRecord
  split
  · exact .refl _
  rename_i running
  split
  · exact .refl _
  rename_i taskParam
  refine authEffect_erased (by simpa using running) (.removed callingUid taskParam rfl) ?_ rfl
  unfold AuthMgr.removeAuthRecordInner
  dsimp only
  split
  · exact .inr ((written_setRecords _).of_tools _ rfl)
  · rename_i missing
    exact .inl ⟨Option.not_isSome_iff_eq_none.mp missing, rfl⟩

theorem authEffect_handleAuthExpiredCallbackDeath (remote : Nat) :
    AuthEffect env s (s.handleAuthExpiredCallbackDeath env remote)
      (.handleAuthExpiredCallbackDeath remote) := by
  unfold AuthMgr.handleAuthExpiredCallbackDeath
  split
  · exact .refl _
  rename_i running
  split
  · exact .refl _
  rename_i key registered
  refine authEffect_erased (by simpa using running) (.died remote registered) ?_ ?_
  · dsimp only
    split
    · rename_i missing
      exact .inl ⟨missing, rfl⟩
    · split
      · exact .inr (written_refresh rfl rfl)
      · exact .inr (written_refresh rfl rfl)
  · dsimp only
    split
    · rfl
    · split
      · rfl
      · rfl

/-- A backup takes the place of the file, and its records are taken in. -/
theorem authEffect_onRestore (backup : Backup) (replyOk : Bool) :
    AuthEffect env s (s.onRestore env backup replyOk).2 (.onRestore backup replyOk) := by
  have replaced (running : s.mgr.isSysReady = true) (cut : backup.cut env replyOk = true)
      (file : KeyedMap String BannerNotificationRecord)
      (source : file = ∅ ∨ backup = .records file) :
      AuthEffect env s (s.setAuthFile file) (.onRestore backup replyOk) :=
    .replaced running backup replyOk rfl cut (fun _ => rfl) (fun _ => rfl) rfl source
  unfold AuthMgr.onRestore
  split
  · exact .refl _
  rename_i gate
  have running : s.mgr.isSysReady = true := by simpa using gate
  cases backup with
  | unreadable => exact .refl _
  | torn => exact replaced running rfl ∅ (.inl rfl)
  | malformed => exact replaced running rfl ∅ (.inl rfl)
  | records root =>
      dsimp only
      split
      · rename_i silent
        refine replaced running ?_ root (.inr rfl)
        rw [Backup.cut, silent, Bool.true_or]
      split
      · rename_i unread
        refine replaced running ?_ root (.inr rfl)
        rw [Backup.cut, unread, Bool.or_true]
      rename_i replies readable
      have replyOk : replyOk = true := by simpa using replies
      have read : env.fileReadable = true := by simpa using readable
      subst replyOk
      have restored : (BgContinuousTaskMgr.restoreAuthRecord env.toEnv
          (s.setAuthFile root).mgr).bannerNotificationRecord =
            (jsonOrder root).foldl addRestored s.mgr.bannerNotificationRecord := by
        unfold BgContinuousTaskMgr.restoreAuthRecord
        rw [if_neg (by simp [read])]
        rfl
      have file : (BgContinuousTaskMgr.restoreAuthRecord env.toEnv
          (s.setAuthFile root).mgr).authFile = root := by
        unfold BgContinuousTaskMgr.restoreAuthRecord
        split
        · rfl
        · rfl
      set taken := (s.setAuthFile root).setMgr
        (BgContinuousTaskMgr.restoreAuthRecord env.toEnv (s.setAuthFile root).mgr) with isTaken
      have records : (taken.refreshAuthRecord env).2.mgr.bannerNotificationRecord =
          taken.mgr.bannerNotificationRecord := refreshAuthRecord_records taken.mgr env.toEnv
      refine .restored running root rfl read (records.trans restored) ?_
        (fun _ => rfl) ?_
      · rw [records]
        refine (refreshAuthRecord_file taken.mgr env.toEnv).trans ?_
        rw [show taken.mgr.authFile = root from file]
      · refine (refreshAuthRecord_ready taken.mgr env.toEnv).trans ?_
        show (BgContinuousTaskMgr.restoreAuthRecord env.toEnv
          (s.setAuthFile root).mgr).isSysReady = _
        unfold BgContinuousTaskMgr.restoreAuthRecord
        split
        · rfl
        · rfl

/-- A request changes neither the records nor the callbacks before it is registered. -/
theorem checkAuthParam_keeps (record : ContinuousTaskRecord) (callback : Nat) (apiVersion : Int) :
    (s.checkAuthParam env record callback apiVersion).2.2.mgr = s.mgr ∧
      (s.checkAuthParam env record callback apiVersion).2.2.expiredCallbackMap =
        s.expiredCallbackMap := by
  unfold AuthMgr.checkAuthParam AuthMgr.onExpiredAuth
  grind

theorem checkAuthParam_ok {record : ContinuousTaskRecord} {callback : Nat} {apiVersion : Int}
    (ok : (s.checkAuthParam env record callback apiVersion).1 = .ok) :
    findAuthRecord record.bundleName record.userId record.appIndex
        s.mgr.bannerNotificationRecord = none ∧
      (AuthMgr.requestedAuth (s.checkAuthParam env record callback apiVersion).2.1).app =
        (AuthMgr.requestedAuth record).app := by
  unfold AuthMgr.checkAuthParam at ok ⊢
  grind [AuthMgr.requestedAuth, BannerNotificationRecord.app]

theorem publishBanner_keeps (banner : BannerNotificationRecord) :
    (∃ tools, (s.publishBannerNotification env banner).2.2.mgr = s.mgr.setTools tools) ∧
      (s.publishBannerNotification env banner).2.2.expiredCallbackMap = s.expiredCallbackMap ∧
      (s.publishBannerNotification env banner).2.1.app = banner.app ∧
      ((s.publishBannerNotification env banner).2.1.notificationId = banner.notificationId ∨
        (s.publishBannerNotification env banner).2.1.notificationId =
          (s.publishBannerNotification env banner).2.2.mgr.tools.notificationIdIndex) := by
  unfold AuthMgr.publishBannerNotification
  dsimp only
  split
  · exact ⟨⟨s.mgr.tools, rfl⟩, rfl, rfl, .inl rfl⟩
  split
  · exact ⟨⟨_, rfl⟩, rfl, rfl, .inl rfl⟩
  · exact ⟨⟨_, rfl⟩, rfl, rfl, .inr rfl⟩

theorem tools_registerRequest (taken : AuthMgr) (banner : BannerNotificationRecord)
    (callback : Nat) :
    (taken.registerRequest env banner callback).2.mgr.tools = taken.mgr.tools :=
  refreshAuthRecord_tools _ env.toEnv

/-- The end of a request files the record under the label of the app. -/
theorem authEffect_registerRequest {op : AuthOp} {taken : AuthMgr} {tools : NotificationTools}
    (running : s.mgr.isSysReady = true) {app : AuthApp} (banner : BannerNotificationRecord)
    (callback : Nat)
    (mgr : taken.mgr = s.mgr.setTools tools)
    (callbacks : taken.expiredCallbackMap = s.expiredCallbackMap) (isApp : banner.app = app)
    (absent : findAuthRecord app.bundleName app.userId app.appIndex
      s.mgr.bannerNotificationRecord = none)
    (id : banner.notificationId = -1 ∨
      banner.notificationId = taken.mgr.tools.notificationIdIndex) :
    AuthEffect env s (taken.registerRequest env banner callback).2 op := by
  subst isApp
  obtain ⟨taken, takenCallbacks, answers⟩ := taken
  dsimp only at mgr callbacks
  subst mgr callbacks
  refine authEffect_inserted running absent (written_refresh rfl rfl) (fun other apart => ?_) ?_
  · exact AList.lookup_insert_ne apart
  · rw [tools_registerRequest]
    exact id

theorem authEffect_requestAuthFromUserInner {op : AuthOp} (running : s.mgr.isSysReady = true)
    (record : ContinuousTaskRecord) (callback : Nat) (apiVersion : Int) :
    AuthEffect env s (s.requestAuthFromUserInner env record callback apiVersion).2 op := by
  obtain ⟨mgr, callbacks⟩ := @checkAuthParam_keeps env s record callback apiVersion
  have passed := @checkAuthParam_ok env s record callback apiVersion
  unfold AuthMgr.requestAuthFromUserInner
  generalize s.checkAuthParam env record callback apiVersion = checked at *
  obtain ⟨ret, checkedRecord, checkedMgr, checkedCallbacks, answers⟩ := checked
  dsimp only at mgr callbacks passed ⊢
  subst mgr callbacks
  split
  · exact .of_tools s.mgr.tools rfl rfl
  rename_i ok
  obtain ⟨absent, app⟩ := passed (not_not.mp ok)
  split
  · split
    · exact .of_tools s.mgr.tools rfl rfl
    · have same : s.mgr = s.mgr.setTools s.mgr.tools := rfl
      exact authEffect_registerRequest running _ callback same rfl app absent (.inl rfl)
  split
  · exact .of_tools s.mgr.tools rfl rfl
  set requested := AuthMgr.mk s.mgr s.expiredCallbackMap answers with isRequested
  obtain ⟨⟨tools, publishedMgr⟩, publishedCallbacks, publishedApp, publishedId⟩ :=
    @publishBanner_keeps env requested
      { AuthMgr.requestedAuth checkedRecord with appName := checkedRecord.appName }
  split
  · exact .of_tools tools publishedMgr publishedCallbacks
  · exact authEffect_registerRequest running _ callback publishedMgr publishedCallbacks
      (publishedApp.trans app) absent publishedId

theorem authEffect_requestAuthFromUser (callingUid : Int)
    (taskParam : Option ContinuousTaskParam) (requestAuthApiVersion : Int)
    (callback : Option Nat) :
    AuthEffect env s
      (s.requestAuthFromUser env callingUid taskParam requestAuthApiVersion callback).2
      (.requestAuthFromUser callingUid taskParam requestAuthApiVersion callback) := by
  unfold AuthMgr.requestAuthFromUser
  split
  · exact .refl _
  rename_i running
  split
  · exact .refl _
  · exact .refl _
  · dsimp only
    split
    · exact .refl _
    split
    · exact .refl _
    split
    · exact .refl _
    split
    · exact .refl _
    · exact authEffect_requestAuthFromUserInner (by simpa using running) _ _ _

/-- What any step does to the store. -/
theorem authStep_effect (op : AuthOp) : AuthEffect env s (s.authStep (env, op)) op := by
  cases op with
  | service op => exact authEffect_service op
  | requestAuthFromUser callingUid taskParam requestAuthApiVersion callback =>
      exact authEffect_requestAuthFromUser callingUid taskParam requestAuthApiVersion callback
  | setBackgroundTaskState taskParam => exact authEffect_setBackgroundTaskState taskParam
  | onPermissionDialogButtonClick authResult bundleUid bundleName appIndex =>
      exact authEffect_onPermissionDialogButtonClick authResult bundleUid bundleName appIndex
  | onBannerNotificationActionButtonClick buttonType label =>
      exact authEffect_onBannerNotificationActionButtonClick buttonType label
  | removeAuthRecord callingUid taskParam => exact authEffect_removeAuthRecord callingUid taskParam
  | handleAuthExpiredCallbackDeath remote => exact authEffect_handleAuthExpiredCallbackDeath remote
  | onRestore backup replyOk => exact authEffect_onRestore backup replyOk
  | rehash rank =>
      refine .kept (fun key => ?_) rfl (fun key => ?_) rfl
      · exact KeyedMap.lookup_reorder rank _ key
      · exact KeyedMap.lookup_reorder rank _ key

end Authorisation

end BgTaskMgr.Continuous
