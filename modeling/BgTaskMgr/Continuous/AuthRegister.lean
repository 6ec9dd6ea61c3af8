import BgTaskMgr.Continuous.AuthCleanup
import BgTaskMgr.Continuous.AuthGrants
import BgTaskMgr.Lib.Register

/-!
# Authorisations as registers

The store keeps one register for each app: the result of its authorisation, in memory while
the service runs and in the file when it does not.  What each operation is to a register does
not depend on how the records are kept, and the three queries answer from it.
-/

set_option autoImplicit false

namespace BgTaskMgr.Continuous

open BgContinuousTaskMgr StepSystem

/-! ## Queries of the state -/

structure BundleEnv extends AuthEnv where
  reqPermissions : String → Int → List String := fun _ _ => []
  isSystemBundle : String → Int → Bool := fun _ _ => false

def bgmodePermissionSystem : String := "ohos.permission.KEEP_BACKGROUND_RUNNING_SYSTEM"

def bgmodePermissionSpecialScenario : String :=
  "ohos.permission.KEEP_BACKGROUND_RUNNING_SPECIAL_SCENARIO"

namespace AuthMgr

/-- `CheckApplySpecial` with a check of permissions. -/
def checkApplySpecialPermitted (env : BundleEnv) (bundleName : String) (userId : Int) : Bool :=
  match env.bundleInfo bundleName userId with
  | none => false
  | some _ =>
      if !env.isSpecialExemptedQuatoApp bundleName &&
          ((env.reqPermissions bundleName userId).count bgmodePermissionSystem = 0 ∧
              (env.reqPermissions bundleName userId).count bgmodePermissionSpecialScenario = 0 ∨
            env.isSystemBundle bundleName userId = true) then false
      else checkApplySpecial env.toAuthEnv bundleName userId

def getBackgroundTaskStateInner (env : BundleEnv) (taskParam : BackgroundTaskStateInfo)
    (self : AuthMgr) : ErrCode × Int :=
  let bundleName := taskParam.bundleName
  if env.isMaliciousAppConfig bundleName then (.ok, UserAuthResult.notSupported)
  else
    match findAuthRecord bundleName taskParam.userId taskParam.appIndex
        self.mgr.bannerNotificationRecord with
    | none =>
        if !checkApplySpecialPermitted env bundleName taskParam.userId then
          (.ok, UserAuthResult.notSupported)
        else (.ok, UserAuthResult.notDetermined)
    | some found => (.ok, found.2.authResult)

def getBackgroundTaskState (env : BundleEnv) (taskParam : Option BackgroundTaskStateInfo)
    (self : AuthMgr) : ErrCode × Option Int :=
  if !self.mgr.isSysReady then (.sysNotReady, none)
  else
    match taskParam with
    | none => (.checkTaskParam, none)
    | some taskParam =>
        if taskParam.userId = -1 ∨ taskParam.appIndex = -1 ∨ taskParam.bundleName = "" then
          (.continuousBackgroundTaskParamInvalid, none)
        else
          let answer := self.getBackgroundTaskStateInner env taskParam
          (answer.1, some answer.2)

def checkTaskAuthResultInner (bundleName : String) (userId appIndex : Int) (self : AuthMgr) :
    ErrCode :=
  match findAuthRecord bundleName userId appIndex self.mgr.bannerNotificationRecord with
  | none => .continuousNotApplyAuthRecord
  | some found =>
      if found.2.authResult = UserAuthResult.grantedOnce ∨
          found.2.authResult = UserAuthResult.grantedAlways then .ok
      else .continuousAuthNotPermitted

def checkTaskAuthResult (bundleName : String) (userId appIndex : Int) (self : AuthMgr) :
    ErrCode :=
  if !self.mgr.isSysReady then .sysNotReady
  else self.checkTaskAuthResultInner bundleName userId appIndex

end AuthMgr

/-! ## The register of an app -/

/-- The result of the app's authorisation, where the service keeps it. -/
def AuthMgr.held (app : AuthApp) (self : AuthMgr) : Option Int :=
  Register.under BannerNotificationRecord.authResult app.label
    (if self.mgr.isSysReady then self.mgr.bannerNotificationRecord else self.mgr.authFile)

def AuthApp.banner (app : AuthApp) (authResult : Int) : BannerNotificationRecord :=
  { bundleName := app.bundleName
    userId := app.userId
    appIndex := app.appIndex
    authResult := authResult }

/-- What an operation is to the register of an app. -/
def authEvent (app : AuthApp) (s : AuthMgr) : AuthEnv × AuthOp → Register.Event Int
  | (env, .service (.task op)) =>
      .drop (fun authResult => takes env s (.service (.task op)) app.label (app.banner authResult))
  | (env, .requestAuthFromUser callingUid (some taskParam) requestAuthApiVersion callback) =>
      if (s.requestAuthFromUser env callingUid (some taskParam) requestAuthApiVersion
            callback).1 = .ok ∧
          app = ⟨env.clientBundleName callingUid, env.osAccountLocalId callingUid,
            taskParam.appIndex⟩ then
        .takeIn (some UserAuthResult.notDetermined)
      else .keep
  | (env, .setBackgroundTaskState (some taskParam)) =>
      if (s.setBackgroundTaskState env (some taskParam)).1 = .ok ∧
          app = ⟨taskParam.bundleName, taskParam.userId, taskParam.appIndex⟩ then
        .put taskParam.userAuthResult
      else .keep
  | (env, .onPermissionDialogButtonClick authResult bundleUid bundleName appIndex) =>
      if s.mgr.isSysReady = true ∧ UserAuthResult.denied ≤ authResult ∧
          authResult < UserAuthResult.bound ∧
          app = ⟨bundleName, env.osAccountLocalId bundleUid, appIndex⟩ then
        .change authResult
      else .keep
  | (_, .onBannerNotificationActionButtonClick buttonType label) =>
      if s.mgr.isSysReady = true ∧ label = app.label then
        pressed buttonType
      else .keep
  | (env, .removeAuthRecord callingUid (some taskParam)) =>
      if s.mgr.isSysReady = true ∧ app = ⟨env.clientBundleName callingUid,
          env.osAccountLocalId callingUid, taskParam.appIndex⟩ then
        .drop (fun _ => true)
      else .keep
  | (_, .handleAuthExpiredCallbackDeath remote) =>
      if s.mgr.isSysReady = true ∧ s.findCallback remote = some app.label then
        .drop (fun _ => true)
      else .keep
  | (env, .onRestore (.records root) true) =>
      if s.mgr.isSysReady = true ∧ env.fileReadable = true then
        .takeIn (Register.under BannerNotificationRecord.authResult app.label root)
      else .keep
  | _ => .keep
where
  pressed (buttonType : Int) : Register.Event Int :=
    match AuthMgr.bannerButtonResult buttonType with
    | some authResult => .change authResult
    | none => .keep

/-! ## Steps that keep the registers -/

def BannerNotificationRecord.verdict (record : BannerNotificationRecord) : AuthApp × Int :=
  (record.app, record.authResult)

/-- A step writes its files, a start reads them, and a restoration goes through with each
record under the label of its app. -/
structure Lawful (s : AuthMgr) (label : AuthEnv × AuthOp) : Prop where
  saveOk : label.1.saveOk = true
  loads : label.2 = .service .initRequiredResourceInfo → s.mgr.isSysReady = false → Loads label.1
  whole : ∀ backup replyOk, label.2 = .onRestore backup replyOk → s.mgr.isSysReady = true →
    backup.cut label.1 replyOk = false
  own : ∀ root replyOk, label.2 = .onRestore (.records root) replyOk →
    ∀ key record, root.lookup key = some record → key = record.app.label

structure AuthMirrored (s : AuthMgr) : Prop where
  empty : s.mgr.isSysReady = false → ∀ key, s.recordAt key = none
  filed : s.Filed
  fileFiled : ∀ key record, s.mgr.authFile.lookup key = some record → key = record.app.label
  covered : s.mgr.isSysReady = true → ∀ key, (s.mgr.authFile.lookup key).map
    BannerNotificationRecord.verdict = (s.recordAt key).map BannerNotificationRecord.verdict

section Mirror

variable {env : AuthEnv} {s after : AuthMgr} {op : AuthOp}

theorem mirrored_of_written (refreshed : Refreshed env s after) (saveOk : env.saveOk = true)
    (running : after.mgr.isSysReady = true) (filed : after.Filed) : AuthMirrored after := by
  have written := refreshed.written saveOk
  refine ⟨fun unready => absurd (running.symm.trans unready) (by simp), filed, ?_, ?_⟩
  · rw [written]
    exact filed
  · intro _ key
    rw [written]
    rfl

/-- What does not touch the file keeps the mirror, if no verdict changes. -/
theorem mirrored_of_kept (mirrored : AuthMirrored s) (filed : after.Filed)
    (records : ∀ key, (after.recordAt key).map BannerNotificationRecord.verdict =
      (s.recordAt key).map BannerNotificationRecord.verdict)
    (file : after.mgr.authFile = s.mgr.authFile)
    (ready : after.mgr.isSysReady = s.mgr.isSysReady) : AuthMirrored after := by
  refine ⟨?_, filed, file ▸ mirrored.fileFiled, ?_⟩
  · intro unready key
    rw [← Option.map_eq_none_iff, records, Option.map_eq_none_iff]
    exact mirrored.empty (ready.symm.trans unready) key
  · intro running key
    rw [file, records]
    exact mirrored.covered (ready.symm.trans running) key

theorem mirrored_of_effect (effect : AuthEffect env s after op) (lawful : Lawful s (env, op))
    (mirrored : AuthMirrored s) : AuthMirrored after := by
  obtain ⟨saveOk, loads, whole, own⟩ := lawful
  have filesOwn (memory file : KeyedMap String BannerNotificationRecord)
      (fileOwn : ∀ key record, file.lookup key = some record → key = record.app.label) :
      FilesOwn memory file := by
    intro earlier entry later split _
    exact fileOwn entry.1 entry.2 (mem_jsonOrder.mp (by simp [split]))
  have restores : RestoresOwn s (env, op) := by
    unfold RestoresOwn
    split
    · exact fun _ _ => filesOwn _ _ mirrored.fileFiled
    · rename_i heading
      obtain ⟨rfl, rfl⟩ := Prod.mk.inj heading
      exact fun _ _ => filesOwn _ _ (own _ _ rfl)
    · trivial
  have filed := filed_of_effect effect restores mirrored.filed
  cases effect with
  | kept records file _ ready =>
      exact mirrored_of_kept mirrored filed (fun key => by rw [records]) file ready
  | renamed name records file _ ready =>
      refine mirrored_of_kept mirrored filed (fun key => ?_) file ready
      rw [records, Option.map_map]
      rfl
  | restarted _ records file _ ready =>
      refine ⟨fun _ => records, filed, file ▸ mirrored.fileFiled, ?_⟩
      exact fun running => absurd (running.symm.trans ready) (by simp)
  | loaded _ _ _ _ refreshed _ ready => exact mirrored_of_written refreshed saveOk ready filed
  | unloaded isOp unready misses => exact absurd (loads isOp unready) misses
  | taken running _ refreshed _ ready =>
      exact mirrored_of_written refreshed saveOk (ready.trans running) filed
  | decided running _ _ _ _ _ _ refreshed _ ready =>
      exact mirrored_of_written refreshed saveOk (ready.trans running) filed
  | inserted running _ _ _ refreshed _ ready _ =>
      exact mirrored_of_written refreshed saveOk (ready.trans running) filed
  | erased running at' _ records written _ ready =>
      obtain ⟨missing, same⟩ | refreshed := written
      · refine mirrored_of_kept mirrored filed (fun other => ?_) same ready
        rw [records]
        split
        · rename_i here
          rw [here, missing]
        · rfl
      · exact mirrored_of_written refreshed saveOk (ready.trans running) filed
  | replaced running backup replyOk isOp cut =>
      exact absurd (cut.symm.trans (whole backup replyOk isOp running)) (by simp)
  | restored running root isOp readable records file _ ready =>
      rw [if_pos saveOk] at file
      refine @mirrored_of_written env s after ?_ saveOk (ready.trans running) filed
      rw [Refreshed, if_pos saveOk]
      exact file

theorem mirrored_installed (hash : String → Nat) : AuthMirrored (AuthMgr.installed hash) := by
  have none : ∀ key, (AuthMgr.installed hash).recordAt key = none := fun _ => rfl
  have missing : ∀ key, (AuthMgr.installed hash).mgr.authFile.lookup key = Option.none :=
    fun _ => rfl
  refine ⟨fun _ => none, ?_, ?_, fun _ key => ?_⟩
  · intro key record found
    exact absurd ((none key).symm.trans found) (by simp)
  · intro key record found
    exact absurd ((missing key).symm.trans found) (by simp)
  · rw [none, missing]

end Mirror

/-! ## What a step is to a register -/

section Registers

variable {app : AuthApp} {env : AuthEnv} {s after : AuthMgr}

theorem held_ready (ready : s.mgr.isSysReady = true) :
    s.held app = Register.under BannerNotificationRecord.authResult app.label
      s.mgr.bannerNotificationRecord := by
  unfold AuthMgr.held
  rw [if_pos ready]

theorem held_unready (unready : s.mgr.isSysReady = false) :
    s.held app = Register.under BannerNotificationRecord.authResult app.label
      s.mgr.authFile := by
  unfold AuthMgr.held
  rw [if_neg (by simp [unready])]

theorem map_findAuthRecord (filed : s.Filed) (ready : s.mgr.isSysReady = true) :
    (findAuthRecord app.bundleName app.userId app.appIndex
      s.mgr.bannerNotificationRecord).map (fun found => found.2.authResult) = s.held app := by
  rw [held_ready ready]
  exact (Option.map_map _ _ _).symm.trans
    (congrArg (Option.map BannerNotificationRecord.authResult) (filed.consistent.agree app))

theorem held_file (mirrored : AuthMirrored s) (ready : s.mgr.isSysReady = true) :
    Register.under BannerNotificationRecord.authResult app.label s.mgr.authFile = s.held app := by
  have same := congrArg (Option.map Prod.snd) (mirrored.covered ready app.label)
  rw [Option.map_map, Option.map_map] at same
  rw [held_ready ready]
  exact same

theorem under_decided {key other : String} {authResult : Int}
    {records : KeyedMap String BannerNotificationRecord} :
    Register.under BannerNotificationRecord.authResult key
        (KeyedMap.adjust other (fun record => { record with authResult := authResult }) records) =
      (if key = other then Register.Event.change authResult else .keep).apply
        (Register.under BannerNotificationRecord.authResult key records) :=
  Register.under_adjust (fun _ => rfl)

theorem held_setBackgroundTaskState (filed : s.Filed) (taskParam : BackgroundTaskStateInfo) :
    let set := s.setBackgroundTaskState env (some taskParam)
    set.2.held app = (if set.1 = .ok ∧
        app = ⟨taskParam.bundleName, taskParam.userId, taskParam.appIndex⟩ then
      Register.Event.put taskParam.userAuthResult else .keep).apply (s.held app) := by
  intro set
  have isSet : set = s.setBackgroundTaskState env (some taskParam) := rfl
  clear_value set
  unfold AuthMgr.setBackgroundTaskState at isSet
  split at isSet
  · subst isSet
    rfl
  rename_i gate
  have ready : s.mgr.isSysReady = true := by simpa using gate
  dsimp only at isSet
  split at isSet
  · subst isSet
    rfl
  set target : AuthApp := ⟨taskParam.bundleName, taskParam.userId, taskParam.appIndex⟩
    with isTarget
  have agree := filed.consistent.agree target
  subst isSet
  unfold AuthMgr.setBackgroundTaskStateInner
  dsimp only
  rw [held_ready ((written_setRecords _).ready.trans ready), (written_setRecords _).records,
    held_ready ready]
  have found : findAuthRecord taskParam.bundleName taskParam.userId taskParam.appIndex
      s.mgr.bannerNotificationRecord = findAuthRecord target.bundleName target.userId
        target.appIndex s.mgr.bannerNotificationRecord := rfl
  rw [found]
  cases search : findAuthRecord target.bundleName target.userId target.appIndex
      s.mgr.bannerNotificationRecord with
  | none =>
      rw [search] at agree
      dsimp only
      have label : createBannerNotificationLabel taskParam.bundleName taskParam.userId
          taskParam.appIndex = target.label := rfl
      rw [label, Register.under_emplace]
      by_cases isApp : app = target
      · rw [if_pos (congrArg AuthApp.label isApp), if_pos ⟨rfl, isApp⟩]
        have missing : Register.under BannerNotificationRecord.authResult app.label
            s.mgr.bannerNotificationRecord = none := by
          rw [isApp]
          exact congrArg (Option.map BannerNotificationRecord.authResult) agree.symm
        rw [missing]
        rfl
      · rw [if_neg (fun same => isApp (AuthApp.label_injective same)),
          if_neg (fun both => isApp both.2)]
  | some record =>
      obtain ⟨stored, own⟩ := findAuthRecord_some search
      have key : record.1 = target.label := own ▸ filed record.1 record.2 stored
      dsimp only
      rw [key, under_decided]
      by_cases isApp : app = target
      · rw [if_pos (congrArg AuthApp.label isApp), if_pos ⟨rfl, isApp⟩]
        have held : Register.under BannerNotificationRecord.authResult app.label
            s.mgr.bannerNotificationRecord = some record.2.authResult := by
          rw [isApp, ← key]
          exact congrArg (Option.map BannerNotificationRecord.authResult) stored
        rw [held]
        rfl
      · rw [if_neg (fun same => isApp (AuthApp.label_injective same)),
          if_neg (fun both => isApp both.2)]

theorem held_onPermissionDialogButtonClick (authResult bundleUid : Int) (bundleName : String)
    (appIndex : Int) :
    (s.onPermissionDialogButtonClick env authResult bundleUid bundleName appIndex).held app =
      (if s.mgr.isSysReady = true ∧ UserAuthResult.denied ≤ authResult ∧
          authResult < UserAuthResult.bound ∧
          app = ⟨bundleName, env.osAccountLocalId bundleUid, appIndex⟩ then
        Register.Event.change authResult else .keep).apply (s.held app) := by
  set target : AuthApp := ⟨bundleName, env.osAccountLocalId bundleUid, appIndex⟩ with isTarget
  unfold AuthMgr.onPermissionDialogButtonClick
  have label : createBannerNotificationLabel bundleName (env.osAccountLocalId bundleUid)
      appIndex = target.label := rfl
  dsimp only
  rw [label]
  split
  · rename_i unready
    rw [if_neg (fun all => by simp [all.1] at unready)]
    rfl
  rename_i gate
  have ready : s.mgr.isSysReady = true := by simpa using gate
  split
  · rename_i outside
    rw [if_neg (by omega)]
    rfl
  rename_i inside
  split
  · rename_i missing
    rw [Option.isNone_iff_eq_none] at missing
    by_cases isApp : app = target
    · have empty : s.held app = none := by
        rw [held_ready ready, isApp]
        exact congrArg (Option.map BannerNotificationRecord.authResult) missing
      rw [if_pos ⟨ready, by omega, by omega, isApp⟩, empty]
      rfl
    · rw [if_neg (fun all => isApp all.2.2.2)]
      rfl
  · rw [AuthMgr.held, triggerCallback_mgr, (written_setRecords _).ready, if_pos ready,
      (written_setRecords _).records, under_decided, ← held_ready ready]
    by_cases isApp : app = target
    · rw [if_pos (congrArg AuthApp.label isApp), if_pos ⟨ready, by omega, by omega, isApp⟩]
    · rw [if_neg (fun same => isApp (AuthApp.label_injective same)),
        if_neg (fun all => isApp all.2.2.2)]

theorem held_onBannerNotificationActionButtonClick (buttonType : Int) (label : String) :
    (s.onBannerNotificationActionButtonClick env buttonType label).held app =
      (if s.mgr.isSysReady = true ∧ label = app.label then authEvent.pressed buttonType
        else .keep).apply (s.held app) := by
  unfold AuthMgr.onBannerNotificationActionButtonClick
  split
  · rename_i unready
    rw [if_neg (fun both => by simp [both.1] at unready)]
    rfl
  rename_i gate
  have ready : s.mgr.isSysReady = true := by simpa using gate
  split
  · rename_i record authResult found button
    have pressed : authEvent.pressed buttonType = .change authResult := by
      rw [authEvent.pressed, button]
    dsimp only
    rw [AuthMgr.held, triggerCallback_mgr, pressed]
    -- the cancellation of the banner leaves the records alone
    have written : Written env s
        (if record.notificationId ≠ -1 ∧ record.notificationLabel ≠ "" then
          ((s.setRecords (KeyedMap.adjust label
            (fun record => { record with authResult := authResult })
              s.mgr.bannerNotificationRecord)).refreshAuthRecord env).2.setMgr
            (((s.setRecords (KeyedMap.adjust label
              (fun record => { record with authResult := authResult })
                s.mgr.bannerNotificationRecord)).refreshAuthRecord env).2.mgr.cancelPair env.toEnv
              (record.notificationLabel, record.notificationId))
        else ((s.setRecords (KeyedMap.adjust label
          (fun record => { record with authResult := authResult })
            s.mgr.bannerNotificationRecord)).refreshAuthRecord env).2)
        (KeyedMap.adjust label (fun record => { record with authResult := authResult })
          s.mgr.bannerNotificationRecord) := by
      split
      · exact (written_setRecords _).of_tools _ rfl
      · exact written_setRecords _
    rw [written.ready, if_pos ready, written.records, under_decided,
      ← held_ready ready]
    by_cases same : label = app.label
    · rw [if_pos same.symm, if_pos ⟨ready, same⟩]
    · rw [if_neg (fun back => same back.symm), if_neg (fun both => same both.2)]
  · rename_i none
    by_cases same : label = app.label
    · rw [if_pos ⟨ready, same⟩]
      cases button : AuthMgr.bannerButtonResult buttonType with
      | none =>
          rw [authEvent.pressed, button]
          rfl
      | some authResult =>
          cases search : s.mgr.bannerNotificationRecord.lookup label with
          | some record => exact absurd button (none record authResult search)
          | none =>
              have empty : s.held app = Option.none := by
                rw [held_ready ready, ← same]
                exact congrArg (Option.map BannerNotificationRecord.authResult) search
              rw [authEvent.pressed, button, empty]
              rfl
    · rw [if_neg (fun both => same both.2)]
      rfl

theorem held_of_erased {key : String} (ready : s.mgr.isSysReady = true)
    (written : Written env s after (s.mgr.bannerNotificationRecord.erase key)) :
    after.held app =
      (if key = app.label then Register.Event.drop (fun _ => true) else .keep).apply
        (s.held app) := by
  rw [held_ready (written.ready.trans ready), written.records, Register.under_erase,
    ← held_ready ready]
  by_cases same : key = app.label
  · rw [if_pos same, if_pos same.symm]
  · rw [if_neg same, if_neg (fun back => same back.symm)]

theorem held_of_missing {key : String} (ready : s.mgr.isSysReady = true)
    (missing : s.mgr.bannerNotificationRecord.lookup key = none) (same : after.mgr = s.mgr) :
    after.held app =
      (if key = app.label then Register.Event.drop (fun _ => true) else .keep).apply
        (s.held app) := by
  have kept : after.held app = s.held app := by
    unfold AuthMgr.held
    rw [same]
  rw [kept]
  split
  · rename_i here
    have empty : s.held app = none := by
      rw [held_ready ready, ← here]
      exact congrArg (Option.map BannerNotificationRecord.authResult) missing
    rw [empty]
    rfl
  · rfl

theorem held_removeAuthRecord (callingUid : Int) (taskParam : ContinuousTaskParam) :
    (s.removeAuthRecord env callingUid (some taskParam)).2.held app =
      (if s.mgr.isSysReady = true ∧ app = ⟨env.clientBundleName callingUid,
          env.osAccountLocalId callingUid, taskParam.appIndex⟩ then
        Register.Event.drop (fun _ => true) else .keep).apply (s.held app) := by
  unfold AuthMgr.removeAuthRecord
  split
  · rename_i unready
    rw [if_neg (fun both => by simp [both.1] at unready)]
    rfl
  rename_i gate
  have ready : s.mgr.isSysReady = true := by simpa using gate
  set target : AuthApp := ⟨env.clientBundleName callingUid, env.osAccountLocalId callingUid,
    taskParam.appIndex⟩ with isTarget
  have event : (if target.label = app.label then Register.Event.drop (fun _ : Int => true)
      else .keep) = if s.mgr.isSysReady = true ∧ app = target then
        Register.Event.drop (fun _ => true) else .keep := by
    by_cases isApp : app = target
    · rw [if_pos (congrArg AuthApp.label isApp.symm), if_pos ⟨ready, isApp⟩]
    · rw [if_neg (fun same => isApp (AuthApp.label_injective same).symm),
        if_neg (fun both => isApp both.2)]
  rw [← event]
  dsimp only
  unfold AuthMgr.removeAuthRecordInner
  have label : createBannerNotificationLabel
      (AuthMgr.callerRecord env callingUid taskParam).bundleName
      (AuthMgr.callerRecord env callingUid taskParam).userId
      (AuthMgr.callerRecord env callingUid taskParam).appIndex = target.label := rfl
  dsimp only
  rw [label]
  split
  · exact held_of_erased ready (Written.of_tools (written_setRecords _) _ rfl)
  · rename_i missing
    exact held_of_missing ready (Option.not_isSome_iff_eq_none.mp missing) rfl

theorem held_handleAuthExpiredCallbackDeath (remote : Nat) :
    (s.handleAuthExpiredCallbackDeath env remote).held app =
      (if s.mgr.isSysReady = true ∧ s.findCallback remote = some app.label then
        Register.Event.drop (fun _ => true) else .keep).apply (s.held app) := by
  unfold AuthMgr.handleAuthExpiredCallbackDeath
  split
  · rename_i unready
    rw [if_neg (fun both => by simp [both.1] at unready)]
    rfl
  rename_i gate
  have ready : s.mgr.isSysReady = true := by simpa using gate
  split
  · rename_i unknown
    rw [if_neg (fun both => by simp [unknown] at both)]
    rfl
  rename_i key registered
  have event : (if key = app.label then Register.Event.drop (fun _ : Int => true) else .keep) =
      if s.mgr.isSysReady = true ∧ s.findCallback remote = some app.label then
        Register.Event.drop (fun _ => true) else .keep := by
    simp [ready, registered]
  rw [← event]
  dsimp only
  split
  · rename_i missing
    exact held_of_missing ready missing rfl
  · refine @held_of_erased app env s _ key ready ?_
    split
    · exact written_refresh rfl rfl
    · exact written_refresh rfl rfl

/-! ## Requests -/

/-- What a request does to the records: it is refused, or a record of the app goes in. -/
def Answered (env : AuthEnv) (s : AuthMgr) (app : AuthApp) (reply : ErrCode × AuthMgr) : Prop :=
  (reply.1 ≠ .ok ∧ ∃ tools, reply.2.mgr = s.mgr.setTools tools) ∨
    reply.1 = .ok ∧ ∃ banner, banner.app = app ∧
      banner.authResult = UserAuthResult.notDetermined ∧
      Written env s reply.2 (KeyedMap.emplace app.label banner s.mgr.bannerNotificationRecord)

theorem answered_registerRequest (saveOk : env.saveOk = true) {taken : AuthMgr}
    {tools : NotificationTools} {banner : BannerNotificationRecord} (callback : Nat)
    (mgr : taken.mgr = s.mgr.setTools tools) (isApp : banner.app = app)
    (undecided : banner.authResult = UserAuthResult.notDetermined) :
    Answered env s app (taken.registerRequest env banner callback) := by
  obtain ⟨taken, callbacks, answers⟩ := taken
  dsimp only at mgr
  subst mgr isApp
  refine .inr ⟨?_, banner, rfl, undecided, written_refresh rfl rfl⟩
  exact if_pos saveOk

theorem answered_requestAuthFromUserInner (saveOk : env.saveOk = true)
    (record : ContinuousTaskRecord) (callback : Nat) (apiVersion : Int) :
    Answered env s (AuthMgr.requestedAuth record).app
      (s.requestAuthFromUserInner env record callback apiVersion) := by
  obtain ⟨mgr, -⟩ := @checkAuthParam_keeps env s record callback apiVersion
  have passed := @checkAuthParam_ok env s record callback apiVersion
  have kept {reply : ErrCode × AuthMgr} (refused : reply.1 ≠ .ok) (same : reply.2.mgr = s.mgr) :
      Answered env s (AuthMgr.requestedAuth record).app reply :=
    .inl ⟨refused, s.mgr.tools, same⟩
  unfold AuthMgr.requestAuthFromUserInner
  generalize s.checkAuthParam env record callback apiVersion = checked at *
  obtain ⟨ret, checkedRecord, checkedMgr, checkedCallbacks, answers⟩ := checked
  dsimp only at mgr passed ⊢
  subst mgr
  split
  · rename_i refused
    exact kept refused rfl
  rename_i ok
  obtain ⟨-, app⟩ := passed (not_not.mp ok)
  split
  · split
    · exact kept (by simp) rfl
    · have same : s.mgr = s.mgr.setTools s.mgr.tools := rfl
      exact answered_registerRequest saveOk callback same app rfl
  split
  · exact kept (by simp) rfl
  set requested := AuthMgr.mk s.mgr checkedCallbacks answers with isRequested
  set asked : BannerNotificationRecord :=
    { AuthMgr.requestedAuth checkedRecord with appName := checkedRecord.appName } with isAsked
  obtain ⟨⟨tools, publishedMgr⟩, -, publishedApp, -⟩ := @publishBanner_keeps env requested asked
  have undecided : (requested.publishBannerNotification env asked).2.1.authResult =
      UserAuthResult.notDetermined := by
    unfold AuthMgr.publishBannerNotification
    dsimp only
    split
    · rfl
    split
    · rfl
    · rfl
  split
  · exact .inl ⟨by simp, tools, publishedMgr⟩
  · exact answered_registerRequest saveOk callback publishedMgr (publishedApp.trans app) undecided

theorem answered_requestAuthFromUser (saveOk : env.saveOk = true) (callingUid : Int)
    (taskParam : ContinuousTaskParam) (requestAuthApiVersion : Int) (callback : Option Nat) :
    Answered env s ⟨env.clientBundleName callingUid, env.osAccountLocalId callingUid,
        taskParam.appIndex⟩
      (s.requestAuthFromUser env callingUid (some taskParam) requestAuthApiVersion callback) := by
  have refused {ret : ErrCode} (failed : ret ≠ .ok) : Answered env s
      ⟨env.clientBundleName callingUid, env.osAccountLocalId callingUid, taskParam.appIndex⟩
      (ret, s) := .inl ⟨failed, s.mgr.tools, rfl⟩
  unfold AuthMgr.requestAuthFromUser
  split
  · exact refused (by simp)
  cases callback with
  | none => exact refused (by simp)
  | some callback =>
      dsimp only
      split
      · rename_i failed
        exact refused failed
      split
      · exact refused (by simp)
      split
      · exact refused (by simp)
      split
      · exact refused (by simp)
      · exact answered_requestAuthFromUserInner saveOk
          (AuthMgr.callerRecord env callingUid taskParam) callback requestAuthApiVersion

theorem held_requestAuthFromUser (saveOk : env.saveOk = true) (callingUid : Int)
    (taskParam : ContinuousTaskParam) (requestAuthApiVersion : Int) (callback : Option Nat) :
    let reply := s.requestAuthFromUser env callingUid (some taskParam) requestAuthApiVersion
      callback
    reply.2.held app = (if reply.1 = .ok ∧ app = ⟨env.clientBundleName callingUid,
        env.osAccountLocalId callingUid, taskParam.appIndex⟩ then
      Register.Event.takeIn (some UserAuthResult.notDetermined) else .keep).apply
        (s.held app) := by
  intro reply
  obtain ⟨failed, tools, same⟩ | ⟨ok, banner, isTarget, undecided, written⟩ :=
    @answered_requestAuthFromUser env s saveOk callingUid taskParam requestAuthApiVersion callback
  · rw [if_neg (fun both => failed both.1), AuthMgr.held, same]
    rfl
  · have ready : s.mgr.isSysReady = true := by
      by_contra unready
      have refused : reply.1 = .sysNotReady := by
        show (s.requestAuthFromUser env callingUid (some taskParam) requestAuthApiVersion
          callback).1 = _
        unfold AuthMgr.requestAuthFromUser
        rw [if_pos (by simpa using unready)]
      exact absurd (ok.symm.trans refused) (by simp)
    rw [held_ready (written.ready.trans ready), written.records, Register.under_emplace, undecided,
      ← held_ready ready]
    set target : AuthApp := ⟨env.clientBundleName callingUid, env.osAccountLocalId callingUid,
      taskParam.appIndex⟩
    by_cases isApp : app = target
    · rw [if_pos (congrArg AuthApp.label isApp), if_pos ⟨ok, isApp⟩]
    · rw [if_neg (fun same => isApp (AuthApp.label_injective same)),
        if_neg (fun both => isApp both.2)]

/-! ## Tasks, starts and restorations -/

/-- What an operation takes out depends on the app and the result alone. -/
theorem takes_banner {op : AuthOp} {key : String} {record : BannerNotificationRecord}
    (isApp : record.app = app) :
    takes env s op key record = takes env s op key (app.banner record.authResult) := by
  subst isApp
  unfold takes
  split
  · rfl
  · rfl
  · rfl
  · rfl
  · rfl

theorem lookup_of_clears {chosen : String → BannerNotificationRecord → Bool}
    {before later : BgContinuousTaskMgr}
    (clears : Clears (fun key record => chosen key record = true) before later) (key : String) :
    later.bannerNotificationRecord.lookup key =
      (before.bannerNotificationRecord.lookup key).filter (fun record => !chosen key record) := by
  apply Option.ext
  intro record
  rw [Option.filter_eq_some_iff, clears key record]
  simp

def Takes (env : AuthEnv) (s : AuthMgr) (op : TaskOp) : Prop :=
  Clears (fun key record => takes env s (.service (.task op)) key record = true) s.mgr
    (s.serviceOp env (.task op)).mgr

theorem Takes.of_same {op : TaskOp}
    (same : (s.serviceOp env (.task op)).mgr.bannerNotificationRecord =
      s.mgr.bannerNotificationRecord)
    (none : ∀ key record, takes env s (.service (.task op)) key record = false) :
    Takes env s op := by
  refine (clears_self_iff same).mpr (fun key record _ => ?_)
  simp [none key record]

theorem takes_onAppStopped (uid : Int) : Takes env s (.onAppStopped uid) := by
  intro key record
  refine (clears_onAppStopped uid key record).trans (and_congr_right fun _ => not_congr ?_)
  show _ ↔ (s.mgr.isSysReady && (env.appIndexAndBundleName uid).any _) = true
  cases env.appIndexAndBundleName uid with
  | none => simp
  | some answer => simp [and_assoc]

theorem takes_onBundleInfoChanged (action : PackageAction) (bundleName : String)
    (uid userId appIndex : Int) :
    Takes env s (.onBundleInfoChanged action bundleName uid userId appIndex) := by
  have step : (s.serviceOp env (.task (.onBundleInfoChanged action bundleName uid userId
      appIndex))).mgr = s.mgr.onBundleInfoChanged env.toEnv action bundleName uid userId
        appIndex := rfl
  unfold onBundleInfoChanged at step
  cases ready : s.mgr.isSysReady with
  | false =>
      rw [if_pos (by simp [ready])] at step
      refine .of_same (congrArg bannerNotificationRecord step) (fun key record => ?_)
      cases action with
      | removedOrChanged => simp [takes, ready]
      | _ => simp [takes]
  | true =>
      rw [if_neg (by simp [ready])] at step
      cases action with
      | removedOrChanged =>
          intro key record
          dsimp only at step
          rw [step, clears_removeBanners key record]
          simp [takes, ready, isAuthOf, and_comm, and_left_comm]
      | added =>
          dsimp only at step
          exact .of_same (by rw [step]) (fun key record => by simp [takes])
      | dataCleared =>
          dsimp only at step
          refine .of_same ?_ (fun key record => by simp [takes])
          rw [step]
          exact congrArg Asides.bannerNotificationRecord (asides_endCleared _ env.toEnv uid)

theorem clears_deleted {before : BgContinuousTaskMgr} (label : String)
    (same : before.bannerNotificationRecord = s.mgr.bannerNotificationRecord)
    (ready : before.isSysReady = s.mgr.isSysReady) :
    Clears (fun key record => (s.mgr.isSysReady && key == label && notGranted record) = true)
      s.mgr (before.stopBannerContinuousTaskByUser env.toEnv label) := by
  intro key record
  cases running : s.mgr.isSysReady with
  | false =>
      rw [stopBannerContinuousTaskByUser_of_unready label (ready.trans running), same]
      simp
  | true =>
      rw [clears_stopBannerContinuousTaskByUser label (ready.trans running) key record, same]
      simp

theorem takes_onCanceled (pair : String × Int) (deleteReason : DeleteReason) :
    Takes env s (.onCanceled pair deleteReason) := by
  have step : (s.serviceOp env (.task (.onCanceled pair deleteReason))).mgr =
      s.mgr.onCanceled env.toEnv pair deleteReason := rfl
  unfold onCanceled at step
  cases search : s.mgr.tools.published.find? (fun notification => notification.pair == pair) with
  | none =>
      simp only [search] at step
      have hidden : s.mgr.tools.published.any (fun notification => notification.pair == pair) =
          false := by
        rw [List.any_eq_false]
        exact List.find?_eq_none.mp search
      refine .of_same (congrArg bannerNotificationRecord step) (fun key record => ?_)
      simp [takes, hidden]
  | some notification =>
      simp only [search] at step
      have matched := List.find?_some search
      have shown : s.mgr.tools.published.any (fun notification => notification.pair == pair) =
          true :=
        List.any_eq_true.mpr ⟨notification, List.mem_of_find?_eq_some search, matched⟩
      have label : notification.label = pair.1 := by
        rw [← beq_iff_eq.mp matched]
        rfl
      by_cases own : deleteReason = .appCancel
      · rw [if_pos own] at step
        refine .of_same (congrArg bannerNotificationRecord step) (fun key record => ?_)
        simp [takes, own]
      rw [if_neg own, label] at step
      unfold cancelNotificationByBgTask at step
      by_cases isBanner : isBannerLabel pair.1 = true
      · rw [if_pos isBanner] at step
        intro key record
        have cleared := @clears_deleted env s (s.mgr.setTools (s.mgr.tools.withdraw pair)) pair.1
          rfl rfl key record
        rw [step, cleared]
        simp [takes, shown, isBanner, own]
      · rw [if_neg isBanner] at step
        refine .of_same ?_ (fun key record => by simp [takes, isBanner])
        rw [step]
        split
        · rfl
        · rw [if_neg own]
          exact congrArg Asides.bannerNotificationRecord (asides_stopContinuousTaskByUser ..)

/-- What an operation on tasks does to the records, up to the names of the apps. -/
theorem verdict_serviceOp (op : TaskOp) (key : String) :
    ((s.serviceOp env (.task op)).recordAt key).map BannerNotificationRecord.verdict =
      ((s.recordAt key).filter (fun record =>
        !takes env s (.service (.task op)) key record)).map BannerNotificationRecord.verdict := by
  have taken (clears : Takes env s op) : _ :=
    congrArg (Option.map BannerNotificationRecord.verdict) (lookup_of_clears clears key)
  have stays (records : (s.mgr.taskStep (env.toEnv, op)).bannerNotificationRecord =
      s.mgr.bannerNotificationRecord)
      (none : ∀ key record, takes env s (.service (.task op)) key record = false) : _ :=
    taken (Takes.of_same records none)
  by_cases apart : concernsAsides op = false
  · refine stays (congrArg Asides.bannerNotificationRecord
      (asides_taskStep s.mgr env.toEnv op apart)) (fun key record => ?_)
    cases op with
    | onAppStopped uid => simp [concernsAsides] at apart
    | onBundleInfoChanged action bundleName uid userId appIndex =>
        simp [concernsAsides] at apart
    | onCanceled pair deleteReason => simp [concernsAsides] at apart
    | stopBannerContinuousTaskByUser label => simp [concernsAsides] at apart
    | _ => rfl
  cases op with
  | onAppStopped uid => exact taken (takes_onAppStopped uid)
  | onBundleInfoChanged action bundleName uid userId appIndex =>
      exact taken (takes_onBundleInfoChanged action bundleName uid userId appIndex)
  | onCanceled pair deleteReason => exact taken (takes_onCanceled pair deleteReason)
  | stopBannerContinuousTaskByUser label => exact taken (clears_deleted label rfl rfl)
  | avSessionNotifyUpdateNotification callingUid uid pid isPublish =>
      have inner := records_avSessionNotifyInner s.mgr env.toEnv uid isPublish
      refine stays ?_ (fun key record => rfl)
      change (s.mgr.avSessionNotifyUpdateNotification env.toEnv callingUid uid pid
        isPublish).2.bannerNotificationRecord = _
      unfold avSessionNotifyUpdateNotification
      grind
  | runDelayedNotify =>
      have inner := fun s uid => records_avSessionNotifyInner s env.toEnv uid false
      refine stays ?_ (fun key record => rfl)
      change (s.mgr.runDelayedNotify env.toEnv).bannerNotificationRecord = _
      unfold runDelayedNotify
      grind
  | onBundleResourcesChanged =>
      -- the names of the apps are renewed
      have renamed : (s.serviceOp env (.task .onBundleResourcesChanged)).recordAt key =
          (s.recordAt key).map (fun banner =>
            { banner with appName := env.mainAbilityLabel banner.bundleName banner.userId }) :=
        KeyedMap.lookup_mapVal _ _ key
      have all : (s.recordAt key).filter (fun record =>
          !takes env s (.service (.task .onBundleResourcesChanged)) key record) =
            s.recordAt key := by
        cases s.recordAt key with
        | none => rfl
        | some record => rfl
      rw [renamed, all, Option.map_map]
      rfl
  | _ => exact absurd rfl apart

theorem lookup_restored_own {memory file : KeyedMap String BannerNotificationRecord}
    (memoryOwn : ∀ key record, memory.lookup key = some record → key = record.app.label)
    (fileOwn : ∀ key record, file.lookup key = some record → key = record.app.label)
    (key : String) :
    ((jsonOrder file).foldl addRestored memory).lookup key =
      (memory.lookup key).or (file.lookup key) := by
  have restored := restored_jsonOrder memory file
  cases inMemory : memory.lookup key with
  | some record => exact (restored.lookup key record).mpr (.inl inMemory)
  | none =>
      rw [Option.none_or]
      apply Option.ext
      intro record
      constructor
      · intro found
        obtain stored | ⟨earlier, entry, later, split, rfl, -⟩ :=
          (restored.lookup key record).mp found
        · exact absurd (inMemory.symm.trans stored) (by simp)
        · exact mem_jsonOrder.mp (by simp [split])
      · intro inFile
        obtain ⟨other, former, found, isApp⟩ := restored.covered ⟨key, record⟩
          (mem_jsonOrder.mpr inFile) inMemory
        -- the record of the app that is there stands under the same label
        have here : other = key := by
          rw [fileOwn key record inFile, ← isApp]
          exact (filed_restored memoryOwn).mpr (fun earlier entry later split _ =>
            fileOwn entry.1 entry.2 (mem_jsonOrder.mp (by simp [split]))) other former found
        subst here
        obtain stored | ⟨earlier, entry, later, split, rfl, -⟩ :=
          (restored.lookup other former).mp found
        · exact absurd (inMemory.symm.trans stored) (by simp)
        · have same := mem_jsonOrder.mp (show (⟨other, former⟩ : Σ _ : String, _) ∈
            jsonOrder file by simp [split])
          obtain rfl := Option.some.inj (inFile.symm.trans same)
          exact found

theorem held_serviceOp (filed : s.Filed) (running : s.mgr.isSysReady = true) (op : TaskOp) :
    (s.serviceOp env (.task op)).held app =
      (authEvent app s (env, .service (.task op))).apply (s.held app) := by
  have ready : (s.serviceOp env (.task op)).mgr.isSysReady = s.mgr.isSysReady :=
    (taskStep_ready (s := s.mgr) (env.toEnv, op)).1
  have verdict := congrArg (Option.map Prod.snd) (@verdict_serviceOp env s op app.label)
  rw [Option.map_map, Option.map_map] at verdict
  rw [held_ready (ready.trans running), held_ready running]
  refine verdict.trans ?_
  show ((s.recordAt app.label).filter _).map BannerNotificationRecord.authResult =
    ((s.recordAt app.label).map BannerNotificationRecord.authResult).filter _
  cases found : s.recordAt app.label with
  | none => rfl
  | some record =>
      have isApp : record.app = app := (AuthApp.label_injective (filed app.label record found)).symm
      rw [Option.filter_some, Option.map_some, Option.filter_some, takes_banner isApp]
      split
      · rfl
      · rfl

/-- While the service does not run, an operation is nothing to a register. -/
theorem authEvent_unready (unready : s.mgr.isSysReady = false) (op : AuthOp) (held : Option Int) :
    (authEvent app s (env, op)).apply held = held := by
  have untaken (op : TaskOp) (key : String) (record : BannerNotificationRecord) :
      takes env s (.service (.task op)) key record = false := by
    unfold takes
    split
    · rw [unready]
      rfl
    · rw [unready]
      rfl
    · rw [unready]
      rfl
    · rw [unready]
      rfl
    · rfl
  unfold authEvent
  split
  · rename_i heading
    obtain ⟨rfl, rfl⟩ := Prod.mk.inj heading
    cases held with
    | none => rfl
    | some authResult =>
        rw [Register.Event.apply, Option.filter_some, untaken]
        rfl
  · rw [if_neg]
    · rfl
    · rintro ⟨ok, -⟩
      unfold AuthMgr.requestAuthFromUser at ok
      rw [if_pos (by simp [unready])] at ok
      simp at ok
  · rw [if_neg]
    · rfl
    · rintro ⟨ok, -⟩
      unfold AuthMgr.setBackgroundTaskState at ok
      rw [if_pos (by simp [unready])] at ok
      simp at ok
  all_goals first | rfl | rw [if_neg (by simp [unready])]; rfl

theorem held_of_unready {label : AuthEnv × AuthOp} (unready : s.mgr.isSysReady = false)
    (starts : label.2 ≠ .service .initRequiredResourceInfo) :
    (s.authStep label).held app = s.held app := by
  have effect : AuthEffect label.1 s (s.authStep label) label.2 := authStep_effect label.2
  have same (file : (s.authStep label).mgr.authFile = s.mgr.authFile)
      (ready : (s.authStep label).mgr.isSysReady = false) :
      (s.authStep label).held app = s.held app := by
    rw [held_unready ready, held_unready unready, file]
  have stopped (running : s.mgr.isSysReady = true) : (s.authStep label).held app = s.held app :=
    absurd (running.symm.trans unready) (by simp)
  cases effect with
  | kept _ file _ ready => exact same file (ready.trans unready)
  | renamed _ _ file _ ready => exact same file (ready.trans unready)
  | restarted _ _ file _ ready => exact same file ready
  | loaded isOp => exact absurd isOp starts
  | unloaded isOp => exact absurd isOp starts
  | taken running => exact stopped running
  | decided running => exact stopped running
  | inserted running => exact stopped running
  | erased running => exact stopped running
  | replaced running => exact stopped running
  | restored running => exact stopped running

theorem held_init (mirrored : AuthMirrored s) (loads : s.mgr.isSysReady = false → Loads env) :
    (s.serviceOp env .initRequiredResourceInfo).held app = s.held app := by
  cases ready : s.mgr.isSysReady with
  | true =>
      have same : (s.serviceOp env .initRequiredResourceInfo).mgr = s.mgr := by
        show (if s.mgr.isSysReady then s.mgr else s.mgr.initRequiredResourceInfo env.toEnv) = s.mgr
        rw [if_pos ready]
      unfold AuthMgr.held
      rw [same]
  | false =>
      have started : (s.serviceOp env .initRequiredResourceInfo).mgr.isSysReady = true := by
        show (if s.mgr.isSysReady then s.mgr else
          s.mgr.initRequiredResourceInfo env.toEnv).isSysReady = true
        rw [if_neg (by simp [ready])]
        rfl
      rw [held_ready started, held_unready ready, Register.under, records_init ready (loads ready),
        lookup_restored_own mirrored.filed mirrored.fileFiled]
      have empty : s.mgr.bannerNotificationRecord.lookup app.label = none :=
        mirrored.empty ready app.label
      rw [empty, Option.none_or]
      rfl

/-- A restoration that goes through takes in what the backup holds of the app. -/
theorem held_onRestore (mirrored : AuthMirrored s) {backup : Backup} {replyOk : Bool}
    (running : s.mgr.isSysReady = true) (lawful : Lawful s (env, .onRestore backup replyOk)) :
    (s.onRestore env backup replyOk).2.held app =
      (authEvent app s (env, .onRestore backup replyOk)).apply (s.held app) := by
  have whole := lawful.whole backup replyOk rfl running
  cases backup with
  | unreadable =>
      have same : (s.onRestore env .unreadable replyOk).2 = s := by
        unfold AuthMgr.onRestore
        split
        · rfl
        · rfl
      rw [same]
      rfl
  | torn => simp [Backup.cut] at whole
  | malformed => simp [Backup.cut] at whole
  | records root =>
      simp only [Backup.cut, Bool.or_eq_false_iff, Bool.not_eq_false'] at whole
      obtain ⟨rfl, readable⟩ := whole
      have effect : AuthEffect env s (s.onRestore env (.records root) true).2
          (.onRestore (.records root) true) := authEffect_onRestore (.records root) true
      have ready : (s.onRestore env (.records root) true).2.mgr.isSysReady = true := by
        cases effect with
        | loaded isOp => simp at isOp
        | unloaded isOp => simp at isOp
        | restarted isOp => simp at isOp
        | kept _ _ _ ready => exact ready.trans running
        | renamed _ _ _ _ ready => exact ready.trans running
        | taken _ _ _ _ ready => exact ready.trans running
        | decided _ _ _ _ _ _ _ _ _ ready => exact ready.trans running
        | inserted _ _ _ _ _ _ ready _ => exact ready.trans running
        | erased _ _ _ _ _ _ ready => exact ready.trans running
        | replaced _ _ _ _ _ _ _ ready => exact ready.trans running
        | restored _ _ _ _ _ _ _ ready => exact ready.trans running
      have event : authEvent app s (env, .onRestore (.records root) true) =
          .takeIn (Register.under BannerNotificationRecord.authResult app.label root) :=
        if_pos ⟨running, readable⟩
      rw [event, held_ready ready, held_ready running, Register.under,
        records_onRestore running readable,
        lookup_restored_own mirrored.filed (lawful.own root true rfl)]
      show _ = (Option.map _ _).or (Option.map _ _)
      rw [Option.map_or]

/-- A step acts on each register by its event. -/
theorem held_authStep (mirrored : AuthMirrored s) {label : AuthEnv × AuthOp}
    (lawful : Lawful s label) :
    (s.authStep label).held app = (authEvent app s label).apply (s.held app) := by
  obtain ⟨env, op⟩ := label
  by_cases starts : op = .service .initRequiredResourceInfo
  · subst starts
    exact held_init mirrored (lawful.loads rfl)
  cases running : s.mgr.isSysReady with
  | false => rw [held_of_unready running starts, authEvent_unready running]
  | true =>
      cases op with
      | service op =>
          cases op with
          | task op => exact held_serviceOp mirrored.filed running op
          | initRequiredResourceInfo => exact absurd rfl starts
          | restart =>
              have stopped : (s.serviceOp env .restart).mgr.isSysReady = false := rfl
              show (s.serviceOp env .restart).held app = s.held app
              rw [held_unready stopped, ← held_file mirrored running]
              rfl
      | requestAuthFromUser callingUid taskParam requestAuthApiVersion callback =>
          cases taskParam with
          | some taskParam =>
              exact held_requestAuthFromUser lawful.saveOk callingUid taskParam
                requestAuthApiVersion callback
          | none =>
              have same : (s.requestAuthFromUser env callingUid none requestAuthApiVersion
                  callback).2 = s := by
                unfold AuthMgr.requestAuthFromUser
                split
                · rfl
                · rfl
              exact congrArg (AuthMgr.held app) same
      | setBackgroundTaskState taskParam =>
          cases taskParam with
          | some taskParam => exact held_setBackgroundTaskState mirrored.filed taskParam
          | none =>
              have same : (s.setBackgroundTaskState env none).2 = s := by
                unfold AuthMgr.setBackgroundTaskState
                split
                · rfl
                · rfl
              exact congrArg (AuthMgr.held app) same
      | onPermissionDialogButtonClick authResult bundleUid bundleName appIndex =>
          exact held_onPermissionDialogButtonClick authResult bundleUid bundleName appIndex
      | onBannerNotificationActionButtonClick buttonType label =>
          exact held_onBannerNotificationActionButtonClick buttonType label
      | removeAuthRecord callingUid taskParam =>
          cases taskParam with
          | some taskParam => exact held_removeAuthRecord callingUid taskParam
          | none =>
              have same : (s.removeAuthRecord env callingUid none).2 = s := by
                unfold AuthMgr.removeAuthRecord
                split
                · rfl
                · rfl
              exact congrArg (AuthMgr.held app) same
      | handleAuthExpiredCallbackDeath remote => exact held_handleAuthExpiredCallbackDeath remote
      | onRestore backup replyOk => exact held_onRestore mirrored running lawful
      | rehash rank =>
          show (s.rehash rank).held app = s.held app
          have ready : (s.rehash rank).mgr.isSysReady = true := running
          rw [held_ready ready, held_ready running]
          exact congrArg (Option.map BannerNotificationRecord.authResult)
            (KeyedMap.lookup_reorder rank _ app.label)

end Registers

/-! ## The queries answer from the register -/

/-- `CheckTaskAuthResult` from what is held of the app. -/
def taskAuthReply : Option Int → ErrCode
  | none => .continuousNotApplyAuthRecord
  | some authResult =>
      if authResult = UserAuthResult.grantedOnce ∨ authResult = UserAuthResult.grantedAlways then
        .ok
      else .continuousAuthNotPermitted

/-- `CheckSpecialScenarioAuth` for a caller that may ask. -/
def scenarioAuthReply (env : AuthEnv) (app : AuthApp) (apiVersion : Int) (held : Option Int) :
    ErrCode × Option Int :=
  if apiVersion = apiVersionCheckSpecialUserAuthResult then
    (.ok, some (if AuthMgr.checkApplySpecial env app.bundleName app.userId then
      held.getD UserAuthResult.notDetermined else UserAuthResult.notSupported))
  else held.elim (.continuousNotApplyAuthRecord, none) (fun authResult => (.ok, some authResult))

/-- `GetBackgroundTaskState` for an app that it can be asked about. -/
def taskStateReply (env : BundleEnv) (app : AuthApp) (held : Option Int) : Int :=
  if env.isMaliciousAppConfig app.bundleName then UserAuthResult.notSupported
  else held.getD
    (if AuthMgr.checkApplySpecialPermitted env app.bundleName app.userId then
      UserAuthResult.notDetermined else UserAuthResult.notSupported)

section Queries

variable {app : AuthApp} {s : AuthMgr}

theorem checkTaskAuthResult_held (filed : s.Filed) (ready : s.mgr.isSysReady = true) :
    s.checkTaskAuthResult app.bundleName app.userId app.appIndex =
      taskAuthReply (s.held app) := by
  rw [← map_findAuthRecord filed ready]
  unfold AuthMgr.checkTaskAuthResult AuthMgr.checkTaskAuthResultInner
  rw [if_neg (by simp [ready])]
  cases findAuthRecord app.bundleName app.userId app.appIndex s.mgr.bannerNotificationRecord with
  | none => rfl
  | some found => rfl

theorem checkSpecialScenarioAuth_held {env : AuthEnv} {callingUid : Int} (filed : s.Filed)
    (ready : s.mgr.isSysReady = true) (may : MayAsk env callingUid)
    (asks : app = ⟨env.clientBundleName callingUid, env.osAccountLocalId callingUid,
      app.appIndex⟩) (apiVersion : Int) :
    s.checkSpecialScenarioAuth env callingUid app.appIndex apiVersion =
      scenarioAuthReply env app apiVersion (s.held app) := by
  have inner : s.checkSpecialScenarioAuthInner env app.bundleName app.userId app.appIndex
      apiVersion = scenarioAuthReply env app apiVersion (s.held app) := by
    rw [← map_findAuthRecord filed ready]
    unfold AuthMgr.checkSpecialScenarioAuthInner scenarioAuthReply
    cases findAuthRecord app.bundleName app.userId app.appIndex
        s.mgr.bannerNotificationRecord with
    | none => grind
    | some found => grind
  have bundle : app.bundleName = env.clientBundleName callingUid :=
    congrArg AuthApp.bundleName asks
  have user : app.userId = env.osAccountLocalId callingUid := congrArg AuthApp.userId asks
  obtain ⟨permission, supported, exempted⟩ := may
  unfold AuthMgr.checkSpecialScenarioAuth
  rw [← bundle, ← user]
  dsimp only
  rw [inner]
  rw [← bundle] at exempted
  obtain exempted | ⟨allowed, ordinary⟩ := exempted
  · simp [ready, permission, supported, exempted]
  · simp [ready, permission, supported, allowed, ordinary]

theorem getBackgroundTaskState_held (env : BundleEnv) (filed : s.Filed)
    (ready : s.mgr.isSysReady = true) (named : app.bundleName ≠ "") (user : app.userId ≠ -1)
    (index : app.appIndex ≠ -1) :
    s.getBackgroundTaskState env (some
      { userId := app.userId, bundleName := app.bundleName, appIndex := app.appIndex }) =
      (.ok, some (taskStateReply env app (s.held app))) := by
  rw [← map_findAuthRecord filed ready]
  unfold AuthMgr.getBackgroundTaskState AuthMgr.getBackgroundTaskStateInner taskStateReply
  rw [if_neg (by simp [ready])]
  dsimp only
  rw [if_neg (by simp [named, user, index])]
  cases findAuthRecord app.bundleName app.userId app.appIndex s.mgr.bannerNotificationRecord with
  | none => grind
  | some found => grind

/-- In a run that keeps the files the register of an app holds the fold of its events. -/
theorem held_fold {hash : String → Nat} {labels : List (AuthEnv × AuthOp)}
    (lawful : Admissible AuthMgr.authStep Lawful (AuthMgr.installed hash) labels)
    (app : AuthApp) :
    AuthMirrored (run AuthMgr.authStep (AuthMgr.installed hash) labels) ∧
      (run AuthMgr.authStep (AuthMgr.installed hash) labels).held app = Register.after
        (Register.events AuthMgr.authStep (authEvent app) (AuthMgr.installed hash) labels)
        none := by
  have step : ∀ (s : AuthMgr) label, AuthMirrored s → Lawful s label →
      AuthMirrored (s.authStep label) ∧
        (s.authStep label).held app = (authEvent app s label).apply (s.held app) :=
    fun s label mirrored lawful => ⟨mirrored_of_effect (authStep_effect label.2) lawful mirrored,
      held_authStep mirrored lawful⟩
  refine ⟨run_invariant (fun s label mirrored lawful => (step s label mirrored lawful).1) labels _
    (mirrored_installed hash) lawful, ?_⟩
  exact @Register.held_run Int AuthMgr (AuthEnv × AuthOp) AuthMgr.authStep (authEvent app) Lawful
    AuthMirrored (AuthMgr.held app) step labels _ (mirrored_installed hash) lawful

/-- Along every run that keeps the files, what is held of an app is the fold of what the
operations are to its register, and the three queries answer from it. -/
theorem auth_queries_fold {hash : String → Nat} {labels : List (AuthEnv × AuthOp)}
    (lawful : Admissible AuthMgr.authStep Lawful (AuthMgr.installed hash) labels)
    (ready : (run AuthMgr.authStep (AuthMgr.installed hash) labels).mgr.isSysReady = true)
    (app : AuthApp) :
    let s := run AuthMgr.authStep (AuthMgr.installed hash) labels
    let held := Register.after
      (Register.events AuthMgr.authStep (authEvent app) (AuthMgr.installed hash) labels) none
    s.checkTaskAuthResult app.bundleName app.userId app.appIndex = taskAuthReply held ∧
      (∀ env callingUid apiVersion, MayAsk env callingUid →
        app = ⟨env.clientBundleName callingUid, env.osAccountLocalId callingUid, app.appIndex⟩ →
        s.checkSpecialScenarioAuth env callingUid app.appIndex apiVersion =
          scenarioAuthReply env app apiVersion held) ∧
      ∀ env, app.bundleName ≠ "" → app.userId ≠ -1 → app.appIndex ≠ -1 →
        s.getBackgroundTaskState env (some
          { userId := app.userId, bundleName := app.bundleName, appIndex := app.appIndex }) =
          (.ok, some (taskStateReply env app held)) := by
  intro s held
  obtain ⟨mirrored, same⟩ := held_fold lawful app
  change s.held app = held at same
  rw [← same]
  refine ⟨checkTaskAuthResult_held mirrored.filed ready, ?_, ?_⟩
  · intro env callingUid apiVersion may asks
    exact checkSpecialScenarioAuth_held mirrored.filed ready may asks apiVersion
  · intro env named user index
    exact getBackgroundTaskState_held env mirrored.filed ready named user index

def grantedOnceRun : List (AuthEnv × AuthOp) :=
  [(authDevice, .service .initRequiredResourceInfo),
    (authDevice, .setBackgroundTaskState (some
      { userId := 0
        bundleName := "app"
        appIndex := 0
        userAuthResult := UserAuthResult.grantedOnce })),
    (authDevice, .service .restart),
    (authDevice, .service .initRequiredResourceInfo)]

theorem auth_queries_fold_restarted :
    (run AuthMgr.authStep (AuthMgr.installed (fun _ => 0)) grantedOnceRun).checkTaskAuthResult
      "app" 0 0 = .ok := by
  have plain : ∀ (s : AuthMgr) op, (∀ backup replyOk, op ≠ .onRestore backup replyOk) →
      Lawful s (authDevice, op) :=
    fun s op other => ⟨rfl, fun _ _ => ⟨rfl, rfl⟩,
      fun backup replyOk isOp => absurd isOp (other backup replyOk),
      fun root replyOk isOp => absurd isOp (other (.records root) replyOk)⟩
  have lawful : Admissible AuthMgr.authStep Lawful (AuthMgr.installed (fun _ => 0))
      grantedOnceRun :=
    ⟨plain _ _ (by simp), plain _ _ (by simp), plain _ _ (by simp), plain _ _ (by simp), trivial⟩
  exact (auth_queries_fold lawful (by decide) deviceApp).1.trans (by decide)

end Queries

end BgTaskMgr.Continuous
