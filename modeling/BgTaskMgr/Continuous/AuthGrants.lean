import BgTaskMgr.Continuous.AuthKeys

/-!
# Grants that persist

An app that is always granted its authorisation keeps it, in memory and in the file, until a
decision on it, its own removal or a change of its package.  A callback that dies and a start
that does not read the file are what else can take it.
-/

set_option autoImplicit false

namespace BgTaskMgr.Continuous

open BgContinuousTaskMgr StepSystem

/-! ## What a step must and must not do -/

/-- A step writes its files, and a restoration of it goes through and has the app's record
under the app's label. -/
def Sound (app : AuthApp) (s : AuthMgr) (label : AuthEnv × AuthOp) : Prop :=
  label.1.saveOk = true ∧ ∀ backup replyOk, label.2 = .onRestore backup replyOk →
    s.mgr.isSysReady = true → backup.cut label.1 replyOk = false ∧
      ∀ root, backup = .records root → ∀ key record, root.lookup key = some record →
        record.app = app → key = app.label

/-- An operation that decides on the authorisation of the app, removes it for the app itself
or is a change of its package. -/
inductive Intervenes (app : AuthApp) (env : AuthEnv) : AuthOp → Prop where
  | set (taskParam : BackgroundTaskStateInfo)
      (isApp : app = ⟨taskParam.bundleName, taskParam.userId, taskParam.appIndex⟩) :
      Intervenes app env (.setBackgroundTaskState (some taskParam))
  | dialog (authResult bundleUid : Int) (bundleName : String) (appIndex : Int)
      (isApp : app = ⟨bundleName, env.osAccountLocalId bundleUid, appIndex⟩) :
      Intervenes app env
        (.onPermissionDialogButtonClick authResult bundleUid bundleName appIndex)
  | banner (buttonType : Int) :
      Intervenes app env (.onBannerNotificationActionButtonClick buttonType app.label)
  | removed (callingUid : Int) (taskParam : ContinuousTaskParam)
      (isApp : app = ⟨env.clientBundleName callingUid, env.osAccountLocalId callingUid,
        taskParam.appIndex⟩) :
      Intervenes app env (.removeAuthRecord callingUid (some taskParam))
  | changed (uid : Int) :
      Intervenes app env (.service (.task
        (.onBundleInfoChanged .removedOrChanged app.bundleName uid app.userId app.appIndex)))

/-- No callback under the label of the app dies, and a start of the service reads the file. -/
def SparesGrant (app : AuthApp) (s : AuthMgr) (label : AuthEnv × AuthOp) : Prop :=
  (∀ remote, label.2 = .handleAuthExpiredCallbackDeath remote →
    s.findCallback remote ≠ some app.label) ∧
  (label.2 = .service .initRequiredResourceInfo → s.mgr.isSysReady = false → Loads label.1)

/-! ## The file behind the records -/

/-- What is stored of the app stands under its label, and in the file too. -/
structure Backed (app : AuthApp) (s : AuthMgr) : Prop where
  empty : s.mgr.isSysReady = false → ∀ key, s.recordAt key = none
  filed : ∀ key record, s.recordAt key = some record → record.app = app → key = app.label
  fileFiled : ∀ key record, s.mgr.authFile.lookup key = some record → record.app = app →
    key = app.label
  covered : ∀ record, s.recordAt app.label = some record → record.app = app →
    ∃ saved, s.mgr.authFile.lookup app.label = some saved ∧ saved.app = app ∧
      saved.authResult = record.authResult

section Steps

variable {app : AuthApp} {env : AuthEnv} {s after : AuthMgr} {op : AuthOp}

theorem backed_of_written (refreshed : after.mgr.authFile = after.mgr.bannerNotificationRecord)
    (running : after.mgr.isSysReady = true)
    (filed : ∀ key record, after.recordAt key = some record → record.app = app →
      key = app.label) : Backed app after := by
  refine ⟨fun unready => absurd (running.symm.trans unready) (by simp), filed, ?_, ?_⟩
  · rw [refreshed]
    exact filed
  · intro record found isApp
    exact ⟨record, refreshed ▸ found, isApp, rfl⟩

theorem Refreshed.written (refreshed : Refreshed env s after) (saveOk : env.saveOk = true) :
    after.mgr.authFile = after.mgr.bannerNotificationRecord := by
  rw [Refreshed, if_pos saveOk] at refreshed
  exact refreshed

theorem backed_of_kept (backed : Backed app s) (name : BannerNotificationRecord → String)
    (records : ∀ key, after.recordAt key = (s.recordAt key).map (fun record =>
      { record with appName := name record }))
    (file : after.mgr.authFile = s.mgr.authFile)
    (ready : after.mgr.isSysReady = s.mgr.isSysReady) : Backed app after := by
  constructor
  · intro unready key
    rw [records, backed.empty (ready.symm.trans unready)]
    rfl
  · intro key record found isApp
    obtain ⟨former, stored, rfl⟩ := Option.map_eq_some_iff.mp ((records key).symm.trans found)
    exact backed.filed key former stored isApp
  · rw [file]
    exact backed.fileFiled
  · intro record found isApp
    obtain ⟨former, stored, rfl⟩ := Option.map_eq_some_iff.mp
      ((records app.label).symm.trans found)
    rw [file]
    exact backed.covered former stored isApp

theorem backed_of_same (backed : Backed app s)
    (records : ∀ key, after.recordAt key = s.recordAt key)
    (file : after.mgr.authFile = s.mgr.authFile)
    (ready : after.mgr.isSysReady = s.mgr.isSysReady) : Backed app after := by
  refine backed_of_kept backed (fun record => record.appName) (fun key => ?_) file ready
  rw [records]
  exact Option.map_id'.symm

theorem backed_of_effect (effect : AuthEffect env s after op) (sound : Sound app s (env, op))
    (backed : Backed app s) : Backed app after := by
  obtain ⟨saveOk, restores⟩ := sound
  cases effect with
  | kept records file _ ready => exact backed_of_same backed records file ready
  | renamed name records file _ ready => exact backed_of_kept backed name records file ready
  | restarted isOp records file _ ready =>
      refine ⟨fun _ => records, fun key record found => ?_, file ▸ backed.fileFiled,
        fun record found => ?_⟩
      · simp [records] at found
      · simp [records] at found
  | loaded isOp unready loads records refreshed _ ready =>
      refine backed_of_written (refreshed.written saveOk) ready ?_
      intro key record found isApp
      rw [AuthMgr.recordAt, records] at found
      obtain stored | ⟨earlier, entry, later, split, rfl, -⟩ :=
        ((restored_jsonOrder _ _).lookup key record).mp found
      · exact backed.filed key record stored isApp
      · exact backed.fileFiled key record (mem_jsonOrder.mp (by simp [split])) isApp
  | unloaded isOp unready misses records file _ ready =>
      have nothing : ∀ key, after.recordAt key = none :=
        fun key => (records key).trans (backed.empty unready key)
      have filed : ∀ key record, after.recordAt key = some record → record.app = app →
          key = app.label := by
        intro key record found
        simp [nothing] at found
      obtain same | refreshed := file
      · refine ⟨fun _ => nothing, filed, same ▸ backed.fileFiled, fun record found => ?_⟩
        simp [nothing] at found
      · exact backed_of_written (refreshed.written saveOk) ready filed
  | taken running records refreshed _ ready =>
      refine backed_of_written (refreshed.written saveOk) (ready.trans running) ?_
      intro key record found isApp
      exact backed.filed key record ((records key record).mp found).1 isApp
  | decided running at' former authResult stored decides records refreshed _ ready =>
      refine backed_of_written (refreshed.written saveOk) (ready.trans running) ?_
      intro key record found isApp
      rw [records] at found
      split at found
      · rename_i here
        obtain rfl := Option.some.inj found
        rw [here]
        exact backed.filed at' former stored isApp
      · exact backed.filed key record found isApp
  | inserted running banner absent records refreshed _ ready _ =>
      refine backed_of_written (refreshed.written saveOk) (ready.trans running) ?_
      intro key record found isApp
      rw [records] at found
      split at found
      · rename_i here
        subst here
        cases stored : s.recordAt banner.app.label with
        | none =>
            rw [stored] at found
            obtain rfl := Option.some.inj found
            exact congrArg AuthApp.label isApp
        | some former =>
            rw [stored] at found
            obtain rfl := Option.some.inj found
            exact backed.filed _ _ stored isApp
      · exact backed.filed key record found isApp
  | erased running at' erases records written _ ready =>
      have filed : ∀ key record, after.recordAt key = some record → record.app = app →
          key = app.label := by
        intro key record found isApp
        rw [records] at found
        split at found
        · simp at found
        · exact backed.filed key record found isApp
      obtain ⟨missing, same⟩ | refreshed := written
      · refine backed_of_same backed (fun other => ?_) same ready
        rw [records]
        split
        · rename_i here
          rw [here, missing]
        · rfl
      · exact backed_of_written (refreshed.written saveOk) (ready.trans running) filed
  | replaced running backup replyOk isOp cut =>
      have whole := (restores backup replyOk isOp running).1
      rw [cut] at whole
      simp at whole
  | restored running root isOp readable records file _ ready =>
      have own := (restores _ _ isOp running).2 root rfl
      rw [if_pos saveOk] at file
      refine backed_of_written file (ready.trans running) ?_
      intro key record found isApp
      rw [AuthMgr.recordAt, records] at found
      obtain stored | ⟨earlier, entry, later, split, rfl, -⟩ :=
        ((restored_jsonOrder _ _).lookup key record).mp found
      · exact backed.filed key record stored isApp
      · exact own key record (mem_jsonOrder.mp (by simp [split])) isApp

end Steps

/-! ## The grant -/

/-- The app is always granted its authorisation, in the file and, once the service is ready,
in memory. -/
structure Granted (app : AuthApp) (s : AuthMgr) : Prop where
  inFile : ∃ saved, s.mgr.authFile.lookup app.label = some saved ∧ saved.app = app ∧
    saved.authResult = UserAuthResult.grantedAlways
  inMemory : s.mgr.isSysReady = true → ∃ record, s.recordAt app.label = some record ∧
    record.app = app ∧ record.authResult = UserAuthResult.grantedAlways

section Steps

variable {app : AuthApp} {env : AuthEnv} {s after : AuthMgr} {op : AuthOp}

theorem granted_of_written (file : after.mgr.authFile = after.mgr.bannerNotificationRecord)
    (held : ∃ record, after.recordAt app.label = some record ∧ record.app = app ∧
      record.authResult = UserAuthResult.grantedAlways) : Granted app after := by
  refine ⟨?_, fun _ => held⟩
  rw [file]
  exact held

/-- An operation that takes out a record always granted is a change of its package. -/
theorem intervenes_of_takes {key : String} {record : BannerNotificationRecord}
    (isApp : record.app = app) (granted : record.authResult = UserAuthResult.grantedAlways)
    (taken : takes env s op key record = true) : Intervenes app env op := by
  unfold takes at taken
  split at taken
  · simp [notGranted, granted] at taken
  · simp [notGranted, granted] at taken
  · simp [granted, UserAuthResult.grantedAlways, UserAuthResult.grantedOnce] at taken
  · rename_i action bundleName uid userId appIndex
    simp only [Bool.and_eq_true, beq_iff_eq] at taken
    obtain ⟨⟨-, rfl⟩, own⟩ := taken
    have same : record.app = ⟨bundleName, userId, appIndex⟩ := (isAuthOf_iff _ record).mp own
    rw [isApp] at same
    subst same
    exact .changed uid
  · simp at taken

/-- A decision under the label of the app is one on the app. -/
theorem intervenes_of_decides {record : BannerNotificationRecord} (isApp : record.app = app)
    (decides : Decides env app.label record op) : Intervenes app env op := by
  cases decides with
  | set taskParam own => exact .set taskParam (isApp.symm.trans own)
  | dialog authResult bundleUid bundleName appIndex label =>
      exact .dialog authResult bundleUid bundleName appIndex (AuthApp.label_injective label)
  | banner buttonType => exact .banner buttonType

theorem granted_of_loaded (unready : s.mgr.isSysReady = false) (backed : Backed app s)
    (granted : Granted app s)
    (records : after.mgr.bannerNotificationRecord =
      (jsonOrder s.mgr.authFile).foldl addRestored s.mgr.bannerNotificationRecord) :
    ∃ record, after.recordAt app.label = some record ∧ record.app = app ∧
      record.authResult = UserAuthResult.grantedAlways := by
  obtain ⟨saved, inFile, savedApp, always⟩ := granted.inFile
  have restored := restored_jsonOrder s.mgr.bannerNotificationRecord s.mgr.authFile
  rw [← records] at restored
  have free : s.mgr.bannerNotificationRecord.lookup app.label = none :=
    backed.empty unready app.label
  obtain ⟨key, record, found, isApp⟩ := restored.covered ⟨app.label, saved⟩
    (mem_jsonOrder.mpr inFile) free
  -- the record of the app that went in is the one under its label
  obtain stored | ⟨earlier, entry, later, split, rfl, -⟩ := (restored.lookup key record).mp found
  · exact absurd (backed.empty unready key) (by simp [AuthMgr.recordAt, stored])
  · have listed : s.mgr.authFile.lookup key = some record := mem_jsonOrder.mp (by simp [split])
    have here : key = app.label := backed.fileFiled key record listed (isApp.trans savedApp)
    subst here
    obtain rfl := Option.some.inj (inFile.symm.trans listed)
    exact ⟨saved, found, savedApp, always⟩

theorem granted_of_effect (effect : AuthEffect env s after op) (sound : Sound app s (env, op))
    (spares : SparesGrant app s (env, op)) (apart : ¬ Intervenes app env op)
    (backed : Backed app s) (granted : Granted app s) : Granted app after := by
  obtain ⟨saveOk, restores⟩ := sound
  cases effect with
  | kept records file _ ready =>
      refine ⟨file ▸ granted.inFile, fun running => ?_⟩
      rw [records]
      exact granted.inMemory (ready.symm.trans running)
  | renamed name records file _ ready =>
      refine ⟨file ▸ granted.inFile, fun running => ?_⟩
      obtain ⟨record, found, isApp, always⟩ := granted.inMemory (ready.symm.trans running)
      rw [records, found]
      exact ⟨_, rfl, isApp, always⟩
  | restarted isOp records file _ ready =>
      exact ⟨file ▸ granted.inFile, fun running => absurd (running.symm.trans ready) (by simp)⟩
  | loaded isOp unready loads records refreshed _ ready =>
      exact granted_of_written (refreshed.written saveOk)
        (granted_of_loaded unready backed granted records)
  | unloaded isOp unready misses => exact absurd (spares.2 isOp unready) misses
  | taken running records refreshed _ ready =>
      refine granted_of_written (refreshed.written saveOk) ?_
      obtain ⟨record, found, isApp, always⟩ := granted.inMemory running
      refine ⟨record, (records _ _).mpr ⟨found, ?_⟩, isApp, always⟩
      rw [Bool.eq_false_iff]
      exact fun taken => apart (intervenes_of_takes isApp always taken)
  | decided running at' former authResult stored decides records refreshed _ ready =>
      refine granted_of_written (refreshed.written saveOk) ?_
      obtain ⟨record, found, isApp, always⟩ := granted.inMemory running
      have other : app.label ≠ at' := by
        intro here
        subst here
        obtain rfl := Option.some.inj (stored.symm.trans found)
        exact apart (intervenes_of_decides isApp decides)
      rw [records, if_neg other]
      exact ⟨record, found, isApp, always⟩
  | inserted running banner absent records refreshed _ ready _ =>
      refine granted_of_written (refreshed.written saveOk) ?_
      obtain ⟨record, found, isApp, always⟩ := granted.inMemory running
      refine ⟨record, ?_, isApp, always⟩
      rw [records]
      split
      · rename_i here
        rw [← here, found]
        rfl
      · exact found
  | erased running at' erases records written _ ready =>
      obtain ⟨record, found, isApp, always⟩ := granted.inMemory running
      have other : app.label ≠ at' := by
        intro here
        subst here
        cases erases with
        | removed callingUid taskParam label =>
            exact apart (.removed callingUid taskParam (AuthApp.label_injective label))
        | died remote registered => exact spares.1 remote rfl registered
      have held : after.recordAt app.label = some record := by
        rw [records, if_neg other]
        exact found
      obtain ⟨-, same⟩ | refreshed := written
      · exact ⟨same ▸ granted.inFile, fun _ => ⟨record, held, isApp, always⟩⟩
      · exact granted_of_written (refreshed.written saveOk) ⟨record, held, isApp, always⟩
  | replaced running backup replyOk isOp cut =>
      have whole := (restores backup replyOk isOp running).1
      rw [cut] at whole
      simp at whole
  | restored running root isOp readable records file _ ready =>
      rw [if_pos saveOk] at file
      refine granted_of_written file ?_
      obtain ⟨record, found, isApp, always⟩ := granted.inMemory running
      refine ⟨record, ?_, isApp, always⟩
      rw [AuthMgr.recordAt, records]
      exact ((restored_jsonOrder _ _).lookup _ _).mpr (.inl found)

end Steps

/-! ## Runs with a grant -/

/-- A step that neither intervenes nor ends a grant otherwise. -/
structure KeepsGrant (app : AuthApp) (s : AuthMgr) (label : AuthEnv × AuthOp) : Prop where
  sound : Sound app s label
  apart : ¬ Intervenes app label.1 label.2
  spares : SparesGrant app s label

/-- A caller passes the checks that `CheckSpecialScenarioAuth` makes of it. -/
structure MayAsk (env : AuthEnv) (callingUid : Int) : Prop where
  permission : env.bgmodePermission = true
  supported : env.supportAuth = true
  exempted : env.isSpecialExemptedQuatoApp (env.clientBundleName callingUid) = true ∨
    env.specialScenarioACLPermission env.callingTokenId = true ∧
      env.isSystemApp env.callingFullTokenId = false

section Runs

variable {app : AuthApp} {env : AuthEnv} {s : AuthMgr}

theorem backed_installed (app : AuthApp) (hash : String → Nat) :
    Backed app (AuthMgr.installed hash) := by
  refine ⟨fun _ _ => rfl, ?_, ?_, ?_⟩
  · intro key record found
    exact absurd found (by simp [AuthMgr.recordAt, AuthMgr.installed,
      BgContinuousTaskMgr.installed])
  · intro key record found
    exact absurd found (by simp [AuthMgr.installed, BgContinuousTaskMgr.installed])
  · intro record found
    exact absurd found (by simp [AuthMgr.recordAt, AuthMgr.installed,
      BgContinuousTaskMgr.installed])

theorem backed_run {hash : String → Nat} {labels : List (AuthEnv × AuthOp)}
    (sound : Admissible AuthMgr.authStep (Sound app) (AuthMgr.installed hash) labels) :
    Backed app (run AuthMgr.authStep (AuthMgr.installed hash) labels) := by
  have step : ∀ (s : AuthMgr) label, Backed app s → Sound app s label →
      Backed app (s.authStep label) :=
    fun s label backed sound => backed_of_effect (authStep_effect label.2) sound backed
  exact run_invariant step labels _ (backed_installed app hash) sound

/-- A grant that is found in memory is one in the file too. -/
theorem granted_of_found (backed : Backed app s)
    (held : (findAuthRecord app.bundleName app.userId app.appIndex
      s.mgr.bannerNotificationRecord).map (fun found => found.2.authResult) =
        some UserAuthResult.grantedAlways) : Granted app s := by
  obtain ⟨found, search, always⟩ := Option.map_eq_some_iff.mp held
  obtain ⟨stored, isApp⟩ := findAuthRecord_some search
  have here : found.1 = app.label := backed.filed found.1 found.2 stored isApp
  rw [here] at stored
  obtain ⟨saved, inFile, savedApp, same⟩ := backed.covered found.2 stored isApp
  exact ⟨⟨saved, inFile, savedApp, same.trans always⟩, fun _ => ⟨found.2, stored, isApp, always⟩⟩

theorem findAuthRecord_of_granted (backed : Backed app s) (granted : Granted app s)
    (ready : s.mgr.isSysReady = true) :
    (findAuthRecord app.bundleName app.userId app.appIndex
      s.mgr.bannerNotificationRecord).map (fun found => found.2.authResult) =
        some UserAuthResult.grantedAlways := by
  obtain ⟨record, found, isApp, always⟩ := granted.inMemory ready
  cases search : findAuthRecord app.bundleName app.userId app.appIndex
      s.mgr.bannerNotificationRecord with
  | none => exact absurd isApp (findAuthRecord_none.mp search app.label record found)
  | some other =>
      obtain ⟨stored, otherApp⟩ := findAuthRecord_some search
      rw [backed.filed other.1 other.2 stored otherApp] at stored
      obtain rfl := Option.some.inj (found.symm.trans stored)
      exact congrArg some always

theorem checkSpecialScenarioAuth_of_granted {callingUid apiVersion : Int}
    (backed : Backed app s) (granted : Granted app s) (ready : s.mgr.isSysReady = true)
    (asks : app = ⟨env.clientBundleName callingUid, env.osAccountLocalId callingUid,
      app.appIndex⟩)
    (may : MayAsk env callingUid)
    (declared : apiVersion = apiVersionCheckSpecialUserAuthResult →
      AuthMgr.checkApplySpecial env app.bundleName app.userId = true) :
    s.checkSpecialScenarioAuth env callingUid app.appIndex apiVersion =
      (.ok, some UserAuthResult.grantedAlways) := by
  have inner : s.checkSpecialScenarioAuthInner env app.bundleName app.userId app.appIndex
      apiVersion = (.ok, some UserAuthResult.grantedAlways) := by
    obtain ⟨found, search, always⟩ := Option.map_eq_some_iff.mp
      (findAuthRecord_of_granted backed granted ready)
    unfold AuthMgr.checkSpecialScenarioAuthInner
    rw [if_neg (by rintro ⟨version, undeclared⟩; simp [declared version] at undeclared), search]
    simp only [always]
  have bundle : app.bundleName = env.clientBundleName callingUid :=
    congrArg AuthApp.bundleName asks
  have user : app.userId = env.osAccountLocalId callingUid := congrArg AuthApp.userId asks
  obtain ⟨permission, supported, exempted⟩ := may
  unfold AuthMgr.checkSpecialScenarioAuth
  rw [← bundle, ← user]
  dsimp only
  rw [inner]
  rw [← bundle] at exempted
  obtain exempted | ⟨allowed, ordinary⟩ := exempted
  · simp [ready, permission, supported, exempted]
  · simp [ready, permission, supported, allowed, ordinary]

/-- An app that is always granted its authorisation is told so by every later check, as long
as no step intervenes or ends the grant otherwise. -/
theorem granted_run {hash : String → Nat} {early late : List (AuthEnv × AuthOp)}
    (sound : Admissible AuthMgr.authStep (Sound app) (AuthMgr.installed hash) early)
    (held : (findAuthRecord app.bundleName app.userId app.appIndex
      (run AuthMgr.authStep (AuthMgr.installed hash) early).mgr.bannerNotificationRecord).map
        (fun found => found.2.authResult) = some UserAuthResult.grantedAlways)
    (keeps : Admissible AuthMgr.authStep (KeepsGrant app)
      (run AuthMgr.authStep (AuthMgr.installed hash) early) late)
    {callingUid apiVersion : Int}
    (ready : (run AuthMgr.authStep (run AuthMgr.authStep (AuthMgr.installed hash) early)
      late).mgr.isSysReady = true)
    (asks : app = ⟨env.clientBundleName callingUid, env.osAccountLocalId callingUid,
      app.appIndex⟩)
    (may : MayAsk env callingUid)
    (declared : apiVersion = apiVersionCheckSpecialUserAuthResult →
      AuthMgr.checkApplySpecial env app.bundleName app.userId = true) :
    (run AuthMgr.authStep (run AuthMgr.authStep (AuthMgr.installed hash) early)
      late).checkSpecialScenarioAuth env callingUid app.appIndex apiVersion =
        (.ok, some UserAuthResult.grantedAlways) := by
  have backed := backed_run sound
  have step : ∀ (s : AuthMgr) label, Backed app s ∧ Granted app s → KeepsGrant app s label →
      Backed app (s.authStep label) ∧ Granted app (s.authStep label) := by
    rintro s label ⟨backed, granted⟩ ⟨sound, apart, spares⟩
    have effect : AuthEffect label.1 s (s.authStep label) label.2 := authStep_effect label.2
    exact ⟨backed_of_effect effect sound backed,
      granted_of_effect effect sound spares apart backed granted⟩
  obtain ⟨backed', granted'⟩ := run_invariant step late _
    ⟨backed, granted_of_found backed held⟩ keeps
  exact checkSpecialScenarioAuth_of_granted backed' granted' ready asks may declared

end Runs

def grantedStart : List (AuthEnv × AuthOp) :=
  [(authDevice, .service .initRequiredResourceInfo),
    (authDevice, .requestAuthFromUser 20001 (some authRequest) apiVersionRequestSpecialUserAuth
      (some 5)),
    (authDevice, .setBackgroundTaskState (some
      { userId := 0
        bundleName := "app"
        appIndex := 0
        userAuthResult := UserAuthResult.grantedAlways }))]

def restartedService : List (AuthEnv × AuthOp) :=
  [(authDevice, .service .restart), (authDevice, .service .initRequiredResourceInfo)]

theorem restarted_granted :
    (run AuthMgr.authStep (run AuthMgr.authStep (AuthMgr.installed (fun _ => 0)) grantedStart)
      restartedService).checkSpecialScenarioAuth authDevice 20001 0 22 =
        (.ok, some UserAuthResult.grantedAlways) := by
  have plain : ∀ (s : AuthMgr) op, (∀ backup replyOk, op ≠ .onRestore backup replyOk) →
      Sound deviceApp s (authDevice, op) :=
    fun s op other => ⟨rfl, fun backup replyOk isOp => absurd isOp (other backup replyOk)⟩
  refine @granted_run deviceApp authDevice (fun _ => 0) grantedStart restartedService
    ⟨plain _ _ (by simp), plain _ _ (by simp), plain _ _ (by simp), trivial⟩ (by decide)
    ⟨⟨plain _ _ (by simp), by rintro ⟨⟩, by simp [SparesGrant]⟩,
      ⟨plain _ _ (by simp), by rintro ⟨⟩, ?_⟩, trivial⟩ 20001 22 (by decide) (by decide)
    ⟨rfl, rfl, .inr ⟨rfl, rfl⟩⟩ (by decide)
  exact ⟨by simp, fun _ _ => ⟨rfl, rfl⟩⟩

/-- The callback of the request dies after the grant. -/
theorem dead_callback_loses :
    ∃ early late : List (AuthEnv × AuthOp),
      (findAuthRecord "app" 0 0 (run AuthMgr.authStep (AuthMgr.installed (fun _ => 0))
        early).mgr.bannerNotificationRecord).map (fun found => found.2.authResult) =
          some UserAuthResult.grantedAlways ∧
      (∀ label ∈ early ++ late, label.1.saveOk = true) ∧
      (∀ label ∈ late, ¬ Intervenes deviceApp label.1 label.2) ∧
      (run AuthMgr.authStep (AuthMgr.installed (fun _ => 0))
        (early ++ late)).checkSpecialScenarioAuth authDevice 20001 0 22 =
          (.continuousNotApplyAuthRecord, none) := by
  refine ⟨grantedStart, [(authDevice, .handleAuthExpiredCallbackDeath 5)], by decide, by decide,
    ?_, by decide⟩
  intro label member
  obtain rfl := List.mem_singleton.mp member
  rintro ⟨⟩

/-- A start during which the app manager does not answer loses the grant as well. -/
example :
    (run AuthMgr.authStep (run AuthMgr.authStep (AuthMgr.installed (fun _ => 0)) grantedStart)
      [(authDevice, .service .restart),
        ({ authDevice with allRunningProcesses := none },
          .service .initRequiredResourceInfo)]).checkSpecialScenarioAuth authDevice 20001 0 22 =
      (.continuousNotApplyAuthRecord, none) := by decide

end BgTaskMgr.Continuous
