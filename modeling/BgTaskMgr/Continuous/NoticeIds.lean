import BgTaskMgr.Continuous.AuthKeys
import BgTaskMgr.Continuous.IdSeeds

/-!
# Notification ids in use

One counter numbers the notifications of tasks and the banners.  It is past every id in use
as long as no start and no restoration brings back a larger one.
-/

set_option autoImplicit false

namespace BgTaskMgr.Continuous

open BgContinuousTaskMgr StepSystem

/-! ## Ids in use -/

def TakesInIds (small : Int → Prop) (memory file : KeyedMap String BannerNotificationRecord) :
    Prop :=
  ∀ earlier entry later, jsonOrder file = earlier ++ entry :: later →
    GoesIn memory earlier entry → small entry.2.notificationId

theorem takesInIds_of_forall {small : Int → Prop}
    {memory file : KeyedMap String BannerNotificationRecord}
    (each : ∀ banner ∈ KeyedMap.vals file, small banner.notificationId) :
    TakesInIds small memory file := by
  intro earlier entry later split _
  have stored : file.lookup entry.1 = some entry.2 := mem_jsonOrder.mp (by simp [split])
  exact each entry.2 (KeyedMap.mem_vals.mpr ⟨entry.1, stored⟩)

theorem small_restored (small : Int → Prop)
    {memory file : KeyedMap String BannerNotificationRecord} {key : String}
    {record : BannerNotificationRecord}
    (held : ∀ key record, memory.lookup key = some record → small record.notificationId)
    (takesIn : TakesInIds small memory file)
    (found : ((jsonOrder file).foldl addRestored memory).lookup key = some record) :
    small record.notificationId := by
  obtain stored | ⟨earlier, entry, later, split, rfl, goes⟩ :=
    ((restored_jsonOrder memory file).lookup key record).mp found
  · exact held key record stored
  · exact takesIn earlier _ later split goes

namespace AuthMgr

def InUse (self : AuthMgr) (id : Int) : Prop :=
  (∃ key record, self.mgr.taskAt key = some record ∧
      (record.notificationId = id ∨ record.subNotificationId = id)) ∨
    ∃ key record, self.recordAt key = some record ∧ record.notificationId = id

/-- The id that is handed out next, to a task or with a banner, is not in use. -/
structure IdsFresh (s : AuthMgr) : Prop where
  task : ∀ id, s.InUse id → s.mgr.tools.chosenId (-1) ≠ id
  banner : ∀ id, s.InUse id → s.mgr.tools.publishBannerNotification.notificationIdIndex ≠ id

/-- The ids in use are at most the counter, and a new process uses none. -/
structure Seeded (s : AuthMgr) : Prop where
  bounded : Bounded (-1) s.mgr
  banners : ∀ key record, s.recordAt key = some record →
    record.notificationId ≤ s.mgr.tools.notificationIdIndex
  tasks : s.mgr.isSysReady = false → ∀ key, s.mgr.taskAt key = none
  records : s.mgr.isSysReady = false → ∀ key, s.recordAt key = none

theorem Seeded.idsFresh {self : AuthMgr} (seeded : self.Seeded) : self.IdsFresh := by
  have below : ∀ id, self.InUse id → id ≤ self.mgr.tools.notificationIdIndex := by
    rintro id (⟨key, record, found, rfl | rfl⟩ | ⟨key, record, found, rfl⟩)
    · exact (seeded.bounded.within key record found).main
    · exact (seeded.bounded.within key record found).sub
    · exact seeded.banners key record found
  constructor
  · intro id used
    have bound := below id used
    rw [NotificationTools.chosenId, if_pos rfl]
    omega
  · intro id used
    have bound := below id used
    show self.mgr.tools.notificationIdIndex + 1 ≠ id
    omega

theorem seeded_empty {self : AuthMgr} (counter : self.mgr.tools.notificationIdIndex = -1)
    (tasks : ∀ key, self.mgr.taskAt key = none) (records : ∀ key, self.recordAt key = none) :
    self.Seeded := by
  refine ⟨⟨by rw [counter], by rw [counter], fun key record found => ?_⟩,
    fun key record found => ?_, fun _ => tasks, fun _ => records⟩
  · rw [tasks] at found
    simp at found
  · rw [records] at found
    simp at found

end AuthMgr

/-- What a step reads from the files has ids that the counter is past: at a start the tasks
and the authorisations in them, and no id is handed out on the way; at a restoration those of
the backup. -/
def SeedsIds (s : AuthMgr) : AuthEnv × AuthOp → Prop
  | (env, .service .initRequiredResourceInfo) =>
      s.mgr.isSysReady = false → env.fileReadable = true → TasksSeed env.toEnv s.mgr ∧
        (env.allRunningProcesses.isSome = true →
          TakesInIds (Covers s.mgr.file s.mgr.tools.notificationIdIndex)
            s.mgr.bannerNotificationRecord s.mgr.authFile)
  | (env, .onRestore (.records root) true) => s.mgr.isSysReady = true →
      env.fileReadable = true → TakesInIds (fun id => id ≤ s.mgr.tools.notificationIdIndex)
        s.mgr.bannerNotificationRecord root
  | _ => True

section Steps

variable {env : AuthEnv} {s : AuthMgr}

/-- The records of the authorisations after a step that took in small ids. -/
theorem banners_of_effect {after : AuthMgr} {op : AuthOp} {bound : Int}
    (effect : AuthEffect env s after op) (lowest : -1 ≤ bound)
    (counter : after.mgr.tools.notificationIdIndex ≤ bound)
    (held : ∀ key record, s.recordAt key = some record → record.notificationId ≤ bound)
    (loads : op = .service .initRequiredResourceInfo → s.mgr.isSysReady = false → Loads env →
      TakesInIds (fun id => id ≤ bound) s.mgr.bannerNotificationRecord s.mgr.authFile)
    (restores : ∀ root, op = .onRestore (.records root) true → s.mgr.isSysReady = true →
      env.fileReadable = true →
        TakesInIds (fun id => id ≤ bound) s.mgr.bannerNotificationRecord root)
    {key : String} {record : BannerNotificationRecord} (found : after.recordAt key = some record) :
    record.notificationId ≤ bound := by
  cases effect with
  | kept records =>
      rw [records] at found
      exact held key record found
  | renamed name records =>
      rw [records] at found
      obtain ⟨former, stored, rfl⟩ := Option.map_eq_some_iff.mp found
      exact held key former stored
  | restarted isOp records =>
      rw [records] at found
      simp at found
  | loaded isOp unready load records =>
      rw [AuthMgr.recordAt, records] at found
      exact small_restored (fun id => id ≤ bound) held (loads isOp unready load) found
  | unloaded isOp unready misses records =>
      rw [records] at found
      exact held key record found
  | taken running records => exact held key record ((records key record).mp found).1
  | decided running other stored authResult was decides records =>
      rw [records] at found
      split at found
      · obtain rfl := Option.some.inj found
        exact held other stored was
      · exact held key record found
  | inserted running banner absent records refreshed callbacks ready id =>
      rw [records] at found
      split at found
      · cases was : s.recordAt banner.app.label with
        | some former =>
            rw [was] at found
            obtain rfl := Option.some.inj found
            exact held banner.app.label former was
        | none =>
            rw [was] at found
            obtain rfl := Option.some.inj found
            obtain unset | latest := id
            · exact unset ▸ lowest
            · exact latest ▸ counter
      · exact held key record found
  | erased running other erases records =>
      rw [records] at found
      split at found
      · simp at found
      · exact held key record found
  | replaced running backup replyOk isOp cut records =>
      rw [records] at found
      exact held key record found
  | restored running root isOp readable records =>
      rw [AuthMgr.recordAt, records] at found
      exact small_restored (fun id => id ≤ bound) held (restores root isOp running readable) found

theorem seeded_init (seeded : s.Seeded) (unready : s.mgr.isSysReady = false)
    (seeds : SeedsIds s (env, .service .initRequiredResourceInfo)) :
    (s.authStep (env, .service .initRequiredResourceInfo)).Seeded := by
  have after : (s.authStep (env, .service .initRequiredResourceInfo)).mgr =
      s.mgr.initRequiredResourceInfo env.toEnv := by
    show (if s.mgr.isSysReady then s.mgr else s.mgr.initRequiredResourceInfo env.toEnv) = _
    rw [if_neg (by simp [unready])]
  have ready : (s.authStep (env, .service .initRequiredResourceInfo)).mgr.isSysReady = true := by
    rw [after]
    rfl
  have bounded : Bounded (-1)
      (s.authStep (env, .service .initRequiredResourceInfo)).mgr := by
    rw [after]
    exact bounded_start seeded.bounded.counter (seeded.tasks unready)
      (fun readable => (seeds unready readable).1)
  have running : (s.authStep (env, .service .initRequiredResourceInfo)).mgr.isSysReady ≠ false := by
    simp [ready]
  refine ⟨bounded, fun key record found => ?_, fun still => absurd still running,
    fun still => absurd still running⟩
  refine banners_of_effect (authStep_effect (.service .initRequiredResourceInfo)) bounded.counter
    (le_refl _) (fun key record found => ?_) (fun _ _ load => ?_) (fun root isOp => ?_) found
  · rw [seeded.records unready] at found
    simp at found
  · obtain ⟨allProcesses, asked⟩ := Option.isSome_iff_exists.mp load.1
    obtain ⟨tasks, takesIn⟩ := seeds unready load.2
    intro earlier entry later split goes
    rw [after]
    exact (takesIn load.1 earlier entry later split goes).le_index seeded.bounded.counter
      (seeded.tasks unready) load.2 asked tasks
  · simp at isOp

structure Aside (s after : AuthMgr) : Prop where
  tasks : after.mgr.continuousTaskInfosMap = s.mgr.continuousTaskInfosMap
  counter : s.mgr.tools.notificationIdIndex ≤ after.mgr.tools.notificationIdIndex

theorem Aside.refl (s : AuthMgr) : Aside s s := ⟨rfl, le_refl _⟩

theorem Aside.trans {middle after : AuthMgr} (early : Aside s middle) (late : Aside middle after) :
    Aside s after :=
  ⟨late.tasks.trans early.tasks, early.counter.trans late.counter⟩

theorem Aside.of_mgr {after : AuthMgr} (same : after.mgr = s.mgr) : Aside s after :=
  ⟨by rw [same], by rw [same]⟩

theorem aside_refreshAuthRecord : Aside s (s.refreshAuthRecord env).2 := by
  constructor
  · show (s.mgr.refreshAuthRecord env.toEnv).continuousTaskInfosMap = _
    unfold BgContinuousTaskMgr.refreshAuthRecord
    split
    · rfl
    · rfl
  · show _ ≤ (s.mgr.refreshAuthRecord env.toEnv).tools.notificationIdIndex
    rw [refreshAuthRecord_tools]

theorem aside_write (records : KeyedMap String BannerNotificationRecord) :
    Aside s ((s.setRecords records).refreshAuthRecord env).2 := by
  have stored : Aside s (s.setRecords records) := ⟨rfl, le_refl _⟩
  exact stored.trans aside_refreshAuthRecord

theorem aside_triggerCallback (key : String) (authResult : Int) :
    Aside s (s.triggerCallback key authResult) := .of_mgr (triggerCallback_mgr s key authResult)

theorem aside_cancelPair (pair : String × Int) :
    Aside s (s.setMgr (s.mgr.cancelPair env.toEnv pair)) :=
  ⟨rfl, le_of_eq (cancelNotification_index env.toNotificationEnv pair).symm⟩

theorem aside_publishBannerNotification (banner : BannerNotificationRecord) :
    Aside s (s.publishBannerNotification env banner).2.2 := by
  have taken : Aside s (s.setMgr (s.mgr.setTools s.mgr.tools.publishBannerNotification)) := by
    refine ⟨rfl, ?_⟩
    show _ ≤ s.mgr.tools.notificationIdIndex + 1
    omega
  unfold AuthMgr.publishBannerNotification
  dsimp only
  split
  · exact .refl s
  split
  · exact taken
  · exact taken

theorem aside_registerRequest (banner : BannerNotificationRecord) (callback : Nat) :
    Aside s (s.registerRequest env banner callback).2 := by
  have registered : Aside s { s with
      expiredCallbackMap := s.expiredCallbackMap.insert (createBannerNotificationLabel
        banner.bundleName banner.userId banner.appIndex) callback } := .of_mgr rfl
  exact registered.trans (aside_write _)

theorem aside_requestAuthFromUserInner (record : ContinuousTaskRecord) (callback : Nat)
    (apiVersion : Int) :
    Aside s (s.requestAuthFromUserInner env record callback apiVersion).2 := by
  have checked : Aside s (s.checkAuthParam env record callback apiVersion).2.2 :=
    .of_mgr (checkAuthParam_keeps record callback apiVersion).1
  unfold AuthMgr.requestAuthFromUserInner
  dsimp only
  split
  · exact checked
  split
  · split
    · exact checked.trans (.of_mgr rfl)
    · exact checked.trans (aside_registerRequest _ callback)
  split
  · exact checked
  have published := checked.trans (@aside_publishBannerNotification env _
    { AuthMgr.requestedAuth (s.checkAuthParam env record callback apiVersion).2.1 with
      appName := (s.checkAuthParam env record callback apiVersion).2.1.appName })
  split
  · exact published
  · exact published.trans (aside_registerRequest _ callback)

theorem aside_requestAuthFromUser (callingUid : Int) (taskParam : Option ContinuousTaskParam)
    (requestAuthApiVersion : Int) (callback : Option Nat) :
    Aside s (s.requestAuthFromUser env callingUid taskParam requestAuthApiVersion callback).2 := by
  unfold AuthMgr.requestAuthFromUser
  split
  · exact .refl s
  split
  · exact .refl s
  · exact .refl s
  dsimp only
  split
  · exact .refl s
  split
  · exact .refl s
  split
  · exact .refl s
  split
  · exact .refl s
  · exact aside_requestAuthFromUserInner _ _ _

theorem aside_setBackgroundTaskState (taskParam : Option BackgroundTaskStateInfo) :
    Aside s (s.setBackgroundTaskState env taskParam).2 := by
  unfold AuthMgr.setBackgroundTaskState
  split
  · exact .refl s
  split
  · exact .refl s
  split
  · exact .refl s
  · exact aside_write _

theorem aside_onPermissionDialogButtonClick (authResult bundleUid : Int) (bundleName : String)
    (appIndex : Int) :
    Aside s (s.onPermissionDialogButtonClick env authResult bundleUid bundleName appIndex) := by
  unfold AuthMgr.onPermissionDialogButtonClick
  dsimp only
  split
  · exact .refl s
  split
  · exact .refl s
  split
  · exact .refl s
  · exact (aside_write _).trans (aside_triggerCallback _ _)

theorem aside_onBannerNotificationActionButtonClick (buttonType : Int) (label : String) :
    Aside s (s.onBannerNotificationActionButtonClick env buttonType label) := by
  unfold AuthMgr.onBannerNotificationActionButtonClick
  dsimp only
  split
  · exact .refl s
  split
  · split
    · exact ((aside_write _).trans (aside_cancelPair _)).trans (aside_triggerCallback _ _)
    · exact (aside_write _).trans (aside_triggerCallback _ _)
  · exact .refl s

theorem aside_removeAuthRecord (callingUid : Int) (taskParam : Option ContinuousTaskParam) :
    Aside s (s.removeAuthRecord env callingUid taskParam).2 := by
  unfold AuthMgr.removeAuthRecord
  split
  · exact .refl s
  split
  · exact .refl s
  unfold AuthMgr.removeAuthRecordInner
  dsimp only
  split
  · exact (aside_write _).trans (.of_mgr rfl)
  · exact .of_mgr rfl

theorem aside_handleAuthExpiredCallbackDeath (remote : Nat) :
    Aside s (s.handleAuthExpiredCallbackDeath env remote) := by
  unfold AuthMgr.handleAuthExpiredCallbackDeath
  split
  · exact .refl s
  split
  · exact .refl s
  rename_i key registered
  have erased : Aside s { s with expiredCallbackMap := s.expiredCallbackMap.erase key } :=
    .of_mgr rfl
  dsimp only
  split
  · exact erased
  split
  · exact (erased.trans (aside_cancelPair _)).trans (aside_write _)
  · exact erased.trans (aside_write _)

theorem aside_onRestore (backup : Backup) (replyOk : Bool) :
    Aside s (s.onRestore env backup replyOk).2 := by
  have replaced (file : KeyedMap String BannerNotificationRecord) : Aside s (s.setAuthFile file) :=
    ⟨rfl, le_refl _⟩
  have restored (s : AuthMgr) : Aside s (s.setMgr (s.mgr.restoreAuthRecord env.toEnv)) := by
    unfold AuthMgr.setMgr BgContinuousTaskMgr.restoreAuthRecord
    split
    · exact .refl s
    · exact ⟨rfl, le_refl _⟩
  unfold AuthMgr.onRestore
  split
  · exact .refl s
  split
  · exact .refl s
  · exact replaced ∅
  · exact replaced ∅
  dsimp only
  split
  · exact replaced _
  split
  · exact replaced _
  · exact ((replaced _).trans (restored _)).trans aside_refreshAuthRecord

theorem aside_authStep {op : AuthOp} (isAuth : ∀ serviceOp, op ≠ .service serviceOp) :
    Aside s (s.authStep (env, op)) := by
  cases op with
  | service op => exact absurd rfl (isAuth op)
  | requestAuthFromUser callingUid taskParam requestAuthApiVersion callback =>
      exact aside_requestAuthFromUser callingUid taskParam requestAuthApiVersion callback
  | setBackgroundTaskState taskParam => exact aside_setBackgroundTaskState taskParam
  | onPermissionDialogButtonClick authResult bundleUid bundleName appIndex =>
      exact aside_onPermissionDialogButtonClick authResult bundleUid bundleName appIndex
  | onBannerNotificationActionButtonClick buttonType label =>
      exact aside_onBannerNotificationActionButtonClick buttonType label
  | removeAuthRecord callingUid taskParam => exact aside_removeAuthRecord callingUid taskParam
  | handleAuthExpiredCallbackDeath remote => exact aside_handleAuthExpiredCallbackDeath remote
  | onRestore backup replyOk => exact aside_onRestore backup replyOk
  | rehash rank => exact ⟨rfl, le_refl _⟩

/-- Outside a start of the process the manager stays as ready as it was, and until it is ready
there are no records. -/
theorem AuthEffect.steady {after : AuthMgr} {op : AuthOp} (effect : AuthEffect env s after op)
    (notStart : op ≠ .service .initRequiredResourceInfo) (notRestart : op ≠ .service .restart) :
    after.mgr.isSysReady = s.mgr.isSysReady ∧ (s.mgr.isSysReady = false →
      (∀ key, s.recordAt key = none) → ∀ key, after.recordAt key = none) := by
  have gated (running : s.mgr.isSysReady = true) (unready : s.mgr.isSysReady = false) : False := by
    simp [running] at unready
  cases effect with
  | kept records file callbacks ready =>
      exact ⟨ready, fun _ none key => (records key).trans (none key)⟩
  | renamed name records file callbacks ready =>
      refine ⟨ready, fun _ none key => ?_⟩
      rw [records, none]
      rfl
  | restarted isOp => exact absurd isOp notRestart
  | loaded isOp => exact absurd isOp notStart
  | unloaded isOp => exact absurd isOp notStart
  | taken running records refreshed callbacks ready =>
      exact ⟨ready, fun unready => (gated running unready).elim⟩
  | decided running key record authResult found decides records refreshed callbacks ready =>
      exact ⟨ready, fun unready => (gated running unready).elim⟩
  | inserted running banner absent records refreshed callbacks ready id =>
      exact ⟨ready, fun unready => (gated running unready).elim⟩
  | erased running key erases records refreshed callbacks ready =>
      exact ⟨ready, fun unready => (gated running unready).elim⟩
  | replaced running backup replyOk isOp cut records callbacks ready =>
      exact ⟨ready, fun unready => (gated running unready).elim⟩
  | restored running root isOp readable records file callbacks ready =>
      exact ⟨ready, fun unready => (gated running unready).elim⟩

/-- A step that is no start and keeps the bounds of the tasks. -/
theorem AuthMgr.Seeded.of_step {op : AuthOp} (seeded : s.Seeded) (seeds : SeedsIds s (env, op))
    (notStart : op ≠ .service .initRequiredResourceInfo) (notRestart : op ≠ .service .restart)
    (bounded : Bounded s.mgr.tools.notificationIdIndex (s.authStep (env, op)).mgr)
    (tasks : s.mgr.isSysReady = false → ∀ key, (s.authStep (env, op)).mgr.taskAt key = none) :
    (s.authStep (env, op)).Seeded := by
  have effect : AuthEffect env s (s.authStep (env, op)) op := authStep_effect op
  obtain ⟨ready, none⟩ := effect.steady notStart notRestart
  rw [← ready] at tasks none
  refine ⟨⟨bounded.counter, bounded.counter, bounded.within⟩, fun key record found => ?_, tasks,
    fun unready => none unready (seeded.records (ready ▸ unready))⟩
  refine banners_of_effect effect bounded.counter (le_refl _)
    (fun key record found => (seeded.banners key record found).trans bounded.floor)
    (fun isOp => absurd isOp notStart) (fun root isOp running readable => ?_) found
  subst isOp
  intro earlier entry later split goes
  exact (seeds running readable earlier entry later split goes).trans bounded.floor

theorem seeded_authStep (seeded : s.Seeded) (op : AuthOp) (seeds : SeedsIds s (env, op)) :
    (s.authStep (env, op)).Seeded := by
  have now : Bounded s.mgr.tools.notificationIdIndex s.mgr :=
    ⟨le_refl _, seeded.bounded.counter, seeded.bounded.within⟩
  by_cases isService : ∃ serviceOp, op = .service serviceOp
  · obtain ⟨serviceOp, rfl⟩ := isService
    cases serviceOp with
    | task op =>
        refine seeded.of_step seeds (by simp) (by simp) (now.taskStep env.toEnv op) ?_
        intro unready key
        refine Option.eq_none_iff_forall_ne_some.mpr (fun record found => ?_)
        obtain ⟨former, stored, -⟩ :=
          ((taskStep_ready (s := s.mgr) (env.toEnv, op)).2 unready).origin key record found
        rw [seeded.tasks unready] at stored
        simp at stored
    | initRequiredResourceInfo =>
        cases ready : s.mgr.isSysReady with
        | false => exact seeded_init seeded ready seeds
        | true =>
            have same : (s.authStep (env, .service .initRequiredResourceInfo)).mgr = s.mgr := by
              show (if s.mgr.isSysReady then s.mgr else
                s.mgr.initRequiredResourceInfo env.toEnv) = s.mgr
              rw [if_pos ready]
            refine ⟨same ▸ seeded.bounded, fun key record found => ?_, ?_, ?_⟩
            · rw [AuthMgr.recordAt, same] at found
              rw [same]
              exact seeded.banners key record found
            · rw [same]
              exact seeded.tasks
            · intro unready
              rw [same, ready] at unready
              simp at unready
    | restart =>
        exact AuthMgr.seeded_empty rfl (fun _ => rfl) (fun _ => rfl)
  · have isAuth : ∀ serviceOp, op ≠ .service serviceOp := fun serviceOp same =>
      isService ⟨serviceOp, same⟩
    have aside : Aside s (s.authStep (env, op)) := aside_authStep isAuth
    have sameTasks : ∀ key, (s.authStep (env, op)).mgr.taskAt key = s.mgr.taskAt key :=
      fun key => congrArg (fun map : TaskMap => map.lookup key) aside.tasks
    refine seeded.of_step seeds (isAuth _) (isAuth _) ?_ (fun unready key => ?_)
    · refine ⟨aside.counter, seeded.bounded.counter.trans aside.counter,
        fun key record found => ?_⟩
      rw [sameTasks] at found
      exact (seeded.bounded.within key record found).mono aside.counter
    · rw [sameTasks]
      exact seeded.tasks unready key

/-- As long as what is read from the files has ids that the counter is past, the next id is
not in use in any state of any run. -/
theorem idsFresh_run (hash : String → Nat) (labels : List (AuthEnv × AuthOp))
    (seeds : Admissible AuthMgr.authStep SeedsIds (AuthMgr.installed hash) labels) :
    (run AuthMgr.authStep (AuthMgr.installed hash) labels).IdsFresh := by
  have start : (AuthMgr.installed hash).Seeded :=
    AuthMgr.seeded_empty rfl (fun _ => rfl) (fun _ => rfl)
  have step : ∀ (s : AuthMgr) (label : AuthEnv × AuthOp), s.Seeded → SeedsIds s label →
      (s.authStep label).Seeded :=
    fun s label seeded seeds => seeded_authStep seeded label.2 seeds
  exact (run_invariant step labels _ start seeds).idsFresh

end Steps

def startedTask : AuthEnv × AuthOp :=
  ({ authDevice with toEnv := (deviceStart 100 (requestOf [BackgroundMode.location] [2])).1 },
    .service (.task (deviceStart 100 (requestOf [BackgroundMode.location] [2])).2))

def requestedBanner : AuthEnv × AuthOp :=
  (authDevice, .requestAuthFromUser 20001 (some authRequest) apiVersionRequestSpecialUserAuth
    (some 5))

def reseededRun (first second : AuthEnv × AuthOp) : List (AuthEnv × AuthOp) :=
  [(authDevice, .service .initRequiredResourceInfo), first, second,
    (authDevice, .service .restart), (authDevice, .service .initRequiredResourceInfo)]

/-- The task has the larger id. -/
theorem reseededRun_fresh :
    (run AuthMgr.authStep (AuthMgr.installed (fun _ => 0))
      (reseededRun requestedBanner startedTask)).IdsFresh := by
  let stopped := run AuthMgr.authStep (AuthMgr.installed (fun _ => 0))
    ((reseededRun requestedBanner startedTask).take 4)
  have tasks : ∀ record ∈ KeyedMap.vals stopped.mgr.file, lacksSub [7] record = false ∧
      (([7] : List Int).contains record.pid = true →
        Covers stopped.mgr.file (-1) record.subNotificationId) := by decide
  have banners : ∀ banner ∈ KeyedMap.vals stopped.mgr.authFile,
      Covers stopped.mgr.file (-1) banner.notificationId := by decide
  have first : SeedsIds (AuthMgr.installed (fun _ => 0))
      (authDevice, .service .initRequiredResourceInfo) :=
    fun _ _ => ⟨fun record member => absurd member List.not_mem_nil,
      fun _ => takesInIds_of_forall (by decide)⟩
  exact idsFresh_run (fun _ => 0) (reseededRun requestedBanner startedTask)
    ⟨first, trivial, trivial, trivial,
      fun _ _ => ⟨tasks, fun _ => takesInIds_of_forall banners⟩, trivial⟩

/-- The banner has the larger id, and the next notification gets it again. -/
theorem reseededRun_reuses :
    ¬ (run AuthMgr.authStep (AuthMgr.installed (fun _ => 0))
      (reseededRun startedTask requestedBanner)).IdsFresh := by
  let restarted := run AuthMgr.authStep (AuthMgr.installed (fun _ => 0))
    (reseededRun startedTask requestedBanner)
  intro fresh
  have stored : (restarted.recordAt deviceApp.label).map (fun record => record.notificationId) =
      some 1 := by decide
  obtain ⟨record, found, id⟩ := Option.map_eq_some_iff.mp stored
  exact fresh.task 1 (.inr ⟨deviceApp.label, record, found, id⟩) (by decide)

end BgTaskMgr.Continuous
