import BgTaskMgr.Continuous.Sending

/-!
# Notification ids and their counter

The ids of the tasks come from the counter or from another task, whether notifications are
published or not, so an operation leaves them at or below the counter, which it never sets
back.
-/

set_option autoImplicit false

namespace BgTaskMgr.Continuous

open BgContinuousTaskMgr

@[grind]
structure Within (index : Int) (record : ContinuousTaskRecord) : Prop where
  main : record.notificationId ≤ index
  sub : record.subNotificationId ≤ index

theorem Within.mono {index index' : Int} {record : ContinuousTaskRecord}
    (within : Within index record) (counter : index ≤ index') : Within index' record :=
  ⟨within.main.trans counter, within.sub.trans counter⟩

/-- The counter is at least `low`, and the ids of the tasks are at most the counter. -/
structure Bounded (low : Int) (s : BgContinuousTaskMgr) : Prop where
  floor : low ≤ s.tools.notificationIdIndex
  counter : -1 ≤ s.tools.notificationIdIndex
  within : ∀ key record, s.taskAt key = some record →
    Within s.tools.notificationIdIndex record

structure SentWithin (index : Int) (sent : Sent) : Prop where
  counter : index ≤ sent.tools.notificationIdIndex
  within : Within sent.tools.notificationIdIndex sent.record

section Sending

variable {tools : NotificationTools} {record : ContinuousTaskRecord}

theorem chosenId_le {currentId : Int}
    (bound : currentId ≤ tools.notificationIdIndex) :
    tools.chosenId currentId ≤ (tools.takeId currentId).notificationIdIndex ∧
      tools.notificationIdIndex ≤ (tools.takeId currentId).notificationIdIndex := by
  rw [NotificationTools.takeId_index]
  unfold NotificationTools.chosenId
  split
  · omega
  · omega

theorem sentWithin_publishNotification (env : NotificationEnv)
    (within : Within tools.notificationIdIndex record) (appName prompt : String) :
    SentWithin tools.notificationIdIndex
      (tools.publishNotification env record appName prompt) := by
  obtain ⟨chosen, taken⟩ := chosenId_le within.main
  unfold NotificationTools.publishNotification
  dsimp only
  split
  · exact ⟨taken, chosen, within.sub.trans taken⟩
  · exact ⟨taken, within.mono taken⟩

theorem sentWithin_publishMainNotification (env : NotificationEnv)
    (within : Within tools.notificationIdIndex record) (subRecord : ContinuousTaskRecord)
    (appName prompt : String) :
    SentWithin tools.notificationIdIndex
      (tools.publishMainNotification env subRecord appName prompt record) := by
  obtain ⟨chosen, taken⟩ := chosenId_le within.main
  unfold NotificationTools.publishMainNotification
  dsimp only
  split
  · exact ⟨taken, chosen, within.sub.trans taken⟩
  · exact ⟨taken, within.mono taken⟩

theorem sentWithin_publishSubNotification (env : NotificationEnv)
    (within : Within tools.notificationIdIndex record) (subRecord : ContinuousTaskRecord)
    (appName prompt : String) :
    SentWithin tools.notificationIdIndex
      (tools.publishSubNotification env subRecord appName prompt record) := by
  obtain ⟨chosen, taken⟩ := chosenId_le within.sub
  unfold NotificationTools.publishSubNotification
  dsimp only
  split
  · exact ⟨taken, within.main.trans taken, chosen⟩
  · exact ⟨taken, within.mono taken⟩

theorem cancelNotification_index (env : NotificationEnv) (pair : String × Int) :
    (tools.cancelNotification env pair).2.notificationIdIndex = tools.notificationIdIndex :=
  (tools.cancelNotification_keeps env pair).2

theorem within_note {index : Int} (within : Within index record) (prompt : Prompt) :
    Within index (prompt.note record) := by
  have same := sameNotices_note prompt record
  have main : (prompt.note record).notificationId = record.notificationId :=
    congrArg Prod.snd same.mainPair
  have sub : (prompt.note record).subNotificationId = record.subNotificationId :=
    congrArg Prod.snd same.subPair
  exact ⟨main ▸ within.main, sub ▸ within.sub⟩

variable {s : BgContinuousTaskMgr} (env : Env)

theorem sentWithin_sendContinuousTaskNotification (counter : -1 ≤ s.tools.notificationIdIndex)
    (within : Within s.tools.notificationIdIndex record) :
    SentWithin s.tools.notificationIdIndex (s.sendContinuousTaskNotification env record) := by
  have noted := within_note within (s.checkNotificationText env record)
  unfold sendContinuousTaskNotification
  dsimp only
  split
  · exact ⟨le_refl _, within⟩
  split
  · exact ⟨le_refl _, within⟩
  split
  · exact ⟨le_refl _, noted⟩
  split
  · split
    · have index := @cancelNotification_index s.tools env.toNotificationEnv record.mainPair
      exact ⟨le_of_eq index.symm, by rw [index]; exact counter, by rw [index]; exact noted.sub⟩
    · exact ⟨le_refl _, noted⟩
  split
  · exact ⟨le_refl _, noted⟩
  · exact sentWithin_publishNotification env.toNotificationEnv noted _ _

theorem sentWithin_sendNotification (within : Within s.tools.notificationIdIndex record)
    (subRecord : ContinuousTaskRecord)
    (appName : String) (isSubNotification : Bool) :
    SentWithin s.tools.notificationIdIndex
      (s.sendNotification env subRecord record appName isSubNotification) := by
  unfold sendNotification
  dsimp only
  split
  · exact ⟨le_refl _, within⟩
  split
  · exact ⟨le_refl _, within⟩
  split
  · exact sentWithin_publishSubNotification env.toNotificationEnv within subRecord _ _
  · exact sentWithin_publishMainNotification env.toNotificationEnv within subRecord _ _

theorem sentWithin_sendByModes (counter : -1 ≤ s.tools.notificationIdIndex)
    (within : Within s.tools.notificationIdIndex record) :
    SentWithin s.tools.notificationIdIndex (s.sendByModes env record) := by
  have both : SentWithin s.tools.notificationIdIndex
      (s.sendLiveViewAndOtherNotification env record) := by
    unfold sendLiveViewAndOtherNotification
    dsimp only
    split
    · exact ⟨le_refl _, within⟩
    split
    · exact ⟨le_refl _, within⟩
    have main := sentWithin_sendNotification env within (liveViewMainRecord record)
      (s.cachedAppName record.uid) false
    split
    · exact main
    set sentMain := s.sendNotification env (liveViewMainRecord record) record
      (s.cachedAppName record.uid) false
    have sub := sentWithin_sendNotification (s := s.setTools sentMain.tools) env
      main.within (liveViewSubRecord record)
      (s.cachedAppName record.uid) true
    set sentSub := (s.setTools sentMain.tools).sendNotification env (liveViewSubRecord record)
      sentMain.record (s.cachedAppName record.uid) true
    have total : SentWithin s.tools.notificationIdIndex sentSub :=
      ⟨main.counter.trans sub.counter, sub.within⟩
    split
    · exact total
    split
    · have index := @cancelNotification_index sentSub.tools env.toNotificationEnv
        sentSub.record.mainPair
      exact ⟨index ▸ total.counter, by rw [index]; exact total.within⟩
    · exact total
  unfold sendByModes
  split
  · exact both
  · exact sentWithin_sendContinuousTaskNotification env counter within

theorem sentWithin_handleActiveNotification (counter : -1 ≤ s.tools.notificationIdIndex)
    (within : Within s.tools.notificationIdIndex record) :
    SentWithin s.tools.notificationIdIndex (s.handleActiveNotification env record) := by
  unfold handleActiveNotification
  split
  · exact ⟨le_refl _, within⟩
  · exact sentWithin_sendByModes env counter within

end Sending

/-! ## Elementary updates -/

section Updates

variable {low : Int} {s : BgContinuousTaskMgr}

theorem Bounded.of_same {after : BgContinuousTaskMgr} (bounded : Bounded low s)
    (tasks : after.continuousTaskInfosMap = s.continuousTaskInfosMap)
    (tools : after.tools = s.tools) : Bounded low after := by
  refine ⟨tools ▸ bounded.floor, tools ▸ bounded.counter, fun key record found => ?_⟩
  rw [tools]
  rw [taskAt, tasks] at found
  exact bounded.within key record found

@[grind →]
theorem Bounded.lookup {key : String} {record : ContinuousTaskRecord} (bounded : Bounded low s)
    (found : s.continuousTaskInfosMap.lookup key = some record) :
    Within s.tools.notificationIdIndex record := bounded.within key record found

@[grind →]
theorem Bounded.found {search : String → ContinuousTaskRecord → Bool} {key : String}
    {record : ContinuousTaskRecord} (bounded : Bounded low s)
    (found : s.findTask search = some (key, record)) :
    Within s.tools.notificationIdIndex record :=
  bounded.within key record (s.taskAt_of_findTask key record found).1

@[grind ←]
theorem Bounded.setTools (bounded : Bounded low s) {tools : NotificationTools}
    (index : s.tools.notificationIdIndex ≤ tools.notificationIdIndex) :
    Bounded low (s.setTools tools) := by
  refine ⟨bounded.floor.trans index, bounded.counter.trans index, fun key record found => ?_⟩
  exact (bounded.within key record found).mono index

@[grind ←]
theorem Bounded.setRecord (bounded : Bounded low s) (key : String) {record : ContinuousTaskRecord}
    (within : Within s.tools.notificationIdIndex record) :
    Bounded low (s.setRecord key record) := by
  refine ⟨bounded.floor, bounded.counter, fun other stored found => ?_⟩
  rw [taskAt_setRecord] at found
  split at found
  · obtain ⟨former, -, rfl⟩ := Option.map_eq_some_iff.mp found
    exact within
  · exact bounded.within other stored found

@[grind ←]
theorem Bounded.eraseRecord (bounded : Bounded low s) (key : String) :
    Bounded low (s.eraseRecord key) := by
  refine ⟨bounded.floor, bounded.counter, fun other stored found => ?_⟩
  rw [taskAt_eraseRecord] at found
  split at found
  · simp at found
  · exact bounded.within other stored found

@[grind ←]
theorem Bounded.addTask (bounded : Bounded low s) (key : String) {record : ContinuousTaskRecord}
    (within : Within s.tools.notificationIdIndex record) :
    Bounded low (s.addTask key record) := by
  refine ⟨bounded.floor, bounded.counter, fun other stored found => ?_⟩
  rw [taskAt_addTask] at found
  split at found
  · obtain rfl := Option.some.inj found
    exact within
  · exact bounded.within other stored found

@[grind ←]
theorem Bounded.setSent (bounded : Bounded low s) (key : String) {sent : Sent}
    (within : SentWithin s.tools.notificationIdIndex sent) :
    Bounded low (s.setSent key sent) :=
  (bounded.setTools within.counter).setRecord key within.within

@[grind ←]
theorem Bounded.cancelPair (bounded : Bounded low s) (env : Env) (pair : String × Int) :
    Bounded low (s.cancelPair env pair) :=
  bounded.setTools (le_of_eq (cancelNotification_index env.toNotificationEnv pair).symm)

@[grind ←]
theorem Bounded.onContinuousTaskChanged (bounded : Bounded low s) (record : ContinuousTaskRecord)
    (type : ContinuousTaskEventTriggerType) :
    Bounded low (s.onContinuousTaskChanged record type) := bounded.of_same rfl rfl

@[grind ←]
theorem Bounded.cancelSubPair (bounded : Bounded low s) (env : Env)
    (record : ContinuousTaskRecord) : Bounded low (s.cancelSubPair env record) := by
  unfold BgContinuousTaskMgr.cancelSubPair
  grind

@[grind ←]
theorem Bounded.cancelMainAndSub (bounded : Bounded low s) (env : Env)
    (record : ContinuousTaskRecord) : Bounded low (s.cancelMainAndSub env record) := by
  unfold BgContinuousTaskMgr.cancelMainAndSub
  grind

@[grind ←]
theorem Bounded.handleAppContinuousTaskStop (bounded : Bounded low s) (uid : Int) :
    Bounded low (s.handleAppContinuousTaskStop uid) := by
  unfold BgContinuousTaskMgr.handleAppContinuousTaskStop
  split
  · exact bounded
  · exact bounded.of_same rfl rfl

@[grind ←]
theorem Bounded.refreshTaskRecord (bounded : Bounded low s) (env : Env) :
    Bounded low (s.refreshTaskRecord env).2 := by
  unfold BgContinuousTaskMgr.refreshTaskRecord
  split
  · exact bounded.of_same rfl rfl
  · exact bounded

@[grind ←]
theorem Bounded.saveTasks (bounded : Bounded low s) (env : Env) :
    Bounded low (s.saveTasks env) := bounded.refreshTaskRecord env

@[grind ←]
theorem Bounded.cancelNotification (bounded : Bounded low s) (env : Env)
    (record : ContinuousTaskRecord) : Bounded low (s.cancelNotification env record).2 := by
  have index : ∀ (tools : NotificationTools) pair,
      (tools.cancelNotification env.toNotificationEnv pair).2.notificationIdIndex =
        tools.notificationIdIndex :=
    fun tools pair => cancelNotification_index env.toNotificationEnv pair
  unfold BgContinuousTaskMgr.cancelNotification
  grind

@[grind ←]
theorem Bounded.setCachedBundleInfo (bounded : Bounded low s) (env : Env)
    (record : ContinuousTaskRecord) : Bounded low (s.setCachedBundleInfo env record) := by
  refine bounded.of_same ?_ ?_
  · unfold BgContinuousTaskMgr.setCachedBundleInfo
    grind
  · unfold BgContinuousTaskMgr.setCachedBundleInfo
    grind

theorem Bounded.forEachTask (bounded : Bounded low s)
    {body : String → ContinuousTaskRecord → BgContinuousTaskMgr → BgContinuousTaskMgr}
    (keeps : ∀ key record (s : BgContinuousTaskMgr), Bounded low s →
      Within s.tools.notificationIdIndex record → Bounded low (body key record s)) :
    Bounded low (s.forEachTask body) := by
  have step : ∀ key record (current : BgContinuousTaskMgr),
      current.continuousTaskInfosMap.lookup key = some record → Bounded low current →
        Bounded low (body key record current) :=
    fun key record current found sofar => keeps key record current sofar
      (sofar.within key record found)
  exact KeyedMap.forEach_invariant step s bounded

theorem Bounded.endTasks (bounded : Bounded low s) {chosen : ContinuousTaskRecord → Bool}
    {mark : ContinuousTaskRecord → ContinuousTaskRecord}
    {cancel finish : ContinuousTaskRecord → BgContinuousTaskMgr → BgContinuousTaskMgr}
    (cancels : ∀ record (s : BgContinuousTaskMgr), Bounded low s → Bounded low (cancel record s))
    (finishes : ∀ record (s : BgContinuousTaskMgr), Bounded low s →
      Bounded low (finish record s)) :
    Bounded low (s.endTasks chosen mark cancel finish) := by
  refine bounded.forEachTask (fun key record current sofar within => ?_)
  unfold endTask
  grind

theorem Bounded.stopAndSave (bounded : Bounded low s) (env : Env)
    (record : ContinuousTaskRecord) : Bounded low (s.stopAndSave env record) := by
  unfold BgContinuousTaskMgr.stopAndSave
  grind

end Updates

/-! ## Client calls -/

section Client

variable {low : Int} {s : BgContinuousTaskMgr}

structure CombinedWithin (low : Int) (combined : Combined) : Prop where
  mgr : Bounded low combined.mgr
  record : Within combined.mgr.tools.notificationIdIndex combined.record

theorem Bounded.checkCombinedTaskNotification (bounded : Bounded low s)
    {record : ContinuousTaskRecord} (within : Within s.tools.notificationIdIndex record) :
    CombinedWithin low (s.checkCombinedTaskNotification record) := by
  have unchanged : ∀ ret sendNotification,
      CombinedWithin low ⟨ret, sendNotification, record, s⟩ := fun _ _ => ⟨bounded, within⟩
  have merged : CombinedWithin low (s.determineMatchCombinedTaskNotifacation record) := by
    unfold determineMatchCombinedTaskNotifacation
    dsimp only
    split
    · exact unchanged _ _
    rename_i key task search
    have taskWithin := bounded.found search
    split
    · exact unchanged _ _
    split
    · exact unchanged _ _
    split
    · exact unchanged _ _
    split
    · exact unchanged _ _
    · exact ⟨bounded.setRecord key ⟨taskWithin.main, taskWithin.sub⟩,
        ⟨taskWithin.main, within.sub⟩⟩
  unfold BgContinuousTaskMgr.checkCombinedTaskNotification
  grind

structure LoopWithin (low : Int) (loop : ActiveLoop) : Prop where
  mgr : Bounded low loop.mgr
  handed : loop.notificationId ≤ loop.mgr.tools.notificationIdIndex

theorem LoopWithin.activateTask {loop : ActiveLoop} (sofar : LoopWithin low loop) (env : Env)
    (uid : Int) (key : String) {record : ContinuousTaskRecord}
    (within : Within loop.mgr.tools.notificationIdIndex record) :
    LoopWithin low (BgContinuousTaskMgr.activateTask env uid key record loop) := by
  unfold BgContinuousTaskMgr.activateTask
  dsimp only
  split
  · exact sofar
  have active : Within loop.mgr.tools.notificationIdIndex (reactivated record) :=
    ⟨within.main, within.sub⟩
  have told := (sofar.mgr.setRecord key active).onContinuousTaskChanged (reactivated record)
    .taskActive
  split
  · exact ⟨told.saveTasks env, by rw [tools_saveTasks]; exact sofar.handed⟩
  split
  · have sent := sentWithin_handleActiveNotification env told.counter active
    refine ⟨(told.setSent key sent).saveTasks env, ?_⟩
    rw [tools_saveTasks]
    exact sent.within.main
  · have handed : Within loop.mgr.tools.notificationIdIndex
        { reactivated record with
          notificationLabel := loop.notificationLabel
          notificationId := loop.notificationId } := ⟨sofar.handed, within.sub⟩
    refine ⟨(told.setRecord key handed).saveTasks env, ?_⟩
    rw [tools_saveTasks]
    exact sofar.handed

@[grind ←]
theorem Bounded.handleActiveContinuousTask (bounded : Bounded low s) (env : Env) (uid : Int) :
    Bounded low (s.handleActiveContinuousTask env uid) := by
  have step : ∀ key record (loop : ActiveLoop),
      loop.mgr.continuousTaskInfosMap.lookup key = some record → LoopWithin low loop →
        LoopWithin low (BgContinuousTaskMgr.activateTask env uid key record loop) :=
    fun key record loop found sofar => sofar.activateTask env uid key (sofar.mgr.lookup found)
  have counter := bounded.counter
  have start : LoopWithin low { mgr := s } := ⟨bounded, by dsimp only; omega⟩
  exact (KeyedMap.forEach_invariant step { mgr := s } start).mgr

theorem Bounded.fresh (bounded : Bounded low s) {record : ContinuousTaskRecord}
    (fresh : Fresh record) : Within s.tools.notificationIdIndex record :=
  ⟨fresh.notificationId ▸ bounded.counter, fresh.subNotificationId ▸ bounded.counter⟩

theorem sentWithin_sendStartNotification {combined : Combined}
    (within : CombinedWithin low combined) (env : Env) :
    SentWithin combined.mgr.tools.notificationIdIndex (sendStartNotification env combined) := by
  unfold sendStartNotification
  split
  · exact sentWithin_sendByModes env within.mgr.counter within.record
  · exact ⟨le_refl _, within.record⟩

@[grind ←]
theorem Bounded.startBackgroundRunningInner (bounded : Bounded low s) (env : Env)
    {record : ContinuousTaskRecord} (fresh : Fresh record) :
    Bounded low (s.startBackgroundRunningInner env record).2 := by
  have submits : ∀ (s : BgContinuousTaskMgr) record key, Bounded low s → Fresh record →
      Bounded low (s.startBackgroundRunningSubmit env record key).2 := by
    intro s record key bounded fresh
    have combined := bounded.checkCombinedTaskNotification (bounded.fresh fresh)
    have sent := sentWithin_sendStartNotification combined env
    have moved := combined.mgr.setTools sent.counter
    unfold startBackgroundRunningSubmit
    dsimp only
    split
    · exact bounded
    split
    · exact combined.mgr
    split
    · exact moved
    · exact (moved.addTask key sent.within).refreshTaskRecord env
  have next : Bounded low s.nextTaskId := bounded.of_same rfl rfl
  have numbered : Fresh { record with continuousTaskId := s.continuousTaskIdIndex + 1 } :=
    ⟨fresh.suspendState, fresh.notificationId, fresh.subNotificationId⟩
  unfold BgContinuousTaskMgr.startBackgroundRunningInner startNumbered
  grind

@[grind ←]
theorem Bounded.stopBackgroundRunningByTask (bounded : Bounded low s) (env : Env)
    (continuousTaskId : Int) :
    Bounded low (s.stopBackgroundRunningByTask env continuousTaskId).2 := by
  unfold BgContinuousTaskMgr.stopBackgroundRunningByTask
  grind

@[grind ←]
theorem Bounded.stopTasks (bounded : Bounded low s) (env : Env) (ids : List Int) :
    Bounded low (stopTasks env ids s).2 := by
  induction ids generalizing s with
  | nil => exact bounded
  | cons id rest ih =>
      unfold BgContinuousTaskMgr.stopTasks
      grind

@[grind ←]
theorem Bounded.stopBackgroundRunningByContext (bounded : Bounded low s) (env : Env) (uid : Int)
    (abilityName : String) (abilityId : Int) :
    Bounded low (s.stopBackgroundRunningByContext env uid abilityName abilityId).2 := by
  unfold BgContinuousTaskMgr.stopBackgroundRunningByContext
  grind

@[grind ←]
theorem Bounded.stopBackgroundRunningInner (bounded : Bounded low s) (env : Env) (uid : Int)
    (abilityName : String) (abilityId continuousTaskId : Int) :
    Bounded low
      (s.stopBackgroundRunningInner env uid abilityName abilityId continuousTaskId).2 := by
  unfold BgContinuousTaskMgr.stopBackgroundRunningInner
  grind

theorem refreshed_index (tools : NotificationTools) (env : NotificationEnv)
    (newPromptInfos : PromptInfos) :
    (tools.refreshContinuousNotifications env newPromptInfos).notificationIdIndex =
      tools.notificationIdIndex :=
  (refreshContinuousNotifications_keeps tools env newPromptInfos).2

@[grind ←]
theorem Bounded.refreshed (bounded : Bounded low s) (env : NotificationEnv)
    (newPromptInfos : PromptInfos) :
    Bounded low (s.setTools (s.tools.refreshContinuousNotifications env newPromptInfos)) :=
  bounded.setTools (le_of_eq (refreshed_index s.tools env newPromptInfos).symm)

@[grind ←]
theorem Bounded.finishUpdate (bounded : Bounded low s) (env : Env) (key : String) :
    Bounded low (s.finishUpdate env key).2 := by
  unfold BgContinuousTaskMgr.finishUpdate
  grind

@[grind ←]
theorem Bounded.sent (bounded : Bounded low s) (env : Env) (key : String)
    {record : ContinuousTaskRecord} (within : Within s.tools.notificationIdIndex record) :
    Bounded low (s.setSent key (s.sendContinuousTaskNotification env record)) :=
  bounded.setSent key (sentWithin_sendContinuousTaskNotification env bounded.counter within)

@[grind ←]
theorem Bounded.activated (bounded : Bounded low s) (env : Env) (key : String)
    {record : ContinuousTaskRecord} (within : Within s.tools.notificationIdIndex record) :
    Bounded low (s.setSent key (s.handleActiveNotification env record)) :=
  bounded.setSent key (sentWithin_handleActiveNotification env bounded.counter within)

@[grind ←]
theorem Bounded.updateBackgroundRunningByTaskIdInner (bounded : Bounded low s) (env : Env)
    (uid : Int) (taskParam : ContinuousTaskParam) :
    Bounded low (s.updateBackgroundRunningByTaskIdInner env uid taskParam).2 := by
  have index : ∀ (tools : NotificationTools) newPromptInfos record updateContent,
      (tools.refreshContinuousNotificationWantAndContext env.toNotificationEnv newPromptInfos
        record updateContent).2.notificationIdIndex = tools.notificationIdIndex := by
    intro tools newPromptInfos record updateContent
    unfold NotificationTools.refreshContinuousNotificationWantAndContext
    split
    · rfl
    · rfl
  have own : ∀ (s : BgContinuousTaskMgr) key record, Bounded low s →
      Within s.tools.notificationIdIndex record →
        Bounded low (s.updateOwnNotification env key record).2 := by
    intro s key record bounded within
    have noted := within_note within (s.checkNotificationText env record)
    unfold updateOwnNotification
    dsimp only
    split
    · exact bounded.setRecord key noted
    split
    · exact bounded.sent env key noted
    · refine Bounded.setRecord (bounded.setTools (le_of_eq (index _ _ _ _).symm)) key ?_
      show Within
        (s.tools.refreshContinuousNotificationWantAndContext _ _ _ _).2.notificationIdIndex _
      rw [index]
      exact noted
  have changed : ∀ {index : Int} {record : ContinuousTaskRecord}, Within index record →
      Within index (updatedTask taskParam record) := by
    intro index record within
    unfold updatedTask
    dsimp only
    split
    · exact ⟨within.main, within.sub⟩
    · exact ⟨within.main, within.sub⟩
  have notified : ∀ (s : BgContinuousTaskMgr) key record, Bounded low s →
      Within s.tools.notificationIdIndex record →
        Bounded low (s.updateTaskNotification env taskParam key record).2 := by
    intro s key record bounded within
    have stored := bounded.setRecord key (changed within)
    unfold updateTaskNotification
    dsimp only
    split
    · exact bounded
    split
    · exact own _ key _ stored (changed within)
    split
    · exact stored.setTools (le_of_eq (index _ _ _ _).symm)
    · exact stored
  unfold BgContinuousTaskMgr.updateBackgroundRunningByTaskIdInner updateTaskInfo
  grind

@[grind ←]
theorem Bounded.updateBackgroundRunningInner (bounded : Bounded low s) (env : Env) (key : String)
    (taskParam : ContinuousTaskParam) :
    Bounded low (s.updateBackgroundRunningInner env key taskParam).2 := by
  have dropped : ∀ {index : Int} {record : ContinuousTaskRecord}, Within index record →
      Within index (dropSubModes taskParam record) := by
    intro index record within
    unfold dropSubModes
    split
    · exact ⟨within.main, within.sub⟩
    · exact within
  have changed : ∀ {index : Int} {record : ContinuousTaskRecord}, Within index record →
      Within index (withModes taskParam record) :=
    fun within => ⟨(dropped within).main, (dropped within).sub⟩
  unfold BgContinuousTaskMgr.updateBackgroundRunningInner
  split
  · exact bounded
  rename_i record found
  have within := bounded.lookup found
  have stored := bounded.setRecord key (changed within)
  have sent := stored.sent env key (changed within)
  dsimp only
  split
  · exact bounded
  split
  · exact bounded
  split
  · exact bounded.setRecord key (dropped within)
  split
  · exact stored.finishUpdate env key
  split
  · exact sent
  · exact sent.finishUpdate env key

@[grind ←]
theorem Bounded.updateDataTransferProgressInner (bounded : Bounded low s) (env : Env) (uid : Int)
    (progress : DataTransferProgress) :
    Bounded low (s.updateDataTransferProgressInner env uid progress).2 := by
  unfold BgContinuousTaskMgr.updateDataTransferProgressInner
  split
  · exact bounded
  split
  · exact bounded
  split
  · exact bounded
  rename_i key record search
  have within := bounded.found search
  have changed : Within s.tools.notificationIdIndex (withProgress progress record) :=
    ⟨within.main, within.sub⟩
  have sent := (bounded.setRecord key changed).sent env key changed
  dsimp only
  split
  · exact bounded
  split
  · exact sent
  · exact sent.refreshTaskRecord env

theorem Bounded.clientCall (bounded : Bounded low s) (env : Env) (callingUid : Int)
    (call : ClientCall) : Bounded low (s.clientCall env callingUid call).2 := by
  cases call with
  | startBackgroundRunning taskParam =>
      show Bounded low (s.startBackgroundRunning env callingUid taskParam).2
      have fresh : ∀ record, startRecord env callingUid taskParam = some record → Fresh record :=
        fun record built => (fresh_startRecord built).1
      unfold startBackgroundRunning
      grind
  | updateBackgroundRunning taskParam =>
      unfold BgContinuousTaskMgr.clientCall updateBackgroundRunning
      grind
  | stopBackgroundRunning abilityName abilityId continuousTaskId =>
      unfold BgContinuousTaskMgr.clientCall stopBackgroundRunning
      grind
  | updateDataTransferProgress progress =>
      unfold BgContinuousTaskMgr.clientCall updateDataTransferProgress
      grind

end Client

/-! ## Events -/

section Events

variable {low : Int} {s : BgContinuousTaskMgr}

theorem Bounded.requestBackgroundRunningForInner (bounded : Bounded low s) (env : Env)
    (callingUid : Int) (taskParam : ContinuousTaskParamForInner) :
    Bounded low (s.requestBackgroundRunningForInner env callingUid taskParam).2 := by
  have fresh := fun uid => fresh_innerRecord env taskParam uid
  unfold BgContinuousTaskMgr.requestBackgroundRunningForInner startBackgroundRunningForInner
    stopBackgroundRunningForInner
  grind

theorem Bounded.debugContinuousTaskInner (bounded : Bounded low s) (env : Env)
    (taskParam : ContinuousTaskParamForInner) :
    Bounded low (s.debugContinuousTaskInner env taskParam).2 := by
  have fresh := fun uid => fresh_innerRecord env taskParam uid
  unfold BgContinuousTaskMgr.debugContinuousTaskInner startBackgroundRunningForInner
    stopBackgroundRunningForInner
  grind

@[grind ←]
theorem Bounded.setReason (bounded : Bounded low s) (key : String) (reason : StopReason)
    (detailedCancelReason : Int) :
    Bounded low (s.setReason key reason detailedCancelReason) := by
  unfold BgContinuousTaskMgr.setReason
  split
  · exact bounded
  · rename_i record found
    have within := bounded.lookup found
    exact bounded.setRecord key ⟨within.main, within.sub⟩

@[grind ←]
theorem Bounded.handleStopContinuousTask (bounded : Bounded low s) (env : Env) (uid : Int)
    (taskType : Nat) (key : String) :
    Bounded low (s.handleStopContinuousTask env uid taskType key) := by
  have byUid : Bounded low (s.removeContinuousTaskRecordByUid env uid) := by
    unfold removeContinuousTaskRecordByUid
    exact (bounded.endTasks (fun record s sofar => sofar.cancelMainAndSub env record)
      (fun _ s sofar => sofar.saveTasks env)).handleAppContinuousTaskStop uid
  have byMode : Bounded low (s.removeContinuousTaskRecordByUidAndMode env uid taskType) := by
    unfold removeContinuousTaskRecordByUidAndMode
    exact (bounded.endTasks (fun record s sofar => sofar.cancelMainAndSub env record)
      (fun _ s sofar => sofar.saveTasks env)).handleAppContinuousTaskStop uid
  unfold BgContinuousTaskMgr.handleStopContinuousTask
  grind

theorem Bounded.suspendContinuousTask (bounded : Bounded low s) (env : Env) (uid mode : Int)
    (key : String) (isStandby : Bool) :
    Bounded low (s.suspendContinuousTask env uid mode key isStandby) := by
  have standby : Bounded low (s.handleSuspendContinuousTaskByStandby env uid mode key) := by
    unfold handleSuspendContinuousTaskByStandby
    split
    · exact bounded
    rename_i record found
    have within := bounded.lookup found
    have noted : Within s.tools.notificationIdIndex (standbySuspended mode record) :=
      ⟨within.main, within.sub⟩
    grind
  have suspends : Bounded low (s.handleSuspendContinuousTask env uid mode key) := by
    unfold handleSuspendContinuousTask
    split
    · exact bounded
    rename_i record found
    have within := bounded.lookup found
    have noted : Within s.tools.notificationIdIndex (suspended mode record) :=
      ⟨within.main, within.sub⟩
    grind
  unfold BgContinuousTaskMgr.suspendContinuousTask
  grind

theorem Bounded.activeContinuousTask (bounded : Bounded low s) (env : Env) (uid : Int)
    (isStandby : Bool) : Bounded low (s.activeContinuousTask env uid isStandby) := by
  have standby : Bounded low (s.handleActiveContinuousTaskByStandby env uid) := by
    refine bounded.forEachTask (fun key record current sofar within => ?_)
    have active : Within current.tools.notificationIdIndex
        { record with isStandby := true, isStandbySuspend := false } := ⟨within.main, within.sub⟩
    unfold activateStandby
    grind
  unfold BgContinuousTaskMgr.activeContinuousTask
  grind

theorem Bounded.suspendContinuousAudioTask (bounded : Bounded low s) (env : Env) (uid : Int) :
    Bounded low (s.suspendContinuousAudioTask env uid) := by
  have told : ∀ (s : BgContinuousTaskMgr) record, Bounded low s →
      Bounded low (s.sendAudioCallBackTaskState record) :=
    fun s record bounded => bounded.of_same rfl rfl
  have swept : Bounded low (s.forEachTask (suspendAudio env uid)) := by
    refine bounded.forEachTask (fun key record current sofar within => ?_)
    have noted : Within current.tools.notificationIdIndex (undetected record) :=
      ⟨within.main, within.sub⟩
    have cancelled := (sofar.setRecord key noted).cancelPair env record.mainPair
    have index := @cancelNotification_index current.tools env.toNotificationEnv
      record.mainPair
    have suspended : Within ((current.setRecord key (undetected record)).cancelPair env
        record.mainPair).tools.notificationIdIndex (audioSuspended (undetected record)) :=
      ⟨within.main.trans (le_of_eq index.symm), within.sub.trans (le_of_eq index.symm)⟩
    unfold suspendAudio
    grind
  unfold BgContinuousTaskMgr.suspendContinuousAudioTask handleSuspendContinuousAudioTask
  grind

@[grind ←]
theorem Bounded.removeAudioPlaybackDelayTask (bounded : Bounded low s) (uid : Int) :
    Bounded low (s.removeAudioPlaybackDelayTask uid) := by
  unfold BgContinuousTaskMgr.removeAudioPlaybackDelayTask
  split
  · exact bounded.of_same rfl rfl
  · exact bounded

@[grind ←]
theorem Bounded.avSessionNotifyTask (bounded : Bounded low s) (env : Env) (isPublish : Bool)
    (key : String) {record : ContinuousTaskRecord}
    (within : Within s.tools.notificationIdIndex record) :
    Bounded low (s.avSessionNotifyTask env isPublish key record).2 := by
  have noted := within_note within (s.checkNotificationText env record)
  have refreshed : Bounded low (s.refreshForAvsession env key record).2 := by
    unfold refreshForAvsession
    dsimp only
    split
    · have cancelled := bounded.cancelPair env record.mainPair
      have index := @cancelNotification_index s.tools env.toNotificationEnv
        record.mainPair
      have cleared : Within (s.tools.cancelNotification env.toNotificationEnv
          record.mainPair).2.notificationIdIndex
          { (s.checkNotificationText env record).note record with notificationId := -1 } :=
        ⟨cancelled.counter, noted.sub.trans (le_of_eq index.symm)⟩
      exact (cancelled.setRecord key cleared).saveTasks env
    · have moved := bounded.refreshed env.toNotificationEnv [(record.notificationLabel,
        env.mainAbilityLabel record.bundleName record.userId,
        (s.checkNotificationText env record).text)]
      have index := refreshed_index s.tools env.toNotificationEnv [(record.notificationLabel,
        env.mainAbilityLabel record.bundleName record.userId,
        (s.checkNotificationText env record).text)]
      exact (moved.setRecord key (noted.mono (le_of_eq index.symm))).saveTasks env
  have detected : Within s.tools.notificationIdIndex { record with audioDetectState := true } :=
    ⟨within.main, within.sub⟩
  unfold BgContinuousTaskMgr.avSessionNotifyTask
  grind

@[grind ←]
theorem Bounded.avSessionNotifyUpdateNotificationInner (bounded : Bounded low s) (env : Env)
    (uid : Int) (isPublish : Bool) :
    Bounded low (s.avSessionNotifyUpdateNotificationInner env uid isPublish).2 := by
  have noted : Bounded low { s with
      avSessionNotification := s.avSessionNotification.insert uid isPublish } :=
    bounded.of_same rfl rfl
  unfold BgContinuousTaskMgr.avSessionNotifyUpdateNotificationInner
  grind

theorem Bounded.avSessionNotifyUpdateNotification (bounded : Bounded low s) (env : Env)
    (callingUid uid pid : Int) (isPublish : Bool) :
    Bounded low (s.avSessionNotifyUpdateNotification env callingUid uid pid isPublish).2 := by
  have delayed : Bounded low { s with
      delayedNotify := s.delayedNotify ++ [(uid, pid)]
      delayTasks := s.delayTasks.insert uid } := bounded.of_same rfl rfl
  unfold BgContinuousTaskMgr.avSessionNotifyUpdateNotification
  grind

theorem Bounded.runDelayedNotify (bounded : Bounded low s) (env : Env) :
    Bounded low (s.runDelayedNotify env) := by
  have popped : ∀ rest, Bounded low { s with delayedNotify := rest } :=
    fun rest => bounded.of_same rfl rfl
  unfold BgContinuousTaskMgr.runDelayedNotify
  grind

theorem Bounded.onAccountsStateChanged (bounded : Bounded low s) (env : Env) :
    Bounded low (s.onAccountsStateChanged env) := by
  unfold BgContinuousTaskMgr.onAccountsStateChanged
  split
  · exact bounded
  · exact bounded.endTasks (fun record s sofar => sofar.cancelPair env record.mainPair)
      (fun record s sofar => sofar.stopAndSave env record)

theorem Bounded.onRemoveSystemAbility (bounded : Bounded low s) (env : Env) (mode : Nat) :
    Bounded low (s.onRemoveSystemAbility env mode) := by
  have removed : Bounded low (s.handleRemoveTaskByMode env mode) :=
    bounded.endTasks (fun record s sofar => sofar)
      (fun record s sofar => (sofar.stopAndSave env record).cancelNotification env record)
  unfold BgContinuousTaskMgr.onRemoveSystemAbility
  grind

theorem Bounded.setLiveViewInfo (bounded : Bounded low s) (uid : Int) (isLiveViewPublish : Bool)
    (eventName : String) : Bounded low (s.setLiveViewInfo uid isLiveViewPublish eventName) := by
  refine bounded.of_same ?_ ?_
  · unfold BgContinuousTaskMgr.setLiveViewInfo
    grind
  · unfold BgContinuousTaskMgr.setLiveViewInfo
    grind

theorem Bounded.onConsumed (bounded : Bounded low s) (env : Env) (uid : Int) :
    Bounded low (s.onConsumed env uid) := by
  have noted := bounded.setLiveViewInfo uid true navigation
  unfold BgContinuousTaskMgr.onConsumed
  dsimp only
  split
  · refine noted.forEachTask (fun key record current sofar within => ?_)
    unfold cancelForLiveView
    split
    · exact sofar
    · have cancelled := sofar.cancelPair env record.mainPair
      have index := @cancelNotification_index current.tools env.toNotificationEnv
        record.mainPair
      have cleared : Within (current.cancelPair env record.mainPair).tools.notificationIdIndex
          { record with notificationId := -1 } :=
        ⟨cancelled.counter, within.sub.trans (le_of_eq index.symm)⟩
      exact (cancelled.setRecord key cleared).saveTasks env
  · exact noted

theorem Bounded.onLiveViewCanceled (bounded : Bounded low s) (env : Env) (uid : Int) :
    Bounded low (s.onLiveViewCanceled env uid) := by
  have noted := bounded.setLiveViewInfo uid false navigation
  unfold BgContinuousTaskMgr.onLiveViewCanceled
  dsimp only
  split
  · refine noted.forEachTask (fun key record current sofar within => ?_)
    unfold sendAfterLiveView
    grind
  · exact noted

@[grind ←]
theorem Bounded.stopContinuousTaskByUser (bounded : Bounded low s) (env : Env) (key : String)
    (isSubNotification : Bool) (deleteReason : DeleteReason) :
    Bounded low (s.stopContinuousTaskByUser env key isSubNotification deleteReason) := by
  have inner : ∀ s : BgContinuousTaskMgr, Bounded low s →
      Bounded low (s.stopContinuousTaskByUserInner env key isSubNotification) := by
    intro s bounded
    unfold stopContinuousTaskByUserInner
    split
    · exact bounded
    split
    · exact bounded
    · refine bounded.endTasks (fun record s sofar => ?_)
        (fun record s sofar => sofar.stopAndSave env record)
      unfold cancelOther
      grind
  unfold BgContinuousTaskMgr.stopContinuousTaskByUser
  grind

@[grind ←]
theorem Bounded.refreshAuthRecord (bounded : Bounded low s) (env : Env) :
    Bounded low (s.refreshAuthRecord env) := by
  unfold BgContinuousTaskMgr.refreshAuthRecord
  split
  · exact bounded.of_same rfl rfl
  · exact bounded

@[grind ←]
theorem Bounded.stopBannerContinuousTaskByUser (bounded : Bounded low s) (env : Env)
    (label : String) : Bounded low (s.stopBannerContinuousTaskByUser env label) := by
  have erased : Bounded low
      { s with bannerNotificationRecord := s.bannerNotificationRecord.erase label } :=
    bounded.of_same rfl rfl
  unfold BgContinuousTaskMgr.stopBannerContinuousTaskByUser
  grind

theorem Bounded.onCanceled (bounded : Bounded low s) (env : Env) (pair : String × Int)
    (deleteReason : DeleteReason) : Bounded low (s.onCanceled env pair deleteReason) := by
  have gone : Bounded low (s.setTools (s.tools.withdraw pair)) := bounded.setTools (le_refl _)
  unfold BgContinuousTaskMgr.onCanceled cancelNotificationByBgTask
  grind

theorem Bounded.removeBanners (bounded : Bounded low s) (env : Env)
    (chosen : BannerNotificationRecord → Bool) : Bounded low (s.removeBanners env chosen) := by
  unfold BgContinuousTaskMgr.removeBanners
  split
  · refine Bounded.refreshAuthRecord ?_ env
    exact bounded.of_same rfl rfl
  · exact bounded

theorem Bounded.onAppStopped (bounded : Bounded low s) (env : Env) (uid : Int) :
    Bounded low (s.onAppStopped env uid) := by
  have ended : Bounded low (s.endTasks (fun record => record.uid == uid) markSystemCancel
      (cancelExisting env) (BgContinuousTaskMgr.stopAndSave env)) := by
    refine bounded.endTasks (fun record s sofar => ?_)
      (fun record s sofar => sofar.stopAndSave env record)
    unfold cancelExisting
    grind
  have removed := fun chosen => ended.removeBanners env chosen
  unfold BgContinuousTaskMgr.onAppStopped
  grind

theorem Bounded.onBundleInfoChanged (bounded : Bounded low s) (env : Env) (action : PackageAction)
    (bundleName : String) (uid userId appIndex : Int) :
    Bounded low (s.onBundleInfoChanged env action bundleName uid userId appIndex) := by
  have uncached : Bounded low { s with cachedBundleInfos := s.cachedBundleInfos.erase uid } :=
    bounded.of_same rfl rfl
  unfold BgContinuousTaskMgr.onBundleInfoChanged
  dsimp only
  split
  · exact bounded
  cases action with
  | added => exact uncached
  | removedOrChanged => exact uncached.removeBanners env _
  | dataCleared =>
      exact uncached.endTasks (fun record s sofar => sofar.cancelPair env record.mainPair)
        (fun record s sofar => sofar.stopAndSave env record)

theorem Bounded.shellDumpCancel (bounded : Bounded low s) (env : Env) (taskKey : Option String) :
    Bounded low (s.shellDumpCancel env taskKey) := by
  have swept : Bounded low (s.forEachTask (dumpCancel env)) := by
    refine bounded.forEachTask (fun key record current sofar within => ?_)
    unfold dumpCancel
    grind
  have cleared : Bounded low { s.forEachTask (dumpCancel env) with continuousTaskInfosMap := ∅ } :=
    ⟨swept.floor, swept.counter, fun key record found => by simp [taskAt] at found⟩
  have told : ∀ (uids : List Int) (s : BgContinuousTaskMgr), Bounded low s →
      Bounded low (uids.foldl (fun current uid => current.handleAppContinuousTaskStop uid) s) := by
    intro uids
    induction uids with
    | nil => exact fun s bounded => bounded
    | cons uid rest ih => exact fun s bounded => ih _ (bounded.handleAppContinuousTaskStop uid)
  have all : Bounded low (s.dumpCancelAll env) := told _ _ (cleared.saveTasks env)
  unfold BgContinuousTaskMgr.shellDumpCancel
  grind

theorem Bounded.sendNotificationByDeteTask (bounded : Bounded low s) (env : Env)
    (taskKeys : List String) : Bounded low (s.sendNotificationByDeteTask env taskKeys) := by
  have sends : ∀ (s : BgContinuousTaskMgr) key, Bounded low s →
      Bounded low (s.sendForDete env key) := by
    intro s key bounded
    unfold sendForDete
    split
    · exact bounded
    rename_i record found
    have noted : Bounded low { s with
        avSessionNotification := s.avSessionNotification.insert record.uid false } :=
      bounded.of_same rfl rfl
    exact noted.activated env key (bounded.lookup found)
  have all : ∀ (keys : List String) (s : BgContinuousTaskMgr), Bounded low s →
      Bounded low (keys.foldl (sendForDete env) s) := by
    intro keys
    induction keys with
    | nil => exact fun s bounded => bounded
    | cons key rest ih => exact fun s bounded => ih _ (sends s key bounded)
  unfold BgContinuousTaskMgr.sendNotificationByDeteTask
  split
  · exact all taskKeys s bounded
  · exact bounded

theorem Bounded.unnoticed {after : BgContinuousTaskMgr} (bounded : Bounded low s)
    (same : Unnoticed s after) : Bounded low after := by
  have index := same.notificationIdIndex
  refine ⟨bounded.floor.trans index, bounded.counter.trans index, fun key edited found => ?_⟩
  obtain ⟨record, stored, notices⟩ := same.backward key edited found
  have within := (bounded.within key record stored).mono index
  have main : edited.notificationId = record.notificationId := congrArg Prod.snd notices.mainPair
  have sub : edited.subNotificationId = record.subNotificationId :=
    congrArg Prod.snd notices.subPair
  exact ⟨main ▸ within.main, sub ▸ within.sub⟩

/-- Every operation keeps the ids at or below the counter, whatever becomes of the
notifications it sends. -/
theorem Bounded.taskStep (bounded : Bounded low s) (env : Env) (op : TaskOp) :
    Bounded low (s.taskStep (env, op)) := by
  cases op with
  | client callingUid call => exact bounded.clientCall env callingUid call
  | requestBackgroundRunningForInner callingUid taskParam =>
      exact bounded.requestBackgroundRunningForInner env callingUid taskParam
  | debugContinuousTask taskParam => exact bounded.debugContinuousTaskInner env taskParam
  | stopContinuousTask uid taskType key =>
      show Bounded low (s.stopContinuousTask env uid taskType key)
      unfold BgContinuousTaskMgr.stopContinuousTask
      grind
  | suspendContinuousTask uid mode key isStandby =>
      exact bounded.suspendContinuousTask env uid mode key isStandby
  | activeContinuousTask uid isStandby => exact bounded.activeContinuousTask env uid isStandby
  | suspendContinuousAudioTask uid => exact bounded.suspendContinuousAudioTask env uid
  | avSessionNotifyUpdateNotification callingUid uid pid isPublish =>
      exact bounded.avSessionNotifyUpdateNotification env callingUid uid pid isPublish
  | runDelayedNotify => exact bounded.runDelayedNotify env
  | onAbilityStateChanged uid abilityName abilityId =>
      show Bounded low (s.onAbilityStateChanged env uid abilityName abilityId)
      unfold BgContinuousTaskMgr.onAbilityStateChanged
      grind
  | onAppStopped uid => exact bounded.onAppStopped env uid
  | onBundleInfoChanged action bundleName uid userId appIndex =>
      exact bounded.onBundleInfoChanged env action bundleName uid userId appIndex
  | onAccountsStateChanged => exact bounded.onAccountsStateChanged env
  | onRemoveSystemAbility mode => exact bounded.onRemoveSystemAbility env mode
  | onConsumed uid => exact bounded.onConsumed env uid
  | onLiveViewCanceled uid => exact bounded.onLiveViewCanceled env uid
  | onCanceled pair deleteReason => exact bounded.onCanceled env pair deleteReason
  | shellDumpCancel taskKey => exact bounded.shellDumpCancel env taskKey
  | sendNotificationByDeteTask taskKeys => exact bounded.sendNotificationByDeteTask env taskKeys
  | _ => exact bounded.unnoticed (unnoticed_taskStep s env trivial)

end Events

end BgTaskMgr.Continuous
