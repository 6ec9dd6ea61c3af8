import BgTaskMgr.Continuous.Modes

/-!
# How tasks get their modes

A start stores a task with the modes that passed its checks, an update gives the task it
chooses the modes it names, and no other operation changes the modes of a task.
`taskStep_modes` says this of every step.
-/

set_option autoImplicit false

namespace BgTaskMgr.Continuous

open BgContinuousTaskMgr

/-! ## Starts -/

def BgContinuousTaskMgr.configuredBgMode (env : Env) (record : ContinuousTaskRecord)
    (self : BgContinuousTaskMgr) : BitVec 32 :=
  (self.setCachedBundleInfo env record).getBackgroundModeInfo record.uid record.abilityName

/-- What a start does by way of modes: the task is stored with the modes it asked for, which
pass unless the request is an inner one, or it is not stored. -/
inductive StartModes (env : Env) (record : ContinuousTaskRecord) (s : BgContinuousTaskMgr) :
    BgContinuousTaskMgr → Prop where
  | refused {after : BgContinuousTaskMgr} (keeps : KeepsModes s after) :
      StartModes env record s after
  | added {middle after : BgContinuousTaskMgr} (key : String) (stored : ContinuousTaskRecord)
      (keeps : KeepsModes s middle) (same : SameModes record stored)
      (modes : record.isFromWebview = false →
        checkBgmodeTypes env (s.configuredBgMode env record) record.isNewApi record
          record.bgModeIds = .ok)
      (saved : KeepsModes (middle.addTask key stored) after) :
      StartModes env record s after

section Starts

variable {s : BgContinuousTaskMgr} {record : ContinuousTaskRecord}

theorem startModes_startBackgroundRunningSubmit (env : Env) (key : String) {early : BgContinuousTaskMgr}
    (keeps : KeepsModes early s)
    (mask : record.isFromWebview = false →
      s.getBackgroundModeInfo record.uid record.abilityName = early.configuredBgMode env record) :
    StartModes env record early (s.startBackgroundRunningSubmit env record key).2 := by
  obtain ⟨combined, same⟩ : KeepsModes s (s.checkCombinedTaskNotification record).mgr ∧ _ :=
    KeepsModes.checkCombined
  have published : SameModes (s.checkCombinedTaskNotification record).record
      (sendStartNotification env (s.checkCombinedTaskNotification record)).record := by
    unfold sendStartNotification
    split
    · exact sameModes_sendByModes env _ _
    · exact SameModes.refl _
  unfold startBackgroundRunningSubmit
  dsimp only
  split
  · exact .refused keeps
  rename_i passed
  split
  · exact .refused (keeps.trans combined)
  split
  · exact .refused ((keeps.trans combined).trans (KeepsModes.tools _))
  · refine .added key _ ((keeps.trans combined).trans (KeepsModes.tools _))
      (same.trans published) ?_ (KeepsModes.save env)
    intro client
    rw [← mask client]
    simpa [checkStartModes, client] using passed

theorem startModes_startNumbered (env : Env) :
    StartModes env record s (s.startNumbered env record).2 := by
  unfold startNumbered
  dsimp only
  split
  · exact .refused (KeepsModes.refl s)
  split
  · split
    · exact .refused (KeepsModes.active env record.uid)
    · exact .refused (KeepsModes.refl s)
  split
  · exact startModes_startBackgroundRunningSubmit env _ (KeepsModes.cached env record) (fun _ => rfl)
  · rename_i inner
    refine startModes_startBackgroundRunningSubmit env _ (KeepsModes.refl s) ?_
    intro client
    exact absurd (by simp [client]) inner

theorem startModes_startBackgroundRunningInner (env : Env) :
    KeepsModes s (s.startBackgroundRunningInner env record).2 ∨
      StartModes env { record with continuousTaskId := s.continuousTaskIdIndex + 1 } s.nextTaskId
        (s.startBackgroundRunningInner env record).2 := by
  unfold startBackgroundRunningInner
  split
  · exact Or.inl (KeepsModes.refl s)
  split
  · exact Or.inl (KeepsModes.refl s)
  · exact Or.inr (startModes_startNumbered env)

def startedModes (taskParam : ContinuousTaskParam) : List Nat :=
  if taskParam.isBatchApi then taskParam.bgModeIds
  else taskParam.bgModeIds ++ [taskParam.bgModeId]

theorem bgModeIds_startRecord {env : Env} {callingUid : Int} {taskParam : ContinuousTaskParam}
    (built : startRecord env callingUid taskParam = some record) :
    record.bgModeIds = startedModes taskParam := by
  unfold startRecord checkSubMode at built
  dsimp only at built
  split at built
  · obtain rfl := Option.some.inj built
    rfl
  · split at built
    · obtain rfl := Option.some.inj built
      rfl
    · split at built
      · obtain rfl := Option.some.inj built
        rfl
      · exact absurd built (by simp)

theorem startRecord_owner {env : Env} {callingUid : Int} {taskParam : ContinuousTaskParam}
    (built : startRecord env callingUid taskParam = some record) :
    record.uid = callingUid ∧ record.abilityName = taskParam.abilityName := by
  unfold startRecord checkSubMode at built
  dsimp only at built
  split at built
  · obtain rfl := Option.some.inj built
    exact ⟨rfl, rfl⟩
  · split at built
    · obtain rfl := Option.some.inj built
      exact ⟨rfl, rfl⟩
    · split at built
      · obtain rfl := Option.some.inj built
        exact ⟨rfl, rfl⟩
      · exact absurd built (by simp)

theorem startedModes_ne_nil {taskParam : ContinuousTaskParam}
    (valid : checkTaskParam taskParam = true) : startedModes taskParam ≠ [] := by
  unfold startedModes
  split
  · rename_i batch
    intro empty
    unfold checkTaskParam at valid
    simp [batch, empty] at valid
  · simp

end Starts

/-! ## Updates -/

namespace BgContinuousTaskMgr

/-- The checks of an update by task id after which the task that was found takes the modes. -/
def replacesByTaskId (env : Env) (callingUid : Int) (taskParam : ContinuousTaskParam)
    (record : ContinuousTaskRecord) (self : BgContinuousTaskMgr) : Bool :=
  checkBgmodeTypes env (self.getBackgroundModeInfo callingUid record.abilityName) true record
      taskParam.bgModeIds == .ok &&
    !(checkExistMode record.bgModeIds BackgroundMode.dataTransfer ||
      checkExistMode taskParam.bgModeIds BackgroundMode.dataTransfer) &&
    taskParam.progressInfo.isNone &&
    !(checkExistMode record.bgModeIds BackgroundMode.specialScenarioProcessing &&
      taskParam.isCombinedTaskNotification) &&
    env.mainAbilityLabel record.bundleName record.userId != "" &&
    !record.isCombinedTaskNotification

/-- The checks of an update by ability after which the task of the ability takes the modes. -/
def replacesByKey (env : Env) (taskParam : ContinuousTaskParam) (record : ContinuousTaskRecord)
    (self : BgContinuousTaskMgr) : Bool :=
  !(self.disableRequestUidList.contains record.uid) &&
    !checkModesSame record.bgModeIds taskParam.bgModeIds &&
    checkBgmodeTypes env (self.getBackgroundModeInfo record.uid record.abilityName) true
      (dropSubModes taskParam record) taskParam.bgModeIds == .ok

def replacedTask (env : Env) (callingUid : Int) (taskParam : ContinuousTaskParam)
    (self : BgContinuousTaskMgr) : Option (String × ContinuousTaskRecord) :=
  if self.checkIsSysReadyAndPermission env callingUid ≠ .ok then none
  else if taskParam.isByRequestObject then
    if callingUid ∈ self.disableRequestUidList ∨ taskParam.updateTaskId < 0 then none
    else
      (self.findTask (fun _ task => task.continuousTaskId == taskParam.updateTaskId &&
        task.isByRequestObject)).filter
          (fun found => self.replacesByTaskId env callingUid taskParam found.2)
  else
    let key := abilityKey callingUid taskParam.abilityName taskParam.abilityId
    ((self.taskAt key).filter (fun record => self.replacesByKey env taskParam record)).map
      (fun record => (key, record))

end BgContinuousTaskMgr

/-- What an update does by way of modes: the task it chooses takes the modes, or none does. -/
inductive UpdateModes (env : Env) (callingUid : Int) (taskParam : ContinuousTaskParam)
    (s : BgContinuousTaskMgr) : BgContinuousTaskMgr → Prop where
  | kept {after : BgContinuousTaskMgr} (keeps : KeepsModes s after) :
      UpdateModes env callingUid taskParam s after
  | replaced {after : BgContinuousTaskMgr} {key : String} {record : ContinuousTaskRecord}
      (edited : ContinuousTaskRecord)
      (chosen : s.replacedTask env callingUid taskParam = some (key, record))
      (same : edited.requested = record.requested) (modes : edited.bgModeIds = taskParam.bgModeIds)
      (keeps : KeepsModes (s.setRecord key edited) after) :
      UpdateModes env callingUid taskParam s after

section Updates

variable {s : BgContinuousTaskMgr} {key : String} {record : ContinuousTaskRecord}

theorem keepsModes_updateOwnNotification (env : Env) (found : s.taskAt key = some record) :
    KeepsModes s (s.updateOwnNotification env key record).2 := by
  have noted := sameModes_note record (s.checkNotificationText env record)
  unfold updateOwnNotification
  dsimp only
  split
  · exact KeepsModes.edit found noted
  split
  · exact KeepsModes.editTools found
      (noted.trans (sameModes_sendContinuousTaskNotification env s _))
  · exact KeepsModes.editTools found noted

/-- A task that takes part in a merge keeps its modes in an update. -/
theorem keepsModes_updateTaskNotification (env : Env) (taskParam : ContinuousTaskParam)
    (found : s.taskAt key = some record)
    (kept : env.mainAbilityLabel record.bundleName record.userId = "" ∨
      record.isCombinedTaskNotification = true) :
    KeepsModes s (s.updateTaskNotification env taskParam key record).2 := by
  unfold updateTaskNotification
  dsimp only
  split
  · exact KeepsModes.refl s
  rename_i labelled
  have combined := kept.resolve_left labelled
  have same : SameModes record (updatedTask taskParam record) := by
    unfold updatedTask
    dsimp only
    rw [if_pos combined]
    exact ⟨rfl, rfl⟩
  rw [combined]
  split
  · exact absurd ‹_› (by simp)
  split
  · exact (KeepsModes.edit found same).trans (KeepsModes.tools _)
  · exact KeepsModes.edit found same

/-- The notification of any other task is updated after the task has taken the modes. -/
theorem keepsModes_updateTaskNotification_replaced (env : Env) (taskParam : ContinuousTaskParam)
    (found : s.taskAt key = some record)
    (labelled : env.mainAbilityLabel record.bundleName record.userId ≠ "")
    (own : record.isCombinedTaskNotification = false) :
    KeepsModes (s.setRecord key (updatedTask taskParam record))
      (s.updateTaskNotification env taskParam key record).2 := by
  have stored := taskAt_setRecord_self s key (updatedTask taskParam record) found
  unfold updateTaskNotification
  dsimp only
  rw [if_neg labelled, own]
  exact keepsModes_updateOwnNotification env stored

theorem updateModes_updateBackgroundRunningByTaskIdInner (env : Env) (callingUid : Int)
    (taskParam : ContinuousTaskParam)
    (permitted : s.checkIsSysReadyAndPermission env callingUid = .ok)
    (object : taskParam.isByRequestObject = true) :
    UpdateModes env callingUid taskParam s
      (s.updateBackgroundRunningByTaskIdInner env callingUid taskParam).2 := by
  unfold updateBackgroundRunningByTaskIdInner
  split
  · exact .kept (KeepsModes.refl s)
  rename_i enabled
  split
  · exact .kept (KeepsModes.refl s)
  rename_i named
  split
  · exact .kept (KeepsModes.refl s)
  rename_i key record search
  have found := (taskAt_of_findTask s key record search).1
  dsimp only
  split
  · exact .kept (KeepsModes.refl s)
  rename_i passed
  split
  · exact .kept (KeepsModes.refl s)
  rename_i transfers
  split
  · exact .kept (KeepsModes.refl s)
  rename_i progress
  split
  · exact .kept (KeepsModes.refl s)
  rename_i special
  have finishes : ∀ {early : BgContinuousTaskMgr},
      KeepsModes early (s.updateTaskNotification env taskParam key record).2 →
        KeepsModes early (s.updateTaskInfo env taskParam key record).2 := by
    intro early notified
    unfold updateTaskInfo
    dsimp only
    split
    · exact notified
    · exact notified.trans (KeepsModes.finishUpdate env key)
  by_cases kept : env.mainAbilityLabel record.bundleName record.userId = "" ∨
      record.isCombinedTaskNotification = true
  · exact .kept (finishes (keepsModes_updateTaskNotification env taskParam found kept))
  · simp only [not_or, Bool.not_eq_true] at kept
    obtain ⟨labelled, own⟩ := kept
    have chosen : s.replacedTask env callingUid taskParam = some (key, record) := by
      unfold replacedTask
      rw [if_neg (not_not.mpr permitted), if_pos object, if_neg (by simp [enabled, named]), search]
      refine Option.filter_eq_some_iff.mpr ⟨rfl, ?_⟩
      unfold replacesByTaskId
      rw [not_not.mp passed]
      simp only [Bool.not_eq_true] at transfers special
      rw [transfers, special, own]
      simpa [labelled] using progress
    refine .replaced (updatedTask taskParam record) chosen ?_ ?_
      (finishes (keepsModes_updateTaskNotification_replaced env taskParam found labelled own))
    · unfold updatedTask
      dsimp only
      rw [own]
      rfl
    · unfold updatedTask
      dsimp only
      rw [own]
      rfl

theorem sameModes_dropSubModes (taskParam : ContinuousTaskParam) :
    SameModes record (dropSubModes taskParam record) := by
  unfold dropSubModes
  split
  · exact ⟨rfl, rfl⟩
  · exact SameModes.refl record

theorem requested_withModes (taskParam : ContinuousTaskParam) :
    (withModes taskParam record).requested = record.requested :=
  (sameModes_dropSubModes taskParam).requested

theorem updateModes_updateBackgroundRunningInner (env : Env) (callingUid : Int)
    (taskParam : ContinuousTaskParam)
    (permitted : s.checkIsSysReadyAndPermission env callingUid = .ok)
    (ability : taskParam.isByRequestObject = false) :
    UpdateModes env callingUid taskParam s (s.updateBackgroundRunningInner env
      (abilityKey callingUid taskParam.abilityName taskParam.abilityId) taskParam).2 := by
  generalize keyed : abilityKey callingUid taskParam.abilityName taskParam.abilityId = key
  unfold updateBackgroundRunningInner
  split
  · exact .kept (KeepsModes.refl s)
  rename_i record lookup
  have found : s.taskAt key = some record := lookup
  have stored := taskAt_setRecord_self s key (withModes taskParam record) found
  have published := sameModes_sendContinuousTaskNotification env
    (s.setRecord key (withModes taskParam record)) (withModes taskParam record)
  dsimp only
  split
  · exact .kept (KeepsModes.refl s)
  rename_i enabled
  split
  · exact .kept (KeepsModes.refl s)
  rename_i different
  split
  · exact .kept (KeepsModes.edit found (sameModes_dropSubModes taskParam))
  rename_i passed
  have chosen : s.replacedTask env callingUid taskParam = some (key, record) := by
    unfold replacedTask
    rw [if_neg (not_not.mpr permitted), ability, if_neg (by simp)]
    dsimp only
    rw [keyed, found]
    refine Option.map_eq_some_iff.mpr ⟨record, Option.filter_eq_some_iff.mpr ⟨rfl, ?_⟩, rfl⟩
    unfold replacesByKey
    rw [not_not.mp passed]
    simpa [enabled] using different
  refine .replaced (withModes taskParam record) chosen (requested_withModes taskParam) rfl ?_
  split
  · exact KeepsModes.finishUpdate env key
  split
  · exact KeepsModes.editTools stored published
  · exact (KeepsModes.editTools stored published).trans (KeepsModes.finishUpdate env key)

theorem updateModes_updateBackgroundRunning (env : Env) (callingUid : Int)
    (taskParam : ContinuousTaskParam) :
    UpdateModes env callingUid taskParam s
      (s.updateBackgroundRunning env callingUid taskParam).2 := by
  unfold updateBackgroundRunning
  split
  · exact .kept (KeepsModes.refl s)
  rename_i permitted
  split
  · rename_i object
    exact updateModes_updateBackgroundRunningByTaskIdInner env callingUid taskParam
      (not_not.mp permitted) object
  · rename_i ability
    exact updateModes_updateBackgroundRunningInner env callingUid taskParam
      (not_not.mp permitted) (by simpa using ability)

end Updates

/-! ## One step -/

def requestedModes : TaskOp → List Nat
  | .client _ (.startBackgroundRunning taskParam) => startedModes taskParam
  | .client _ (.updateBackgroundRunning taskParam) => taskParam.bgModeIds
  | _ => []

/-- The call by which an app starts the task, under the next id. -/
def StartsTask (s : BgContinuousTaskMgr) (record : ContinuousTaskRecord) : TaskOp → Prop
  | .client callingUid (.startBackgroundRunning taskParam) =>
      record.uid = callingUid ∧ record.abilityName = taskParam.abilityName ∧
        record.continuousTaskId = s.continuousTaskIdIndex + 1
  | _ => False

inductive ModeEffect (s : BgContinuousTaskMgr) : Env × TaskOp → BgContinuousTaskMgr → Prop where
  | kept {label : Env × TaskOp} {after : BgContinuousTaskMgr} (keeps : KeepsModes s after) :
      ModeEffect s label after
  | started {env : Env} {op : TaskOp} {after : BgContinuousTaskMgr}
      (record : ContinuousTaskRecord) (named : record.bgModeIds ≠ [])
      (asked : record.isFromWebview = false →
        record.bgModeIds = requestedModes op ∧ StartsTask s record op)
      (start : StartModes env record s.nextTaskId after) : ModeEffect s (env, op) after
  | updated (env : Env) (callingUid : Int) (taskParam : ContinuousTaskParam)
      {after : BgContinuousTaskMgr} (update : UpdateModes env callingUid taskParam s after) :
      ModeEffect s (env, .client callingUid (.updateBackgroundRunning taskParam)) after
  | appState (env : Env) (uid : Int) (foreground : Bool) :
      ModeEffect s (env, .onAppStateChanged uid foreground) (s.onAppStateChanged uid foreground)

section Effects

variable {s : BgContinuousTaskMgr}

theorem modeEffect_startBackgroundRunningInner {env : Env} {op : TaskOp}
    {record : ContinuousTaskRecord} (named : record.bgModeIds ≠ [])
    (asked : record.isFromWebview = false → record.bgModeIds = requestedModes op ∧
      StartsTask s { record with continuousTaskId := s.continuousTaskIdIndex + 1 } op) :
    ModeEffect s (env, op) (s.startBackgroundRunningInner env record).2 := by
  rcases @startModes_startBackgroundRunningInner s record env with keeps | start
  · exact .kept keeps
  · exact .started { record with continuousTaskId := s.continuousTaskIdIndex + 1 } named asked start

theorem modeEffect_clientCall (env : Env) (callingUid : Int) (call : ClientCall) :
    ModeEffect s (env, .client callingUid call) (s.clientCall env callingUid call).2 := by
  cases call with
  | startBackgroundRunning taskParam =>
      show ModeEffect s _ (s.startBackgroundRunning env callingUid taskParam).2
      unfold startBackgroundRunning
      split
      · exact .kept (KeepsModes.refl s)
      split
      · exact .kept (KeepsModes.refl s)
      rename_i valid
      split
      · exact .kept (KeepsModes.refl s)
      split
      · exact .kept (KeepsModes.refl s)
      · rename_i built
        have asked := bgModeIds_startRecord built
        exact modeEffect_startBackgroundRunningInner
          (asked ▸ startedModes_ne_nil (by simpa using valid))
          (fun _ => ⟨asked, (startRecord_owner built).1, (startRecord_owner built).2, rfl⟩)
  | updateBackgroundRunning taskParam =>
      exact .updated env callingUid taskParam
        (updateModes_updateBackgroundRunning env callingUid taskParam)
  | stopBackgroundRunning abilityName abilityId continuousTaskId =>
      exact .kept (KeepsModes.of_iteSnd (KeepsModes.refl s) (KeepsModes.of_iteSnd
        (KeepsModes.refl s) (KeepsModes.stopInner env callingUid abilityName abilityId
          continuousTaskId)))
  | updateDataTransferProgress progress =>
      exact .kept (KeepsModes.of_iteSnd (KeepsModes.refl s)
        (KeepsModes.progress env callingUid progress))

theorem modeEffect_forInner {env : Env} {op : TaskOp} (taskParam : ContinuousTaskParamForInner)
    (callingUid : Int) :
    ModeEffect s (env, op) (if taskParam.isStart then
      s.startBackgroundRunningForInner env taskParam callingUid
      else s.stopBackgroundRunningForInner env taskParam callingUid).2 := by
  split
  · exact modeEffect_startBackgroundRunningInner (by simp [innerRecord, ContinuousTaskRecord.make])
      (fun client => absurd client (by simp [innerRecord]))
  · exact .kept (KeepsModes.stopInner env _ _ _ _)

/-- Modes change with a start and with an update, the caches with the state of an app, and
no other step changes either. -/
theorem taskStep_modes (label : Env × TaskOp) : ModeEffect s label (s.taskStep label) := by
  obtain ⟨env, op⟩ := label
  cases op with
  | client callingUid call => exact modeEffect_clientCall env callingUid call
  | requestBackgroundRunningForInner callingUid taskParam =>
      show ModeEffect s _ (s.requestBackgroundRunningForInner env callingUid taskParam).2
      unfold requestBackgroundRunningForInner
      split
      · exact .kept (KeepsModes.refl s)
      split
      · exact .kept (KeepsModes.refl s)
      · exact modeEffect_forInner taskParam callingUid
  | debugContinuousTask taskParam =>
      show ModeEffect s _ (s.debugContinuousTaskInner env taskParam).2
      unfold debugContinuousTaskInner
      split
      · exact .kept (KeepsModes.refl s)
      · exact modeEffect_forInner taskParam 0
  | stopContinuousTask uid taskType key =>
      exact .kept (KeepsModes.of_ite (KeepsModes.handleStop env uid taskType key)
        (KeepsModes.refl s))
  | suspendContinuousTask uid mode key isStandby =>
      exact .kept (KeepsModes.suspend env uid mode key isStandby)
  | activeContinuousTask uid isStandby => exact .kept (KeepsModes.activate env uid isStandby)
  | suspendContinuousAudioTask uid =>
      exact .kept (KeepsModes.of_ite (KeepsModes.handleSuspendAudio env uid) (KeepsModes.refl s))
  | avSessionNotifyUpdateNotification callingUid uid pid isPublish =>
      exact .kept (KeepsModes.avSession env callingUid uid pid isPublish)
  | runDelayedNotify => exact .kept (KeepsModes.delayedNotify env)
  | onAbilityStateChanged uid abilityName abilityId =>
      exact .kept (KeepsModes.of_ite (KeepsModes.refl s) (KeepsModes.stopTasks env _))
  | onAppStopped uid => exact .kept (KeepsModes.appStopped env uid)
  | onAppStateChanged uid foreground => exact .appState env uid foreground
  | onBundleInfoChanged action bundleName uid userId appIndex =>
      exact .kept (KeepsModes.bundleInfo env action bundleName uid userId appIndex)
  | onAccountsStateChanged =>
      show ModeEffect s _ (s.onAccountsStateChanged env)
      unfold onAccountsStateChanged
      split
      · exact .kept (KeepsModes.refl s)
      · exact .kept (KeepsModes.endTasks (onlyTools_cancelMain env)
          (fun record _ => KeepsModes.stopAndSave env record))
  | onRemoveSystemAbility mode =>
      exact .kept (KeepsModes.of_ite (KeepsModes.removeByMode env mode) (KeepsModes.refl s))
  | onConsumed uid => exact .kept (KeepsModes.consumed env uid)
  | onLiveViewCanceled uid => exact .kept (KeepsModes.liveViewCanceled env uid)
  | onCanceled pair deleteReason => exact .kept (KeepsModes.canceled env pair deleteReason)
  | stopBannerContinuousTaskByUser label => exact .kept (KeepsModes.stopBanner env label)
  | shellDumpCancel taskKey =>
      show ModeEffect s _ (s.shellDumpCancel env taskKey)
      unfold shellDumpCancel
      split
      · exact .kept (KeepsModes.refl s)
      split
      · exact .kept (KeepsModes.dumpCancelAll env)
      split
      · exact .kept (KeepsModes.refl s)
      · exact .kept (KeepsModes.stopByTask env _)
  | onBundleResourcesChanged => exact .kept (KeepsModes.bundleResources env)
  | sendNotificationByDeteTask taskKeys =>
      exact .kept (KeepsModes.of_ite (KeepsModes.dete env taskKeys) (KeepsModes.refl s))
  | notifyAudioStart uid =>
      exact .kept (KeepsModes.of_ite (KeepsModes.audioStart env uid) (KeepsModes.refl s))
  | addSubscriber info => exact .kept (KeepsModes.addSubscriber info)
  | removeSubscriber remote flag => exact .kept (KeepsModes.of_eq rfl rfl rfl rfl rfl)
  | onRemoteSubscriberDied remote =>
      exact .kept (KeepsModes.of_ite (KeepsModes.of_eq rfl rfl rfl rfl rfl) (KeepsModes.refl s))
  | enableContinuousTaskRequest uid isEnable =>
      exact .kept (KeepsModes.of_ite (KeepsModes.refl s) (KeepsModes.of_ite
        (KeepsModes.of_eq rfl rfl rfl rfl rfl) (KeepsModes.of_eq rfl rfl rfl rfl rfl)))
  | publishBannerNotification => exact .kept (KeepsModes.tools _)
  | rehash rank => exact .kept (KeepsModes.rehash rank)

end Effects

end BgTaskMgr.Continuous
