import BgTaskMgr.Continuous.Republishing
import BgTaskMgr.Continuous.Deletion

/-!
# What an operation does to notifications

Every operation of the manager leaves notifications alone, starts a task, stops tasks,
sweeps over tasks, publishes for one task, or runs one of the loops that publish again.
`NoticeEffect` is this case distinction, with the tasks and notifications concerned given
by the state before the operation.
-/

set_option autoImplicit false

namespace BgTaskMgr.Continuous

open BgContinuousTaskMgr

/-! ## Sweeps -/

/-- A sweep: what becomes of each record, the notifications that go with it, and those
that are deleted besides. -/
structure Sweep where
  change : String → ContinuousTaskRecord → Option ContinuousTaskRecord
  withdrawn : String → ContinuousTaskRecord → List (String × Int)
  deleted : List (String × Int) := []

/-- The sweep took place; records may have changed in fields that concern no
notification. -/
structure SweepEffect (sweep : Sweep) (before after : BgContinuousTaskMgr) : Prop where
  origin : ∀ key edited, after.taskAt key = some edited → ∃ record left,
    before.taskAt key = some record ∧ sweep.change key record = some left ∧
      SameNotices left edited
  kept : ∀ key record left, before.taskAt key = some record →
    sweep.change key record = some left →
      ∃ edited, after.taskAt key = some edited ∧ SameNotices left edited
  shown : ∀ pair, after.tools.Shown pair ↔ before.tools.Shown pair ∧ pair ∉ sweep.deleted ∧
    ∀ key record, before.taskAt key = some record → pair ∉ sweep.withdrawn key record
  hash : after.tools.hash = before.tools.hash
  notificationIdIndex : after.tools.notificationIdIndex = before.tools.notificationIdIndex

def stopTypeChosen (uid : Int) (taskType : Nat) (record : ContinuousTaskRecord) : Bool :=
  record.uid == uid && (taskType == allModes || checkExistMode record.bgModeIds taskType)

def endingSweep (chosen : ContinuousTaskRecord → Bool)
    (pairs : ContinuousTaskRecord → List (String × Int)) (deleted : List (String × Int)) : Sweep :=
  ⟨ended chosen, withdrawnOf chosen pairs, deleted⟩

def hasMain (main : String × Int) (record : ContinuousTaskRecord) : Bool :=
  record.mainPair == main

def mainAndSub (record : ContinuousTaskRecord) : List (String × Int) :=
  record.mainPair :: subPairs record

def deletingSweep (pair : String × Int) : Sweep :=
  ⟨fun _ record => some record, fun _ _ => [], [pair]⟩

/-- What the deletion of a shown notification by the user or by the notification service
comes to: the tasks that share the main notification of the named task end. -/
def deletionSweep (s : BgContinuousTaskMgr) (notification : Notification) (pair : String × Int) :
    Sweep :=
  match keyOfLabel notification.label notification.abilityName with
  | none => deletingSweep pair
  | some (key, isSubNotification) =>
      match s.taskAt key with
      | none => deletingSweep pair
      | some named =>
          if s.isSysReady && named.notificationId != -1 then
            endingSweep (hasMain named.mainPair) (fun record =>
              if isSubNotification then [record.mainPair] else subPairs record) [pair]
          else deletingSweep pair

def sweepOf (env : Env) (s : BgContinuousTaskMgr) : TaskOp → Option Sweep
  | .stopContinuousTask uid taskType _ =>
      if s.isSysReady && (taskType == BackgroundMode.dataTransfer || taskType == allModes) then
        some (endingSweep (stopTypeChosen uid taskType) mainAndSub [])
      else none
  | .suspendContinuousTask uid mode key isStandby =>
      if s.isSysReady && !isStandby && s.isExistCallback uid continuousTaskSuspend then
        some ⟨suspendChange uid mode key,
          fun other record => if other = key then mainAndSub record else [], []⟩
      else none
  | .suspendContinuousAudioTask uid =>
      if s.isSysReady then
        some ⟨audioChange uid (s.isExistCallback uid continuousTaskSuspend),
          withdrawnOf (audioChosen uid) (fun record => [record.mainPair]), []⟩
      else none
  | .onAppStopped uid =>
      if s.isSysReady then
        some (endingSweep (fun record => record.uid == uid) (fun record =>
          if record.notificationId ≠ -1 then mainAndSub record else subPairs record) [])
      else none
  | .onBundleInfoChanged action _ uid _ _ =>
      if s.isSysReady && action == .dataCleared then
        some (endingSweep (fun record => record.uid == uid) (fun record => [record.mainPair]) [])
      else none
  | .onAccountsStateChanged => env.activatedOsAccountIds.map (fun ids =>
      endingSweep (fun record => !(ids.contains record.userId)) (fun record => [record.mainPair]) [])
  | .onConsumed uid =>
      if s.isSysReady then
        some ⟨liveViewChange uid,
          withdrawnOf (liveViewChosen uid) (fun record => [record.mainPair]), []⟩
      else none
  | .onCanceled pair deleteReason =>
      if deleteReason = .appCancel then none
      else (s.tools.published.find? (fun notification => notification.pair == pair)).map
        (fun notification => deletionSweep s notification pair)
  | .shellDumpCancel none =>
      if s.isSysReady then some ⟨fun _ _ => none, fun _ record => [record.mainPair], []⟩ else none
  | _ => none

/-! ## Stops -/

def SameIdAs (s : BgContinuousTaskMgr) (key : String) (record : ContinuousTaskRecord) : Prop :=
  ∃ task, s.taskAt key = some task ∧ record.continuousTaskId = task.continuousTaskId

/-- The tasks that the operation can end with a look for other tasks behind their
notification. -/
def stops (env : Env) (s : BgContinuousTaskMgr) (op : TaskOp) (record : ContinuousTaskRecord) :
    Prop :=
  match op with
  | .client callingUid (.stopBackgroundRunning abilityName abilityId continuousTaskId) =>
      abilityName ≠ "" ∧ StoppedBy callingUid abilityName abilityId continuousTaskId s record
  | .requestBackgroundRunningForInner callingUid taskParam =>
      checkPermissionForInner taskParam callingUid = true ∧ taskParam.isStart = false ∧
        StoppedBy taskParam.uid (getAbilityNamePid env taskParam (innerPid env taskParam) callingUid)
          taskParam.abilityId (-1) s record
  | .debugContinuousTask taskParam =>
      taskParam.isStart = false ∧
        StoppedBy taskParam.uid (getAbilityNamePid env taskParam (innerPid env taskParam) 0)
          taskParam.abilityId (-1) s record
  | .stopContinuousTask _ taskType key =>
      taskType ≠ BackgroundMode.dataTransfer ∧ taskType ≠ allModes ∧ SameIdAs s key record
  | .suspendContinuousTask uid _ key isStandby =>
      isStandby = false ∧ s.isExistCallback uid continuousTaskSuspend = false ∧
        SameIdAs s key record
  | .onAbilityStateChanged uid abilityName abilityId =>
      abilityName ≠ "" ∧ InAbility uid abilityName abilityId s record
  | .onRemoveSystemAbility mode =>
      (mode = BackgroundMode.voip ∨ mode = BackgroundMode.workout ∨
        mode = BackgroundMode.audioPlayback) ∧ servedBy mode record = true
  | .shellDumpCancel (some key) => SameIdAs s key record
  | _ => False

/-! ## Publications for one task -/

/-- A publication for one task: the state with the operation's own change in it, the task,
what sending comes to, and whether an update is finished after it. -/
structure Publication where
  mgr : BgContinuousTaskMgr
  key : String
  record : ContinuousTaskRecord
  kind : SendKind
  isUpdate : Bool

def updateRefused (env : Env) (s : BgContinuousTaskMgr) (uid : Int)
    (taskParam : ContinuousTaskParam) (record : ContinuousTaskRecord) : Prop :=
  checkBgmodeTypes env (s.getBackgroundModeInfo uid record.abilityName) true record
      taskParam.bgModeIds ≠ .ok ∨
    (checkExistMode record.bgModeIds BackgroundMode.dataTransfer ||
      checkExistMode taskParam.bgModeIds BackgroundMode.dataTransfer) = true ∨
    taskParam.progressInfo.isSome = true ∨
    (checkExistMode record.bgModeIds BackgroundMode.specialScenarioProcessing &&
      taskParam.isCombinedTaskNotification) = true ∨
    env.mainAbilityLabel record.bundleName record.userId = ""

instance (env : Env) (s : BgContinuousTaskMgr) (uid : Int) (taskParam : ContinuousTaskParam)
    (record : ContinuousTaskRecord) : Decidable (updateRefused env s uid taskParam record) :=
  inferInstanceAs (Decidable (_ ∨ _))

def updatePublicationById (env : Env) (s : BgContinuousTaskMgr) (uid : Int)
    (taskParam : ContinuousTaskParam) : Option Publication :=
  if uid ∈ s.disableRequestUidList ∨ taskParam.updateTaskId < 0 then none
  else
    match s.findTask (fun _ task => task.continuousTaskId == taskParam.updateTaskId &&
      task.isByRequestObject) with
    | none => none
    | some (key, record) =>
        let updated := updatedTask taskParam record
        let stored := s.setRecord key updated
        if updateRefused env s uid taskParam record then none
        else some ⟨stored, key, updated,
          if !record.isCombinedTaskNotification && record.notificationId == -1 then
            sendKind env stored updated
          else .keeps, true⟩

def updatePublication (env : Env) (s : BgContinuousTaskMgr) (key : String)
    (taskParam : ContinuousTaskParam) : Option Publication :=
  match s.taskAt key with
  | none => none
  | some record =>
      let updated := withModes taskParam record
      let stored := s.setRecord key updated
      if record.uid ∈ s.disableRequestUidList ∨
          checkModesSame record.bgModeIds taskParam.bgModeIds ∨
          checkBgmodeTypes env (s.getBackgroundModeInfo record.uid record.abilityName) true
            (dropSubModes taskParam record) taskParam.bgModeIds ≠ .ok then none
      else some ⟨stored, key, updated,
        if checkExistMode record.bgModeIds BackgroundMode.dataTransfer &&
            checkExistMode taskParam.bgModeIds BackgroundMode.dataTransfer then .keeps
        else sendKind env stored updated, true⟩

def progressPublication (env : Env) (s : BgContinuousTaskMgr) (uid : Int)
    (progress : DataTransferProgress) : Option Publication :=
  match s.findTask (fun _ task =>
    task.continuousTaskId == progress.continuousTaskId && task.uid == uid) with
  | none => none
  | some (key, record) =>
      let updated := withProgress progress record
      let stored := s.setRecord key updated
      if !checkExistMode record.bgModeIds BackgroundMode.dataTransfer then none
      else some ⟨stored, key, updated, sendKind env stored updated, false⟩

def avSessionKind (env : Env) (s : BgContinuousTaskMgr) (isPublish : Bool)
    (record : ContinuousTaskRecord) : SendKind :=
  if !record.audioDetectState then .keeps
  else if !isPublish && checkExistMode record.bgSubModeIds
      BackgroundTaskSubmode.submodeAvsessionAudioPlayback then .keeps
  else if !isPublish && record.bgModeIds == [BackgroundMode.audioPlayback] then
    sendKind env s record
  else if !checkExistMode record.bgModeIds BackgroundMode.dataTransfer then
    if (s.checkNotificationText env record).text = "" then .clears else .keeps
  else .keeps

def avSessionPublication (env : Env) (s : BgContinuousTaskMgr) (uid : Int) (isPublish : Bool) :
    Option Publication :=
  let noted := { s with avSessionNotification := s.avSessionNotification.insert uid isPublish }
  (s.findTask (fun _ task => task.uid == uid)).map (fun found =>
    ⟨noted, found.1, found.2, avSessionKind env noted isPublish found.2, false⟩)

def publication (env : Env) (s : BgContinuousTaskMgr) : TaskOp → Option Publication
  | .client callingUid (.updateBackgroundRunning taskParam) =>
      if s.checkIsSysReadyAndPermission env callingUid ≠ .ok then none
      else if taskParam.isByRequestObject then updatePublicationById env s callingUid taskParam
      else updatePublication env s
        (abilityKey callingUid taskParam.abilityName taskParam.abilityId) taskParam
  | .client callingUid (.updateDataTransferProgress progress) =>
      if s.checkIsSysReadyAndPermission env callingUid ≠ .ok then none
      else progressPublication env s callingUid progress
  | .avSessionNotifyUpdateNotification callingUid uid _ isPublish =>
      if s.isSysReady && callingUid == avsessionSaUid && isPublish then
        avSessionPublication env s uid true
      else none
  | .runDelayedNotify => s.delayedNotify.head?.bind (fun entry =>
      avSessionPublication env s entry.1 false)
  | _ => none

/-! ## The cases -/

def requested (env : Env) : TaskOp → Option ContinuousTaskRecord
  | .client callingUid (.startBackgroundRunning taskParam) => startRecord env callingUid taskParam
  | .requestBackgroundRunningForInner callingUid taskParam =>
      some (innerRecord env taskParam callingUid)
  | .debugContinuousTask taskParam => some (innerRecord env taskParam 0)
  | _ => none

inductive NoticeEffect (env : Env) (s : BgContinuousTaskMgr) (op : TaskOp)
    (after : BgContinuousTaskMgr) : Prop where
  | unnoticed (same : Unnoticed s after)
  | started {record : ContinuousTaskRecord} (request : requested env op = some record)
      (outcome : StartOutcome s { record with continuousTaskId := s.continuousTaskIdIndex + 1 }
        after)
  | stopped {ready : BgContinuousTaskMgr} (same : Unnoticed s ready)
      (stopped : Stopped (fun _ => True) ready after)
      (only : ∀ key record, s.taskAt key = some record → after.taskAt key = none →
        stops env s op record)
  | swept {sweep : Sweep} (made : sweepOf env s op = some sweep) (effect : SweepEffect sweep s after)
  | published {made : Publication} {sent : Sent} (publishes : publication env s op = some made)
      (same : Unnoticed s made.mgr) (found : made.mgr.taskAt made.key = some made.record)
      (outcome : SendOutcome made.mgr.tools made.record sent made.kind)
      (saved : Undisturbed (made.mgr.setSent made.key sent) after)
  | updated {made : Publication} {sent : Sent} {middle : BgContinuousTaskMgr}
      (publishes : publication env s op = some made) (isUpdate : made.isUpdate = true)
      (suspended : made.record.suspendState = true)
      (same : Unnoticed s made.mgr) (found : made.mgr.taskAt made.key = some made.record)
      (outcome : SendOutcome made.mgr.tools made.record sent made.kind)
      (unchanged : contents sent.record = contents made.record)
      (stored : Undisturbed (made.mgr.setSent made.key sent) middle)
      (sources : SameSources made.record.uid made.mgr middle)
      (saved : Undisturbed (middle.handleActiveContinuousTask env made.record.uid) after)
  | reactivated {uid : Int} (asks : op = .activeContinuousTask uid false)
      (eq : after = s.handleActiveContinuousTask env uid)
  | detected {taskKeys : List String} (asks : op = .sendNotificationByDeteTask taskKeys)
      (eq : after = taskKeys.foldl (sendForDete env) s)
  | liveViewGone {uid : Int} {noted : BgContinuousTaskMgr} (same : Undisturbed s noted)
      (eq : after = noted.forEachTask (sendAfterLiveView env uid))

end BgTaskMgr.Continuous
