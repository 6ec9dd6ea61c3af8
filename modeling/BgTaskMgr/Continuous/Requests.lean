import BgTaskMgr.Continuous.Prompt

/-!
# Requests to the continuous task manager

Starting, updating and stopping tasks: what a client or an inner caller asks for, from the
checks at the entry to the change of the records.  Reactivation is here because an update
of a suspended task ends in it.
-/

set_option autoImplicit false

namespace BgTaskMgr.Continuous

/-! ## Keys -/

def abilityKey (uid : Int) (abilityName : String) (abilityId : Int) : String :=
  toString uid ++ "_" ++ (abilityName ++ "_" ++ toString abilityId)

def taskInfoMapKey (record : ContinuousTaskRecord) : String :=
  let key := abilityKey record.uid record.abilityName record.abilityId
  if record.isByRequestObject then key ++ "_" ++ toString record.continuousTaskId else key

/-! ## Callers of the inner interface -/

structure InnerApiReqBgRunningConfig where
  bgModeId : Nat
  needNotification : Bool
  deriving DecidableEq, Repr

def innerApiReqBgRunningConfig : List (Int × InnerApiReqBgRunningConfig) :=
  [(7022, ⟨BackgroundMode.voip, false⟩),
    (5520, ⟨BackgroundMode.specialScenarioProcessing, false⟩),
    (7878, ⟨BackgroundMode.audioPlayback, true⟩),
    (7259, ⟨BackgroundMode.workout, false⟩)]

/-- An app that asks for its own playback through a component. -/
def isComponentRequest (taskParam : ContinuousTaskParamForInner) (callingUid : Int) : Bool :=
  callingUid == taskParam.uid && taskParam.bgModeId == BackgroundMode.audioPlayback

def checkPermissionForInner (taskParam : ContinuousTaskParamForInner) (callingUid : Int) : Bool :=
  ((innerApiReqBgRunningConfig.lookup callingUid).any
    (fun config => config.bgModeId == taskParam.bgModeId)) ||
    isComponentRequest taskParam callingUid

def getAbilityNamePid (env : Env) (taskParam : ContinuousTaskParamForInner) (pid callingUid : Int) :
    String :=
  let webview := "Webview" ++ toString taskParam.bgModeId
  if !isComponentRequest taskParam callingUid then webview
  else
    match env.abilityRunningInfos with
    | none => webview
    | some infos =>
        ((infos.find? (fun info => info.1 == pid && info.2.1 == taskParam.uid)).map
          (fun info => info.2.2)).getD webview

def innerPid (env : Env) (taskParam : ContinuousTaskParamForInner) : Int :=
  if taskParam.pid ≠ 0 then taskParam.pid else env.callingPid

def innerRecord (env : Env) (taskParam : ContinuousTaskParamForInner) (callingUid : Int) :
    ContinuousTaskRecord :=
  let component := isComponentRequest taskParam callingUid
  { ContinuousTaskRecord.make (env.clientBundleName taskParam.uid)
      (getAbilityNamePid env taskParam (innerPid env taskParam) callingUid) taskParam.uid
      (innerPid env taskParam) taskParam.bgModeId false [] (-1) with
    isNewApi := true
    isFromWebview := true
    userId := env.osAccountLocalId taskParam.uid
    fullTokenId := env.callingFullTokenId
    needNotificationForInnerApi := component ||
      (innerApiReqBgRunningConfig.lookup callingUid).any (fun config => config.needNotification)
    isFromComponent := component }

/-! ## Client parameters -/

def checkTaskParam (taskParam : ContinuousTaskParam) : Bool :=
  if taskParam.isNewApi then
    taskParam.wantAgent.isSome && taskParam.abilityName != "" &&
      !(taskParam.isByRequestObject &&
        (taskParam.bgModeIds.isEmpty || taskParam.bgSubModeIds.isEmpty)) &&
      !(taskParam.isBatchApi && taskParam.bgModeIds.isEmpty)
  else taskParam.abilityName != "" && !(taskParam.isBatchApi && taskParam.bgModeIds.isEmpty)

def initRecordParam (env : Env) (taskParam : ContinuousTaskParam) (userId : Int)
    (record : ContinuousTaskRecord) : ContinuousTaskRecord :=
  { record with
    wantAgent := taskParam.wantAgent
    userId := userId
    isNewApi := taskParam.isNewApi
    appName := taskParam.appName
    fullTokenId := env.callingFullTokenId
    callingTokenId := env.callingTokenId
    isSystem := env.isSystemApp env.callingFullTokenId
    bgSubModeIds := taskParam.bgSubModeIds
    isCombinedTaskNotification := taskParam.isCombinedTaskNotification
    combinedNotificationTaskId := taskParam.combinedNotificationTaskId
    isByRequestObject := taskParam.isByRequestObject
    appIndex := taskParam.appIndex
    progressInfo := taskParam.progressInfo }

def pendingWant (wantAgent : Option WantAgent) : Option Want :=
  wantAgent.bind (fun agent => agent.want)

/-- `CheckSubMode`: the record, unless the sub-mode parameter is refused. -/
def checkSubMode (want : Want) (record : ContinuousTaskRecord) : Option ContinuousTaskRecord :=
  match want.subMode with
  | none => some record
  | some subMode =>
      if checkExistMode record.bgModeIds BackgroundMode.bluetoothInteraction &&
          subMode == carKey && !record.isByRequestObject then
        some { record with bgSubModeIds := record.bgSubModeIds ++ [carKey] }
      else none

def startRecord (env : Env) (callingUid : Int) (taskParam : ContinuousTaskParam) :
    Option ContinuousTaskRecord :=
  let record := initRecordParam env taskParam (env.osAccountLocalId callingUid)
    (ContinuousTaskRecord.make (env.clientBundleName callingUid) taskParam.abilityName callingUid
      env.callingPid taskParam.bgModeId taskParam.isBatchApi taskParam.bgModeIds
      taskParam.abilityId)
  match pendingWant taskParam.wantAgent with
  | none => some record
  | some want =>
      checkSubMode want
        { record with wantAgentInfo := some ⟨want.bundleName, want.abilityName⟩ }

/-! ## Modes an ability may request -/

/-- `BG_MODE_INDEX_HEAD << (mode - 1)`; the shift takes its amount modulo 32. -/
def modeBit (mode : Nat) : BitVec 32 := 1#32 <<< ((mode + 31) % 32)

def allowUseTaskKeeping (env : Env) (record : ContinuousTaskRecord) : Bool :=
  env.supportTaskKeeping || env.isTaskKeepingExemptedQuatoApp record.bundleName ||
    (env.specialScenarioACLPermission record.callingTokenId && !record.isSystem)

def allowUseSpecial (env : Env) (record : ContinuousTaskRecord) : ErrCode :=
  let exempted := env.isSpecialExemptedQuatoApp record.bundleName
  if !exempted && !env.specialScenarioACLPermission record.callingTokenId then
    .continuousAppNotHaveBgmodePermissionSystem
  else if !exempted && record.isSystem then .continuousSystemAppNotSupportAcl
  else if env.isMaliciousAppConfig record.bundleName then .appDetectedMaliciousBehavior
  else if !env.supportAuth then .specialScenarioProcessingNotsupportDevice
  else .ok

/-- The checks of `CheckBgmodeType` on modes that need more than a declaration. -/
def checkRestrictedMode (env : Env) (requestedBgModeId : Nat) (record : ContinuousTaskRecord) :
    ErrCode :=
  let recordedBgMode := modeBit requestedBgModeId
  if recordedBgMode = modeBit BackgroundMode.wifiInteraction ∧ !record.isSystem then .notSystemApp
  else if recordedBgMode = modeBit BackgroundMode.taskKeeping ∧ !allowUseTaskKeeping env record then
    .keepingTaskVerifyErr
  else if recordedBgMode = modeBit BackgroundMode.specialScenarioProcessing then
    allowUseSpecial env record
  else .ok

/-- A request object may play, record or call under `MODE_AV_PLAYBACK_AND_RECORD`. -/
def declaredAsAvPlaybackAndRecord (configuredBgMode : BitVec 32) (requestedBgModeId : Nat)
    (record : ContinuousTaskRecord) : Bool :=
  let recordedBgMode := modeBit requestedBgModeId
  (recordedBgMode == modeBit BackgroundMode.audioPlayback ||
    recordedBgMode == modeBit BackgroundMode.audioRecording ||
    recordedBgMode == modeBit BackgroundMode.voip) && record.isByRequestObject &&
    configuredBgMode &&& modeBit modeAvPlaybackAndRecord != 0#32

def checkBgmodeType (env : Env) (configuredBgMode : BitVec 32) (isNewApi : Bool)
    (record : ContinuousTaskRecord) (requestedBgModeId : Nat) : ErrCode :=
  if !isNewApi then
    if configuredBgMode = 0#32 then .bgmodeNullOrTypeErr else .ok
  else if checkRestrictedMode env requestedBgModeId record ≠ .ok then
    checkRestrictedMode env requestedBgModeId record
  else if declaredAsAvPlaybackAndRecord configuredBgMode requestedBgModeId record then .ok
  else if requestedBgModeId = 0 ∨ configuredBgMode &&& modeBit requestedBgModeId = 0#32 then
    .invalidBgmode
  else .ok

/-- The loop over the requested modes, which ends at the first that is refused. -/
def checkBgmodeTypes (env : Env) (configuredBgMode : BitVec 32) (isNewApi : Bool)
    (record : ContinuousTaskRecord) : List Nat → ErrCode
  | [] => .ok
  | mode :: rest =>
      let ret := checkBgmodeType env configuredBgMode isNewApi record mode
      if ret ≠ .ok then ret else checkBgmodeTypes env configuredBgMode isNewApi record rest

def checkBgmodeTypeForInner (requestedBgModeId : Nat) : ErrCode :=
  if requestedBgModeId = 0 ∨ bgmodeNums < requestedBgModeId then .invalidBgmode else .ok

def addAbilityBgModeInfos (abilityInfos : List (String × BitVec 32)) (appName : String)
    (record : ContinuousTaskRecord) : Option CachedBundleInfo :=
  let declared := abilityInfos.filter (fun info => info.2 ≠ 0#32)
  if !declared.isEmpty then some ⟨declared, appName⟩
  else if record.needNotificationForInnerApi && record.isFromComponent then
    some ⟨[(record.abilityName, BitVec.ofNat 32 BackgroundMode.audioPlayback)], appName⟩
  else none

namespace BgContinuousTaskMgr

def setCachedBundleInfo (env : Env) (record : ContinuousTaskRecord) (self : BgContinuousTaskMgr) :
    BgContinuousTaskMgr :=
  if (self.cachedBundleInfos.lookup record.uid).isSome then self
  else
    match (env.bundleInfo record.bundleName record.userId).bind (fun abilityInfos =>
      addAbilityBgModeInfos abilityInfos
        (env.mainAbilityLabel record.bundleName record.userId) record) with
    | none => self
    | some info => { self with cachedBundleInfos := self.cachedBundleInfos.insert record.uid info }

def getBackgroundModeInfo (uid : Int) (abilityName : String) (self : BgContinuousTaskMgr) :
    BitVec 32 :=
  ((self.cachedBundleInfos.lookup uid).bind
    (fun info => info.abilityBgMode.lookup abilityName)).getD 0#32

/-! ## Start -/

def checkAbilityTaskNum (record : ContinuousTaskRecord) (self : BgContinuousTaskMgr) : ErrCode :=
  let taskNum := (KeyedMap.vals self.continuousTaskInfosMap).countP
    (fun task => task.abilityId == record.abilityId && task.isByRequestObject)
  if abilityTaskMaxNum ≤ taskNum then .continuousNotApplyMaxTask else .ok

/-- An app in the background may request what it had requested in the foreground, and
playback. -/
def mayApply (env : Env) (record : ContinuousTaskRecord) (self : BgContinuousTaskMgr) : Bool :=
  let applied := (self.applyTaskOnForeground.lookup record.uid).getD []
  record.isFromWebview || record.uid ∈ self.appOnForeground ||
    checkApplyMode record.bgModeIds (applied ++ [BackgroundMode.audioPlayback]) ||
    (env.foregroundApplications.getD []).contains record.uid

def allowApplyContinuousTask (env : Env) (record : ContinuousTaskRecord)
    (self : BgContinuousTaskMgr) : ErrCode :=
  if env.isGamePreLaunchApp record.uid then .continuousNotApplyPreloadState
  else if !record.isByRequestObject then .ok
  else if self.checkAbilityTaskNum record ≠ .ok then self.checkAbilityTaskNum record
  else if self.mayApply env record then .ok
  else .continuousNotApplyOnbackground

/-- The outcome of the check for a merge: the new record may take another task's
notification, and that task is marked. -/
structure Combined where
  ret : ErrCode
  sendNotification : Bool
  record : ContinuousTaskRecord
  mgr : BgContinuousTaskMgr

def determineMatchCombinedTaskNotifacation (recordParam : ContinuousTaskRecord)
    (self : BgContinuousTaskMgr) : Combined :=
  let refuse (ret : ErrCode) : Combined := ⟨ret, true, recordParam, self⟩
  match self.findTask (fun _ task => task.uid == recordParam.uid &&
    task.continuousTaskId == recordParam.combinedNotificationTaskId) with
  | none => refuse .continuousTaskidInvalid
  | some (key, task) =>
      if !task.isCombinedTaskNotification then refuse .continuousNotMergeCombinedFalse
      else if task.notificationId = -1 then refuse .continuousNotMergeNotificationNotExist
      else if !checkModesSame task.bgModeIds recordParam.bgModeIds then
        refuse .continuousModeOrSubmodeTypeMismatch
      else if !checkModesSame task.bgSubModeIds recordParam.bgSubModeIds then
        refuse .continuousModeOrSubmodeTypeMismatch
      else
        ⟨.ok, false,
          { recordParam with
            notificationId := task.notificationId
            notificationLabel := task.notificationLabel },
          self.setRecord key
            { task with combinedNotificationTaskId := recordParam.combinedNotificationTaskId }⟩

def checkCombinedTaskNotification (recordParam : ContinuousTaskRecord)
    (self : BgContinuousTaskMgr) : Combined :=
  let combined := recordParam.isCombinedTaskNotification
  if !recordParam.isByRequestObject then ⟨.ok, true, recordParam, self⟩
  else if combined && checkExistMode recordParam.bgModeIds BackgroundMode.dataTransfer then
    ⟨.continuousDataTransferNotMergeNotification, true, recordParam, self⟩
  else if combined &&
      checkExistMode recordParam.bgModeIds BackgroundMode.specialScenarioProcessing then
    ⟨.continuousSpecialScenarioProcessingNotMergeNotification, true, recordParam, self⟩
  else if recordParam.combinedNotificationTaskId = -1 then ⟨.ok, true, recordParam, self⟩
  else if !combined then ⟨.continuousNotMergeCurrenttaskCombinedFalse, true, recordParam, self⟩
  else self.determineMatchCombinedTaskNotifacation recordParam

def checkStartModes (env : Env) (record : ContinuousTaskRecord) (self : BgContinuousTaskMgr) :
    ErrCode :=
  if record.isFromWebview then checkBgmodeTypeForInner record.bgModeId
  else checkBgmodeTypes env (self.getBackgroundModeInfo record.uid record.abilityName)
    record.isNewApi record record.bgModeIds

def addTask (key : String) (record : ContinuousTaskRecord) (self : BgContinuousTaskMgr) :
    BgContinuousTaskMgr :=
  { self with
    continuousTaskInfosMap := self.continuousTaskInfosMap.insert key record }.onContinuousTaskChanged
      record .taskStart

/-- The notification of a new record, unless it needs none or takes that of another task. -/
def sendStartNotification (env : Env) (combined : Combined) : Sent :=
  if (!combined.record.isFromWebview || combined.record.needNotificationForInnerApi) &&
      combined.sendNotification then
    combined.mgr.sendByModes env combined.record
  else ⟨.ok, combined.record, combined.mgr.tools⟩

def startBackgroundRunningSubmit (env : Env) (record : ContinuousTaskRecord) (key : String)
    (self : BgContinuousTaskMgr) : ErrCode × BgContinuousTaskMgr :=
  let modes := self.checkStartModes env record
  let combined := self.checkCombinedTaskNotification record
  let sent := sendStartNotification env combined
  if modes ≠ .ok ∧ !record.isFromWebview then (modes, self)
  else if combined.ret ≠ .ok then (combined.ret, combined.mgr)
  else if sent.ret ≠ .ok then (sent.ret, combined.mgr.setTools sent.tools)
  else ((combined.mgr.setTools sent.tools).addTask key sent.record).refreshTaskRecord env

/-! ## Reactivation -/

/-- The state of the loop in `HandleActiveContinuousTask`; -2 is
`ILLEGAL_NOTIFICATION_ID`. -/
structure ActiveLoop where
  mgr : BgContinuousTaskMgr
  notificationLabel : String := "default"
  notificationId : Int := -2
  notificationOldIds : List Int := []

def reactivated (record : ContinuousTaskRecord) : ContinuousTaskRecord :=
  { record with suspendState := false, isStandby := false }

/-- A suspended task of the uid becomes active; the first one with a notification id
publishes again, and later ones with that id take over its label and id. -/
def activateTask (env : Env) (uid : Int) (key : String) (record : ContinuousTaskRecord)
    (loop : ActiveLoop) : ActiveLoop :=
  if record.uid ≠ uid ∨ !record.suspendState then loop
  else
    let active := reactivated record
    let told := (loop.mgr.setRecord key active).onContinuousTaskChanged active .taskActive
    if active.notificationId = -1 then { loop with mgr := told.saveTasks env }
    else if loop.notificationId = -2 ∨ active.notificationId ∉ loop.notificationOldIds then
      let sent := told.handleActiveNotification env active
      { mgr := (told.setSent key sent).saveTasks env
        notificationLabel := sent.record.notificationLabel
        notificationId := sent.record.notificationId
        notificationOldIds := loop.notificationOldIds ++ [active.notificationId] }
    else
      { loop with
        mgr := (told.setRecord key
          { active with
            notificationLabel := loop.notificationLabel
            notificationId := loop.notificationId }).saveTasks env }

def handleActiveContinuousTask (env : Env) (uid : Int) (self : BgContinuousTaskMgr) :
    BgContinuousTaskMgr :=
  (KeyedMap.forEach (fun loop => loop.mgr.continuousTaskInfosMap) (activateTask env uid)
    { mgr := self }).mgr

/-! ## Start at the entry -/

def nextTaskId (self : BgContinuousTaskMgr) : BgContinuousTaskMgr :=
  { self with continuousTaskIdIndex := self.continuousTaskIdIndex + 1 }

/-- The part of `StartBackgroundRunningInner` after the record has its id. -/
def startNumbered (env : Env) (record : ContinuousTaskRecord) (self : BgContinuousTaskMgr) :
    ErrCode × BgContinuousTaskMgr :=
  let key := taskInfoMapKey record
  if record.isByRequestObject ∧ self.checkAbilityTaskNum record ≠ .ok then
    (self.checkAbilityTaskNum record, self)
  else if (self.continuousTaskInfosMap.lookup key).isSome then
    if record.suspendState then (.ok, self.handleActiveContinuousTask env record.uid)
    else (.objectExists, self)
  else if !record.isFromWebview || record.needNotificationForInnerApi then
    (self.setCachedBundleInfo env record).startBackgroundRunningSubmit env record key
  else self.startBackgroundRunningSubmit env record key

def startBackgroundRunningInner (env : Env) (record : ContinuousTaskRecord)
    (self : BgContinuousTaskMgr) : ErrCode × BgContinuousTaskMgr :=
  if record.uid ∈ self.disableRequestUidList then (.maliciousContinuoustask, self)
  else if self.allowApplyContinuousTask env record ≠ .ok then
    (self.allowApplyContinuousTask env record, self)
  else
    self.nextTaskId.startNumbered env
      { record with continuousTaskId := self.continuousTaskIdIndex + 1 }

def startBackgroundRunning (env : Env) (callingUid : Int) (taskParam : ContinuousTaskParam)
    (self : BgContinuousTaskMgr) : ErrCode × BgContinuousTaskMgr :=
  if !self.isSysReady then (.sysNotReady, self)
  else if !checkTaskParam taskParam then (.checkTaskParam, self)
  else if !env.bgmodePermission then (.permissionDenied, self)
  else
    match startRecord env callingUid taskParam with
    | none => (.checkTaskParam, self)
    | some record => self.startBackgroundRunningInner env record

/-! ## Stop -/

def stopBackgroundRunningByTask (env : Env) (continuousTaskId : Int)
    (self : BgContinuousTaskMgr) : ErrCode × BgContinuousTaskMgr :=
  match self.findTask (fun _ task => task.continuousTaskId == continuousTaskId) with
  | none => (.objectExists, self)
  | some (key, record) =>
      let cancelled := ((self.onContinuousTaskChanged record .taskCancel).eraseRecord
        key).cancelNotification env record
      (cancelled.1, (cancelled.2.handleAppContinuousTaskStop record.uid).saveTasks env)

/-- The tasks end one after the other, up to the first failure. -/
def stopTasks (env : Env) : List Int → BgContinuousTaskMgr → ErrCode × BgContinuousTaskMgr
  | [], self => (.ok, self)
  | continuousTaskId :: rest, self =>
      let stopped := self.stopBackgroundRunningByTask env continuousTaskId
      if stopped.1 ≠ .ok then stopped else stopTasks env rest stopped.2

def inContext (uid : Int) (abilityName : String) (abilityId : Int)
    (record : ContinuousTaskRecord) : Bool :=
  record.uid == uid && record.abilityName == abilityName && record.abilityId == abilityId

def stopBackgroundRunningByContext (env : Env) (uid : Int) (abilityName : String)
    (abilityId : Int) (self : BgContinuousTaskMgr) : ErrCode × BgContinuousTaskMgr :=
  stopTasks env (((KeyedMap.vals self.continuousTaskInfosMap).filter
    (inContext uid abilityName abilityId)).map (fun record => record.continuousTaskId)) self

def stopBackgroundRunningInner (env : Env) (uid : Int) (abilityName : String) (abilityId : Int)
    (continuousTaskId : Int) (self : BgContinuousTaskMgr) : ErrCode × BgContinuousTaskMgr :=
  if continuousTaskId ≠ -1 then
    if (self.findTask (fun _ task => task.continuousTaskId == continuousTaskId)).isNone then
      (.objectNotExist, self)
    else self.stopBackgroundRunningByTask env continuousTaskId
  else if (self.findTask (fun _ task => inContext uid abilityName abilityId task)).isNone then
    (.objectNotExist, self)
  else self.stopBackgroundRunningByContext env uid abilityName abilityId

def stopBackgroundRunning (env : Env) (callingUid : Int) (abilityName : String) (abilityId : Int)
    (continuousTaskId : Int) (self : BgContinuousTaskMgr) : ErrCode × BgContinuousTaskMgr :=
  if !self.isSysReady then (.sysNotReady, self)
  else if abilityName = "" then (.invalidParam, self)
  else self.stopBackgroundRunningInner env callingUid abilityName abilityId continuousTaskId

/-! ## Inner interface -/

def startBackgroundRunningForInner (env : Env) (taskParam : ContinuousTaskParamForInner)
    (callingUid : Int) (self : BgContinuousTaskMgr) : ErrCode × BgContinuousTaskMgr :=
  self.startBackgroundRunningInner env (innerRecord env taskParam callingUid)

def stopBackgroundRunningForInner (env : Env) (taskParam : ContinuousTaskParamForInner)
    (callingUid : Int) (self : BgContinuousTaskMgr) : ErrCode × BgContinuousTaskMgr :=
  self.stopBackgroundRunningInner env taskParam.uid
    (getAbilityNamePid env taskParam (innerPid env taskParam) callingUid) taskParam.abilityId (-1)

def requestBackgroundRunningForInner (env : Env) (callingUid : Int)
    (taskParam : ContinuousTaskParamForInner) (self : BgContinuousTaskMgr) :
    ErrCode × BgContinuousTaskMgr :=
  if !self.isSysReady then (.sysNotReady, self)
  else if !checkPermissionForInner taskParam callingUid then (.checkTaskParam, self)
  else if taskParam.isStart then self.startBackgroundRunningForInner env taskParam callingUid
  else self.stopBackgroundRunningForInner env taskParam callingUid

def debugContinuousTaskInner (env : Env) (taskParam : ContinuousTaskParamForInner)
    (self : BgContinuousTaskMgr) : ErrCode × BgContinuousTaskMgr :=
  if !self.isSysReady then (.sysNotReady, self)
  else if taskParam.isStart then self.startBackgroundRunningForInner env taskParam 0
  else self.stopBackgroundRunningForInner env taskParam 0

/-! ## Update -/

def checkIsSysReadyAndPermission (env : Env) (callingUid : Int) (self : BgContinuousTaskMgr) :
    ErrCode :=
  if !self.isSysReady then .sysNotReady
  else if !env.bgmodePermission then .permissionDenied
  else if callingUid < 0 then .invalidUid
  else .ok

/-- The record as `UpdateTaskNotification` changes it before it turns to the
notification. -/
def updatedTask (taskParam : ContinuousTaskParam) (record : ContinuousTaskRecord) :
    ContinuousTaskRecord :=
  let agent := { record with
    wantAgent := taskParam.wantAgent
    wantAgentInfo := ((pendingWant taskParam.wantAgent).map
      (fun want => ⟨want.bundleName, want.abilityName⟩)).orElse (fun _ => record.wantAgentInfo) }
  if record.isCombinedTaskNotification then agent
  else { agent with
    bgModeId := taskParam.bgModeId
    bgModeIds := taskParam.bgModeIds
    bgSubModeIds := taskParam.bgSubModeIds }

def updateOwnNotification (env : Env) (key : String) (record : ContinuousTaskRecord)
    (self : BgContinuousTaskMgr) : ErrCode × BgContinuousTaskMgr :=
  let prompt := self.checkNotificationText env record
  let noted := prompt.note record
  if prompt.text = "" then (.ok, self.setRecord key noted)
  else if record.notificationId = -1 then
    let sent := self.sendContinuousTaskNotification env noted
    (sent.ret, self.setSent key sent)
  else
    let refreshed := self.tools.refreshContinuousNotificationWantAndContext env.toNotificationEnv
      [(record.notificationLabel, env.mainAbilityLabel record.bundleName record.userId,
        prompt.text)] noted true
    (refreshed.1, (self.setTools refreshed.2).setRecord key noted)

def updateTaskNotification (env : Env) (taskParam : ContinuousTaskParam) (key : String)
    (record : ContinuousTaskRecord) (self : BgContinuousTaskMgr) :
    ErrCode × BgContinuousTaskMgr :=
  let mainAbilityLabel := env.mainAbilityLabel record.bundleName record.userId
  let updated := updatedTask taskParam record
  let stored := self.setRecord key updated
  if mainAbilityLabel = "" then (.notificationVerifyFailed, self)
  else if !record.isCombinedTaskNotification then stored.updateOwnNotification env key updated
  else if checkModesSame record.bgModeIds taskParam.bgModeIds then
    let refreshed := self.tools.refreshContinuousNotificationWantAndContext env.toNotificationEnv
      [(record.notificationLabel, mainAbilityLabel, "")] updated false
    (refreshed.1, stored.setTools refreshed.2)
  else (.continuousUpdateFailSameModeAndMerged, stored)

/-- The end of both updates: a suspended task becomes active, the update is announced. -/
def finishUpdate (env : Env) (key : String) (self : BgContinuousTaskMgr) :
    ErrCode × BgContinuousTaskMgr :=
  match self.continuousTaskInfosMap.lookup key with
  | none => (.ok, self)
  | some record =>
      let active := if record.suspendState then self.handleActiveContinuousTask env record.uid
        else self
      match active.continuousTaskInfosMap.lookup key with
      | none => (.ok, active)
      | some updated => (active.onContinuousTaskChanged updated .taskUpdate).refreshTaskRecord env

def updateTaskInfo (env : Env) (taskParam : ContinuousTaskParam) (key : String)
    (record : ContinuousTaskRecord) (self : BgContinuousTaskMgr) :
    ErrCode × BgContinuousTaskMgr :=
  let notified := self.updateTaskNotification env taskParam key record
  if notified.1 ≠ .ok then notified else notified.2.finishUpdate env key

def updateBackgroundRunningByTaskIdInner (env : Env) (uid : Int)
    (taskParam : ContinuousTaskParam) (self : BgContinuousTaskMgr) :
    ErrCode × BgContinuousTaskMgr :=
  if uid ∈ self.disableRequestUidList then (.maliciousContinuoustask, self)
  else if taskParam.updateTaskId < 0 then (.continuousTaskidInvalid, self)
  else
    match self.findTask (fun _ task => task.continuousTaskId == taskParam.updateTaskId &&
      task.isByRequestObject) with
    | none => (.objectNotExist, self)
    | some (key, record) =>
        let modes := checkBgmodeTypes env (self.getBackgroundModeInfo uid record.abilityName) true
          record taskParam.bgModeIds
        if modes ≠ .ok then (modes, self)
        else if checkExistMode record.bgModeIds BackgroundMode.dataTransfer ||
            checkExistMode taskParam.bgModeIds BackgroundMode.dataTransfer then
          (.continuousDataTransferNotUpdate, self)
        else if taskParam.progressInfo.isSome then (.continuousProgressInfoInvalid, self)
        else if checkExistMode record.bgModeIds BackgroundMode.specialScenarioProcessing &&
            taskParam.isCombinedTaskNotification then
          (.continuousSpecialScenarioProcessingNotMergeNotification, self)
        else self.updateTaskInfo env taskParam key record

def dropSubModes (taskParam : ContinuousTaskParam) (record : ContinuousTaskRecord) :
    ContinuousTaskRecord :=
  if !checkExistMode taskParam.bgModeIds BackgroundMode.bluetoothInteraction then
    { record with bgSubModeIds := [] }
  else record

def withModes (taskParam : ContinuousTaskParam) (record : ContinuousTaskRecord) :
    ContinuousTaskRecord :=
  { dropSubModes taskParam record with
    bgModeIds := taskParam.bgModeIds
    isBatchApi := taskParam.isBatchApi }

def updateBackgroundRunningInner (env : Env) (key : String) (taskParam : ContinuousTaskParam)
    (self : BgContinuousTaskMgr) : ErrCode × BgContinuousTaskMgr :=
  match self.continuousTaskInfosMap.lookup key with
  | none => (.objectNotExist, self)
  | some record =>
      let modes := checkBgmodeTypes env (self.getBackgroundModeInfo record.uid record.abilityName)
        true (dropSubModes taskParam record) taskParam.bgModeIds
      let updated := withModes taskParam record
      let stored := self.setRecord key updated
      let sent := stored.sendContinuousTaskNotification env updated
      if record.uid ∈ self.disableRequestUidList then (.maliciousContinuoustask, self)
      else if checkModesSame record.bgModeIds taskParam.bgModeIds then (.ok, self)
      else if modes ≠ .ok then (modes, self.setRecord key (dropSubModes taskParam record))
      else if checkExistMode record.bgModeIds BackgroundMode.dataTransfer &&
          checkExistMode taskParam.bgModeIds BackgroundMode.dataTransfer then
        stored.finishUpdate env key
      else if sent.ret ≠ .ok then (sent.ret, stored.setSent key sent)
      else (stored.setSent key sent).finishUpdate env key

def updateBackgroundRunning (env : Env) (callingUid : Int) (taskParam : ContinuousTaskParam)
    (self : BgContinuousTaskMgr) : ErrCode × BgContinuousTaskMgr :=
  if self.checkIsSysReadyAndPermission env callingUid ≠ .ok then
    (self.checkIsSysReadyAndPermission env callingUid, self)
  else if taskParam.isByRequestObject then
    self.updateBackgroundRunningByTaskIdInner env callingUid taskParam
  else self.updateBackgroundRunningInner env
    (abilityKey callingUid taskParam.abilityName taskParam.abilityId) taskParam

def withProgress (progress : DataTransferProgress) (record : ContinuousTaskRecord) :
    ContinuousTaskRecord :=
  { record with
    wantAgent := progress.wantAgent.orElse (fun _ => record.wantAgent)
    progressInfo := progress.progressInfo }

def updateDataTransferProgressInner (env : Env) (uid : Int) (progress : DataTransferProgress)
    (self : BgContinuousTaskMgr) : ErrCode × BgContinuousTaskMgr :=
  if progress.continuousTaskId < 0 then (.continuousTaskidInvalid, self)
  else if progress.progressInfo.isNone then (.continuousProgressInfoInvalid, self)
  else
    match self.findTask (fun _ task =>
      task.continuousTaskId == progress.continuousTaskId && task.uid == uid) with
    | none => (.objectNotExist, self)
    | some (key, record) =>
        let updated := withProgress progress record
        let stored := self.setRecord key updated
        let sent := stored.sendContinuousTaskNotification env updated
        if !checkExistMode record.bgModeIds BackgroundMode.dataTransfer then
          (.continuousNotDataTransfer, self)
        else if sent.ret ≠ .ok then (sent.ret, stored.setSent key sent)
        else (stored.setSent key sent).refreshTaskRecord env

def updateDataTransferProgress (env : Env) (callingUid : Int) (progress : DataTransferProgress)
    (self : BgContinuousTaskMgr) : ErrCode × BgContinuousTaskMgr :=
  if self.checkIsSysReadyAndPermission env callingUid ≠ .ok then
    (self.checkIsSysReadyAndPermission env callingUid, self)
  else self.updateDataTransferProgressInner env callingUid progress

end BgContinuousTaskMgr

end BgTaskMgr.Continuous
