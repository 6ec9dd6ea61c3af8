import BgTaskMgr.Continuous.Events
import BgTaskMgr.Lib.StepSystem

/-!
# Runs of the continuous task manager

The operations of the manager as the labels of a step function, and the life of the
service around them: the restoration of the record file at its start, and its restart,
after which the record file and the notifications are all that is left.
-/

set_option autoImplicit false

namespace BgTaskMgr.Continuous

inductive ClientCall where
  | startBackgroundRunning (taskParam : ContinuousTaskParam)
  | updateBackgroundRunning (taskParam : ContinuousTaskParam)
  | stopBackgroundRunning (abilityName : String) (abilityId continuousTaskId : Int)
  | updateDataTransferProgress (progress : DataTransferProgress)

inductive TaskOp where
  | client (callingUid : Int) (call : ClientCall)
  | requestBackgroundRunningForInner (callingUid : Int) (taskParam : ContinuousTaskParamForInner)
  | debugContinuousTask (taskParam : ContinuousTaskParamForInner)
  | stopContinuousTask (uid : Int) (taskType : Nat) (key : String)
  | suspendContinuousTask (uid mode : Int) (key : String) (isStandby : Bool)
  | activeContinuousTask (uid : Int) (isStandby : Bool)
  | suspendContinuousAudioTask (uid : Int)
  | avSessionNotifyUpdateNotification (callingUid uid pid : Int) (isPublish : Bool)
  | runDelayedNotify
  | onAbilityStateChanged (uid : Int) (abilityName : String) (abilityId : Int)
  | onAppStopped (uid : Int)
  | onAppStateChanged (uid : Int) (foreground : Bool)
  | onBundleInfoChanged (action : BgContinuousTaskMgr.PackageAction) (bundleName : String)
      (uid userId appIndex : Int)
  | onAccountsStateChanged
  | onRemoveSystemAbility (mode : Nat)
  | onConsumed (uid : Int)
  | onLiveViewCanceled (uid : Int)
  | onCanceled (pair : String × Int) (deleteReason : BgContinuousTaskMgr.DeleteReason)
  | stopBannerContinuousTaskByUser (label : String)
  | shellDumpCancel (taskKey : Option String)
  | onBundleResourcesChanged
  | sendNotificationByDeteTask (taskKeys : List String)
  | notifyAudioStart (uid : Int)
  | addSubscriber (info : SubscriberInfo)
  | removeSubscriber (remote : Nat) (flag : BitVec 32)
  | onRemoteSubscriberDied (remote : Nat)
  | enableContinuousTaskRequest (uid : Int) (isEnable : Bool)
  /-- The banner of an authorisation request is published. -/
  | publishBannerNotification
  /-- The unordered map changes its iteration order. -/
  | rehash (rank : String → Nat)

namespace BgContinuousTaskMgr

def clientCall (env : Env) (callingUid : Int) (self : BgContinuousTaskMgr) :
    ClientCall → ErrCode × BgContinuousTaskMgr
  | .startBackgroundRunning taskParam => self.startBackgroundRunning env callingUid taskParam
  | .updateBackgroundRunning taskParam => self.updateBackgroundRunning env callingUid taskParam
  | .stopBackgroundRunning abilityName abilityId continuousTaskId =>
      self.stopBackgroundRunning env callingUid abilityName abilityId continuousTaskId
  | .updateDataTransferProgress progress =>
      self.updateDataTransferProgress env callingUid progress

def rehash (rank : String → Nat) (self : BgContinuousTaskMgr) : BgContinuousTaskMgr :=
  { self with continuousTaskInfosMap := KeyedMap.reorder rank self.continuousTaskInfosMap }

def taskStep (self : BgContinuousTaskMgr) (label : Env × TaskOp) : BgContinuousTaskMgr :=
  let env := label.1
  match label.2 with
  | .client callingUid call => (self.clientCall env callingUid call).2
  | .requestBackgroundRunningForInner callingUid taskParam =>
      (self.requestBackgroundRunningForInner env callingUid taskParam).2
  | .debugContinuousTask taskParam => (self.debugContinuousTaskInner env taskParam).2
  | .stopContinuousTask uid taskType key => self.stopContinuousTask env uid taskType key
  | .suspendContinuousTask uid mode key isStandby =>
      self.suspendContinuousTask env uid mode key isStandby
  | .activeContinuousTask uid isStandby => self.activeContinuousTask env uid isStandby
  | .suspendContinuousAudioTask uid => self.suspendContinuousAudioTask env uid
  | .avSessionNotifyUpdateNotification callingUid uid pid isPublish =>
      (self.avSessionNotifyUpdateNotification env callingUid uid pid isPublish).2
  | .runDelayedNotify => self.runDelayedNotify env
  | .onAbilityStateChanged uid abilityName abilityId =>
      self.onAbilityStateChanged env uid abilityName abilityId
  | .onAppStopped uid => self.onAppStopped env uid
  | .onAppStateChanged uid foreground => self.onAppStateChanged uid foreground
  | .onBundleInfoChanged action bundleName uid userId appIndex =>
      self.onBundleInfoChanged env action bundleName uid userId appIndex
  | .onAccountsStateChanged => self.onAccountsStateChanged env
  | .onRemoveSystemAbility mode => self.onRemoveSystemAbility env mode
  | .onConsumed uid => self.onConsumed env uid
  | .onLiveViewCanceled uid => self.onLiveViewCanceled env uid
  | .onCanceled pair deleteReason => self.onCanceled env pair deleteReason
  | .stopBannerContinuousTaskByUser label => self.stopBannerContinuousTaskByUser env label
  | .shellDumpCancel taskKey => self.shellDumpCancel env taskKey
  | .onBundleResourcesChanged => self.onBundleResourcesChanged env
  | .sendNotificationByDeteTask taskKeys => self.sendNotificationByDeteTask env taskKeys
  | .notifyAudioStart uid => self.notifyAudioStart env uid
  | .addSubscriber info => self.addSubscriber info
  | .removeSubscriber remote flag => self.removeSubscriber remote flag
  | .onRemoteSubscriberDied remote => self.onRemoteSubscriberDied remote
  | .enableContinuousTaskRequest uid isEnable => self.enableContinuousTaskRequest uid isEnable
  | .publishBannerNotification => self.setTools self.tools.publishBannerNotification
  | .rehash rank => self.rehash rank

/-! ## Start of the service -/

def checkRestored (env : Env) (allProcesses : List Int) (key : String)
    (record : ContinuousTaskRecord) (self : BgContinuousTaskMgr) : BgContinuousTaskMgr :=
  if !(allProcesses.contains record.pid) then
    ((self.eraseRecord key).cancelNotification env record).2
  else if record.notificationId = -1 then self
  else
    let cached := self.setCachedBundleInfo env record
    cached.setSent key (cached.handleActiveNotification env record)

/-- The largest value the records have in a field, -1 when there is none. -/
def maxOf (field : ContinuousTaskRecord → Int) (map : TaskMap) : Int :=
  (KeyedMap.vals map).foldl (fun largest record => max largest (field record)) (-1)

def checkPersistenceData (env : Env) (allProcesses : List Int) (self : BgContinuousTaskMgr) :
    BgContinuousTaskMgr :=
  let maxNotificationId := maxOf (fun record => record.notificationId) self.continuousTaskInfosMap
  let maxContinuousTaskId := maxOf (fun record => record.continuousTaskId)
    self.continuousTaskInfosMap
  let checked := self.forEachTask (checkRestored env allProcesses)
  { checked with
    tools := if maxNotificationId ≠ -1 then
        { checked.tools with notificationIdIndex := maxNotificationId }
      else checked.tools
    continuousTaskIdIndex := if maxContinuousTaskId ≠ -1 then maxContinuousTaskId
      else checked.continuousTaskIdIndex }

def addApplied (applied : KeyedMap Int (List Nat)) (record : ContinuousTaskRecord) :
    KeyedMap Int (List Nat) :=
  match applied.lookup record.uid with
  | none => applied.insert record.uid record.bgModeIds
  | some modes => applied.insert record.uid (addModes modes record.bgModeIds)

def restoreApplyRecord (env : Env) (self : BgContinuousTaskMgr) : BgContinuousTaskMgr :=
  match env.foregroundApplications with
  | none => { self with appOnForeground := [] }
  | some uids =>
      { self with
        appOnForeground := uids
        applyTaskOnForeground := (KeyedMap.vals self.continuousTaskInfosMap).foldl addApplied ∅ }

def isAuthOf (bundleName : String) (userId appIndex : Int) (record : BannerNotificationRecord) :
    Bool :=
  record.bundleName == bundleName && record.userId == userId && record.appIndex == appIndex

def findAuthRecord (bundleName : String) (userId appIndex : Int)
    (records : KeyedMap String BannerNotificationRecord) :
    Option (Σ _ : String, BannerNotificationRecord) :=
  records.entries.find? (fun entry => isAuthOf bundleName userId appIndex entry.2)

def addRestored (restored : KeyedMap String BannerNotificationRecord)
    (entry : Σ _ : String, BannerNotificationRecord) : KeyedMap String BannerNotificationRecord :=
  if (findAuthRecord entry.2.bundleName entry.2.userId entry.2.appIndex restored).isSome then
    restored
  else KeyedMap.emplace entry.1 entry.2 restored

def jsonOrder (records : KeyedMap String BannerNotificationRecord) :
    List (Σ _ : String, BannerNotificationRecord) :=
  records.entries.insertionSort (fun first second => first.1 ≤ second.1)

/-- `RestoreAuthRecord` up to the refresh at its end. -/
def restoreAuthRecord (env : Env) (self : BgContinuousTaskMgr) : BgContinuousTaskMgr :=
  if !env.fileReadable then self
  else
    { self with
      bannerNotificationRecord :=
        (jsonOrder self.authFile).foldl addRestored self.bannerNotificationRecord }

def restoreTaskRecord (env : Env) (self : BgContinuousTaskMgr) : BgContinuousTaskMgr :=
  if env.fileReadable then
    { self with continuousTaskInfosMap := self.continuousTaskInfosMap ∪ self.file }
  else self

def handlePersistenceData (env : Env) (self : BgContinuousTaskMgr) : BgContinuousTaskMgr :=
  let restored := self.restoreTaskRecord env
  match env.allRunningProcesses with
  | none => restored
  | some allProcesses =>
      ((((restored.checkPersistenceData env allProcesses).saveTasks env).restoreApplyRecord
        env).restoreAuthRecord env).refreshAuthRecord env

def initRequiredResourceInfo (env : Env) (self : BgContinuousTaskMgr) : BgContinuousTaskMgr :=
  let prompted := { self with
    texts := getNotificationPrompt env.resourceString
      { self.texts with modeForNotificationText := initNotificationText } }
  { prompted.handlePersistenceData env with isSysReady := true }

def restart (self : BgContinuousTaskMgr) : BgContinuousTaskMgr :=
  { tools := { self.tools with notificationIdIndex := -1 }
    file := self.file
    authFile := self.authFile }

end BgContinuousTaskMgr

inductive ServiceOp where
  | task (op : TaskOp)
  | initRequiredResourceInfo
  | restart

namespace BgContinuousTaskMgr

/-- One step of the service; its resources are initialised once in each process. -/
def serviceStep (self : BgContinuousTaskMgr) (label : Env × ServiceOp) : BgContinuousTaskMgr :=
  match label.2 with
  | .task op => self.taskStep (label.1, op)
  | .initRequiredResourceInfo =>
      if self.isSysReady then self else self.initRequiredResourceInfo label.1
  | .restart => self.restart

def installed (hash : String → Nat) : BgContinuousTaskMgr := { tools := { hash := hash } }

end BgContinuousTaskMgr

/-! ## A device for concrete runs -/

/-- A device on which every app has one ability that declares data transfer, playback,
recording and location, and on which every process runs. -/
def deviceEnv : Env :=
  { callingPid := 7
    bundleInfo := fun _ _ => some [("EntryAbility", 15#32)]
    allRunningProcesses := some [7]
    resourceString := some (fun name => name)
    formatString := fun name _ => name }

def silentEnv : Env := { deviceEnv with allRunningProcesses := none }

def requestOf (modes subModes : List Nat) : ContinuousTaskParam :=
  { isNewApi := true
    wantAgent := some ⟨none⟩
    abilityName := "EntryAbility"
    isBatchApi := true
    bgModeIds := modes
    abilityId := 1
    bgSubModeIds := subModes
    isByRequestObject := true
    appIndex := 0 }

def deviceStart (callingUid : Int) (taskParam : ContinuousTaskParam) : Env × TaskOp :=
  ({ deviceEnv with foregroundApplications := some [callingUid] },
    .client callingUid (.startBackgroundRunning taskParam))

end BgTaskMgr.Continuous
