import BgTaskMgr.Continuous.Notification

/-!
# State of the continuous task manager

The state of `BgContinuousTaskMgr`, what the surrounding system answers during one call,
the calls to subscribers, and the texts of notifications.
-/

set_option autoImplicit false

namespace BgTaskMgr.Continuous

/-! ## The surrounding system -/

structure Env extends NotificationEnv where
  callingPid : Int := 0
  callingFullTokenId : Nat := 0
  callingTokenId : Nat := 0
  /-- `GetClientBundleName`. -/
  clientBundleName : Int → String := fun _ => "app"
  /-- `GetOsAccountLocalIdFromUid`. -/
  osAccountLocalId : Int → Int := fun _ => 0
  /-- `CheckPermission(BGMODE_PERMISSION)`. -/
  bgmodePermission : Bool := true
  isSystemApp : Nat → Bool := fun _ => false
  /-- `CheckSpecialScenarioACLPermission`. -/
  specialScenarioACLPermission : Nat → Bool := fun _ => false
  isTaskKeepingExemptedQuatoApp : String → Bool := fun _ => false
  isSpecialExemptedQuatoApp : String → Bool := fun _ => false
  isMaliciousAppConfig : String → Bool := fun _ => false
  supportTaskKeeping : Bool := false
  supportAuth : Bool := true
  isGamePreLaunchApp : Int → Bool := fun _ => false
  /-- `GetBundleInfo`: name and background modes of each ability. -/
  bundleInfo : String → Int → Option (List (String × BitVec 32)) := fun _ _ => none
  /-- `GetMainAbilityLabel`, empty when there is none. -/
  mainAbilityLabel : String → Int → String := fun _ _ => "app"
  /-- `CheckAppIsPlaying`. -/
  appIsPlaying : Int → Bool := fun _ => true
  /-- The uids of `GetForegroundApplications`. -/
  foregroundApplications : Option (List Int) := some []
  /-- The pids of `GetAllRunningProcesses`. -/
  allRunningProcesses : Option (List Int) := some []
  /-- Pid, uid and ability name of `GetAbilityRunningInfos`. -/
  abilityRunningInfos : Option (List (Int × Int × String)) := none
  /-- `GetStringByName` of the resource bundle, when the bundle is there. -/
  resourceString : Option (String → String) := none
  /-- `GetStringFormatByName` for a number of modes, empty when it fails. -/
  formatString : String → List String → String := fun _ _ => ""
  saveOk : Bool := true
  /-- Where a save that does not succeed stops. -/
  saveFailure : SaveFailure := .openFile
  fileReadable : Bool := true
  /-- `GetAppIndexAndBundleNameByUid`. -/
  appIndexAndBundleName : Int → Option (Int × String) := fun _ => none
  /-- `QueryActiveOsAccountIds`; in a car, the accounts in the foreground. -/
  activatedOsAccountIds : Option (List Int) := some [0]

def Env.NotificationsSucceed (env : Env) : Prop :=
  (∀ label id, env.publishOk label id = true) ∧ ∀ label id, env.cancelOk label id = true

/-! ## Subscribers -/

structure SubscriberInfo where
  /-- The remote object. -/
  remote : Nat
  uid : Int
  pid : Int
  isHap : Bool
  flag : BitVec 32
  deriving DecidableEq, Repr

structure ContinuousTaskCallbackInfo where
  typeId : Nat
  creatorUid : Int
  creatorPid : Int
  abilityName : String
  isFromWebview : Bool
  isBatchApi : Bool
  typeIds : List Nat
  abilityId : Int
  tokenId : Nat
  continuousTaskId : Int
  cancelReason : StopReason
  detailedCancelReason : Int := 0
  suspendState : Bool
  suspendReason : Int
  isByRequestObject : Bool
  bundleName : String
  userId : Int
  appIndex : Int
  notificationId : Int := -1
  bgSubModeIds : List Nat := []
  wantAgentInfo : Option WantAgentInfo := none
  isStandby : Bool := false
  isFromComponent : Bool := false
  deriving DecidableEq, Repr

def audioCallbackInfo (record : ContinuousTaskRecord) : ContinuousTaskCallbackInfo where
  typeId := record.bgModeId
  creatorUid := record.uid
  creatorPid := record.pid
  abilityName := record.abilityName
  isFromWebview := record.isFromWebview
  isBatchApi := record.isBatchApi
  typeIds := record.bgModeIds
  abilityId := record.abilityId
  tokenId := record.fullTokenId
  continuousTaskId := record.continuousTaskId
  cancelReason := record.reason
  suspendState := record.suspendState
  suspendReason := record.suspendReason
  isByRequestObject := record.isByRequestObject
  bundleName := record.bundleName
  userId := record.userId
  appIndex := record.appIndex

def callbackInfo (record : ContinuousTaskRecord) : ContinuousTaskCallbackInfo :=
  { audioCallbackInfo record with
    detailedCancelReason := record.detailedCancelReason
    notificationId := record.notificationId
    bgSubModeIds := record.bgSubModeIds
    wantAgentInfo := record.wantAgentInfo
    isStandby := record.isStandby
    isFromComponent := record.isFromComponent }

inductive ContinuousTaskEventTriggerType where
  | taskStart
  | taskUpdate
  | taskCancel
  | taskSuspend
  | taskActive
  deriving DecidableEq, Repr

inductive SubscriberCall where
  | onContinuousTaskStart (info : ContinuousTaskCallbackInfo)
  | onContinuousTaskUpdate (info : ContinuousTaskCallbackInfo)
  | onContinuousTaskStop (info : ContinuousTaskCallbackInfo)
  | onContinuousTaskSuspend (info : ContinuousTaskCallbackInfo)
  | onContinuousTaskActive (info : ContinuousTaskCallbackInfo)
  | onAppContinuousTaskStop (uid : Int)
  deriving DecidableEq, Repr

namespace SubscriberInfo

/-- `flag_ & SUBSCRIBER_BACKGROUND_TASK_STATE`. -/
def wantsTaskState (self : SubscriberInfo) : Bool := self.flag &&& 8#32 ≠ 0#32

def canNotifyHap (info : ContinuousTaskCallbackInfo) (self : SubscriberInfo) : Bool :=
  if self.isHap && self.uid == info.creatorUid then
    if info.cancelReason == .removeNotificationCancel && info.isFromComponent then false
    else info.cancelReason == .removeNotificationCancel || info.cancelReason == .freezeCancel
  else false

def callsOf (type : ContinuousTaskEventTriggerType) (info : ContinuousTaskCallbackInfo)
    (self : SubscriberInfo) : List SubscriberCall :=
  match type with
  | .taskStart =>
      if !self.isHap || self.wantsTaskState then [.onContinuousTaskStart info] else []
  | .taskUpdate =>
      if !self.isHap || self.wantsTaskState then [.onContinuousTaskUpdate info] else []
  | .taskCancel =>
      if !self.isHap || self.canNotifyHap info || self.wantsTaskState then
        [.onContinuousTaskStop info]
      else []
  | .taskSuspend =>
      (if (!self.isHap || self.wantsTaskState) && !info.isStandby then
        [.onContinuousTaskStop info] else []) ++
      (if self.isHap && self.uid == info.creatorUid then [.onContinuousTaskSuspend info] else [])
  | .taskActive =>
      (if (!self.isHap || self.wantsTaskState) && !info.isStandby then
        [.onContinuousTaskStart info] else []) ++
      (if self.isHap && self.uid == info.creatorUid then [.onContinuousTaskActive info] else [])

end SubscriberInfo

/-! ## State -/

structure CachedBundleInfo where
  abilityBgMode : List (String × BitVec 32)
  appName : String
  deriving DecidableEq, Repr

structure NotificationTexts where
  continuousTaskText : List String := []
  continuousTaskSubText : List String := []
  startingTaskText : List String := []
  /-- Resource name and text of each mode that has one. -/
  modeForNotificationText : List (Nat × String × String) := []
  deriving DecidableEq, Repr

namespace UserAuthResult

def notDetermined : Int := 1
def grantedOnce : Int := 3
def grantedAlways : Int := 4

end UserAuthResult

structure BannerNotificationRecord where
  bundleName : String := ""
  uid : Int := 0
  notificationId : Int := -1
  notificationLabel : String := ""
  appName : String := ""
  authResult : Int := UserAuthResult.notDetermined
  userId : Int := 0
  appIndex : Int := -1
  deriving DecidableEq, Repr

structure BgContinuousTaskMgr where
  isSysReady : Bool := false
  continuousTaskInfosMap : TaskMap := ∅
  continuousTaskIdIndex : Int := 0
  tools : NotificationTools := {}
  /-- What the record file decodes to. -/
  file : TaskMap := ∅
  bgTaskSubscribers : List SubscriberInfo := []
  /-- The calls made to subscribers, oldest first. -/
  calls : List (Nat × SubscriberCall) := []
  avSessionNotification : KeyedMap Int Bool := ∅
  delayTasks : List Int := []
  /-- The posted tasks `TASK_NOTIFY_AUDIO_PLAYBACK_SEND`: uid and pid. -/
  delayedNotify : List (Int × Int) := []
  liveViewInfo : KeyedMap Int (List String) := ∅
  cachedBundleInfos : KeyedMap Int CachedBundleInfo := ∅
  applyTaskOnForeground : KeyedMap Int (List Nat) := ∅
  appOnForeground : List Int := []
  bannerNotificationRecord : KeyedMap String BannerNotificationRecord := ∅
  /-- What the authorisation file decodes to. -/
  authFile : KeyedMap String BannerNotificationRecord := ∅
  disableRequestUidList : List Int := []
  texts : NotificationTexts := {}

namespace BgContinuousTaskMgr

/-! ## Elementary updates -/

/-- A change made through the pointer stored under `key`. -/
def setRecord (key : String) (record : ContinuousTaskRecord) (self : BgContinuousTaskMgr) :
    BgContinuousTaskMgr :=
  { self with
    continuousTaskInfosMap := KeyedMap.adjust key (fun _ => record) self.continuousTaskInfosMap }

def eraseRecord (key : String) (self : BgContinuousTaskMgr) : BgContinuousTaskMgr :=
  { self with continuousTaskInfosMap := self.continuousTaskInfosMap.erase key }

def setTools (tools : NotificationTools) (self : BgContinuousTaskMgr) : BgContinuousTaskMgr :=
  { self with tools := tools }

/-- `NotificationTools::CancelNotification`, its result ignored. -/
def cancelPair (env : Env) (pair : String × Int) (self : BgContinuousTaskMgr) :
    BgContinuousTaskMgr :=
  self.setTools (self.tools.cancelNotification env.toNotificationEnv pair).2

def cancelSubPair (env : Env) (record : ContinuousTaskRecord) (self : BgContinuousTaskMgr) :
    BgContinuousTaskMgr :=
  if record.subNotificationId ≠ -1 && record.isByRequestObject then
    self.cancelPair env record.subPair
  else self

def onContinuousTaskChanged (record : ContinuousTaskRecord)
    (type : ContinuousTaskEventTriggerType) (self : BgContinuousTaskMgr) : BgContinuousTaskMgr :=
  { self with
    calls := self.calls ++ self.bgTaskSubscribers.flatMap (fun subscriber =>
      (subscriber.callsOf type (callbackInfo record)).map (fun call => (subscriber.remote, call))) }

def handleAppContinuousTaskStop (uid : Int) (self : BgContinuousTaskMgr) : BgContinuousTaskMgr :=
  if (KeyedMap.vals self.continuousTaskInfosMap).any (fun record => record.uid == uid) then self
  else { self with
    calls := self.calls ++ (self.bgTaskSubscribers.filter (fun subscriber => !subscriber.isHap)).map
      (fun subscriber => (subscriber.remote, .onAppContinuousTaskStop uid)) }

def refreshTaskRecord (env : Env) (self : BgContinuousTaskMgr) : ErrCode × BgContinuousTaskMgr :=
  if env.saveOk then
    (.ok, { self with
      file := KeyedMap.mapVal (fun _ record => record.persisted) self.continuousTaskInfosMap })
  else (env.saveFailure.code, self)

/-- `RefreshTaskRecord`, its result ignored. -/
def saveTasks (env : Env) (self : BgContinuousTaskMgr) : BgContinuousTaskMgr :=
  (self.refreshTaskRecord env).2

def setSent (key : String) (sent : Sent) (self : BgContinuousTaskMgr) : BgContinuousTaskMgr :=
  (self.setTools sent.tools).setRecord key sent.record

def forEachTask (body : String → ContinuousTaskRecord → BgContinuousTaskMgr → BgContinuousTaskMgr)
    (self : BgContinuousTaskMgr) : BgContinuousTaskMgr :=
  KeyedMap.forEach continuousTaskInfosMap body self

def findTask (found : String → ContinuousTaskRecord → Bool) (self : BgContinuousTaskMgr) :
    Option (String × ContinuousTaskRecord) :=
  (self.continuousTaskInfosMap.entries.find? (fun entry => found entry.1 entry.2)).map
    (fun entry => (entry.1, entry.2))

/-- `IsExistCallback` for `CONTINUOUS_TASK_SUSPEND` (2) and `CONTINUOUS_TASK_ACTIVE` (4). -/
def isExistCallback (uid : Int) (type : BitVec 32) (self : BgContinuousTaskMgr) : Bool :=
  self.bgTaskSubscribers.any (fun subscriber =>
    subscriber.isHap && subscriber.uid == uid && subscriber.flag &&& type ≠ 0#32)

end BgContinuousTaskMgr

end BgTaskMgr.Continuous
