import BgTaskMgr.Common.ErrCode
import BgTaskMgr.Lib.MapLoop

/-!
# Continuous task records

`ContinuousTaskRecord` with the request types it is built from, the mode predicates of
`CommonUtils`, and what of a record survives the record file.
-/

set_option autoImplicit false

namespace BgTaskMgr.Continuous

/-! ## Modes and reasons -/

namespace BackgroundMode

def dataTransfer : Nat := 1
def audioPlayback : Nat := 2
def audioRecording : Nat := 3
def location : Nat := 4
def bluetoothInteraction : Nat := 5
def multiDeviceConnection : Nat := 6
def wifiInteraction : Nat := 7
def voip : Nat := 8
def taskKeeping : Nat := 9
def workout : Nat := 10
def specialScenarioProcessing : Nat := 13
def nearlink : Nat := 14

end BackgroundMode

def modeAvPlaybackAndRecord : Nat := 12

def carKey : Nat := 1

namespace BackgroundTaskSubmode

def submodeAvsessionAudioPlayback : Nat := 5
def submodeMediaProcessNormalNotification : Nat := 9
def submodeVideoBroadcastNormalNotification : Nat := 10
def submodeWorkOutNormalNotification : Nat := 11

end BackgroundTaskSubmode

def allModes : Nat := 0xFF

def bgmodeNums : Nat := 10

def abilityTaskMaxNum : Nat := 10

/-- The stop reasons of `continuous_task_record.h`. -/
inductive StopReason where
  | userCancel
  | removeNotificationCancel
  | freezeCancel
  | systemCancel
  deriving DecidableEq, Repr

namespace ContinuousTaskCancelReason

def invalidReason : Int := 0
def userCancelRemoveNotification : Int := 3
def systemCancelAudioPlaybackNotRunning : Int := 6
def systemCancelUseIllegally : Int := 11
def systemCancelDataTransferNotUpdate : Int := 12

end ContinuousTaskCancelReason

def getDetailedCancelReasonFromMode (mode : Nat) : Int :=
  if mode = BackgroundMode.dataTransfer then 4
  else if mode = BackgroundMode.audioPlayback then 6
  else if mode = BackgroundMode.audioRecording then 7
  else if mode = BackgroundMode.location then 8
  else if mode = BackgroundMode.bluetoothInteraction then 9
  else if mode = BackgroundMode.multiDeviceConnection then 10
  else if mode = BackgroundMode.voip then 13
  else if mode = BackgroundMode.specialScenarioProcessing then 14
  else ContinuousTaskCancelReason.invalidReason

def systemSuspendAudioPlaybackNotRunning : Int := 6

/-- `ContinuousTaskSuspendReason::GetSuspendReasonValue`, with -1 in place of 0 as both
callers store it. -/
def suspendReasonOf (mode : Int) (isStandby : Bool) : Int :=
  if isStandby then
    if mode = BackgroundMode.audioPlayback then 16
    else if mode = BackgroundMode.location then 15
    else if mode = BackgroundMode.bluetoothInteraction then 14
    else if mode = BackgroundMode.nearlink then 18
    else -1
  else
    if mode = BackgroundMode.dataTransfer then 4
    else if mode = BackgroundMode.audioPlayback then 6
    else if mode = BackgroundMode.audioRecording then 7
    else if mode = BackgroundMode.location then 8
    else if mode = BackgroundMode.bluetoothInteraction then 9
    else if mode = BackgroundMode.multiDeviceConnection then 10
    else if mode = BackgroundMode.voip then 13
    else if mode = BackgroundMode.specialScenarioProcessing then 19
    else if mode = BackgroundMode.nearlink then 17
    else -1

/-! ## Mode lists -/

def checkExistMode (bgModeIds : List Nat) (bgMode : Nat) : Bool := bgMode ∈ bgModeIds

def checkModesSame (oldBgModeIds newBgModeIds : List Nat) : Bool :=
  oldBgModeIds.all (fun mode => mode ∈ newBgModeIds) &&
    newBgModeIds.all (fun mode => mode ∈ oldBgModeIds)

def checkApplyMode (applyBgModeIds checkBgModeIds : List Nat) : Bool :=
  applyBgModeIds.all (fun mode => mode ∈ checkBgModeIds)

def liveViewTypes : List Nat :=
  [BackgroundMode.dataTransfer, BackgroundMode.audioRecording, BackgroundMode.location,
    BackgroundMode.voip]

def checkExistOtherMode (bgModeIds : List Nat) (bgMode : Nat) : Bool :=
  (liveViewTypes.filter (fun type => type ≠ bgMode)).any (fun type => type ∈ bgModeIds)

/-- Data transfer, recording and location come first. -/
def sortMode (bgModeIds : List Nat) : List Nat :=
  let target :=
    [BackgroundMode.dataTransfer, BackgroundMode.audioRecording, BackgroundMode.location]
  target.filter (fun mode => mode ∈ bgModeIds) ++
    bgModeIds.filter (fun mode => !(target.contains mode))

/-! ## Requests and records -/

structure Want where
  bundleName : String
  abilityName : String
  /-- The parameter `subMode`, when there is one. -/
  subMode : Option Int := none
  deriving DecidableEq, Repr

/-- A want agent; `want` is that of its pending want. -/
structure WantAgent where
  want : Option Want
  deriving DecidableEq, Repr

structure WantAgentInfo where
  bundleName : String
  abilityName : String
  deriving DecidableEq, Repr

structure ProgressInfo where
  title : String
  fileName : String
  progressValue : Int
  isMute : Bool
  deriving DecidableEq, Repr

structure ContinuousTaskParam where
  isNewApi : Bool := false
  bgModeId : Nat := 0
  wantAgent : Option WantAgent := none
  abilityName : String := ""
  appName : String := ""
  isBatchApi : Bool := false
  bgModeIds : List Nat := []
  abilityId : Int := -1
  bgSubModeIds : List Nat := []
  isCombinedTaskNotification : Bool := false
  combinedNotificationTaskId : Int := -1
  updateTaskId : Int := -1
  isByRequestObject : Bool := false
  appIndex : Int := -1
  progressInfo : Option ProgressInfo := none
  deriving DecidableEq, Repr

structure ContinuousTaskParamForInner where
  uid : Int
  bgModeId : Nat
  isStart : Bool
  abilityId : Int := -1
  pid : Int := 0
  deriving DecidableEq, Repr

structure DataTransferProgress where
  continuousTaskId : Int
  wantAgent : Option WantAgent := none
  progressInfo : Option ProgressInfo := none
  deriving DecidableEq, Repr

structure ContinuousTaskRecord where
  bundleName : String := ""
  abilityName : String := ""
  wantAgent : Option WantAgent := none
  userId : Int := 0
  uid : Int := 0
  pid : Int := 0
  bgModeId : Nat := 0
  isNewApi : Bool := false
  isFromWebview : Bool := false
  needNotificationForInnerApi : Bool := false
  notificationLabel : String := ""
  notificationId : Int := -1
  subNotificationLabel : String := ""
  subNotificationId : Int := -1
  wantAgentInfo : Option WantAgentInfo := none
  appName : String := ""
  fullTokenId : Nat := 0
  callingTokenId : Nat := 0
  isBatchApi : Bool := false
  bgModeIds : List Nat := []
  bgSubModeIds : List Nat := []
  abilityId : Int := -1
  reason : StopReason := .userCancel
  detailedCancelReason : Int := 0
  isSystem : Bool := false
  continuousTaskId : Int := -1
  suspendState : Bool := false
  suspendReason : Int := 0
  suspendAudioTaskTimes : Int := 0
  isCombinedTaskNotification : Bool := false
  combinedNotificationTaskId : Int := -1
  isByRequestObject : Bool := false
  appIndex : Int := -1
  audioDetectState : Bool := true
  audioPlayState : Bool := true
  isStandby : Bool := false
  isStandbySuspend : Bool := false
  progressInfo : Option ProgressInfo := none
  isFromComponent : Bool := false
  deriving DecidableEq, Repr

/-- `continuousTaskInfosMap_`, in its iteration order. -/
abbrev TaskMap := KeyedMap String ContinuousTaskRecord

namespace ContinuousTaskRecord

/-- The first mode besides `DATA_TRANSFER`, else the first one; a batch request has a mode. -/
def batchModeId (bgModeIds : List Nat) : Nat :=
  ((bgModeIds.find? (fun mode => mode ≠ BackgroundMode.dataTransfer)).orElse
    (fun _ => bgModeIds.head?)).getD 0

def make (bundleName abilityName : String) (uid pid : Int) (bgModeId : Nat) (isBatchApi : Bool)
    (bgModeIds : List Nat) (abilityId : Int) : ContinuousTaskRecord where
  bundleName := bundleName
  abilityName := abilityName
  uid := uid
  pid := pid
  bgModeId := if isBatchApi then batchModeId bgModeIds else bgModeId
  isBatchApi := isBatchApi
  bgModeIds := if isBatchApi then bgModeIds else bgModeIds ++ [bgModeId]
  abilityId := abilityId

/-- What `ParseFromJson` returns for the text `ParseToJsonStr` wrote: fields that are not
written come back with their defaults. -/
def persisted (record : ContinuousTaskRecord) : ContinuousTaskRecord :=
  { record with
    wantAgent := none
    appName := ""
    fullTokenId := 0
    callingTokenId := 0
    reason := .userCancel
    suspendAudioTaskTimes := 0
    audioDetectState := true }

def mainPair (record : ContinuousTaskRecord) : String × Int :=
  (record.notificationLabel, record.notificationId)

def subPair (record : ContinuousTaskRecord) : String × Int :=
  (record.subNotificationLabel, record.subNotificationId)

/-- Both are the same task: what no operation changes once the task is started. -/
structure SameTask (before after : ContinuousTaskRecord) : Prop where
  uid : after.uid = before.uid
  pid : after.pid = before.pid
  abilityName : after.abilityName = before.abilityName
  abilityId : after.abilityId = before.abilityId
  continuousTaskId : after.continuousTaskId = before.continuousTaskId
  isByRequestObject : after.isByRequestObject = before.isByRequestObject

theorem SameTask.refl (record : ContinuousTaskRecord) : SameTask record record :=
  ⟨rfl, rfl, rfl, rfl, rfl, rfl⟩

theorem SameTask.trans {first second third : ContinuousTaskRecord}
    (early : SameTask first second) (late : SameTask second third) : SameTask first third :=
  ⟨late.uid.trans early.uid, late.pid.trans early.pid,
    late.abilityName.trans early.abilityName, late.abilityId.trans early.abilityId,
    late.continuousTaskId.trans early.continuousTaskId,
    late.isByRequestObject.trans early.isByRequestObject⟩

theorem sameTask_persisted (record : ContinuousTaskRecord) :
    SameTask record record.persisted :=
  ⟨rfl, rfl, rfl, rfl, rfl, rfl⟩

end ContinuousTaskRecord

end BgTaskMgr.Continuous
