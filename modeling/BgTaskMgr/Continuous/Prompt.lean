import BgTaskMgr.Continuous.State

/-!
# Texts and sending of notifications

Which text a task's notification bears, and the functions that publish, republish or
cancel the notifications of one record.  They return the record they change; the callers
store it.
-/

set_option autoImplicit false

namespace BgTaskMgr.Continuous

/-! ## Texts from the resource bundle -/

def taskPromptResNames : List String :=
  ["ohos_bgmode_prompt_data_transfer", "ohos_bgmode_prompt_audio_playback",
    "ohos_bgmode_prompt_audio_recording", "ohos_bgmode_prompt_location",
    "ohos_bgmode_prompt_bluetooth_interaction", "ohos_bgmode_prompt_multidevice_connection",
    "ohos_bgmode_prompt_wifi_interaction", "ohos_bgmode_prompt_voip",
    "ohos_bgmode_prompt_task_keeping", "ohos_bgmode_prompt_default_value",
    "ohos_bgmode_prompt_default_value", "ohos_bgmode_prompt_default_value",
    "ohos_bgmode_prompt_default_value", "ohos_bgmode_prompt_nearlink"]

def taskPromptResNamesSubMode : List String :=
  ["ohos_bgsubmode_prompt_car_key", "ohos_bgsubmode_prompt_media_process",
    "ohos_bgsubmode_prompt_video_broadcast", "ohos_bgsubmode_prompt_work_out"]

def initNotificationText : List (Nat × String × String) :=
  [(BackgroundMode.dataTransfer, "notification_text_data_transfer", ""),
    (BackgroundMode.audioPlayback, "notification_text_audio_playbackr", ""),
    (BackgroundMode.audioRecording, "notification_text_audio_recording", ""),
    (BackgroundMode.location, "notification_text_location", ""),
    (BackgroundMode.bluetoothInteraction, "notification_text_bluetooth_interactionn", ""),
    (BackgroundMode.multiDeviceConnection, "notification_text_multidevice_connection", ""),
    (BackgroundMode.wifiInteraction, "notification_text_wifi_interaction", ""),
    (BackgroundMode.voip, "notification_text_voip", ""),
    (BackgroundMode.taskKeeping, "notification_text_task_keeping", ""),
    (BackgroundMode.nearlink, "notification_text_nearlink", "")]

/-- The texts up to the first that is missing, and whether all are there. -/
def loadTexts (text : String → String) : List String → List String × Bool
  | [] => ([], true)
  | name :: rest =>
      if text name = "" then ([], false)
      else (text name :: (loadTexts text rest).1, (loadTexts text rest).2)

def loadModeTexts (text : String → String) :
    List (Nat × String × String) → List (Nat × String × String) × Bool
  | [] => ([], true)
  | (mode, name, old) :: rest =>
      if text name = "" then ((mode, name, old) :: rest, false)
      else ((mode, name, text name) :: (loadModeTexts text rest).1, (loadModeTexts text rest).2)

def getNotificationPrompt (resourceString : Option (String → String)) (texts : NotificationTexts) :
    NotificationTexts :=
  match resourceString with
  | none => { texts with continuousTaskText := [], continuousTaskSubText := [] }
  | some text =>
      let taskTexts := loadTexts text taskPromptResNames
      let subTexts := loadTexts text taskPromptResNamesSubMode
      let modeTexts := loadModeTexts text texts.modeForNotificationText
      if !taskTexts.2 then
        { texts with continuousTaskText := taskTexts.1, continuousTaskSubText := [] }
      else if !subTexts.2 then
        { texts with continuousTaskText := taskTexts.1, continuousTaskSubText := subTexts.1 }
      else if !modeTexts.2 then
        { texts with
          continuousTaskText := taskTexts.1
          continuousTaskSubText := subTexts.1
          modeForNotificationText := modeTexts.1 }
      else
        { continuousTaskText := taskTexts.1
          continuousTaskSubText := subTexts.1
          modeForNotificationText := modeTexts.1
          startingTaskText := (loadTexts text ["notification_text_starting_task"]).1 }

/-! ## The text of a record -/

structure Prompt where
  ret : ErrCode
  text : String := ""
  notPlaying : Bool := false

/-- `audioPlayState_` follows the text that was chosen. -/
def Prompt.note (prompt : Prompt) (record : ContinuousTaskRecord) : ContinuousTaskRecord :=
  if prompt.notPlaying then { record with audioPlayState := false } else record

/-- `GetBgModeNameIndex`, with the 32-bit wrap of mode 0. -/
def getBgModeNameIndex (bgModeId : Nat) (isNewApi : Bool) : Nat :=
  if isNewApi then (bgModeId + (2 ^ 32 - 1)) % 2 ^ 32 else bgmodeNums - 1

def modeTextsOf (modeForNotificationText : List (Nat × String × String)) :
    List Nat → Nat → Option (List String)
  | [], _ => some []
  | _ :: _, 0 => some []
  | mode :: rest, left + 1 =>
      match modeForNotificationText.lookup mode with
      | none => none
      | some (_, text) =>
          if text = "" then none
          else (modeTextsOf modeForNotificationText rest left).map (fun texts => text :: texts)

/-- `g_taskNotificationResNames` by the number of modes. -/
def mergeFormatName (count : Nat) : String :=
  if count = 2 then "notification_text_running_task_two_mode"
  else if count = 3 then "notification_text_running_task_three_mode"
  else if count > 3 then "notification_text_running_task_exceed"
  else ""

namespace BgContinuousTaskMgr

variable (env : Env) (self : BgContinuousTaskMgr)

def checkLiveViewInfoModes (record : ContinuousTaskRecord) : Bool :=
  checkExistMode record.bgModeIds BackgroundMode.location &&
    !checkExistOtherMode record.bgModeIds BackgroundMode.location

def checkLiveViewInfo (record : ContinuousTaskRecord) : Bool :=
  (self.liveViewInfo.lookup record.uid).isSome && checkLiveViewInfoModes record

/-- `avSessionNotification_` of the uid, or an AVSession sub-mode of a request object. -/
def isPublishAvsession (uid : Int) (subModes : List Nat) (isByRequestObject : Bool) : Bool :=
  (self.avSessionNotification.lookup uid).getD false ||
    (checkExistMode subModes BackgroundTaskSubmode.submodeAvsessionAudioPlayback &&
      isByRequestObject)

def isCarKey (record : ContinuousTaskRecord) : Bool :=
  checkExistMode record.bgModeIds BackgroundMode.bluetoothInteraction &&
    checkExistMode record.bgSubModeIds carKey

def filterNotificationMode (record : ContinuousTaskRecord) : List Nat :=
  let subModesValue := if isCarKey record then record.bgSubModeIds.erase carKey
    else record.bgSubModeIds
  let modesValue := if isCarKey record then
      record.bgModeIds.erase BackgroundMode.bluetoothInteraction
    else record.bgModeIds
  let avsession := self.isPublishAvsession record.uid subModesValue record.isByRequestObject
  sortMode (modesValue.filter (fun mode =>
    !((mode == BackgroundMode.audioPlayback && avsession) ||
      ((mode == BackgroundMode.voip || mode == BackgroundMode.audioRecording) &&
        record.isSystem))))

def checkSpecialNotificationText (record : ContinuousTaskRecord) : Prompt :=
  let subText := self.texts.continuousTaskSubText
  let textOf (index : Nat) : Option Prompt :=
    subText[index]?.map (fun text => { ret := .ok, text := text ++ "\n" })
  let has (subMode : Nat) : Bool := checkExistMode record.bgSubModeIds subMode
  let media := if has BackgroundTaskSubmode.submodeMediaProcessNormalNotification then textOf 1
    else none
  let video := if has BackgroundTaskSubmode.submodeVideoBroadcastNormalNotification then textOf 2
    else none
  let workOut := if has BackgroundTaskSubmode.submodeWorkOutNormalNotification then textOf 3
    else none
  if subText = [] then { ret := .notificationVerifyFailed }
  else ((media.orElse (fun _ => video)).orElse (fun _ => workOut)).getD
    { ret := .notificationVerifyFailed }

def singleModeNotificationText (mode : Nat) (mergeBlueNotificationText : String)
    (record : ContinuousTaskRecord) : Prompt :=
  let waits := !checkExistMode record.bgModeIds BackgroundMode.bluetoothInteraction &&
    mode == BackgroundMode.audioPlayback && !env.appIsPlaying record.uid
  match (if waits then self.texts.startingTaskText.head? else none) with
  | some text => { ret := .ok, text := text, notPlaying := true }
  | none =>
      match self.texts.continuousTaskText[getBgModeNameIndex mode record.isNewApi]? with
      | some text => { ret := .ok, text := mergeBlueNotificationText ++ text ++ "\n" }
      | none => { ret := .notificationVerifyFailed }

def mergeNotificationText (checkModes : List Nat) (mergeBlueNotificationText : String) : Prompt :=
  match modeTextsOf self.texts.modeForNotificationText checkModes 3 with
  | none => { ret := .notificationVerifyFailed }
  | some params =>
      let merged := env.formatString (mergeFormatName checkModes.length) params
      if merged = "" then { ret := .notificationVerifyFailed }
      else { ret := .ok, text := mergeBlueNotificationText ++ merged }

def modesNotificationText (mergeBlueNotificationText : String) (record : ContinuousTaskRecord) :
    Prompt :=
  match self.filterNotificationMode record with
  | [] => { ret := .ok, text := mergeBlueNotificationText }
  | [mode] => self.singleModeNotificationText env mode mergeBlueNotificationText record
  | checkModes => self.mergeNotificationText env checkModes mergeBlueNotificationText

def checkNotificationText (record : ContinuousTaskRecord) : Prompt :=
  if self.checkLiveViewInfo record then { ret := .ok }
  else if checkExistMode record.bgModeIds BackgroundMode.specialScenarioProcessing then
    self.checkSpecialNotificationText record
  else if isCarKey record then
    match self.texts.continuousTaskSubText[0]? with
    | some text => self.modesNotificationText env (text ++ "\n") record
    | none => { ret := .notificationVerifyFailed }
  else self.modesNotificationText env "" record

/-! ## Sending -/

def cachedAppName (uid : Int) : String :=
  ((self.cachedBundleInfos.lookup uid).map (fun info => info.appName)).getD ""

/-- A task that only plays, while AVSession shows it. -/
def shownByAvsession (record : ContinuousTaskRecord) : Bool :=
  record.bgModeIds == [BackgroundMode.audioPlayback] &&
    self.isPublishAvsession record.uid record.bgSubModeIds record.isByRequestObject

def sendContinuousTaskNotification (record : ContinuousTaskRecord) : Sent :=
  let appName := self.cachedAppName record.uid
  let prompt := self.checkNotificationText env record
  let noted := prompt.note record
  if self.texts.continuousTaskText = [] then ⟨.notificationVerifyFailed, record, self.tools⟩
  else if appName = "" then ⟨.notificationVerifyFailed, record, self.tools⟩
  else if prompt.ret ≠ .ok then ⟨prompt.ret, noted, self.tools⟩
  else if prompt.text = "" then
    if record.notificationId ≠ -1 then
      ⟨.ok, { noted with notificationId := -1 },
        (self.tools.cancelNotification env.toNotificationEnv record.mainPair).2⟩
    else ⟨.ok, noted, self.tools⟩
  else if self.shownByAvsession record then ⟨.ok, noted, self.tools⟩
  else self.tools.publishNotification env.toNotificationEnv noted appName prompt.text

def sendNotification (subRecord record : ContinuousTaskRecord) (appName : String)
    (isSubNotification : Bool) : Sent :=
  let prompt := self.checkNotificationText env subRecord
  if prompt.ret ≠ .ok then ⟨prompt.ret, record, self.tools⟩
  else if isSubNotification && prompt.text == "" then ⟨.ok, record, self.tools⟩
  else if isSubNotification then
    self.tools.publishSubNotification env.toNotificationEnv subRecord appName prompt.text record
  else self.tools.publishMainNotification env.toNotificationEnv subRecord appName prompt.text record

def liveViewMainRecord (record : ContinuousTaskRecord) : ContinuousTaskRecord :=
  { ContinuousTaskRecord.make record.bundleName record.abilityName record.uid record.pid
      record.bgModeId false [] (-1) with
    wantAgent := record.wantAgent
    abilityId := record.abilityId
    continuousTaskId := record.continuousTaskId
    isNewApi := record.isNewApi
    isByRequestObject := true
    bgModeId := BackgroundMode.dataTransfer
    bgModeIds := [BackgroundMode.dataTransfer] }

/-- The modes besides `DATA_TRANSFER`, with the sub-modes at the same places. -/
def otherModes : List Nat → List Nat → List Nat × List Nat
  | [], _ => ([], [])
  | mode :: modes, subModes =>
      let rest := otherModes modes subModes.tail
      if mode = BackgroundMode.dataTransfer then rest
      else (mode :: rest.1, subModes.head?.toList ++ rest.2)

def liveViewSubRecord (record : ContinuousTaskRecord) : ContinuousTaskRecord :=
  let modes := otherModes record.bgModeIds record.bgSubModeIds
  { liveViewMainRecord record with
    bgModeIds := modes.1
    bgSubModeIds := modes.2
    bgModeId := modes.1.headD 0 }

def sendLiveViewAndOtherNotification (record : ContinuousTaskRecord) : Sent :=
  let appName := self.cachedAppName record.uid
  if self.texts.continuousTaskText = [] then ⟨.notificationVerifyFailed, record, self.tools⟩
  else if appName = "" then ⟨.notificationVerifyFailed, record, self.tools⟩
  else
    let main := self.sendNotification env (liveViewMainRecord record) record appName false
    if main.ret ≠ .ok then main
    else
      let sub := (self.setTools main.tools).sendNotification env (liveViewSubRecord record)
        main.record appName true
      if sub.ret = .ok then sub
      else if sub.record.notificationId ≠ -1 then
        ⟨sub.ret, sub.record,
          (sub.tools.cancelNotification env.toNotificationEnv sub.record.mainPair).2⟩
      else sub

def isLiveViewAndOther (record : ContinuousTaskRecord) : Bool :=
  record.isByRequestObject && record.bgModeIds.length > 1 &&
    checkExistMode record.bgModeIds BackgroundMode.dataTransfer

/-- The choice between one notification and two, made at a start and at a reactivation. -/
def sendByModes (record : ContinuousTaskRecord) : Sent :=
  if isLiveViewAndOther record then self.sendLiveViewAndOtherNotification env record
  else self.sendContinuousTaskNotification env record

def handleActiveNotification (record : ContinuousTaskRecord) : Sent :=
  if record.suspendState then ⟨.ok, record, self.tools⟩ else self.sendByModes env record

def sharesMain (record : ContinuousTaskRecord) : Bool :=
  (KeyedMap.vals self.continuousTaskInfosMap).any (fun other => other.mainPair == record.mainPair)

/-- `CancelNotification` of a record that is already out of the map. -/
def cancelNotification (record : ContinuousTaskRecord) : ErrCode × BgContinuousTaskMgr :=
  if record.notificationId = -1 || self.sharesMain record then (.ok, self)
  else
    let main := self.tools.cancelNotification env.toNotificationEnv record.mainPair
    if record.subNotificationId ≠ -1 && record.isByRequestObject then
      let sub := main.2.cancelNotification env.toNotificationEnv record.subPair
      (sub.1, self.setTools sub.2)
    else (main.1, self.setTools main.2)

end BgContinuousTaskMgr

end BgTaskMgr.Continuous
