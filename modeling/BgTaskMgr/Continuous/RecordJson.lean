import BgTaskMgr.Common.JsonValue
import BgTaskMgr.Continuous.Record

/-!
# The record file as JSON

What `ParseToJsonStr` writes of a record, what `ParseFromJson` demands and reads, and the file
of all records.  A text is given by the JSON value that it is parsed to, as `dump` followed by
`parse` gives back the value.
-/

set_option autoImplicit false

namespace BgTaskMgr.Continuous

open NumberText

/-! ## Progress information -/

namespace ProgressInfo

def parseToJson (info : ProgressInfo) : Json :=
  let root := Json.null
  let root := root.set "title" (.string info.title)
  let root := root.set "fileName" (.string info.fileName)
  let root := root.set "progressValue" (.integer info.progressValue)
  root.set "isMute" (.boolean info.isMute)

def parseFromJson (value : Json) : Option ProgressInfo :=
  if value.isNull || !value.isObject then none
  else if !value.contains "title" || !(value.member "title").isString ||
      !value.contains "fileName" || !(value.member "fileName").isString then none
  else some {
    title := (value.member "title").toText
    fileName := (value.member "fileName").toText
    progressValue :=
      if value.contains "progressValue" && (value.member "progressValue").isInteger then
        getInt32 (value.member "progressValue")
      else -1
    isMute :=
      if value.contains "isMute" && (value.member "isMute").isBoolean then
        (value.member "isMute").toBool
      else false }

theorem parseFromJson_parseToJson {info : ProgressInfo} (range : IsInt32 info.progressValue) :
    parseFromJson info.parseToJson = some info := by
  simp [parseFromJson, parseToJson, Json.isString,
    Json.isInteger, Json.isBoolean, Json.toText, Json.toBool, getInt32_integer range]

end ProgressInfo

/-! ## Records -/

namespace ContinuousTaskRecord

def modesToString (bgmodes : List Nat) : String := commaText bgmodes

def modesToVector (splitStr : String → String → List String) (str : String) : List Nat :=
  (splitStr str ",").map (fun mode => (atoi mode % 2 ^ 32).toNat)

def wantAgentInfoToJson (info : WantAgentInfo) : Json :=
  (Json.null.set "bundleName" (.string info.bundleName)).set "abilityName"
    (.string info.abilityName)

/-- `ParseToJsonStr`, before the dump. -/
def parseToJson (record : ContinuousTaskRecord) : Json :=
  let root := Json.null
  let root := root.set "bundleName" (.string record.bundleName)
  let root := root.set "abilityName" (.string record.abilityName)
  let root := root.set "userId" (.integer record.userId)
  let root := root.set "uid" (.integer record.uid)
  let root := root.set "pid" (.integer record.pid)
  let root := root.set "bgModeId" (.integer record.bgModeId)
  let root := root.set "isNewApi" (.boolean record.isNewApi)
  let root := root.set "isFromWebview" (.boolean record.isFromWebview)
  let root := root.set "needSendNotificationForInnerApi"
    (.boolean record.needNotificationForInnerApi)
  let root := root.set "notificationLabel" (.string record.notificationLabel)
  let root := root.set "notificationId" (.integer record.notificationId)
  let root := root.set "isBatchApi" (.boolean record.isBatchApi)
  let root := root.set "bgModeIds" (.string (modesToString record.bgModeIds))
  let root := root.set "bgSubModeIds" (.string (modesToString record.bgSubModeIds))
  let root := root.set "isSystem" (.boolean record.isSystem)
  let root := root.setSome "wantAgentInfo" (record.wantAgentInfo.map wantAgentInfoToJson)
  let root := root.set "continuousTaskId" (.integer record.continuousTaskId)
  let root := root.set "abilityId" (.integer record.abilityId)
  let root := root.set "suspendState" (.boolean record.suspendState)
  let root := root.set "suspendReason" (.integer record.suspendReason)
  let root := root.set "isCombinedTaskNotification" (.boolean record.isCombinedTaskNotification)
  let root := root.set "combinedNotificationTaskId" (.integer record.combinedNotificationTaskId)
  let root := root.set "isByRequestObject" (.boolean record.isByRequestObject)
  let root := root.set "subNotificationLabel" (.string record.subNotificationLabel)
  let root := root.set "subNotificationId" (.integer record.subNotificationId)
  let root := root.set "appIndex" (.integer record.appIndex)
  let root := root.set "detailedCancelReason" (.integer record.detailedCancelReason)
  let root := root.set "isStandby" (.boolean record.isStandby)
  let root := root.set "audioPlayState" (.boolean record.audioPlayState)
  let root := root.set "isStandbySuspend" (.boolean record.isStandbySuspend)
  let root := root.setSome "progressInfo" (record.progressInfo.map ProgressInfo.parseToJson)
  root.set "isFromComponent" (.boolean record.isFromComponent)

def requiredMembers : List String :=
  ["bundleName", "abilityName", "userId", "uid", "pid", "bgModeId", "isNewApi", "isFromWebview",
    "notificationLabel", "isSystem", "continuousTaskId", "abilityId", "suspendState",
    "suspendReason", "isCombinedTaskNotification", "combinedNotificationTaskId",
    "isByRequestObject", "subNotificationLabel", "subNotificationId", "appIndex",
    "detailedCancelReason", "audioPlayState", "isStandby", "needSendNotificationForInnerApi",
    "isStandbySuspend", "isFromComponent"]

/-- `CheckContinuousRecod`: some member is not of its type. -/
def checkContinuousRecod (value : Json) : Bool :=
  !(value.member "bundleName").isString || !(value.member "abilityName").isString
    || !(value.member "userId").isInteger || !(value.member "uid").isInteger
    || !(value.member "pid").isInteger || !(value.member "bgModeId").isInteger
    || !(value.member "isNewApi").isBoolean || !(value.member "isFromWebview").isBoolean
    || !(value.member "needSendNotificationForInnerApi").isBoolean
    || !(value.member "notificationLabel").isString || !(value.member "isSystem").isBoolean
    || !(value.member "continuousTaskId").isInteger || !(value.member "abilityId").isInteger
    || !(value.member "suspendState").isBoolean || !(value.member "suspendReason").isInteger
    || !(value.member "isCombinedTaskNotification").isBoolean
    || !(value.member "combinedNotificationTaskId").isInteger
    || !(value.member "isByRequestObject").isBoolean
    || !(value.member "subNotificationLabel").isString
    || !(value.member "subNotificationId").isInteger || !(value.member "appIndex").isInteger
    || !(value.member "detailedCancelReason").isInteger
    || !(value.member "audioPlayState").isBoolean || !(value.member "isStandby").isBoolean
    || !(value.member "isStandbySuspend").isBoolean || !(value.member "isFromComponent").isBoolean

variable (splitStr : String → String → List String)

def setRecordValue (value : Json) (record : ContinuousTaskRecord) : ContinuousTaskRecord :=
  { record with
    bundleName := (value.member "bundleName").toText
    abilityName := (value.member "abilityName").toText
    userId := getInt32 (value.member "userId")
    uid := getInt32 (value.member "uid")
    pid := getInt32 (value.member "pid")
    bgModeId := getUInt32 (value.member "bgModeId")
    isNewApi := (value.member "isNewApi").toBool
    isFromWebview := (value.member "isFromWebview").toBool
    needNotificationForInnerApi := (value.member "needSendNotificationForInnerApi").toBool
    notificationLabel := (value.member "notificationLabel").toText
    isSystem := (value.member "isSystem").toBool
    continuousTaskId := getInt32 (value.member "continuousTaskId")
    abilityId := getInt32 (value.member "abilityId")
    suspendState := (value.member "suspendState").toBool
    suspendReason := getInt32 (value.member "suspendReason")
    isCombinedTaskNotification := (value.member "isCombinedTaskNotification").toBool
    combinedNotificationTaskId := getInt32 (value.member "combinedNotificationTaskId")
    isByRequestObject := (value.member "isByRequestObject").toBool
    subNotificationLabel := (value.member "subNotificationLabel").toText
    subNotificationId := getInt32 (value.member "subNotificationId")
    appIndex := getInt32 (value.member "appIndex")
    isBatchApi :=
      if value.contains "isBatchApi" && (value.member "isBatchApi").isBoolean then
        (value.member "isBatchApi").toBool
      else record.isBatchApi
    bgModeIds :=
      if value.contains "bgModeIds" && (value.member "bgModeIds").isString then
        modesToVector splitStr (value.member "bgModeIds").toText
      else record.bgModeIds
    bgSubModeIds :=
      if value.contains "bgSubModeIds" && (value.member "bgSubModeIds").isString then
        modesToVector splitStr (value.member "bgSubModeIds").toText
      else record.bgSubModeIds
    detailedCancelReason := getInt32 (value.member "detailedCancelReason")
    isStandby := (value.member "isStandby").toBool
    audioPlayState := (value.member "audioPlayState").toBool
    isStandbySuspend := (value.member "isStandbySuspend").toBool
    isFromComponent := (value.member "isFromComponent").toBool }

/-- The want agent's part of `ParseFromJson`; `none` is its early return. -/
def parseWantAgentInfo (value : Json) (record : ContinuousTaskRecord) :
    Option ContinuousTaskRecord :=
  if value.contains "wantAgentInfo" then
    let infoVal := value.member "wantAgentInfo"
    if !checkJsonValue infoVal ["bundleName", "abilityName"]
        || !(infoVal.member "bundleName").isString || !(infoVal.member "abilityName").isString then
      none
    else
      some { record with
        wantAgentInfo := some
          ⟨(infoVal.member "bundleName").toText, (infoVal.member "abilityName").toText⟩ }
  else
    some record

def parseNotification (value : Json) (record : ContinuousTaskRecord) : ContinuousTaskRecord :=
  { record with
    notificationId :=
      if value.contains "notificationId" && (value.member "notificationId").isInteger then
        getInt32 (value.member "notificationId")
      else record.notificationId
    progressInfo :=
      if value.contains "progressInfo" && (value.member "progressInfo").isObject then
        ProgressInfo.parseFromJson (value.member "progressInfo")
      else record.progressInfo }

/-- `ParseFromJson` on a new record; `none` is its `false`. -/
def parseFromJson (value : Json) : Option ContinuousTaskRecord :=
  if value.isNull || !value.isObject || !checkJsonValue value requiredMembers then none
  else if checkContinuousRecod value then none
  else (parseWantAgentInfo value (setRecordValue splitStr value {})).map (parseNotification value)

/-! ## One record -/

structure InRange (record : ContinuousTaskRecord) : Prop where
  userId : IsInt32 record.userId
  uid : IsInt32 record.uid
  pid : IsInt32 record.pid
  bgModeId : IsUInt32 record.bgModeId
  notificationId : IsInt32 record.notificationId
  subNotificationId : IsInt32 record.subNotificationId
  bgModeIds : ∀ mode ∈ record.bgModeIds, IsUInt32 mode
  bgSubModeIds : ∀ mode ∈ record.bgSubModeIds, IsUInt32 mode
  abilityId : IsInt32 record.abilityId
  detailedCancelReason : IsInt32 record.detailedCancelReason
  continuousTaskId : IsInt32 record.continuousTaskId
  suspendReason : IsInt32 record.suspendReason
  combinedNotificationTaskId : IsInt32 record.combinedNotificationTaskId
  appIndex : IsInt32 record.appIndex
  progressValue : ∀ info, record.progressInfo = some info → IsInt32 info.progressValue

variable {splitStr : String → String → List String} (splits : SplitsAtCommas splitStr)

include splits

theorem modesToVector_modesToString {modes : List Nat} (range : ∀ mode ∈ modes, IsUInt32 mode) :
    modesToVector splitStr (modesToString modes) = modes := by
  rw [modesToVector, modesToString, splits _ (fun c => mem_commaText), commaParts_commaText,
    List.map_map]
  calc modes.map _ = modes.map id :=
        List.map_congr_left (fun mode member => atoi_repr_unsigned (range mode member))
    _ = modes := List.map_id modes

omit splits in
theorem checkJsonValue_parseToJson (record : ContinuousTaskRecord) :
    checkJsonValue record.parseToJson requiredMembers = true := by
  simp [checkJsonValue, requiredMembers, parseToJson]

omit splits in
theorem checkContinuousRecod_parseToJson (record : ContinuousTaskRecord) :
    checkContinuousRecod record.parseToJson = false := by
  simp [checkContinuousRecod, parseToJson, Json.isString, Json.isInteger,
    Json.isBoolean]

theorem setRecordValue_parseToJson {record : ContinuousTaskRecord} (range : record.InRange) :
    setRecordValue splitStr record.parseToJson {} =
      { record.persisted with
        notificationId := -1
        wantAgentInfo := none
        progressInfo := none } := by
  have modes := modesToVector_modesToString splits range.bgModeIds
  have subModes := modesToVector_modesToString splits range.bgSubModeIds
  simp [setRecordValue, persisted, parseToJson, Json.isString,
    Json.isBoolean, Json.toText, Json.toBool, getInt32_integer, getUInt32_integer, range.userId,
    range.uid, range.pid, range.bgModeId, range.subNotificationId, range.abilityId,
    range.detailedCancelReason, range.continuousTaskId, range.suspendReason,
    range.combinedNotificationTaskId, range.appIndex, modes, subModes]

omit splits in
theorem parseWantAgentInfo_parseToJson (record before : ContinuousTaskRecord)
    (fresh : before.wantAgentInfo = none) :
    parseWantAgentInfo record.parseToJson before =
      some { before with wantAgentInfo := record.wantAgentInfo } := by
  cases info : record.wantAgentInfo with
  | none => simp [parseWantAgentInfo, parseToJson, info, ← fresh]
  | some info' =>
      simp [parseWantAgentInfo, checkJsonValue, parseToJson, info,
        wantAgentInfoToJson, Json.isString, Json.toText]

omit splits in
theorem parseNotification_parseToJson {record : ContinuousTaskRecord} (range : record.InRange)
    (before : ContinuousTaskRecord) (fresh : before.progressInfo = none) :
    parseNotification record.parseToJson before =
      { before with
        notificationId := record.notificationId
        progressInfo := record.progressInfo } := by
  cases info : record.progressInfo with
  | none =>
      simp [parseNotification, parseToJson, Json.isInteger,
        getInt32_integer, range.notificationId, info, fresh]
  | some info' =>
      have object : info'.parseToJson.isObject = true := rfl
      have read := ProgressInfo.parseFromJson_parseToJson (range.progressValue info' info)
      simp [parseNotification, parseToJson, Json.isInteger,
        getInt32_integer, range.notificationId, info, object, read]

theorem parseFromJson_parseToJson {record : ContinuousTaskRecord} (range : record.InRange) :
    parseFromJson splitStr record.parseToJson = some record.persisted := by
  have written : record.parseToJson.isNull = false ∧ record.parseToJson.isObject = true :=
    ⟨rfl, rfl⟩
  simp only [parseFromJson, written, checkJsonValue_parseToJson, checkContinuousRecod_parseToJson,
    setRecordValue_parseToJson splits range]
  rw [parseWantAgentInfo_parseToJson record _ rfl, Option.map_some,
    parseNotification_parseToJson range _ rfl]
  rfl

end ContinuousTaskRecord

/-! ## The file -/

def DataStorageHelper.refreshTaskRecord (allRecord : TaskMap) : Json :=
  Json.ofMap id ContinuousTaskRecord.parseToJson allRecord

def DataStorageHelper.restoreTaskRecord (splitStr : String → String → List String) (root : Json)
    (allRecord : TaskMap) : TaskMap :=
  Json.readMap id (ContinuousTaskRecord.parseFromJson splitStr) root allRecord

/-- A record comes back with every field that is written, and a map of records with its keys. -/
theorem record_file_lossless {splitStr : String → String → List String}
    (splits : SplitsAtCommas splitStr) :
    (∀ record : ContinuousTaskRecord, record.InRange →
      ContinuousTaskRecord.parseFromJson splitStr record.parseToJson = some record.persisted) ∧
    ∀ allRecord : TaskMap, (∀ key record, allRecord.lookup key = some record → record.InRange) →
      ∀ key, (DataStorageHelper.restoreTaskRecord splitStr
          (DataStorageHelper.refreshTaskRecord allRecord) ∅).lookup key =
        (allRecord.lookup key).map ContinuousTaskRecord.persisted := by
  constructor
  · intro record range
    exact ContinuousTaskRecord.parseFromJson_parseToJson splits range
  · intro allRecord ranges key
    apply Json.lookup_readMap_ofMap
    · intro key stored
      rfl
    · intro key record found
      exact ContinuousTaskRecord.parseFromJson_parseToJson splits (ranges key record found)

def downloadRecord : ContinuousTaskRecord where
  bundleName := "com.example.files"
  abilityName := "EntryAbility"
  uid := 20010044
  bgModeIds := [1, 2 ^ 32 - 1]
  wantAgentInfo := some ⟨"com.example.files", "EntryAbility"⟩
  progressInfo := some ⟨"Download", "film.mp4", 40, true⟩

theorem record_file_lossless_download :
    (DataStorageHelper.restoreTaskRecord (fun text _ => commaParts text)
      (DataStorageHelper.refreshTaskRecord
        ((∅ : TaskMap).insert "20010044_EntryAbility_0" downloadRecord)) ∅).lookup
      "20010044_EntryAbility_0" = some downloadRecord.persisted := by
  have range : downloadRecord.InRange := by
    constructor
    case progressValue =>
      intro info same
      obtain rfl := Option.some.inj same
      decide
    all_goals decide
  rw [(record_file_lossless (fun text _ => rfl)).2]
  · rw [AList.lookup_insert]
    rfl
  · intro key record found
    rw [KeyedMap.lookup_insert] at found
    split at found
    · exact Option.some.inj found ▸ range
    · exact absurd found (by simp)

end BgTaskMgr.Continuous
