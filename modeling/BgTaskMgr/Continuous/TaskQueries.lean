import BgTaskMgr.Continuous.StartExits
import BgTaskMgr.Lib.Wire

/-!
# What the task queries tell

`GetAllContinuousTasks` and `GetContinuousTaskApps` copy the records of an app field by field
into entries, and the entries reach the client through a codec of their own.  The codecs lose
nothing.  The copies do: an entry of the first query never carries the suspend state, and an
entry of the second one neither the names and ids that were added to its class later nor the
sub-modes.
-/

set_option autoImplicit false

universe u

namespace BgTaskMgr.Continuous

/-! ## The parcel -/

inductive ParcelKind where
  | string
  | string16
  | int32
  | uint32
  | uint64
  | bool
  | uint32Vector
  deriving DecidableEq, Repr

@[reducible]
def ParcelValue (String16 : Type) : ParcelKind → Type
  | .string => String
  | .string16 => String16
  | .int32 => Int
  | .uint32 => Nat
  | .uint64 => Nat
  | .bool => Bool
  | .uint32Vector => List Nat

/-- `Parcel` and the conversions of its UTF-16 strings, which the repository does not hold: what
is written is read back in the same order, and a string survives the conversion. -/
structure Parcels (σ : Type u) (String16 : Type) where
  parcel : Wire σ (ParcelValue String16)
  str8ToStr16 : String → String16
  str16ToStr8 : String16 → String
  str16ToStr8_str8ToStr16 : ∀ text, str16ToStr8 (str8ToStr16 text) = text

/-- Parcels that are lists of values, with a string of characters for each UTF-16 string. -/
def listParcels : Parcels (List (Σ kind, ParcelValue (List Char) kind)) (List Char) where
  parcel := Wire.ofList
  str8ToStr16 := String.toList
  str16ToStr8 := String.ofList
  str16ToStr8_str8ToStr16 text := by simp

variable {σ : Type u} {String16 : Type}

/-! ## The entries -/

structure ContinuousTaskInfo where
  abilityName : String := ""
  uid : Int := 0
  pid : Int := 0
  isFromWebView : Bool := false
  backgroundModes : List Nat := []
  backgroundSubModes : List Nat := []
  notificationId : Int := -1
  continuousTaskId : Int := -1
  abilityId : Int := -1
  wantAgentBundleName : String := ""
  wantAgentAbilityName : String := ""
  suspendState : Bool := false
  bundleName : String := ""
  appIndex : Int := -1
  isByRequestObject : Bool := false
  deriving DecidableEq, Repr

def ContinuousTaskInfo.marshalling (parcels : Parcels σ String16) (self : ContinuousTaskInfo) :
    Wire.Writer σ :=
  let out := parcels.parcel
  out.put .string self.abilityName <|
  out.put .int32 self.uid <|
  out.put .int32 self.pid <|
  out.put .bool self.isFromWebView <|
  out.put .uint32Vector self.backgroundModes <|
  out.put .uint32Vector self.backgroundSubModes <|
  out.put .int32 self.notificationId <|
  out.put .int32 self.continuousTaskId <|
  out.put .int32 self.abilityId <|
  out.put .string self.wantAgentBundleName <|
  out.put .string self.wantAgentAbilityName <|
  out.put .bool self.suspendState <|
  out.put .string self.bundleName <|
  out.put .int32 self.appIndex <|
  out.put .bool self.isByRequestObject
  some

def ContinuousTaskInfo.readFromParcel (parcels : Parcels σ String16) :
    Wire.Reader σ ContinuousTaskInfo :=
  let input := parcels.parcel
  input.get .string fun abilityName =>
  input.get .int32 fun uid =>
  input.get .int32 fun pid =>
  input.get .bool fun isFromWebView =>
  input.get .uint32Vector fun backgroundModes =>
  input.get .uint32Vector fun backgroundSubModes =>
  input.get .int32 fun notificationId =>
  input.get .int32 fun continuousTaskId =>
  input.get .int32 fun abilityId =>
  input.get .string fun wantAgentBundleName =>
  input.get .string fun wantAgentAbilityName =>
  input.get .bool fun suspendState =>
  input.get .string fun bundleName =>
  input.get .int32 fun appIndex =>
  input.get .bool fun isByRequestObject => fun s =>
  some ({ abilityName, uid, pid, isFromWebView, backgroundModes, backgroundSubModes, notificationId,
          continuousTaskId, abilityId, wantAgentBundleName, wantAgentAbilityName, suspendState,
          bundleName, appIndex, isByRequestObject }, s)

theorem ContinuousTaskInfo.carries (parcels : Parcels σ String16) (info : ContinuousTaskInfo) :
    parcels.parcel.Carries (info.marshalling parcels) (readFromParcel parcels) info := by
  apply Wire.Writes.carries
  · iterate 15 apply Wire.Writes.put
    exact Wire.writes_done
  · unfold readFromParcel
    iterate 15 apply Wire.Reads.get
    exact Wire.reads_done info

structure ContinuousTaskCallbackData where
  typeId : Nat := 0
  creatorUid : Int := 0
  creatorPid : Int := 0
  abilityName : String := ""
  isFromWebview : Bool := false
  isBatchApi : Bool := false
  typeIds : List Nat := []
  abilityId : Int := -1
  tokenId : Nat := 0
  continuousTaskId : Int := -1
  cancelReason : Int := -1
  detailedCancelReason : Int := -1
  suspendState : Bool := false
  suspendReason : Int := -1
  isByRequestObject : Bool := false
  bundleName : String := ""
  userId : Int := 0
  appIndex : Int := -1
  backgroundSubModes : List Nat := []
  notificationId : Int := -1
  wantAgentBundleName : String := ""
  wantAgentAbilityName : String := ""
  cancelCallBackSelf : Bool := false
  isStandby : Bool := false
  isFromComponent : Bool := false
  deriving DecidableEq, Repr

def ContinuousTaskCallbackData.marshalling (parcels : Parcels σ String16)
    (self : ContinuousTaskCallbackData) : Wire.Writer σ :=
  let parcel := parcels.parcel
  parcel.put .uint32 self.typeId <|
  parcel.put .int32 self.creatorUid <|
  parcel.put .int32 self.creatorPid <|
  parcel.put .bool self.isFromWebview <|
  parcel.put .string16 (parcels.str8ToStr16 self.abilityName) <|
  parcel.put .bool self.isBatchApi <|
  parcel.put .uint32Vector self.typeIds <|
  parcel.put .int32 self.abilityId <|
  parcel.put .uint64 self.tokenId <|
  parcel.put .int32 self.continuousTaskId <|
  parcel.put .int32 self.cancelReason <|
  parcel.put .int32 self.detailedCancelReason <|
  parcel.put .bool self.suspendState <|
  parcel.put .int32 self.suspendReason <|
  parcel.put .bool self.isByRequestObject <|
  parcel.put .string16 (parcels.str8ToStr16 self.bundleName) <|
  parcel.put .int32 self.userId <|
  parcel.put .int32 self.appIndex <|
  parcel.put .uint32Vector self.backgroundSubModes <|
  parcel.put .int32 self.notificationId <|
  parcel.put .string16 (parcels.str8ToStr16 self.wantAgentBundleName) <|
  parcel.put .string16 (parcels.str8ToStr16 self.wantAgentAbilityName) <|
  parcel.put .bool self.cancelCallBackSelf <|
  parcel.put .bool self.isStandby <|
  parcel.put .bool self.isFromComponent
  some

def ContinuousTaskCallbackData.readFromParcel (parcels : Parcels σ String16) :
    Wire.Reader σ ContinuousTaskCallbackData :=
  let parcel := parcels.parcel
  parcel.get .uint32 fun typeId =>
  parcel.get .int32 fun creatorUid =>
  parcel.get .int32 fun creatorPid =>
  parcel.get .bool fun isFromWebview =>
  parcel.get .string16 fun u16AbilityName =>
  parcel.get .bool fun isBatchApi =>
  parcel.get .uint32Vector fun typeIds =>
  parcel.get .int32 fun abilityId =>
  parcel.get .uint64 fun tokenId =>
  parcel.get .int32 fun continuousTaskId =>
  parcel.get .int32 fun cancelReason =>
  parcel.get .int32 fun detailedCancelReason =>
  parcel.get .bool fun suspendState =>
  parcel.get .int32 fun suspendReason =>
  parcel.get .bool fun isByRequestObject =>
  parcel.get .string16 fun u16BundleName =>
  parcel.get .int32 fun userId =>
  parcel.get .int32 fun appIndex =>
  parcel.get .uint32Vector fun backgroundSubModes =>
  parcel.get .int32 fun notificationId =>
  parcel.get .string16 fun u16WantAgentBundleName =>
  parcel.get .string16 fun u16WantAgentAbilityName =>
  parcel.get .bool fun cancelCallBackSelf =>
  parcel.get .bool fun isStandby =>
  parcel.get .bool fun isFromComponent => fun s =>
  some ({ typeId, creatorUid, creatorPid, isFromWebview, isBatchApi, typeIds, abilityId, tokenId
          abilityName := parcels.str16ToStr8 u16AbilityName
          continuousTaskId, cancelReason, detailedCancelReason, suspendState, suspendReason
          isByRequestObject
          bundleName := parcels.str16ToStr8 u16BundleName
          userId, appIndex, backgroundSubModes, notificationId
          wantAgentBundleName := parcels.str16ToStr8 u16WantAgentBundleName
          wantAgentAbilityName := parcels.str16ToStr8 u16WantAgentAbilityName
          cancelCallBackSelf, isStandby, isFromComponent }, s)

theorem ContinuousTaskCallbackData.carries (parcels : Parcels σ String16)
    (info : ContinuousTaskCallbackData) :
    parcels.parcel.Carries (info.marshalling parcels) (readFromParcel parcels) info := by
  apply Wire.Writes.carries
  · iterate 25 apply Wire.Writes.put
    exact Wire.writes_done
  · unfold readFromParcel
    iterate 25 apply Wire.Reads.get
    simp only [parcels.str16ToStr8_str8ToStr16]
    exact Wire.reads_done info

/-! ## The queries -/

namespace BgContinuousTaskMgr

/-- The entry of `GetAllContinuousTasksInner` for a record. -/
def continuousTaskInfoOf (record : ContinuousTaskRecord) : ContinuousTaskInfo :=
  let wantAgent := record.wantAgentInfo.getD ⟨"NULL", "NULL"⟩
  { abilityName := record.abilityName
    uid := record.uid
    pid := record.pid
    isFromWebView := record.isFromWebview
    backgroundModes := record.bgModeIds
    backgroundSubModes := record.bgSubModeIds
    notificationId := record.notificationId
    continuousTaskId := record.continuousTaskId
    abilityId := record.abilityId
    wantAgentBundleName := wantAgent.bundleName
    wantAgentAbilityName := wantAgent.abilityName
    bundleName := record.bundleName
    appIndex := record.appIndex
    isByRequestObject := record.isByRequestObject }

def getAllContinuousTasksInner (uid : Int) (includeSuspended exemptUid : Bool)
    (self : BgContinuousTaskMgr) : ErrCode × List ContinuousTaskInfo :=
  (.ok, ((KeyedMap.vals self.continuousTaskInfosMap).filter (fun record =>
    !(!exemptUid && record.uid ≠ uid) && !(!includeSuspended && record.suspendState))).map
      continuousTaskInfoOf)

def getAllContinuousTasksIncludeSuspended (env : Env) (callingUid : Int) (includeSuspended : Bool)
    (self : BgContinuousTaskMgr) : ErrCode × List ContinuousTaskInfo :=
  if self.checkIsSysReadyAndPermission env callingUid ≠ .ok then
    (self.checkIsSysReadyAndPermission env callingUid, [])
  else self.getAllContinuousTasksInner callingUid includeSuspended false

/-- `GetAllContinuousTasks` without a flag: `GetAllContinuousTasksInner` has it set by default. -/
def getAllContinuousTasks (env : Env) (callingUid : Int) (self : BgContinuousTaskMgr) :
    ErrCode × List ContinuousTaskInfo :=
  if self.checkIsSysReadyAndPermission env callingUid ≠ .ok then
    (self.checkIsSysReadyAndPermission env callingUid, [])
  else self.getAllContinuousTasksInner callingUid true false

/-- The entry of `GetContinuousTaskAppsInner` for a record. -/
def continuousTaskAppOf (record : ContinuousTaskRecord) : ContinuousTaskCallbackData where
  typeId := record.bgModeId
  creatorUid := record.uid
  creatorPid := record.pid
  abilityName := record.abilityName
  isFromWebview := record.isFromWebview
  isBatchApi := record.isBatchApi
  typeIds := record.bgModeIds
  abilityId := record.abilityId
  tokenId := record.fullTokenId
  continuousTaskId := record.continuousTaskId
  isByRequestObject := record.isByRequestObject
  suspendState := record.suspendState
  suspendReason := record.suspendReason

def getContinuousTaskAppsInner (uid : Int) (includeSuspended : Bool) (self : BgContinuousTaskMgr) :
    ErrCode × List ContinuousTaskCallbackData :=
  (.ok, ((KeyedMap.vals self.continuousTaskInfosMap).filter (fun record =>
    !(uid ≠ -1 && uid ≠ record.uid) && !(record.suspendState && !includeSuspended))).map
      continuousTaskAppOf)

/-- `GetContinuousTaskApps`; the uid -1 stands for every app. -/
def getContinuousTaskApps (uid : Int) (self : BgContinuousTaskMgr) :
    ErrCode × List ContinuousTaskCallbackData :=
  if !self.isSysReady then (.sysNotReady, [])
  else self.getContinuousTaskAppsInner uid false

end BgContinuousTaskMgr

open BgContinuousTaskMgr

/-! ## Faithful answers -/

def askedRecords (ofApp : ContinuousTaskRecord → Bool) (includeSuspended : Bool)
    (s : BgContinuousTaskMgr) : List ContinuousTaskRecord :=
  (KeyedMap.vals s.continuousTaskInfosMap).filter (fun record =>
    ofApp record && (includeSuspended || !record.suspendState))

/-- Exactly one entry for each of the records, in their order; each entry has the values of its
record and can be sent, and so has what arrives of it. -/
def Faithful {α : Type} (parcels : Parcels σ String16) (marshalling : α → Wire.Writer σ)
    (readFromParcel : Wire.Reader σ α) (shares : α → ContinuousTaskRecord → Prop)
    (asked : List ContinuousTaskRecord) (answer : ErrCode × List α) : Prop :=
  answer.1 = .ok ∧ List.Forall₂ (fun entry record => shares entry record ∧
    ∃ received, parcels.parcel.Carries (marshalling entry) readFromParcel received ∧
      shares received record) answer.2 asked

/-- The entry has the value of the record in every field they share; a record without a want
agent has no names for it. -/
structure ContinuousTaskInfo.Shares (info : ContinuousTaskInfo) (record : ContinuousTaskRecord) :
    Prop where
  abilityName : info.abilityName = record.abilityName
  uid : info.uid = record.uid
  pid : info.pid = record.pid
  isFromWebView : info.isFromWebView = record.isFromWebview
  backgroundModes : info.backgroundModes = record.bgModeIds
  backgroundSubModes : info.backgroundSubModes = record.bgSubModeIds
  notificationId : info.notificationId = record.notificationId
  continuousTaskId : info.continuousTaskId = record.continuousTaskId
  abilityId : info.abilityId = record.abilityId
  wantAgent : ∀ agent, record.wantAgentInfo = some agent →
    info.wantAgentBundleName = agent.bundleName ∧ info.wantAgentAbilityName = agent.abilityName
  suspendState : info.suspendState = record.suspendState
  bundleName : info.bundleName = record.bundleName
  appIndex : info.appIndex = record.appIndex
  isByRequestObject : info.isByRequestObject = record.isByRequestObject

structure ContinuousTaskCallbackData.Shares (info : ContinuousTaskCallbackData)
    (record : ContinuousTaskRecord) : Prop where
  typeId : info.typeId = record.bgModeId
  creatorUid : info.creatorUid = record.uid
  creatorPid : info.creatorPid = record.pid
  abilityName : info.abilityName = record.abilityName
  isFromWebview : info.isFromWebview = record.isFromWebview
  isBatchApi : info.isBatchApi = record.isBatchApi
  typeIds : info.typeIds = record.bgModeIds
  abilityId : info.abilityId = record.abilityId
  tokenId : info.tokenId = record.fullTokenId
  continuousTaskId : info.continuousTaskId = record.continuousTaskId
  suspendState : info.suspendState = record.suspendState
  suspendReason : info.suspendReason = record.suspendReason
  isByRequestObject : info.isByRequestObject = record.isByRequestObject
  bundleName : info.bundleName = record.bundleName
  userId : info.userId = record.userId
  appIndex : info.appIndex = record.appIndex
  backgroundSubModes : info.backgroundSubModes = record.bgSubModeIds
  notificationId : info.notificationId = record.notificationId
  wantAgent : ∀ agent, record.wantAgentInfo = some agent →
    info.wantAgentBundleName = agent.bundleName ∧ info.wantAgentAbilityName = agent.abilityName

/-- The fields that `GetContinuousTaskAppsInner` leaves alone have the values of a new object. -/
structure LeftOut (record : ContinuousTaskRecord) : Prop where
  bundleName : record.bundleName = ""
  userId : record.userId = 0
  appIndex : record.appIndex = -1
  bgSubModeIds : record.bgSubModeIds = []
  notificationId : record.notificationId = -1
  wantAgent : ∀ agent, record.wantAgentInfo = some agent →
    agent.bundleName = "" ∧ agent.abilityName = ""

theorem shares_continuousTaskInfoOf {record : ContinuousTaskRecord} :
    (continuousTaskInfoOf record).Shares record ↔ record.suspendState = false := by
  constructor
  · intro shares
    exact shares.suspendState.symm
  · intro active
    constructor <;> simp +contextual [continuousTaskInfoOf, active]

theorem shares_continuousTaskAppOf {record : ContinuousTaskRecord} :
    (continuousTaskAppOf record).Shares record ↔ LeftOut record := by
  constructor
  · intro shares
    constructor
    · exact shares.bundleName.symm
    · exact shares.userId.symm
    · exact shares.appIndex.symm
    · exact shares.backgroundSubModes.symm
    · exact shares.notificationId.symm
    · intro agent has
      exact (shares.wantAgent agent has).imp Eq.symm Eq.symm
  · intro leftOut
    obtain ⟨bundleName, userId, appIndex, bgSubModeIds, notificationId, wantAgent⟩ := leftOut
    constructor <;> simp +contextual [continuousTaskAppOf, *]

def NoneSuspended (uid : Int) (s : BgContinuousTaskMgr) : Prop :=
  ∀ record ∈ KeyedMap.vals s.continuousTaskInfosMap, record.uid = uid →
    record.suspendState = false

section Answers

variable {s : BgContinuousTaskMgr} {uid : Int}

/-- A query that copies record by record is faithful where the copies are. -/
theorem faithful_map_iff {α : Type} {parcels : Parcels σ String16} {marshalling : α → Wire.Writer σ}
    {readFromParcel : Wire.Reader σ α} {shares : α → ContinuousTaskRecord → Prop}
    {entryOf : ContinuousTaskRecord → α} {asked : List ContinuousTaskRecord}
    (carries : ∀ entry, parcels.parcel.Carries (marshalling entry) readFromParcel entry) :
    Faithful parcels marshalling readFromParcel shares asked (.ok, asked.map entryOf) ↔
      ∀ record ∈ asked, shares (entryOf record) record := by
  unfold Faithful
  rw [List.forall₂_map_left_iff, List.forall₂_same]
  constructor
  · rintro ⟨-, each⟩ record member
    exact (each record member).1
  · intro each
    refine ⟨rfl, ?_⟩
    intro record member
    exact ⟨each record member, _, carries _, each record member⟩

theorem mem_askedRecords {ofApp : ContinuousTaskRecord → Bool} {includeSuspended : Bool}
    {record : ContinuousTaskRecord} :
    record ∈ askedRecords ofApp includeSuspended s ↔
      record ∈ KeyedMap.vals s.continuousTaskInfosMap ∧ ofApp record = true ∧
        (includeSuspended = true ∨ record.suspendState = false) := by
  simp [askedRecords]

theorem getAllContinuousTasksInner_asked (includeSuspended : Bool) :
    s.getAllContinuousTasksInner uid includeSuspended false =
      (.ok, (askedRecords (fun record => record.uid = uid) includeSuspended s).map
        continuousTaskInfoOf) := by
  have same : (fun record : ContinuousTaskRecord => !(!false && decide (record.uid ≠ uid)) &&
      !(!includeSuspended && record.suspendState)) =
        fun record => decide (record.uid = uid) && (includeSuspended || !record.suspendState) := by
    funext record
    simp
  unfold getAllContinuousTasksInner askedRecords
  rw [same]

theorem getContinuousTaskAppsInner_asked :
    s.getContinuousTaskAppsInner uid false =
      (.ok, (askedRecords (fun record => uid = -1 ∨ uid = record.uid) false s).map
        continuousTaskAppOf) := by
  have same : (fun record : ContinuousTaskRecord =>
      !(decide (uid ≠ -1) && decide (uid ≠ record.uid)) && !(record.suspendState && !false)) =
        fun record => decide (uid = -1 ∨ uid = record.uid) && (false || !record.suspendState) := by
    funext record
    simp
  unfold getContinuousTaskAppsInner askedRecords
  rw [same]

theorem faithful_getAllContinuousTasksInner_iff {parcels : Parcels σ String16}
    {includeSuspended : Bool} :
    Faithful parcels (ContinuousTaskInfo.marshalling parcels)
        (ContinuousTaskInfo.readFromParcel parcels) ContinuousTaskInfo.Shares
        (askedRecords (fun record => record.uid = uid) includeSuspended s)
        (s.getAllContinuousTasksInner uid includeSuspended false) ↔
      (includeSuspended = true → NoneSuspended uid s) := by
  rw [getAllContinuousTasksInner_asked, faithful_map_iff (ContinuousTaskInfo.carries parcels)]
  simp only [mem_askedRecords, shares_continuousTaskInfoOf, decide_eq_true_eq]
  constructor
  · intro active asked record member ofApp
    exact active record ⟨member, ofApp, Or.inl asked⟩
  · rintro none record ⟨member, ofApp, asked | active⟩
    · exact none asked record member ofApp
    · exact active

theorem getAllContinuousTasks_allowed {env : Env}
    (allowed : s.checkIsSysReadyAndPermission env uid = .ok) :
    s.getAllContinuousTasks env uid = s.getAllContinuousTasksInner uid true false := by
  simp [getAllContinuousTasks, allowed]

theorem getAllContinuousTasksIncludeSuspended_allowed {env : Env}
    (allowed : s.checkIsSysReadyAndPermission env uid = .ok) (includeSuspended : Bool) :
    s.getAllContinuousTasksIncludeSuspended env uid includeSuspended =
      s.getAllContinuousTasksInner uid includeSuspended false := by
  simp [getAllContinuousTasksIncludeSuspended, allowed]

theorem faithful_getContinuousTaskApps_iff {parcels : Parcels σ String16}
    (ready : s.isSysReady = true) :
    Faithful parcels (ContinuousTaskCallbackData.marshalling parcels)
        (ContinuousTaskCallbackData.readFromParcel parcels) ContinuousTaskCallbackData.Shares
        (askedRecords (fun record => uid = -1 ∨ uid = record.uid) false s)
        (s.getContinuousTaskApps uid) ↔
      ∀ record ∈ KeyedMap.vals s.continuousTaskInfosMap, uid = -1 ∨ uid = record.uid →
        record.suspendState = false → LeftOut record := by
  have answered : s.getContinuousTaskApps uid = s.getContinuousTaskAppsInner uid false := by
    simp [getContinuousTaskApps, ready]
  rw [answered, getContinuousTaskAppsInner_asked, faithful_map_iff
    (ContinuousTaskCallbackData.carries parcels)]
  simp only [mem_askedRecords, shares_continuousTaskAppOf]
  constructor
  · intro leftOut record member ofApp active
    exact leftOut record ⟨member, by simpa using ofApp, Or.inr active⟩
  · rintro leftOut record ⟨member, ofApp, active⟩
    exact leftOut record member (by simpa using ofApp) (by simpa using active)

end Answers

/-- In every state, a list of all tasks is faithful unless it shows a suspended one, and a list
of task apps is faithful unless a task it shows has a field that the query leaves out. -/
theorem taskQueries_faithful_iff (parcels : Parcels σ String16) (env : Env)
    (s : BgContinuousTaskMgr) (ready : s.isSysReady = true) :
    (∀ callingUid, s.checkIsSysReadyAndPermission env callingUid = .ok →
      (Faithful parcels (ContinuousTaskInfo.marshalling parcels)
          (ContinuousTaskInfo.readFromParcel parcels) ContinuousTaskInfo.Shares
          (askedRecords (fun record => record.uid = callingUid) true s)
          (s.getAllContinuousTasks env callingUid) ↔ NoneSuspended callingUid s) ∧
      ∀ includeSuspended, (Faithful parcels (ContinuousTaskInfo.marshalling parcels)
          (ContinuousTaskInfo.readFromParcel parcels) ContinuousTaskInfo.Shares
          (askedRecords (fun record => record.uid = callingUid) includeSuspended s)
          (s.getAllContinuousTasksIncludeSuspended env callingUid includeSuspended) ↔
        (includeSuspended = true → NoneSuspended callingUid s))) ∧
    ∀ uid, Faithful parcels (ContinuousTaskCallbackData.marshalling parcels)
        (ContinuousTaskCallbackData.readFromParcel parcels) ContinuousTaskCallbackData.Shares
        (askedRecords (fun record => uid = -1 ∨ uid = record.uid) false s)
        (s.getContinuousTaskApps uid) ↔
      ∀ record ∈ KeyedMap.vals s.continuousTaskInfosMap, uid = -1 ∨ uid = record.uid →
        record.suspendState = false → LeftOut record := by
  constructor
  · intro callingUid allowed
    constructor
    · rw [getAllContinuousTasks_allowed allowed, faithful_getAllContinuousTasksInner_iff]
      simp
    · intro includeSuspended
      rw [getAllContinuousTasksIncludeSuspended_allowed allowed,
        faithful_getAllContinuousTasksInner_iff]
  · intro uid
    exact faithful_getContinuousTaskApps_iff ready

/-- The task of the app runs and is listed as it is. -/
theorem taskQueries_faithful_active :
    (askedRecords (fun record => record.uid = 100) true (afterRun plainRun)).length = 1 ∧
    Faithful listParcels (ContinuousTaskInfo.marshalling listParcels)
      (ContinuousTaskInfo.readFromParcel listParcels) ContinuousTaskInfo.Shares
      (askedRecords (fun record => record.uid = 100) true (afterRun plainRun))
      ((afterRun plainRun).getAllContinuousTasks deviceEnv 100) := by
  have running : ∀ record ∈ KeyedMap.vals (afterRun plainRun).continuousTaskInfosMap,
      record.suspendState = false := by
    decide
  refine ⟨by decide, ?_⟩
  exact ((taskQueries_faithful_iff listParcels deviceEnv (afterRun plainRun)
    (by decide)).1 100 (by decide)).1.mpr (fun record member _ => running record member)

/-- The suspended task is listed as an active one, and a running one without the name of its
app. -/
theorem taskQueries_mislead :
    ¬ Faithful listParcels (ContinuousTaskInfo.marshalling listParcels)
      (ContinuousTaskInfo.readFromParcel listParcels) ContinuousTaskInfo.Shares
      (askedRecords (fun record => record.uid = 100) true (afterRun suspendedPlainRun))
      ((afterRun suspendedPlainRun).getAllContinuousTasks deviceEnv 100) ∧
    ¬ Faithful listParcels (ContinuousTaskCallbackData.marshalling listParcels)
      (ContinuousTaskCallbackData.readFromParcel listParcels) ContinuousTaskCallbackData.Shares
      (askedRecords (fun record => (100 : Int) = -1 ∨ 100 = record.uid) false (afterRun plainRun))
      ((afterRun plainRun).getContinuousTaskApps 100) := by
  constructor
  · rw [getAllContinuousTasks_allowed (by decide), faithful_getAllContinuousTasksInner_iff]
    intro none
    have suspended : ∃ record ∈ KeyedMap.vals (afterRun suspendedPlainRun).continuousTaskInfosMap,
        record.uid = 100 ∧ record.suspendState = true := by
      decide
    obtain ⟨record, member, ofApp, isSuspended⟩ := suspended
    exact absurd (none rfl record member ofApp) (by simp [isSuspended])
  · rw [faithful_getContinuousTaskApps_iff (by decide)]
    intro leftOut
    have named : ∃ record ∈ KeyedMap.vals (afterRun plainRun).continuousTaskInfosMap,
        100 = record.uid ∧ record.suspendState = false ∧ record.bundleName = "app" := by
      decide
    obtain ⟨record, member, ofApp, active, name⟩ := named
    exact absurd (leftOut record member (Or.inr ofApp) active).bundleName (by simp [name])

end BgTaskMgr.Continuous
