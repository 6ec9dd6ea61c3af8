import BgTaskMgr.Efficiency.Record
import BgTaskMgr.Lib.StepSystem

/-!
# The efficiency resources manager

`BgEfficiencyResourcesMgr`: client calls check a request and post handler tasks, the
handler tasks change the two record maps.  A pending task carries the time it is due;
the steps below run pending tasks in any order.  The record file is given by the two
maps it encodes.
-/

set_option autoImplicit false

namespace BgTaskMgr.Efficiency

open Bitmask

structure Env where
  now : Int
  /-- `GetCurrentTime(CLOCK_TYPE_BOOTTIME)`. -/
  systemUpDurationMs : Int
  bundleNameForUid : Int → String
  isSystemApp : Bool
  /-- `IsServiceExtensionType(pid)`. -/
  isServiceExtensionType : Int → Bool
  /-- `QueryRunningResourcesApply(uid, bundleName)`. -/
  resourcesApply : Int → String → List Int
  /-- `CheckRequestCpuLevelBundleNameConfigured`. -/
  cpuLevelConfigured : String → Bool
  /-- `GetBundleInfo` for the CPU level check. -/
  bundleInfoKnown : String → Bool
  /-- `CheckRequestCpuLevelAppSignatures`. -/
  appSignaturesValid : String → Bool
  /-- `CheckRequestCpuLevel`. -/
  cpuLevelAllowed : String → Int → Bool
  /-- The answer of the quota library; `true` without the library. -/
  cpuApplyQuota : Int → String → EfficiencyResourceInfo → Bool
  connectAppMgr : Bool
  /-- `(uid, pid)` of every running process. -/
  allRunningProcesses : List (Int × Int)
  fileReadable : Bool
  fileWritable : Bool

def quietEnv (now up : Int) : Env where
  now := now
  systemUpDurationMs := up
  bundleNameForUid _ := "app"
  isSystemApp := true
  isServiceExtensionType _ := false
  resourcesApply _ _ := [0]
  cpuLevelConfigured _ := true
  bundleInfoKnown _ := true
  appSignaturesValid _ := true
  cpuLevelAllowed _ _ := true
  cpuApplyQuota _ _ _ := true
  connectAppMgr := true
  allRunningProcesses := []
  fileReadable := true
  fileWritable := true

inductive EfficiencyResourcesEventType where
  | appResourceApply
  | resourceApply
  | appResourceReset
  | resourceReset
  deriving DecidableEq, Repr

inductive HandlerTask where
  | applyEfficiencyResourcesInner (callbackInfo : ResourceCallbackInfo)
      (resourceInfo : EfficiencyResourceInfo)
  | resetEfficiencyResourcesInner (callbackInfo : ResourceCallbackInfo) (isProcess : Bool)
  | resetTimeOutResource (mapKey : Int) (isProcess : Bool)
  deriving DecidableEq, Repr

structure RecordFile where
  appResourceRecord : ResourceRecordMap := ∅
  processResourceRecord : ResourceRecordMap := ∅

inductive DependedAbility where
  | appMgr
  | bundleMgr
  | resSched
  deriving DecidableEq, Repr

inductive DumpOption where
  | resetAll
  /-- `--resetapp` or `--resetproc`; `none` when a parameter is missing. -/
  | reset (isProcess : Bool) (target : Option (Int × ResourceNumber))
  /-- The options that only read. -/
  | other
  deriving DecidableEq, Repr

structure BgEfficiencyResourcesMgr where
  isSysReady : Bool := false
  /-- `dependsReady_`, as the set of abilities that are up. -/
  dependsReady : List DependedAbility := []
  appMgrClient : Bool := false
  appResourceApplyMap : ResourceRecordMap := ∅
  procResourceApplyMap : ResourceRecordMap := ∅
  /-- Posted tasks with the time they are due. -/
  pending : List (HandlerTask × Int) := []
  file : RecordFile := {}
  /-- Calls of `OnResourceChanged`, oldest first. -/
  events : List (EfficiencyResourcesEventType × ResourceCallbackInfo) := []

namespace BgEfficiencyResourcesMgr

/-- `isProcess ? procResourceApplyMap_ : appResourceApplyMap_`. -/
def infoMap (isProcess : Bool) (self : BgEfficiencyResourcesMgr) : ResourceRecordMap :=
  if isProcess then self.procResourceApplyMap else self.appResourceApplyMap

def setInfoMap (isProcess : Bool) (infoMap : ResourceRecordMap)
    (self : BgEfficiencyResourcesMgr) : BgEfficiencyResourcesMgr :=
  if isProcess then { self with procResourceApplyMap := infoMap }
  else { self with appResourceApplyMap := infoMap }

def postTask (task : HandlerTask) (due : Int) (self : BgEfficiencyResourcesMgr) :
    BgEfficiencyResourcesMgr :=
  { self with pending := self.pending ++ [(task, due)] }

def onResourceChanged (callbackInfo : ResourceCallbackInfo)
    (type : EfficiencyResourcesEventType) (self : BgEfficiencyResourcesMgr) :
    BgEfficiencyResourcesMgr :=
  { self with events := self.events ++ [(type, callbackInfo)] }

def refreshResourceRecord (env : Env) (self : BgEfficiencyResourcesMgr) :
    BgEfficiencyResourcesMgr :=
  if env.fileWritable then
    { self with file := ⟨self.appResourceApplyMap, self.procResourceApplyMap⟩ }
  else self

def applyType (isProcess : Bool) : EfficiencyResourcesEventType :=
  if isProcess then .resourceApply else .appResourceApply

def resetType (isProcess : Bool) : EfficiencyResourcesEventType :=
  if isProcess then .resourceReset else .appResourceReset

/-! ## Handler tasks -/

/-- `UpdateResourcesEndtime` posts one timeout task unless the request is persistent. -/
def postTimeOut (env : Env) (mapKey : Int) (resourceInfo : EfficiencyResourceInfo)
    (self : BgEfficiencyResourcesMgr) : BgEfficiencyResourcesMgr :=
  if resourceInfo.isPersist then self
  else self.postTask (.resetTimeOutResource mapKey resourceInfo.isProcess)
    (env.now + resourceInfo.timeOut)

/-- The record that `ApplyEfficiencyResourcesInner` finds or makes, with the requested
bits and units. -/
def appliedRecord (env : Env) (callbackInfo : ResourceCallbackInfo)
    (resourceInfo : EfficiencyResourceInfo) (found : Option ResourceApplicationRecord) :
    ResourceApplicationRecord :=
  let record := match found with
    | none => ResourceApplicationRecord.setCpuLevel callbackInfo.cpuLevel
        { uid := callbackInfo.uid, pid := callbackInfo.pid
          resourceNumber := callbackInfo.resourceNumber, bundleName := callbackInfo.bundleName }
    | some record => { record with
        resourceNumber := record.resourceNumber ||| callbackInfo.resourceNumber }
  { record with
    resourceUnitList := updateUnits env.now resourceInfo callbackInfo.resourceNumber
      record.resourceUnitList }

def applyEfficiencyResourcesInner (env : Env) (callbackInfo : ResourceCallbackInfo)
    (resourceInfo : EfficiencyResourceInfo) (self : BgEfficiencyResourcesMgr) :
    BgEfficiencyResourcesMgr :=
  let isProcess := resourceInfo.isProcess
  let mapKey := callbackInfo.mapKey isProcess
  let found := (self.infoMap isProcess).lookup mapKey
  let preResourceNumber := (found.map (fun record => record.resourceNumber)).getD 0#32
  let record := appliedRecord env callbackInfo resourceInfo found
  let self := self.postTimeOut env mapKey resourceInfo
  let diffResourceNumber :=
    record.resourceNumber ^^^ (preResourceNumber &&& record.resourceNumber)
  if diffResourceNumber = 0#32 then
    (self.setInfoMap isProcess ((self.infoMap isProcess).insert mapKey record)).refreshResourceRecord
      env
  else
    let self := self.onResourceChanged { callbackInfo with resourceNumber := diffResourceNumber }
      (applyType isProcess)
    (self.setInfoMap isProcess ((self.infoMap isProcess).insert mapKey
      (record.setCpuLevel callbackInfo.cpuLevel))).refreshResourceRecord env

/-- Take `eraseBit` from the record under `mapKey`, tell the subscribers, and drop the
record when nothing is left. -/
def eraseBits (isProcess : Bool) (mapKey : Int) (record : ResourceApplicationRecord)
    (eraseBit : ResourceNumber) (cpuLevel : Int) (self : BgEfficiencyResourcesMgr) :
    BgEfficiencyResourcesMgr :=
  let after := { record with
    resourceNumber := record.resourceNumber ^^^ eraseBit
    resourceUnitList := removeListRecord eraseBit record.resourceUnitList }
  let self := self.onResourceChanged
    { uid := record.uid, pid := record.pid, resourceNumber := eraseBit
      bundleName := record.bundleName, cpuLevel := cpuLevel } (resetType isProcess)
  if after.resourceNumber = 0#32 then
    self.setInfoMap isProcess ((self.infoMap isProcess).erase mapKey)
  else self.setInfoMap isProcess
    (KeyedMap.adjust mapKey (fun _ => after) (self.infoMap isProcess))

/-- `ResetTimeOutResource`, which does not refresh the file. -/
def resetTimeOutResource (env : Env) (mapKey : Int) (isProcess : Bool)
    (self : BgEfficiencyResourcesMgr) : BgEfficiencyResourcesMgr :=
  match (self.infoMap isProcess).lookup mapKey with
  | none => self
  | some record =>
      let eraseBit := timeOutBits env.now record.resourceUnitList
      if eraseBit = 0#32 then self
      else self.eraseBits isProcess mapKey record eraseBit record.cpuLevel

def removeTargetResourceRecord (isProcess : Bool) (mapKey : Int)
    (callbackInfo : ResourceCallbackInfo) (self : BgEfficiencyResourcesMgr) :
    BgEfficiencyResourcesMgr :=
  let cleanResource := callbackInfo.resourceNumber
  match (self.infoMap isProcess).lookup mapKey with
  | none => self
  | some record =>
      if record.resourceNumber &&& cleanResource = 0#32 then self
      else self.eraseBits isProcess mapKey record (record.resourceNumber &&& cleanResource)
        callbackInfo.cpuLevel

/-- One process record of the uid in the loop of `RemoveRelativeProcessRecord`. -/
def postRelativeReset (env : Env) (uid : Int) (resourceNumber : ResourceNumber)
    (self : BgEfficiencyResourcesMgr) (record : ResourceApplicationRecord) :
    BgEfficiencyResourcesMgr :=
  if record.uid = uid ∧ resourceNumber &&& record.resourceNumber ≠ 0#32 then
    self.postTask (.resetEfficiencyResourcesInner
      { uid := uid, pid := record.pid
        resourceNumber := resourceNumber &&& record.resourceNumber
        bundleName := record.bundleName, cpuLevel := record.cpuLevel } true) env.now
  else self

def removeRelativeProcessRecord (env : Env) (uid : Int) (resourceNumber : ResourceNumber)
    (self : BgEfficiencyResourcesMgr) : BgEfficiencyResourcesMgr :=
  (KeyedMap.vals self.procResourceApplyMap).foldl (postRelativeReset env uid resourceNumber) self

def resetEfficiencyResourcesInner (env : Env) (callbackInfo : ResourceCallbackInfo)
    (isProcess : Bool) (self : BgEfficiencyResourcesMgr) : BgEfficiencyResourcesMgr :=
  let self := if isProcess then
      self.removeTargetResourceRecord true callbackInfo.pid callbackInfo
    else (self.removeTargetResourceRecord false callbackInfo.uid
      callbackInfo).removeRelativeProcessRecord env callbackInfo.uid callbackInfo.resourceNumber
  self.refreshResourceRecord env

def runTask (env : Env) (task : HandlerTask) (self : BgEfficiencyResourcesMgr) :
    BgEfficiencyResourcesMgr :=
  match task with
  | .applyEfficiencyResourcesInner callbackInfo resourceInfo =>
      self.applyEfficiencyResourcesInner env callbackInfo resourceInfo
  | .resetEfficiencyResourcesInner callbackInfo isProcess =>
      self.resetEfficiencyResourcesInner env callbackInfo isProcess
  | .resetTimeOutResource mapKey isProcess => self.resetTimeOutResource env mapKey isProcess

/-! ## Client calls -/

def checkResourceInfo (resourceInfo : EfficiencyResourceInfo) : Bool :=
  !(resourceInfo.resourceNumber == 0#32 || maxResourceMask < resourceInfo.resourceNumber ||
    (resourceInfo.isApply && !resourceInfo.isPersist && resourceInfo.timeOut == 0))

/-- `CheckIfCanApplyCpuLevel`: the verdict and the request with its level adjusted. -/
def checkIfCanApplyCpuLevel (env : Env) (resourceInfo : EfficiencyResourceInfo)
    (bundleName : String) : ErrCode × EfficiencyResourceInfo :=
  if resourceInfo.resourceNumber &&& ResourceType.cpu ≠ ResourceType.cpu then
    (.ok, { resourceInfo with cpuLevel := EfficiencyResourcesCpuLevel.default })
  else if resourceInfo.cpuLevel = EfficiencyResourcesCpuLevel.default then (.ok, resourceInfo)
  else if !env.cpuLevelConfigured bundleName then
    (.efficiencyResourcesCpuLevelNotAllowApply, resourceInfo)
  else if !env.bundleInfoKnown bundleName then
    (.efficiencyResourcesInvalidBundleInfo, resourceInfo)
  else if !env.appSignaturesValid bundleName then
    (.efficiencyResourcesCpuLevelAppSignaturesInvalid, resourceInfo)
  else if !env.cpuLevelAllowed bundleName resourceInfo.cpuLevel then
    (.efficiencyResourcesCpuLevelTooLarge, resourceInfo)
  else (.ok, resourceInfo)

/-- The loop body of `GetExemptedResourceType`. -/
def addExempted (exemptedResources : ResourceNumber) (resourceType : Int) : ResourceNumber :=
  if resourceType < 0 ∨ resourceType > maxResourcesTypeNum then exemptedResources
  else exemptedResources ||| bit 32 (resourceType - 1).toNat

def getExemptedResourceType (env : Env) (resourceNumber : ResourceNumber) (uid : Int)
    (bundleName : String) : ResourceNumber :=
  let resourcesApply := env.resourcesApply uid bundleName
  if resourcesApply = [] then 0#32
  else if 0 ∈ resourcesApply then resourceNumber
  else resourcesApply.foldl addExempted 0#32 &&& resourceNumber

def checkOrUpdateCpuApplyQuota (env : Env) (uid : Int) (bundleName : String)
    (resourceInfo : EfficiencyResourceInfo) : Bool :=
  if resourceInfo.isProcess then true
  else if resourceInfo.resourceNumber &&& ResourceType.cpu = 0#32 then true
  else if resourceInfo.isApply && resourceInfo.isPersist then true
  else env.cpuApplyQuota uid bundleName resourceInfo

def getPreAppCpuLevel (uid : Int) (self : BgEfficiencyResourcesMgr) : Int :=
  match self.appResourceApplyMap.lookup uid with
  | none => EfficiencyResourcesCpuLevel.default
  | some record =>
      if EfficiencyResourcesCpuLevel.isCpuLevelValid record.cpuLevel then record.cpuLevel
      else EfficiencyResourcesCpuLevel.default

def sendResourceApplyTask (env : Env) (uid pid : Int) (bundleName : String)
    (resourceInfo : EfficiencyResourceInfo) (self : BgEfficiencyResourcesMgr) :
    BgEfficiencyResourcesMgr :=
  let callbackInfo := ResourceCallbackInfo.setCpuLevel resourceInfo.cpuLevel
    { uid := uid, pid := pid, resourceNumber := resourceInfo.resourceNumber
      bundleName := bundleName }
  if resourceInfo.isApply then
    self.postTask (.applyEfficiencyResourcesInner callbackInfo resourceInfo) env.now
  else self.postTask (.resetEfficiencyResourcesInner callbackInfo resourceInfo.isProcess) env.now

/-- Only the CPU can be held by a process; the other resources of a process request go
to the app, at the app's present CPU level. -/
def applyResourceForPkgAndProc (env : Env) (uid pid : Int) (bundleName : String)
    (resourceInfo : EfficiencyResourceInfo) (self : BgEfficiencyResourcesMgr) :
    BgEfficiencyResourcesMgr :=
  if !resourceInfo.isProcess then self.sendResourceApplyTask env uid pid bundleName resourceInfo
  else
    let self := if resourceInfo.resourceNumber &&& ResourceType.cpu ≠ 0#32 then
        self.sendResourceApplyTask env uid pid bundleName
          { resourceInfo with resourceNumber := ResourceType.cpu }
      else self
    let resourceNumber := resourceInfo.resourceNumber &&& ~~~ResourceType.cpu
    if resourceNumber ≠ 0#32 then
      self.sendResourceApplyTask env uid pid bundleName { resourceInfo with
        resourceNumber := resourceNumber
        isProcess := false
        cpuLevel := self.getPreAppCpuLevel uid }
    else self

def applyEfficiencyResources (env : Env) (uid pid : Int) (resourceInfo : EfficiencyResourceInfo)
    (self : BgEfficiencyResourcesMgr) : ErrCode × BgEfficiencyResourcesMgr :=
  if !self.isSysReady then (.sysNotReady, self)
  else if !checkResourceInfo resourceInfo then (.resourcesExceedsMax, self)
  else if uid < 0 || pid < 0 then (.invalidPidOrUid, self)
  else
    let bundleName := env.bundleNameForUid uid
    if !env.isSystemApp && !env.isServiceExtensionType pid then (.notSystemApp, self)
    else
      let checked := checkIfCanApplyCpuLevel env resourceInfo bundleName
      if checked.1 ≠ .ok then (checked.1, self)
      else
        let exempted := getExemptedResourceType env checked.2.resourceNumber uid bundleName
        let resourceInfo := { checked.2 with resourceNumber := exempted }
        if exempted = 0#32 then (.permissionDenied, self)
        else if !checkOrUpdateCpuApplyQuota env uid bundleName resourceInfo then
          (.permissionDenied, self)
        else (.ok, self.applyResourceForPkgAndProc env uid pid bundleName resourceInfo)

def resetAllEfficiencyResources (env : Env) (uid pid : Int) (self : BgEfficiencyResourcesMgr) :
    ErrCode × BgEfficiencyResourcesMgr :=
  if !self.isSysReady then (.sysNotReady, self)
  else if uid < 0 || pid < 0 then (.invalidPidOrUid, self)
  else
    let bundleName := env.bundleNameForUid uid
    if !env.isSystemApp && !env.isServiceExtensionType pid then (.notSystemApp, self)
    else
      let exempted := getExemptedResourceType env maxResourceMask uid bundleName
      if exempted = 0#32 then (.permissionDenied, self)
      else (.ok, self.postTask (.resetEfficiencyResourcesInner
        { uid := uid, pid := pid, resourceNumber := exempted, bundleName := bundleName } false)
          env.now)

/-- `MAX_RESOURCE_MASK ^ WORK_SCHEDULER ^ TIMER`. -/
def diedMask : ResourceNumber :=
  maxResourceMask ^^^ ResourceType.workScheduler ^^^ ResourceType.timer

def removeAppRecord (env : Env) (uid : Int) (bundleName : String) (resetAll : Bool)
    (self : BgEfficiencyResourcesMgr) : ErrCode × BgEfficiencyResourcesMgr :=
  if !self.isSysReady then (.sysNotReady, self)
  else (.ok, self.postTask (.resetEfficiencyResourcesInner
    { uid := uid, pid := 0, resourceNumber := if resetAll then maxResourceMask else diedMask
      bundleName := bundleName } false) env.now)

def removeProcessRecord (env : Env) (uid pid : Int) (bundleName : String)
    (self : BgEfficiencyResourcesMgr) : ErrCode × BgEfficiencyResourcesMgr :=
  if !self.isSysReady then (.sysNotReady, self)
  else (.ok, self.postTask (.resetEfficiencyResourcesInner
    { uid := uid, pid := pid, resourceNumber := diedMask, bundleName := bundleName } true) env.now)

/-! ## Shell dump -/

def announceReset (isProcess : Bool) (self : BgEfficiencyResourcesMgr)
    (record : ResourceApplicationRecord) : BgEfficiencyResourcesMgr :=
  self.onResourceChanged
    { uid := record.uid, pid := record.pid, resourceNumber := record.resourceNumber
      bundleName := record.bundleName, cpuLevel := record.cpuLevel } (resetType isProcess)

/-- `DumpResetResource(_, cleanApp, true)`. -/
def dumpResetMap (isProcess : Bool) (self : BgEfficiencyResourcesMgr) :
    BgEfficiencyResourcesMgr :=
  ((KeyedMap.vals (self.infoMap isProcess)).foldl (announceReset isProcess) self).setInfoMap
    isProcess ∅

/-- `DumpResetResource(dumpOption, cleanApp, false)` with the key and mask it parsed. -/
def dumpResetOne (isProcess : Bool) (mapKey : Int) (cleanResource : ResourceNumber)
    (self : BgEfficiencyResourcesMgr) : BgEfficiencyResourcesMgr :=
  match (self.infoMap isProcess).lookup mapKey with
  | none => self
  | some record => self.removeTargetResourceRecord isProcess mapKey
      { uid := record.uid, pid := record.pid, resourceNumber := cleanResource
        bundleName := record.bundleName, cpuLevel := record.cpuLevel }

def shellDump (env : Env) (dumpOption : DumpOption) (self : BgEfficiencyResourcesMgr) :
    BgEfficiencyResourcesMgr :=
  if !self.isSysReady then self
  else
    let self := match dumpOption with
      | .resetAll => (self.dumpResetMap false).dumpResetMap true
      | .reset isProcess (some (mapKey, cleanResource)) =>
          self.dumpResetOne isProcess mapKey cleanResource
      | .reset _ none => self
      | .other => self
    self.refreshResourceRecord env

/-! ## Start and restart -/

def restoreResourceRecord (env : Env) (self : BgEfficiencyResourcesMgr) :
    BgEfficiencyResourcesMgr :=
  if env.fileReadable then
    { self with
      appResourceApplyMap := self.appResourceApplyMap ∪ self.file.appResourceRecord
      procResourceApplyMap := self.procResourceApplyMap ∪ self.file.processResourceRecord }
  else self

def survivesCheck (env : Env) (uid : Int) (record : ResourceApplicationRecord) : Bool :=
  record.resourceNumber &&& ResourceType.workScheduler ≠ 0#32 ||
    record.resourceNumber &&& ResourceType.timer ≠ 0#32 ||
    uid ∈ env.allRunningProcesses.map Prod.fst

def checkPersistenceData (env : Env) (self : BgEfficiencyResourcesMgr) :
    BgEfficiencyResourcesMgr :=
  { self with
    appResourceApplyMap := KeyedMap.filterVal (survivesCheck env) self.appResourceApplyMap
    procResourceApplyMap := KeyedMap.filterVal
      (fun pid _ => pid ∈ env.allRunningProcesses.map Prod.snd) self.procResourceApplyMap }

def systemUpMaxDurationMs : Int := 4 * 60 * 1000

def workSchedulerAndTimerResourceNumber : ResourceNumber :=
  ResourceType.workScheduler ||| ResourceType.timer

/-- `RecoverResourceNumber` masks the number and leaves the unit list alone. -/
def recoverResourceNumber (env : Env) (self : BgEfficiencyResourcesMgr) :
    BgEfficiencyResourcesMgr :=
  if env.systemUpDurationMs > systemUpMaxDurationMs then self
  else { self with
    appResourceApplyMap := KeyedMap.mapVal (fun _ record => { record with
      resourceNumber := record.resourceNumber &&& workSchedulerAndTimerResourceNumber })
        self.appResourceApplyMap }

def recoveredTasks (env : Env) (isProcess : Bool) (mapKey : Int)
    (record : ResourceApplicationRecord) : List (HandlerTask × Int) :=
  (record.resourceUnitList.filter (fun unit => !unit.isPersist)).map (fun unit =>
    (.resetTimeOutResource mapKey isProcess,
      env.now + max 0 (toInt32 (unit.endTime - env.now))))

def recoverDelayedTask (env : Env) (isProcess : Bool) (self : BgEfficiencyResourcesMgr) :
    BgEfficiencyResourcesMgr :=
  { self with
    pending := self.pending ++ (self.infoMap isProcess).entries.flatMap
      (fun entry => recoveredTasks env isProcess entry.1 entry.2) }

/-- `HandlePersistenceData` once the app manager is connected. -/
def restoreData (env : Env) (self : BgEfficiencyResourcesMgr) : BgEfficiencyResourcesMgr :=
  let self := self.restoreResourceRecord env
  let self := self.checkPersistenceData env
  let self := self.recoverResourceNumber env
  let self := self.recoverDelayedTask env true
  let self := self.recoverDelayedTask env false
  self.refreshResourceRecord env

def handlePersistenceData (env : Env) (self : BgEfficiencyResourcesMgr) :
    BgEfficiencyResourcesMgr :=
  if !self.appMgrClient then
    let self := { self with appMgrClient := true }
    if !env.connectAppMgr then self.refreshResourceRecord env else self.restoreData env
  else self.restoreData env

def initNecessaryState (env : Env) (self : BgEfficiencyResourcesMgr) :
    BgEfficiencyResourcesMgr :=
  if self.isSysReady then self
  else { self.handlePersistenceData env with isSysReady := true }

def allDependsReady (self : BgEfficiencyResourcesMgr) : Bool :=
  .appMgr ∈ self.dependsReady && .bundleMgr ∈ self.dependsReady &&
    .resSched ∈ self.dependsReady

def onAddSystemAbility (env : Env) (ability : DependedAbility)
    (self : BgEfficiencyResourcesMgr) : BgEfficiencyResourcesMgr :=
  let self := { self with dependsReady := self.dependsReady.insert ability }
  if self.allDependsReady then self.initNecessaryState env else self

def onRemoveSystemAbility (ability : DependedAbility) (self : BgEfficiencyResourcesMgr) :
    BgEfficiencyResourcesMgr :=
  let self := { self with dependsReady := self.dependsReady.filter (fun up => up ≠ ability) }
  if self.allDependsReady then self else { self with isSysReady := false }

end BgEfficiencyResourcesMgr

/-! ## Fields after the elementary updates -/

namespace BgEfficiencyResourcesMgr

section

variable (self : BgEfficiencyResourcesMgr) (isProcess other : Bool) (records : ResourceRecordMap)
  (env : Env)

@[simp]
theorem infoMap_setInfoMap : (self.setInfoMap isProcess records).infoMap other =
    if other = isProcess then records else self.infoMap other := by
  cases isProcess <;> cases other <;> rfl

@[simp]
theorem pending_setInfoMap : (self.setInfoMap isProcess records).pending = self.pending := by
  cases isProcess <;> rfl

@[simp]
theorem file_setInfoMap : (self.setInfoMap isProcess records).file = self.file := by
  cases isProcess <;> rfl

@[simp]
theorem events_setInfoMap : (self.setInfoMap isProcess records).events = self.events := by
  cases isProcess <;> rfl

@[simp]
theorem infoMap_onResourceChanged (callbackInfo : ResourceCallbackInfo)
    (type : EfficiencyResourcesEventType) :
    (self.onResourceChanged callbackInfo type).infoMap isProcess = self.infoMap isProcess :=
  rfl

@[simp]
theorem events_onResourceChanged (callbackInfo : ResourceCallbackInfo)
    (type : EfficiencyResourcesEventType) :
    (self.onResourceChanged callbackInfo type).events = self.events ++ [(type, callbackInfo)] :=
  rfl

@[simp]
theorem infoMap_refreshResourceRecord :
    (self.refreshResourceRecord env).infoMap isProcess = self.infoMap isProcess := by
  unfold refreshResourceRecord
  split <;> rfl

@[simp]
theorem pending_refreshResourceRecord :
    (self.refreshResourceRecord env).pending = self.pending := by
  unfold refreshResourceRecord
  split <;> rfl

@[simp]
theorem events_refreshResourceRecord :
    (self.refreshResourceRecord env).events = self.events := by
  unfold refreshResourceRecord
  split <;> rfl

@[simp]
theorem infoMap_postTimeOut (mapKey : Int) (resourceInfo : EfficiencyResourceInfo) :
    (self.postTimeOut env mapKey resourceInfo).infoMap isProcess = self.infoMap isProcess := by
  unfold postTimeOut
  split <;> rfl

@[simp]
theorem events_postTimeOut (mapKey : Int) (resourceInfo : EfficiencyResourceInfo) :
    (self.postTimeOut env mapKey resourceInfo).events = self.events := by
  unfold postTimeOut
  split <;> rfl

theorem lookup_setInfoMap_insert (mapKey key : Int) (record : ResourceApplicationRecord) :
    ((self.setInfoMap isProcess ((self.infoMap isProcess).insert mapKey record)).infoMap
        other).lookup key =
      if other = isProcess ∧ key = mapKey then some record
      else (self.infoMap other).lookup key := by
  rw [infoMap_setInfoMap]
  by_cases same : other = isProcess
  · subst same
    rw [if_pos rfl, KeyedMap.lookup_insert]
    by_cases here : key = mapKey
    · simp [here]
    · simp [here]
  · simp [same]

/-- An apply stores the applied record under the key of its caller, up to the level, and
nothing elsewhere. -/
theorem exists_lookup_applied (callbackInfo : ResourceCallbackInfo)
    (resourceInfo : EfficiencyResourceInfo) :
    ∃ cpuLevel, ∀ isProcess key,
      ((self.applyEfficiencyResourcesInner env callbackInfo resourceInfo).infoMap
          isProcess).lookup key =
        if isProcess = resourceInfo.isProcess ∧
            key = callbackInfo.mapKey resourceInfo.isProcess then
          some { appliedRecord env callbackInfo resourceInfo
            ((self.infoMap resourceInfo.isProcess).lookup
              (callbackInfo.mapKey resourceInfo.isProcess)) with cpuLevel := cpuLevel }
        else (self.infoMap isProcess).lookup key := by
  unfold applyEfficiencyResourcesInner
  dsimp only
  split
  · refine ⟨(appliedRecord env callbackInfo resourceInfo ((self.infoMap
      resourceInfo.isProcess).lookup (callbackInfo.mapKey resourceInfo.isProcess))).cpuLevel, ?_⟩
    intro isProcess key
    rw [infoMap_refreshResourceRecord, lookup_setInfoMap_insert, infoMap_postTimeOut]
  · refine ⟨((appliedRecord env callbackInfo resourceInfo ((self.infoMap
      resourceInfo.isProcess).lookup (callbackInfo.mapKey resourceInfo.isProcess))).setCpuLevel
        callbackInfo.cpuLevel).cpuLevel, ?_⟩
    intro isProcess key
    rw [infoMap_refreshResourceRecord, lookup_setInfoMap_insert, infoMap_onResourceChanged,
      infoMap_postTimeOut]
    rfl

end

end BgEfficiencyResourcesMgr

/-! ## The system -/

inductive ResourceOp where
  | applyEfficiencyResources (uid pid : Int) (resourceInfo : EfficiencyResourceInfo)
  | resetAllEfficiencyResources (uid pid : Int)
  | removeAppRecord (uid : Int) (bundleName : String) (resetAll : Bool)
  | removeProcessRecord (uid pid : Int) (bundleName : String)
  | shellDump (dumpOption : DumpOption)
  /-- The handler takes the pending task with this index. -/
  | runPending (index : Nat)

inductive ServiceOp where
  | resource (op : ResourceOp)
  | addSystemAbility (ability : DependedAbility)
  | removeSystemAbility (ability : DependedAbility)
  /-- The process ends and is started anew; only the file stays. -/
  | restart

def BgEfficiencyResourcesMgr.resourceStep (self : BgEfficiencyResourcesMgr) :
    Env × ResourceOp → BgEfficiencyResourcesMgr
  | (env, .applyEfficiencyResources uid pid resourceInfo) =>
      (self.applyEfficiencyResources env uid pid resourceInfo).2
  | (env, .resetAllEfficiencyResources uid pid) =>
      (self.resetAllEfficiencyResources env uid pid).2
  | (env, .removeAppRecord uid bundleName resetAll) =>
      (self.removeAppRecord env uid bundleName resetAll).2
  | (env, .removeProcessRecord uid pid bundleName) =>
      (self.removeProcessRecord env uid pid bundleName).2
  | (env, .shellDump dumpOption) => self.shellDump env dumpOption
  | (env, .runPending index) =>
      match self.pending[index]? with
      | none => self
      | some (task, _) => { self with pending := self.pending.eraseIdx index }.runTask env task

def BgEfficiencyResourcesMgr.step (self : BgEfficiencyResourcesMgr) :
    Env × ServiceOp → BgEfficiencyResourcesMgr
  | (env, .resource op) => self.resourceStep (env, op)
  | (env, .addSystemAbility ability) => self.onAddSystemAbility env ability
  | (_, .removeSystemAbility ability) => self.onRemoveSystemAbility ability
  | (_, .restart) => { file := self.file }

end BgTaskMgr.Efficiency
