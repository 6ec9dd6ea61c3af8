import BgTaskMgr.Common.ConfigFiles
import BgTaskMgr.Common.ConfigRejection
import BgTaskMgr.Continuous.Authorisation
import BgTaskMgr.Efficiency.Manager
import BgTaskMgr.Lib.Obituaries
import BgTaskMgr.Transient.Manager

/-!
# The service

`BackgroundTaskMgrService` over its three managers: the gates in front of the calls that
reach it, what it hands to which manager, and the start of the service once all three are
ready.  A call of `SubscribeBackgroundTask` goes through the managers one after the other,
so other events come in between.
-/

set_option autoImplicit false

namespace BgTaskMgr.Core

/-! ## Callers -/

inductive TokenType where
  | invalid
  | hap
  | native
  | shell
  deriving DecidableEq, Repr

inductive Permission where
  | keepBackgroundRunning
  | setBackgroundTaskState
  | getBackgroundTaskInfo
  | dump
  deriving DecidableEq, Repr

/-- Who makes a call, as far as the gates ask. -/
structure Caller where
  uid : Int
  pid : Int := 0
  tokenType : TokenType
  tokenId : Nat := 0
  fullTokenId : Nat := 0
  isAtomicService : Bool := false
  permissions : List Permission := []
  deriving DecidableEq, Repr

namespace Caller

def resourceScheduleServiceUid : Int := 1096

def checkCallingToken (self : Caller) : Bool :=
  self.tokenType == .native || self.tokenType == .shell

def checkCallingProcess (self : Caller) : Bool := self.uid == resourceScheduleServiceUid

def checkPermission (permission : Permission) (self : Caller) : Bool :=
  permission ∈ self.permissions

end Caller

def subscriberBackgroundTaskState : BitVec 32 := 8#32

/-! ## Calls and events -/

structure ServiceEnv where
  caller : Caller
  transient : Transient.Env
  continuous : Continuous.AuthEnv
  efficiency : Efficiency.Env
  /-- `CheckSignature`. -/
  signatureOk : String → Bool := fun _ => true
  /-- `appId` and `appIdentifier` of a bundle. -/
  appIdentity : String → String × String := fun _ => ("", "")
  suspendManagerConfigFile : Option Json := none
  backgroundTaskConfigFile : Option Json := none
  /-- `Publish` succeeds. -/
  publishOk : Bool := true
  engMode : Bool := false

inductive DumpCommand where
  | allRequestId
  /-- `BATTARY_LOW` and `BATTARY_OKAY` set it, `DUMP_CANCEL` clears it. -/
  | setDump (isDump : Bool)
  | taskTime (pause : Bool) (uid : Int)
  | cancelTask (taskKey : Option String)
  | innerTask (taskParam : Continuous.ContinuousTaskParamForInner)
  | efficiency (dumpOption : Efficiency.DumpOption)

inductive Request where
  | requestSuspendDelay (callback : Transient.ExpiredCallback)
  | cancelSuspendDelay (requestId : Int)
  | getAllTransientTasks
  | pauseTransientTaskTimeForInner (uid : Int)
  | startTransientTaskTimeForInner (uid : Int)
  | setBgTaskConfig (configData : Option Json) (sourceType : Int)
  | startBackgroundRunning (taskParam : Continuous.ContinuousTaskParam)
  | updateBackgroundRunning (taskParam : Continuous.ContinuousTaskParam)
  | requestBackgroundRunningForInner (taskParam : Continuous.ContinuousTaskParamForInner)
  | stopBackgroundRunning (abilityName : String) (abilityId continuousTaskId : Int)
  | updateDataTransferProgress (progressInfo : Continuous.DataTransferProgress)
  | subscribeBackgroundTask (subscriber : Option Nat) (flag : BitVec 32)
  | unsubscribeBackgroundTask (subscriber : Option Nat) (flag : BitVec 32)
  | applyEfficiencyResources (resourceInfo : Efficiency.EfficiencyResourceInfo)
  | resetAllEfficiencyResources
  | stopContinuousTask (uid pid : Int) (taskType : Nat) (key : String)
  | suspendContinuousTask (uid pid reason : Int) (key : String) (isStandby : Bool)
  | activeContinuousTask (uid pid : Int) (key : String) (isStandby : Bool)
  | avSessionNotifyUpdateNotification (uid pid : Int) (isPublish : Bool)
  | suspendContinuousAudioTask (uid : Int)
  | setSupportedTaskKeepingProcesses (processSet : Finset String)
  | setMaliciousAppConfig (maliciousAppSet : Finset String)
  | setSpecialExemptedProcess (bundleNameSet : Finset String)
  | requestAuthFromUser (taskParam : Continuous.ContinuousTaskParam)
      (requestAuthApiVersion : Int) (callback : Option Nat)
  | enableContinuousTaskRequest (uid : Int) (isEnable : Bool)
  | setBackgroundTaskState (taskParam : Continuous.BackgroundTaskStateInfo)
  | sendNotificationByDeteTask (taskKeys : List String)
  | removeAuthRecord (taskParam : Continuous.ContinuousTaskParam)
  | dump (command : DumpCommand)

inductive SystemAbility where
  | appMgr
  | bundleMgr
  | resSched
  | voipCallManager
  | healthSport
  | aamConn
  | suspendManager
  deriving DecidableEq, Repr

inductive SubscriberOwner where
  | continuous
  | transient
  | efficiency
  deriving DecidableEq, Repr

inductive ServiceEvent where
  | request (request : Request)
  /-- A call under way takes its next handler task. -/
  | proceed (index : Nat)
  /-- `InitNecessaryState` of the transient task manager, posted again until it succeeds. -/
  | initTransient (servicesUp : Bool)
  /-- `InitRequiredResourceInfo`. -/
  | initContinuous
  | addSystemAbility (ability : SystemAbility)
  | removeSystemAbility (ability : SystemAbility)
  | transient (op : Transient.Op)
  | continuous (op : Continuous.AuthOp)
  | efficiency (op : Efficiency.ResourceOp)
  /-- The process of a remote object ends. -/
  | remoteDies (remote : Nat)
  | subscriberDied (owner : SubscriberOwner) (remote : Nat)
  | expiredCallbackDied (remote : Nat)
  | stop
  /-- The service process ends and starts again. -/
  | restart

/-! ## State -/

inductive ServiceRunningState where
  | stateNotStart
  | stateRunning
  deriving DecidableEq, Repr

/-- A call of a system ability between its handler tasks: the continuous task manager has
taken it. -/
structure SubscriptionCall where
  remote : Nat
  subscribes : Bool
  /-- The transient task manager has taken it as well. -/
  transientDone : Bool := false
  deriving DecidableEq, Repr

structure BackgroundTaskMgrService where
  dependsReady : BitVec 32 := 0#32
  state : ServiceRunningState := .stateNotStart
  /-- How often this process has published the service. -/
  publications : Nat := 0
  config : BgtaskConfig := {}
  configFileInfo : BgTaskConfigFileInfo := {}
  transient : Transient.BgTransientTaskMgr := {}
  continuous : Continuous.AuthMgr := {}
  efficiency : Efficiency.BgEfficiencyResourcesMgr := {}
  /-- `subscriberList_` of the transient task manager, by remote object. -/
  transientSubscribers : List Nat := []
  /-- `subscriberList_` of `ResourcesSubscriberMgr`. -/
  resourceSubscribers : List Nat := []
  continuousDeaths : Obituaries Nat := {}
  transientDeaths : Obituaries Nat := {}
  resourceDeaths : Obituaries Nat := {}
  underWay : List SubscriptionCall := []
  /-- The remote objects whose process has ended. -/
  dead : Finset Nat := ∅

inductive ServiceErrCode where
  | of (code : ErrCode)
  | paramNumberErr
  /-- The call goes on, and its last handler task has the code. -/
  | underWay
  deriving DecidableEq, Repr

namespace BackgroundTaskMgrService

/-! ## What a manager is asked during a call -/

variable (env : ServiceEnv) (self : BackgroundTaskMgrService)

def transientEnv : Transient.Env :=
  { env.transient with
    config :=
      { isTransientTaskExemptedQuatoApp := fun bundleName =>
          ConfigState.isTransientTaskExemptedQuatoApp
            ⟨fun _ signatures => signatures, fun _ name => env.signatureOk name⟩ bundleName
            { config := self.config, signatures := () : ConfigState Unit }
        transientTaskExemptedQuato := self.config.transientTaskExemptedQuato } }

def continuousEnv : Continuous.AuthEnv :=
  { env.continuous with
    callingPid := env.caller.pid
    callingTokenId := env.caller.tokenId
    callingFullTokenId := env.caller.fullTokenId
    bgmodePermission := env.caller.checkPermission .keepBackgroundRunning
    isTaskKeepingExemptedQuatoApp := fun name =>
      decide (name ∈ self.config.taskKeepingExemptedQuatoList) && env.signatureOk name
    isMaliciousAppConfig := fun name =>
      decide (name ∈ self.config.maliciousAppBlocklist) && env.signatureOk name
    isSpecialExemptedQuatoApp := fun name =>
      decide (name ∈ self.config.specialExemptedQuatoList) && env.signatureOk name }

def efficiencyEnv : Efficiency.Env :=
  { env.efficiency with
    isSystemApp := env.continuous.isSystemApp env.caller.fullTokenId
    cpuLevelConfigured := fun bundleName => self.configFileInfo.checkBundleName bundleName
    appSignaturesValid := fun bundleName =>
      self.configFileInfo.checkAppSignatures bundleName (env.appIdentity bundleName).1
        (env.appIdentity bundleName).2
    cpuLevelAllowed := fun bundleName cpuLevel =>
      self.configFileInfo.checkCpuLevel bundleName cpuLevel }

/-! ## Steps of one manager -/

def transientStep (params : Transient.Params) (op : Transient.Op) : BackgroundTaskMgrService :=
  { self with transient := self.transient.step params (self.transientEnv env, op) }

def continuousStep (op : Continuous.AuthOp) : BackgroundTaskMgrService :=
  { self with continuous := self.continuous.authStep (self.continuousEnv env, op) }

def taskStep (op : Continuous.TaskOp) : BackgroundTaskMgrService :=
  self.continuousStep env (.service (.task op))

def efficiencyStep (op : Efficiency.ServiceOp) : BackgroundTaskMgrService :=
  { self with efficiency := self.efficiency.step (self.efficiencyEnv env, op) }

/-! ## Readiness -/

def transientServiceReady : BitVec 32 := 1#32
def continuousServiceReady : BitVec 32 := 2#32
def efficiencyResourcesServiceReady : BitVec 32 := 4#32
def allReady : BitVec 32 := 7#32

/-- The configuration is read and the service published by the last of the three signals.  What
`Init` throws at the first file leaves the second one unread and the service unpublished. -/
def setReady (flag : BitVec 32) : BackgroundTaskMgrService :=
  if self.dependsReady = allReady then self
  else
    let signalled := { self with dependsReady := self.dependsReady ||| flag }
    if signalled.dependsReady ≠ allReady then signalled
    else
      match loadConfigFile env.suspendManagerConfigFile self.config with
      | (.error _, config) => { signalled with config := config }
      | (.ok (), config) =>
          let configured := { signalled with
            config := config
            configFileInfo := loadBgTaskConfigFile env.backgroundTaskConfigFile
              self.configFileInfo }
          if !env.publishOk then configured
          else
            { configured with
              publications := configured.publications + 1
              state := .stateRunning }

def initTransient (params : Transient.Params) (servicesUp : Bool) : BackgroundTaskMgrService :=
  if self.transient.isReady then self
  else
    let initialised := self.transientStep env params (.initNecessaryState servicesUp)
    if servicesUp then initialised.setReady env transientServiceReady else initialised

def initContinuous : BackgroundTaskMgrService :=
  if self.continuous.mgr.isSysReady then self
  else (self.continuousStep env (.service .initRequiredResourceInfo)).setReady env
    continuousServiceReady

def onAddSystemAbility (ability : Efficiency.DependedAbility) : BackgroundTaskMgrService :=
  let added := self.efficiencyStep env (.addSystemAbility ability)
  if !self.efficiency.isSysReady && added.efficiency.isSysReady then
    added.setReady env efficiencyResourcesServiceReady
  else added

def onRemoveSystemAbility (params : Transient.Params) (ability : SystemAbility) :
    BackgroundTaskMgrService :=
  match ability with
  | .appMgr => self.efficiencyStep env (.removeSystemAbility .appMgr)
  | .bundleMgr => self.efficiencyStep env (.removeSystemAbility .bundleMgr)
  | .resSched => self.efficiencyStep env (.removeSystemAbility .resSched)
  | .voipCallManager => self.taskStep env (.onRemoveSystemAbility Continuous.BackgroundMode.voip)
  | .healthSport => self.taskStep env (.onRemoveSystemAbility Continuous.BackgroundMode.workout)
  | .aamConn => self.taskStep env (.onRemoveSystemAbility Continuous.BackgroundMode.audioPlayback)
  | .suspendManager => self.transientStep env params .suspendManagerDie

/-! ## Gates -/

def checkHapCalling (caller : Caller) (flag : BitVec 32) : Bool × Bool :=
  if caller.tokenType == .hap then
    if flag = subscriberBackgroundTaskState then (true, true)
    else (caller.checkPermission .keepBackgroundRunning, true)
  else (false, false)

/-- The checks in front of `SubscribeBackgroundTask` and `UnsubscribeBackgroundTask`: whether
an app makes the call. -/
def checkSubscription (flag : BitVec 32) : Except ErrCode Bool :=
  let token := env.caller.checkCallingToken
  let hap := checkHapCalling env.caller flag
  let isHap := !token && hap.2
  if !token && !hap.1 then .error .permissionDenied
  else if isHap && flag == subscriberBackgroundTaskState then
    if env.caller.isAtomicService then .error .permissionDenied
    else if !env.continuous.isSystemApp env.caller.fullTokenId then .error .notSystemApp
    else if !env.caller.checkPermission .getBackgroundTaskInfo then .error .permissionDenied
    else .ok isHap
  else .ok isHap

def atomicServiceModes : List Nat :=
  [Continuous.BackgroundMode.audioPlayback, Continuous.BackgroundMode.multiDeviceConnection,
    Continuous.BackgroundMode.location]

def checkAtomicServiceModes (taskParam : Continuous.ContinuousTaskParam) : Bool :=
  !env.caller.isAtomicService || taskParam.bgModeIds.all (fun mode => mode ∈ atomicServiceModes)

def checkResourceSchedule : Bool :=
  env.caller.checkCallingToken && env.caller.checkCallingProcess

def checkSetBackgroundTaskState : ErrCode :=
  if env.caller.isAtomicService then .permissionDenied
  else if env.caller.tokenType ≠ .hap then .permissionDenied
  else if !env.caller.checkPermission .setBackgroundTaskState then .permissionDenied
  else if !env.continuous.isSystemApp env.caller.fullTokenId then .notSystemApp
  else .ok

def checkRequestAuthFromUser (requestAuthApiVersion : Int) : ErrCode :=
  if env.caller.isAtomicService then .permissionDenied
  else if env.caller.tokenType ≠ .hap then .permissionDenied
  else if requestAuthApiVersion ≠ Continuous.apiVersionRequestSpecialUserAuth ∧
      requestAuthApiVersion ≠ Continuous.apiVersionRequestSpecialUserAuthByDialog then
    .continuousApiVersionFail
  else .ok

def allowDump : Bool := env.engMode && env.caller.checkPermission .dump

/-! ## Subscribers -/

def inContinuous (remote : Nat) : Bool :=
  self.continuous.mgr.bgTaskSubscribers.any (fun info => info.remote == remote)

def addContinuousSubscriber (info : Continuous.SubscriberInfo) : BackgroundTaskMgrService :=
  let added := self.taskStep env (.addSubscriber info)
  if self.inContinuous info.remote then added
  else { added with continuousDeaths := self.continuousDeaths.watch self.dead info.remote }

def removeContinuousSubscriber (remote : Nat) (flag : BitVec 32) : BackgroundTaskMgrService :=
  let removed := self.taskStep env (.removeSubscriber remote flag)
  if self.inContinuous remote && !removed.inContinuous remote then
    { removed with continuousDeaths := self.continuousDeaths.unwatch remote }
  else removed

def addTransientSubscriber (remote : Nat) : BackgroundTaskMgrService :=
  if remote ∈ self.transientSubscribers then self
  else
    { self with
      transientDeaths := self.transientDeaths.watch self.dead remote
      transientSubscribers := self.transientSubscribers ++ [remote] }

def removeTransientSubscriber (remote : Nat) : BackgroundTaskMgrService :=
  if remote ∈ self.transientSubscribers then
    { self with
      transientDeaths := self.transientDeaths.unwatch remote
      transientSubscribers := self.transientSubscribers.erase remote }
  else self

def addResourceSubscriber (remote : Nat) : BackgroundTaskMgrService :=
  if remote ∈ self.resourceSubscribers then self
  else
    { self with
      resourceSubscribers := self.resourceSubscribers ++ [remote]
      resourceDeaths := self.resourceDeaths.watch self.dead remote }

def removeResourceSubscriber (remote : Nat) : BackgroundTaskMgrService :=
  if remote ∈ self.resourceSubscribers then
    { self with
      resourceSubscribers := self.resourceSubscribers.erase remote
      resourceDeaths := self.resourceDeaths.unwatch remote }
  else self

/-- The first handler task of a subscription; the call of a system ability goes on with the
other managers. -/
def subscribeBackgroundTask (subscriber : Option Nat) (flag : BitVec 32) :
    ServiceErrCode × BackgroundTaskMgrService :=
  match checkSubscription env flag, subscriber with
  | .error code, _ => (.of code, self)
  | .ok _, none => (.of .sysNotReady, self)
  | .ok isHap, some remote =>
      let added := self.addContinuousSubscriber env
        { remote := remote, uid := env.caller.uid, pid := env.caller.pid, isHap := isHap,
          flag := flag }
      if isHap then (.of .ok, added)
      else (.underWay, { added with underWay := added.underWay ++ [⟨remote, true, false⟩] })

def unsubscribeBackgroundTask (subscriber : Option Nat) (flag : BitVec 32) :
    ServiceErrCode × BackgroundTaskMgrService :=
  match checkSubscription env flag, subscriber with
  | .error code, _ => (.of code, self)
  | .ok _, none => (.of .sysNotReady, self)
  | .ok isHap, some remote =>
      let removed := self.removeContinuousSubscriber env remote flag
      if isHap then (.of .ok, removed)
      else (.underWay, { removed with underWay := removed.underWay ++ [⟨remote, false, false⟩] })

/-- The next handler task of a call under way: the transient task manager takes it, then the
efficiency resources manager, and the call returns. -/
def proceed (index : Nat) : BackgroundTaskMgrService :=
  match self.underWay[index]? with
  | none => self
  | some call =>
      if !call.transientDone then
        let handled :=
          if call.subscribes then self.addTransientSubscriber call.remote
          else self.removeTransientSubscriber call.remote
        { handled with underWay := self.underWay.set index { call with transientDone := true } }
      else
        let handled :=
          if call.subscribes then self.addResourceSubscriber call.remote
          else self.removeResourceSubscriber call.remote
        { handled with underWay := self.underWay.eraseIdx index }

/-- The code of the call, if the next handler task is its last: the efficiency resources manager
refuses a subscriber that it has, and to remove one that it has not. -/
def proceedCode (index : Nat) : Option ErrCode :=
  match self.underWay[index]? with
  | none => none
  | some call =>
      if !call.transientDone then none
      else if call.subscribes = decide (call.remote ∈ self.resourceSubscribers) then
        some .sysNotReady
      else some .ok

def subscriberDied (owner : SubscriberOwner) (remote : Nat) : BackgroundTaskMgrService :=
  match owner with
  | .continuous =>
      if remote ∈ self.continuousDeaths.underWay then
        { self.taskStep env (.onRemoteSubscriberDied remote) with
          continuousDeaths := self.continuousDeaths.deliver remote }
      else self
  | .transient =>
      if remote ∈ self.transientDeaths.underWay then
        { self with
          transientSubscribers := self.transientSubscribers.erase remote
          transientDeaths := self.transientDeaths.deliver remote }
      else self
  | .efficiency =>
      if remote ∈ self.resourceDeaths.underWay then
        { self with
          resourceSubscribers := self.resourceSubscribers.erase remote
          resourceDeaths := self.resourceDeaths.deliver remote }
      else self

def remoteDies (remote : Nat) : BackgroundTaskMgrService :=
  { self with
    dead := insert remote self.dead
    continuousDeaths := self.continuousDeaths.die remote
    transientDeaths := self.transientDeaths.die remote
    resourceDeaths := self.resourceDeaths.die remote }

/-! ## Calls -/

def gated (allowed : Bool) (call : ServiceErrCode × BackgroundTaskMgrService) :
    ServiceErrCode × BackgroundTaskMgrService :=
  if allowed then call else (.of .permissionDenied, self)

def checkedBy (code : ErrCode) (call : ServiceErrCode × BackgroundTaskMgrService) :
    ServiceErrCode × BackgroundTaskMgrService :=
  if code = .ok then call else (.of code, self)

def clientCall (call : Continuous.ClientCall) : ServiceErrCode × BackgroundTaskMgrService :=
  (.of (self.continuous.mgr.clientCall (self.continuousEnv env).toEnv env.caller.uid call).1,
    self.taskStep env (.client env.caller.uid call))

/-- `SetBgTaskConfig` of the transient task manager.  A value of the wrong type throws; the
settings stay as they were then. -/
def setBgTaskConfig (configData : Option Json) (sourceType : Int) :
    ServiceErrCode × BackgroundTaskMgrService :=
  if !self.transient.isReady then (.of .sysNotReady, self)
  else if !Transient.BgTransientTaskMgr.checkProcessName env.transient then
    (.of .invalidProcessName, self)
  else
    let added := self.config.addExemptedQuatoData truncate configData sourceType
    match added.1 with
    | .ok true => (.of .ok, { self with config := added.2 })
    | _ => (.paramNumberErr, { self with config := added.2 })

def dump (params : Transient.Params) : DumpCommand → BackgroundTaskMgrService
  | .allRequestId => self.transientStep env params .dumpAllRequestId
  | .setDump isDump => self.transientStep env params (.setDump isDump)
  | .taskTime pause uid =>
      if self.transient.isReady then
        self.transientStep env params (if pause then .pause uid else .start uid)
      else self
  | .cancelTask taskKey => self.taskStep env (.shellDumpCancel taskKey)
  | .innerTask taskParam => self.taskStep env (.debugContinuousTask taskParam)
  | .efficiency dumpOption => self.efficiencyStep env (.resource (.shellDump dumpOption))

def request (params : Transient.Params) : Request → ServiceErrCode × BackgroundTaskMgrService
  | .requestSuspendDelay callback =>
      self.gated (!env.caller.isAtomicService)
        (.of (self.transient.requestSuspendDelay params (self.transientEnv env) env.caller.uid
            env.caller.pid callback).1,
          self.transientStep env params
            (.requestSuspendDelay env.caller.uid env.caller.pid callback))
  | .cancelSuspendDelay requestId =>
      (.of (self.transient.cancelSuspendDelay params (self.transientEnv env) env.caller.uid
          env.caller.pid requestId).1,
        self.transientStep env params
          (.cancelSuspendDelay env.caller.uid env.caller.pid requestId))
  | .getAllTransientTasks =>
      (match (self.transient.getAllTransientTasks params (self.transientEnv env) env.caller.uid
          env.caller.pid).1 with
        | .error code => .of code
        | .ok _ => .of .ok,
        self.transientStep env params (.getAllTransientTasks env.caller.uid env.caller.pid))
  | .pauseTransientTaskTimeForInner uid =>
      (.of (self.transient.pauseTransientTaskTimeForInner params (self.transientEnv env) uid).1,
        self.transientStep env params (.pause uid))
  | .startTransientTaskTimeForInner uid =>
      (.of (self.transient.startTransientTaskTimeForInner params (self.transientEnv env) uid).1,
        self.transientStep env params (.start uid))
  | .setBgTaskConfig configData sourceType =>
      self.gated env.caller.checkCallingToken (self.setBgTaskConfig env configData sourceType)
  | .startBackgroundRunning taskParam =>
      self.gated (checkAtomicServiceModes env taskParam)
        (self.clientCall env (.startBackgroundRunning taskParam))
  | .updateBackgroundRunning taskParam =>
      self.gated (checkAtomicServiceModes env taskParam)
        (self.clientCall env (.updateBackgroundRunning taskParam))
  | .requestBackgroundRunningForInner taskParam =>
      (.of (self.continuous.mgr.requestBackgroundRunningForInner (self.continuousEnv env).toEnv
          env.caller.uid taskParam).1,
        self.taskStep env (.requestBackgroundRunningForInner env.caller.uid taskParam))
  | .stopBackgroundRunning abilityName abilityId continuousTaskId =>
      self.clientCall env (.stopBackgroundRunning abilityName abilityId continuousTaskId)
  | .updateDataTransferProgress progressInfo =>
      self.gated (!env.caller.isAtomicService)
        (self.clientCall env (.updateDataTransferProgress progressInfo))
  | .subscribeBackgroundTask subscriber flag =>
      self.subscribeBackgroundTask env subscriber flag
  | .unsubscribeBackgroundTask subscriber flag =>
      self.unsubscribeBackgroundTask env subscriber flag
  | .applyEfficiencyResources resourceInfo =>
      (.of (self.efficiency.applyEfficiencyResources (self.efficiencyEnv env) env.caller.uid
          env.caller.pid resourceInfo).1,
        self.efficiencyStep env (.resource
          (.applyEfficiencyResources env.caller.uid env.caller.pid resourceInfo)))
  | .resetAllEfficiencyResources =>
      (.of (self.efficiency.resetAllEfficiencyResources (self.efficiencyEnv env) env.caller.uid
          env.caller.pid).1,
        self.efficiencyStep env (.resource
          (.resetAllEfficiencyResources env.caller.uid env.caller.pid)))
  | .stopContinuousTask uid _ taskType key =>
      self.gated (checkResourceSchedule env)
        (.of .ok, self.taskStep env (.stopContinuousTask uid taskType key))
  | .suspendContinuousTask uid _ reason key isStandby =>
      self.gated (checkResourceSchedule env)
        (.of .ok, self.taskStep env (.suspendContinuousTask uid reason key isStandby))
  | .activeContinuousTask uid _ _ isStandby =>
      self.gated (checkResourceSchedule env)
        (.of .ok, self.taskStep env (.activeContinuousTask uid isStandby))
  | .avSessionNotifyUpdateNotification uid pid isPublish =>
      self.gated env.caller.checkCallingToken
        (.of (self.continuous.mgr.avSessionNotifyUpdateNotification (self.continuousEnv env).toEnv
            env.caller.uid uid pid isPublish).1,
          self.taskStep env
            (.avSessionNotifyUpdateNotification env.caller.uid uid pid isPublish))
  | .suspendContinuousAudioTask uid =>
      self.gated (checkResourceSchedule env)
        (.of .ok, self.taskStep env (.suspendContinuousAudioTask uid))
  | .setSupportedTaskKeepingProcesses processSet =>
      self.gated (checkResourceSchedule env) (.of .ok, { self with
        config := { self.config with
          taskKeepingExemptedQuatoList :=
            self.config.taskKeepingExemptedQuatoList ∪ processSet } })
  | .setMaliciousAppConfig maliciousAppSet =>
      self.gated (checkResourceSchedule env) (.of .ok, { self with
        config := { self.config with
          maliciousAppBlocklist := self.config.maliciousAppBlocklist ∪ maliciousAppSet } })
  | .setSpecialExemptedProcess bundleNameSet =>
      self.gated (checkResourceSchedule env) (.of .ok, { self with
        config := { self.config with
          specialExemptedQuatoList := self.config.specialExemptedQuatoList ∪ bundleNameSet } })
  | .requestAuthFromUser taskParam requestAuthApiVersion callback =>
      self.checkedBy (checkRequestAuthFromUser env requestAuthApiVersion)
        (.of (self.continuous.requestAuthFromUser (self.continuousEnv env) env.caller.uid
            (some taskParam) requestAuthApiVersion callback).1,
          self.continuousStep env (.requestAuthFromUser env.caller.uid (some taskParam)
            requestAuthApiVersion callback))
  | .enableContinuousTaskRequest uid isEnable =>
      self.gated (checkResourceSchedule env)
        (.of (if self.continuous.mgr.isSysReady then .ok else .sysNotReady),
          self.taskStep env (.enableContinuousTaskRequest uid isEnable))
  | .setBackgroundTaskState taskParam =>
      self.checkedBy (checkSetBackgroundTaskState env)
        (.of (self.continuous.setBackgroundTaskState (self.continuousEnv env)
            (some taskParam)).1,
          self.continuousStep env (.setBackgroundTaskState (some taskParam)))
  | .sendNotificationByDeteTask taskKeys =>
      self.gated (checkResourceSchedule env)
        (.of (if self.continuous.mgr.isSysReady then .ok else .sysNotReady),
          self.taskStep env (.sendNotificationByDeteTask taskKeys))
  | .removeAuthRecord taskParam =>
      self.gated (env.caller.tokenType == .hap)
        (.of (self.continuous.removeAuthRecord (self.continuousEnv env) env.caller.uid
            (some taskParam)).1,
          self.continuousStep env (.removeAuthRecord env.caller.uid (some taskParam)))
  | .dump command => self.gated (allowDump env) (.of .ok, self.dump env params command)

/-! ## Runs -/

def transientEvent : Transient.Op → Bool
  | .watchdogEvent _ | .timerEvent _ | .appCacheStateChanged _ _ _ | .appCacheLocked _
  | .processStateChanged _ | .processDied _ | .inputEvent _ _ => true
  | _ => false

/-- The operations of the continuous task manager that no call makes, and that need no more
than this manager. -/
def continuousEvent : Continuous.AuthOp → Bool
  | .service (.task op) =>
      match op with
      | .runDelayedNotify | .onAbilityStateChanged _ _ _ | .onAppStopped _
      | .onAppStateChanged _ _ | .onBundleInfoChanged _ _ _ _ _ | .onAccountsStateChanged
      | .onConsumed _ | .onLiveViewCanceled _ | .onCanceled _ _ | .stopBannerContinuousTaskByUser _
      | .onBundleResourcesChanged | .notifyAudioStart _ | .publishBannerNotification
      | .rehash _ => true
      | _ => false
  | .onPermissionDialogButtonClick _ _ _ _ | .onBannerNotificationActionButtonClick _ _
  | .onRestore _ _ | .rehash _ => true
  | _ => false

def efficiencyEvent : Efficiency.ResourceOp → Bool
  | .removeAppRecord _ _ _ | .removeProcessRecord _ _ _ | .runPending _ => true
  | _ => false

/-- A new process: what the managers keep is what they had stored, and every client has to
subscribe anew. -/
def restart : BackgroundTaskMgrService :=
  { continuous := self.continuous.authStep (self.continuousEnv env, .service .restart)
    efficiency := self.efficiency.step (self.efficiencyEnv env, .restart)
    dead := self.dead }

/-- One event.  Calls reach the service once it is published. -/
def step (params : Transient.Params) (self : BackgroundTaskMgrService) :
    ServiceEnv × ServiceEvent → BackgroundTaskMgrService
  | (env, .request request) =>
      if self.publications = 0 then self else (self.request env params request).2
  | (_, .proceed index) => self.proceed index
  | (env, .initTransient servicesUp) => self.initTransient env params servicesUp
  | (env, .initContinuous) => self.initContinuous env
  | (env, .addSystemAbility .appMgr) => self.onAddSystemAbility env .appMgr
  | (env, .addSystemAbility .bundleMgr) => self.onAddSystemAbility env .bundleMgr
  | (env, .addSystemAbility .resSched) => self.onAddSystemAbility env .resSched
  | (_, .addSystemAbility _) => self
  | (env, .removeSystemAbility ability) => self.onRemoveSystemAbility env params ability
  | (env, .transient op) => if transientEvent op then self.transientStep env params op else self
  | (env, .continuous op) => if continuousEvent op then self.continuousStep env op else self
  | (env, .efficiency op) =>
      if efficiencyEvent op then self.efficiencyStep env (.resource op) else self
  | (_, .remoteDies remote) => self.remoteDies remote
  | (env, .subscriberDied owner remote) => self.subscriberDied env owner remote
  | (env, .expiredCallbackDied remote) =>
      (self.transientStep env params (.expiredCallbackDeath remote)).continuousStep env
        (.handleAuthExpiredCallbackDeath remote)
  | (_, .stop) => { self with state := .stateNotStart }
  | (env, .restart) => self.restart env

def installed (hash : String → Nat) : BackgroundTaskMgrService :=
  { continuous := Continuous.AuthMgr.installed hash }

end BackgroundTaskMgrService

/-! ## A device for concrete runs -/

def deviceEnv (uid : Int) : ServiceEnv where
  caller := { uid := uid, pid := 7, tokenType := .hap, permissions := [.keepBackgroundRunning] }
  transient := Transient.quietEnv 0
  continuous := { toEnv := Continuous.deviceEnv }
  efficiency := Efficiency.quietEnv 0 0

def nativeEnv (uid : Int) : ServiceEnv :=
  { deviceEnv uid with caller := { uid := uid, pid := 8, tokenType := .native } }

def boot : List (ServiceEnv × ServiceEvent) :=
  [.addSystemAbility .appMgr, .addSystemAbility .bundleMgr, .initTransient true,
    .addSystemAbility .resSched, .initContinuous].map (fun event => (nativeEnv 0, event))

end BgTaskMgr.Core
