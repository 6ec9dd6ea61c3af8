import BgTaskMgr.Transient.DecisionMaker
import Mathlib.Data.Finset.Sort

/-!
# The transient task manager

`BgTransientTaskMgr` over the decision maker: the two maps guarded by
`expiredCallbackLock_`, the watchdog queue and the paused uids.  Each call is one
step of the system, except that `OnAppCacheStateChanged` reads the request ids of
the package before it takes the lock and is therefore two steps.
-/

set_option autoImplicit false

namespace BgTaskMgr.Transient

/-- The identity of a remote object; callbacks are compared by it. -/
abbrev Remote := Nat

/-- A callback argument: null, without a remote object, or with one. -/
inductive ExpiredCallback where
  | null
  | withoutObject
  | of (remote : Remote)
  deriving DecidableEq, Repr

structure BgTransientTaskMgr where
  isReady : Bool := false
  /-- `expiredCallbackMap_`, each callback given by its remote object. -/
  expiredCallbackMap : KeyedMap Int Remote := ∅
  keyInfoMap : KeyedMap Int KeyInfo := ∅
  decisionMaker : DecisionMaker := {}
  /-- Pending `Watchdog` events by request id. -/
  watchdog : List Int := []
  transientPauseUid : Finset Int := ∅
  /-- Ids read by `OnAppCacheStateChanged` calls that still wait for the lock. -/
  cacheSnapshots : List (List Int) := []
  /-- Ids whose callback received `OnExpired`, oldest first. -/
  expiredNotices : List Int := []

namespace BgTransientTaskMgr

def suspendNativeOperateCaller : List String :=
  ["resource_schedule_service", "hidumper_service"]

def verifyCallingInfo (uid pid : Int) : Bool := uid ≥ 0 && pid ≥ 0

def checkProcessName (env : Env) : Bool :=
  env.callerProcessName ∈ suspendNativeOperateCaller

/-- `IsCallingInfoLegal`: the bundle name and the remote object of a legal call. -/
def isCallingInfoLegal (env : Env) (uid pid : Int) (callback : ExpiredCallback) :
    Except ErrCode (String × Remote) :=
  if !verifyCallingInfo uid pid then .error .invalidPidOrUid
  else match env.bundleNameForUid uid, callback with
    | none, _ => .error .invalidBundleName
    | some _, .null => .error .invalidCallback
    | some _, .withoutObject => .error .invalidCallback
    | some name, .of remote => .ok (name, remote)

def removeWatchdog (requestId : Int) (self : BgTransientTaskMgr) : BgTransientTaskMgr :=
  { self with watchdog := self.watchdog.filter (fun id => id ≠ requestId) }

/-- The part of `RequestSuspendDelay` under the lock. -/
def requestSuspendDelayLocked (params : Params) (env : Env) (name : String) (uid pid : Int)
    (remote : Remote) (self : BgTransientTaskMgr) : ErrCode × BgTransientTaskMgr :=
  if (self.expiredCallbackMap.entries.find? (fun e => e.2 = remote)).isSome then
    (.callbackExists, self)
  else
    let keyInfo : KeyInfo := ⟨name, uid, pid⟩
    let decided := self.decisionMaker.decide params env keyInfo { pid := pid }
    let self := { self with decisionMaker := decided.2.2 }
    if decided.1 = .ok then
      (.ok, { self with
        expiredCallbackMap := self.expiredCallbackMap.insert decided.2.1.requestId remote
        keyInfoMap := self.keyInfoMap.insert decided.2.1.requestId keyInfo })
    else (decided.1, self)

def requestSuspendDelay (params : Params) (env : Env) (uid pid : Int)
    (callback : ExpiredCallback) (self : BgTransientTaskMgr) : ErrCode × BgTransientTaskMgr :=
  if !self.isReady then (.sysNotReady, self)
  else match isCallingInfoLegal env uid pid callback with
    | .error ret => (ret, self)
    | .ok (name, remote) => self.requestSuspendDelayLocked params env name uid pid remote

def verifyRequestIdLocked (name : String) (uid requestId : Int) (self : BgTransientTaskMgr) :
    Bool :=
  match self.keyInfoMap.lookup requestId with
  | none => false
  | some keyInfo => keyInfo.pkg = name && keyInfo.uid = uid

/-- `CancelSuspendDelayLocked`.  Indexing `keyInfoMap_` with an id it does not hold
stores a null key there, which the erasure two lines below takes away again. -/
def cancelSuspendDelayLocked (params : Params) (env : Env) (requestId : Int)
    (self : BgTransientTaskMgr) : ErrCode × BgTransientTaskMgr :=
  let self := self.removeWatchdog requestId
  let self := { self with
    decisionMaker := self.decisionMaker.removeRequest params env
      (self.keyInfoMap.lookup requestId) requestId
    keyInfoMap := self.keyInfoMap.erase requestId }
  if requestId ∈ self.expiredCallbackMap then
    (.ok, { self with expiredCallbackMap := self.expiredCallbackMap.erase requestId })
  else (.callbackNotExist, self)

def cancelSuspendDelay (params : Params) (env : Env) (uid pid requestId : Int)
    (self : BgTransientTaskMgr) : ErrCode × BgTransientTaskMgr :=
  if !self.isReady then (.sysNotReady, self)
  else if !verifyCallingInfo uid pid then (.invalidPidOrUid, self)
  else match env.bundleNameForUid uid with
    | none => (.serviceInnerError, self)
    | some name =>
        if self.verifyRequestIdLocked name uid requestId then
          self.cancelSuspendDelayLocked params env requestId
        else (.invalidRequestId, self)

def forceCancelSuspendDelay (params : Params) (env : Env) (requestId : Int)
    (self : BgTransientTaskMgr) : BgTransientTaskMgr :=
  if requestId ∈ self.keyInfoMap then (self.cancelSuspendDelayLocked params env requestId).2
  else self

def handleExpiredCallbackDeath (params : Params) (env : Env) (remote : Remote)
    (self : BgTransientTaskMgr) : BgTransientTaskMgr :=
  match self.expiredCallbackMap.entries.find? (fun e => e.2 = remote) with
  | none => self
  | some callbackIter =>
      let requestId := callbackIter.1
      let self := self.removeWatchdog requestId
      let self := { self with expiredCallbackMap := self.expiredCallbackMap.erase requestId }
      match self.keyInfoMap.lookup requestId with
      | none => self
      | some keyInfo => { self with
          decisionMaker := self.decisionMaker.removeRequest params env (some keyInfo) requestId
          keyInfoMap := self.keyInfoMap.erase requestId }

def handleRequestExpired (requestId : Int) (self : BgTransientTaskMgr) : BgTransientTaskMgr :=
  if requestId ∈ self.expiredCallbackMap then
    let self := { self with expiredNotices := self.expiredNotices ++ [requestId] }
    if requestId ∈ self.keyInfoMap then
      { self with watchdog := self.watchdog ++ [requestId] }
    else self
  else self

/-! ## Pausing -/

def pauseTransientTaskTimeForInner (params : Params) (env : Env) (uid : Int)
    (self : BgTransientTaskMgr) : ErrCode × BgTransientTaskMgr :=
  if !self.isReady then (.sysNotReady, self)
  else if !checkProcessName env then (.invalidProcessName, self)
  else if uid < 0 then (.invalidPidOrUid, self)
  else match env.bundleNameForUid uid with
    | none => (.serviceInnerError, self)
    | some name =>
        let paused := self.decisionMaker.pauseTransientTaskTimeForInner params env uid name
        let self := { self with decisionMaker := paused.2 }
        if paused.1 = .ok then
          (.ok, { self with transientPauseUid := insert uid self.transientPauseUid })
        else (paused.1, self)

def startTransientTaskTimeForInner (params : Params) (env : Env) (uid : Int)
    (self : BgTransientTaskMgr) : ErrCode × BgTransientTaskMgr :=
  if !self.isReady then (.sysNotReady, self)
  else if !checkProcessName env then (.invalidProcessName, self)
  else if uid < 0 then (.invalidPidOrUid, self)
  else match env.bundleNameForUid uid with
    | none => (.serviceInnerError, self)
    | some name =>
        let started := self.decisionMaker.startTransientTaskTimeForInner params env uid name
        let self := { self with decisionMaker := started.2 }
        if started.1 = .ok then
          (.ok, { self with transientPauseUid := self.transientPauseUid.erase uid })
        else (started.1, self)

/-- The loop body of `HandleSuspendManagerDie` at one paused uid. -/
def restartUid (params : Params) (env : Env) (decision : DecisionMaker) (uid : Int) :
    DecisionMaker :=
  match env.bundleNameForUid uid with
  | none => decision
  | some name => (decision.startTransientTaskTimeForInner params env uid name).2

/-- The paused uids are visited in increasing order, as a `std::set` is. -/
def handleSuspendManagerDie (params : Params) (env : Env) (self : BgTransientTaskMgr) :
    BgTransientTaskMgr :=
  { self with
    decisionMaker := (self.transientPauseUid.sort (· ≤ ·)).foldl (restartUid params env)
      self.decisionMaker
    transientPauseUid := ∅ }

/-! ## App cache changes and queries -/

/-- `OnAppCacheStateChanged` up to the lock. -/
def onAppCacheStateChanged (uid pid : Int) (bundleName : String) (self : BgTransientTaskMgr) :
    BgTransientTaskMgr :=
  if !self.isReady then self
  else if !verifyCallingInfo uid pid then self
  else
    let requestIdList := self.decisionMaker.getRequestIdListByKey ⟨bundleName, uid, pid⟩
    if requestIdList.isEmpty then self
    else { self with cacheSnapshots := self.cacheSnapshots ++ [requestIdList] }

/-- The rest of an `OnAppCacheStateChanged` call that read `requestIdList`. -/
def cancelSnapshot (params : Params) (env : Env) (requestIdList : List Int)
    (self : BgTransientTaskMgr) : BgTransientTaskMgr :=
  requestIdList.foldl (fun self requestId =>
    (self.cancelSuspendDelayLocked params env requestId).2) self

/-- `GetAllTransientTasks`: the remaining quota and the `(requestId, remaining time)`
pairs of the caller. -/
def getAllTransientTasks (params : Params) (env : Env) (uid pid : Int)
    (self : BgTransientTaskMgr) : Except ErrCode (Int × List (Int × Int)) × BgTransientTaskMgr :=
  if !self.isReady then (.error .transientSysNotReady, self)
  else if !verifyCallingInfo uid pid then (.error .invalidPidOrUid, self)
  else match env.bundleNameForUid uid with
    | none => (.error .serviceInnerError, self)
    | some name =>
        let quota := self.decisionMaker.getQuota params env ⟨name, uid, pid⟩
        let self := { self with decisionMaker := quota.2 }
        let mine := self.keyInfoMap.entries.filter
          (fun record => record.2.pkg = name && record.2.uid = uid)
        (.ok (quota.1, mine.map (fun record => (record.1,
          self.decisionMaker.getRemainingDelayTime env record.2 record.1))), self)

/-- `DumpAllRequestId` settles the quota of every listed package. -/
def dumpAllRequestId (params : Params) (env : Env) (self : BgTransientTaskMgr) :
    BgTransientTaskMgr :=
  { self with
    decisionMaker := self.keyInfoMap.entries.foldl (fun decision record =>
      (decision.getQuota params env record.2).2) self.decisionMaker }

end BgTransientTaskMgr

/-! ## The system -/

inductive Op where
  | initNecessaryState (servicesUp : Bool)
  | requestSuspendDelay (uid pid : Int) (callback : ExpiredCallback)
  | cancelSuspendDelay (uid pid requestId : Int)
  /-- A watchdog event of the id reaches `ForceCancelSuspendDelay`. -/
  | watchdogEvent (requestId : Int)
  | expiredCallbackDeath (remote : Remote)
  /-- A timer event of the id reaches `HandleRequestExpired`. -/
  | timerEvent (requestId : Int)
  | appCacheStateChanged (uid pid : Int) (bundleName : String)
  /-- The waiting call with this index takes the lock. -/
  | appCacheLocked (index : Nat)
  | getAllTransientTasks (uid pid : Int)
  | dumpAllRequestId
  | pause (uid : Int)
  | start (uid : Int)
  | suspendManagerDie
  | processStateChanged (processData : ProcessData)
  | processDied (processData : ProcessData)
  | inputEvent (event : EventId) (stringArg : String)
  | setDump (isDump : Bool)

open BgTransientTaskMgr in
/-- One step of the manager.  An event leaves its queue when it is handled; process
and input events reach the decision maker only once it exists. -/
def BgTransientTaskMgr.step (params : Params) (self : BgTransientTaskMgr) :
    Env × Op → BgTransientTaskMgr
  | (_, .initNecessaryState servicesUp) =>
      if servicesUp then { self with isReady := true } else self
  | (env, .requestSuspendDelay uid pid callback) =>
      (self.requestSuspendDelay params env uid pid callback).2
  | (env, .cancelSuspendDelay uid pid requestId) =>
      (self.cancelSuspendDelay params env uid pid requestId).2
  | (env, .watchdogEvent requestId) =>
      { self with watchdog := self.watchdog.erase requestId }.forceCancelSuspendDelay params env
        requestId
  | (env, .expiredCallbackDeath remote) => self.handleExpiredCallbackDeath params env remote
  | (_, .timerEvent requestId) =>
      { self with
        decisionMaker := { self.decisionMaker with
          timerManager := ⟨self.decisionMaker.timerManager.events.eraseP
            (fun event => event.1 = requestId)⟩ } }.handleRequestExpired requestId
  | (_, .appCacheStateChanged uid pid bundleName) =>
      self.onAppCacheStateChanged uid pid bundleName
  | (env, .appCacheLocked index) =>
      match self.cacheSnapshots[index]? with
      | none => self
      | some requestIdList =>
          { self with
            cacheSnapshots := self.cacheSnapshots.eraseIdx index }.cancelSnapshot params env
              requestIdList
  | (env, .getAllTransientTasks uid pid) => (self.getAllTransientTasks params env uid pid).2
  | (env, .dumpAllRequestId) =>
      if self.isReady then self.dumpAllRequestId params env else self
  | (env, .pause uid) => (self.pauseTransientTaskTimeForInner params env uid).2
  | (env, .start uid) => (self.startTransientTaskTimeForInner params env uid).2
  | (env, .suspendManagerDie) =>
      if self.isReady then self.handleSuspendManagerDie params env else self
  | (env, .processStateChanged processData) =>
      if self.isReady then
        { self with
          decisionMaker := self.decisionMaker.onProcessStateChanged params env processData }
      else self
  | (env, .processDied processData) =>
      if self.isReady then
        { self with decisionMaker := self.decisionMaker.onProcessDied params env processData }
      else self
  | (env, .inputEvent event stringArg) =>
      if self.isReady then
        { self with
          decisionMaker := self.decisionMaker.onInputEvent params env self.transientPauseUid event
            stringArg }
      else self
  | (env, .setDump isDump) =>
      if self.isReady then
        { self with decisionMaker := self.decisionMaker.step params (env, .setDump isDump) }
      else self

end BgTaskMgr.Transient
