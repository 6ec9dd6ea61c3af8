import BgTaskMgr.Lib.KeyedMap
import BgTaskMgr.Lib.StepSystem
import BgTaskMgr.Transient.PkgDelaySuspendInfo
import Mathlib.Data.Finset.Basic
import Mathlib.Logic.Relation

/-!
# The decision maker of transient tasks

`DecisionMaker` with the two objects it shares, the timer queue and the device
state, and the subscriber tasks it posts.  Every operation takes its external
answers from an `Env`.  The last section is the step system the decision maker
forms under the calls that reach it.
-/

set_option autoImplicit false

namespace BgTaskMgr.Transient

structure Env where
  now : Int
  config : BgtaskConfig
  /-- `GetAllowRequestTime()`. -/
  allowRequestTime : Int
  /-- `GetForegroundApplications`; `none` when the query fails. -/
  foregroundApplications : Option (List (String × Int))
  /-- `GetNameForUid`; `none` when the query fails. -/
  bundleNameForUid : Int → Option String
  /-- The native process name behind the caller's token. -/
  callerProcessName : String

def quietEnv (now : Int) : Env where
  now := now
  config := ⟨fun _ => false, 0⟩
  allowRequestTime := 5000
  foregroundApplications := some []
  bundleNameForUid _ := some "app"
  callerProcessName := "hidumper_service"

structure KeyInfo where
  pkg : String
  uid : Int
  pid : Int := -1
  deriving DecidableEq, Repr

/-- What `KeyInfoComp` compares. -/
def KeyInfo.mapKey (key : KeyInfo) : String × Int := (key.pkg, key.uid)

inductive TransientTaskEventType where
  | taskStart
  | taskEnd
  | taskErr
  | appTaskStart
  | appTaskEnd
  deriving DecidableEq, Repr

structure TransientTaskAppInfo where
  packageName : String
  uid : Int
  pid : Int := -1
  deriving DecidableEq, Repr

/-! ## Device state -/

inductive EventId where
  | appRunFront
  | screenOn
  | screenOff
  | screenUnlock
  | batteryLow
  | batteryOkay
  deriving DecidableEq, Repr

structure DeviceInfoManager where
  isDump : Bool := false
  isScreenOn : Bool := true
  isScreenUnlock : Bool := false
  isLowPowerMode : Bool := false
  deriving DecidableEq, Repr

/-- While a dump session is on, only the events it sent itself count. -/
def DeviceInfoManager.onInputEvent (event : EventId) (stringArg : String)
    (self : DeviceInfoManager) : DeviceInfoManager :=
  if self.isDump && stringArg ≠ "dump" then self
  else match event with
    | .screenOn => { self with isScreenOn := true }
    | .screenOff => { self with isScreenOn := false, isScreenUnlock := false }
    | .screenUnlock => { self with isScreenUnlock := true }
    | .batteryLow => { self with isLowPowerMode := true }
    | .batteryOkay => { self with isLowPowerMode := false }
    | .appRunFront => self

/-! ## State -/

inductive AppProcessState where
  | foreground
  | focus
  | background
  | other
  deriving DecidableEq, Repr

structure ProcessData where
  bundleName : String
  uid : Int
  pid : Int
  state : AppProcessState := .other
  deriving DecidableEq, Repr

structure DecisionMaker where
  requestId : Int := 1
  lastRequestTime : Int := 0
  timerManager : TimerManager := {}
  deviceInfoManager : DeviceInfoManager := {}
  pkgDelaySuspendInfoMap : KeyedMap (String × Int) PkgDelaySuspendInfo := ∅
  pkgBgDurationMap : KeyedMap (String × Int) Int := ∅
  foregroundUidPidMap : KeyedMap Int (Finset Int) := ∅
  /-- Tasks posted by `HandleTransientTaskSuscriberTask`, oldest first. -/
  suscriberTasks : List (TransientTaskEventType × TransientTaskAppInfo) := []

namespace DecisionMaker

def initRequestId : Int := 1

def updatePkg (key : String × Int)
    (f : TimerManager → PkgDelaySuspendInfo → PkgDelaySuspendInfo × TimerManager)
    (self : DecisionMaker) : DecisionMaker :=
  match self.pkgDelaySuspendInfoMap.lookup key with
  | none => self
  | some pkgInfo =>
      let (pkgInfo, timers) := f self.timerManager pkgInfo
      { self with
        timerManager := timers
        pkgDelaySuspendInfoMap :=
          KeyedMap.adjust key (fun _ => pkgInfo) self.pkgDelaySuspendInfoMap }

def updateForegroundUidPidMap (uid pid : Int) (isForeground : Bool) (self : DecisionMaker) :
    DecisionMaker :=
  let pids := (self.foregroundUidPidMap.lookup uid).getD ∅
  if isForeground then
    { self with foregroundUidPidMap := self.foregroundUidPidMap.insert uid (insert pid pids) }
  else
    let pids := pids.erase pid
    if pids = ∅ then
      { self with foregroundUidPidMap := self.foregroundUidPidMap.erase uid }
    else { self with foregroundUidPidMap := self.foregroundUidPidMap.insert uid pids }

def isUidForeground (uid : Int) (self : DecisionMaker) : Bool :=
  (self.foregroundUidPidMap.lookup uid).isSome

def canStartAccountingLocked (pkgInfo : PkgDelaySuspendInfo) (self : DecisionMaker) : Bool :=
  if !self.deviceInfoManager.isScreenOn then true
  else !self.isUidForeground pkgInfo.uid

def getDelayTime (params : Params) (self : DecisionMaker) : Int :=
  if self.deviceInfoManager.isLowPowerMode then params.delayTimeLowPower
  else params.delayTimeNormal

def newDelaySuspendRequestId (self : DecisionMaker) : Int × DecisionMaker :=
  let requestId := if self.requestId = intMax then initRequestId else self.requestId
  (requestId, { self with requestId := requestId + 1 })

def isAfterOneDay (params : Params) (lastRequestTime currentTime : Int) : Bool :=
  currentTime - lastRequestTime > params.quotaUpdate

/-- `ResetDayQuotaLocked`: the loop drops packages without requests and refills the
others. -/
def resetDayQuotaLocked (params : Params) (env : Env) (self : DecisionMaker) : DecisionMaker :=
  if isAfterOneDay params self.lastRequestTime env.now then
    { self with
      pkgDelaySuspendInfoMap :=
        KeyedMap.mapVal (fun _ pkgInfo => pkgInfo.updateQuota params env.config env.now true)
          (KeyedMap.filterVal (fun _ pkgInfo => !pkgInfo.requestList.isEmpty)
            self.pkgDelaySuspendInfoMap)
      lastRequestTime := env.now }
  else self

/-! ## Process events -/

def tryStartAccounting (params : Params) (env : Env) (uid : Int) (bundleName : String)
    (self : DecisionMaker) : ErrCode × DecisionMaker :=
  match self.pkgDelaySuspendInfoMap.lookup (bundleName, uid) with
  | none => (.norequestTask, self)
  | some pkgInfo =>
      if self.canStartAccountingLocked pkgInfo then
        (.ok, self.updatePkg (bundleName, uid) (fun timers pkgInfo =>
          pkgInfo.startAccounting params env.config env.now (-1) timers))
      else (.foreground, self)

def handleStateChange (params : Params) (env : Env) (bundleName : String) (uid : Int)
    (isForeground isBackground : Bool) (self : DecisionMaker) : DecisionMaker :=
  let key := (bundleName, uid)
  if isForeground then
    let self := self.updatePkg key (fun timers pkgInfo =>
      pkgInfo.stopAccountingAll params env.config env.now timers)
    { self with pkgBgDurationMap := self.pkgBgDurationMap.erase key }
  else if isBackground then
    match self.pkgDelaySuspendInfoMap.lookup key with
    | none => self
    | some pkgInfo =>
        if self.canStartAccountingLocked pkgInfo then
          let self := self.updatePkg key (fun timers pkgInfo =>
            pkgInfo.startAccounting params env.config env.now (-1) timers)
          { self with pkgBgDurationMap := self.pkgBgDurationMap.insert key (toInt32 env.now) }
        else self
  else self

def onProcessStateChanged (params : Params) (env : Env) (processData : ProcessData)
    (self : DecisionMaker) : DecisionMaker :=
  let isForeground := processData.state == .foreground || processData.state == .focus
  let isBackground := processData.state == .background
  let self := self.updateForegroundUidPidMap processData.uid processData.pid isForeground
  if isForeground || isBackground then
    self.handleStateChange params env processData.bundleName processData.uid isForeground
      isBackground
  else self

def onProcessDied (params : Params) (env : Env) (processData : ProcessData)
    (self : DecisionMaker) : DecisionMaker :=
  let self := self.updateForegroundUidPidMap processData.uid processData.pid false
  (self.tryStartAccounting params env processData.uid processData.bundleName).2

/-! ## Requests -/

/-- `CheckQuotaTime`: the verdict, `needSetTime`, and the package `IsAllowRequest`
brought up to date. -/
def checkQuotaTime (params : Params) (env : Env) (pkgInfo : PkgDelaySuspendInfo)
    (name : String) : ErrCode × Bool × PkgDelaySuspendInfo :=
  let (ret, pkgInfo) := pkgInfo.isAllowRequest params env.config env.now
  if ret = .timeInsufficient then
    if env.config.isTransientTaskExemptedQuatoApp name then (.ok, true, pkgInfo)
    else (.timeInsufficient, false, pkgInfo)
  else (ret, false, pkgInfo)

def storeRequest (key : KeyInfo) (pkgInfo : PkgDelaySuspendInfo) (self : DecisionMaker) :
    DecisionMaker :=
  let started := [(.taskStart, ⟨key.pkg, key.uid, key.pid⟩)]
  let appStarted := if pkgInfo.requestList.length = 1
    then [(.appTaskStart, { packageName := key.pkg, uid := key.uid })] else []
  { self with
    pkgDelaySuspendInfoMap := self.pkgDelaySuspendInfoMap.insert key.mapKey pkgInfo
    suscriberTasks := self.suscriberTasks ++ started ++ appStarted }

/-- The part of `Decide` after the quota check let the request pass. -/
def grant (params : Params) (env : Env) (key : KeyInfo) (delayInfo : DelaySuspendInfoEx)
    (pkgInfo : PkgDelaySuspendInfo) (needSetTime : Bool) (self : DecisionMaker) :
    DelaySuspendInfoEx × DecisionMaker :=
  let new := self.newDelaySuspendRequestId
  let added := pkgInfo.addRequest env.config { delayInfo with requestId := new.1 }
    (new.2.getDelayTime params) needSetTime
  let stored := new.2.storeRequest key added.2
  if stored.canStartAccountingLocked added.2 then
    (added.1, stored.updatePkg key.mapKey (fun timers pkgInfo =>
      pkgInfo.startAccounting params env.config env.now new.1 timers))
  else (added.1, stored)

/-- `Decide` once the day's quota is refreshed and the background window passed.  A
refused request leaves its package behind, possibly without any request. -/
def decideQuota (params : Params) (env : Env) (key : KeyInfo) (delayInfo : DelaySuspendInfoEx)
    (self : DecisionMaker) : ErrCode × DelaySuspendInfoEx × DecisionMaker :=
  let pkgInfo := (self.pkgDelaySuspendInfoMap.lookup key.mapKey).getD
    (PkgDelaySuspendInfo.make params key.pkg key.uid)
  let (ret, needSetTime, pkgInfo) := checkQuotaTime params env pkgInfo key.pkg
  if ret = .ok then (.ok, self.grant params env key delayInfo pkgInfo needSetTime)
  else (ret, delayInfo, { self with
    pkgDelaySuspendInfoMap := self.pkgDelaySuspendInfoMap.insert key.mapKey pkgInfo })

def decide (params : Params) (env : Env) (key : KeyInfo) (delayInfo : DelaySuspendInfoEx)
    (self : DecisionMaker) : ErrCode × DelaySuspendInfoEx × DecisionMaker :=
  let self := self.resetDayQuotaLocked params env
  match self.pkgBgDurationMap.lookup key.mapKey with
  | some since =>
      if env.now - since > env.allowRequestTime then (.notInPresetTime, delayInfo, self)
      else self.decideQuota params env key delayInfo
  | none => self.decideQuota params env key delayInfo

/-- `RemoveRequest`.  A null key reaches it from `CancelSuspendDelayLocked`. -/
def removeRequest (params : Params) (env : Env) (key : Option KeyInfo) (requestId : Int)
    (self : DecisionMaker) : DecisionMaker :=
  match key with
  | none => self
  | some key =>
      match self.pkgDelaySuspendInfoMap.lookup key.mapKey with
      | none => self
      | some _ =>
          let self := self.updatePkg key.mapKey (fun timers pkgInfo =>
            pkgInfo.removeRequest params env.config env.now requestId timers)
          let ended := [(.taskEnd, ⟨key.pkg, key.uid, key.pid⟩)]
          let isRequestEmpty :=
            match self.pkgDelaySuspendInfoMap.lookup key.mapKey with
            | some pkgInfo => pkgInfo.requestList.isEmpty
            | none => true
          let appEnded := if isRequestEmpty
            then [(.appTaskEnd, { packageName := key.pkg, uid := key.uid })] else []
          { self with suscriberTasks := self.suscriberTasks ++ ended ++ appEnded }

def pauseTransientTaskTimeForInner (params : Params) (env : Env) (uid : Int) (name : String)
    (self : DecisionMaker) : ErrCode × DecisionMaker :=
  if self.isUidForeground uid then (.foreground, self)
  else
    match self.pkgDelaySuspendInfoMap.lookup (name, uid) with
    | none => (.norequestTask, self)
    | some _ => (.ok, self.updatePkg (name, uid) (fun timers pkgInfo =>
        pkgInfo.stopAccountingAll params env.config env.now timers))

def startTransientTaskTimeForInner (params : Params) (env : Env) (uid : Int) (name : String)
    (self : DecisionMaker) : ErrCode × DecisionMaker :=
  if self.isUidForeground uid then (.foreground, self)
  else self.tryStartAccounting params env uid name

def getRemainingDelayTime (env : Env) (key : KeyInfo) (requestId : Int)
    (self : DecisionMaker) : Int :=
  match self.pkgDelaySuspendInfoMap.lookup key.mapKey with
  | some pkgInfo => pkgInfo.getRemainDelayTime env.now requestId
  | none => -1

def getRequestIdListByKey (key : KeyInfo) (self : DecisionMaker) : List Int :=
  match self.pkgDelaySuspendInfoMap.lookup key.mapKey with
  | some pkgInfo => pkgInfo.requestList.map (fun info => info.requestId)
  | none => []

/-- `GetQuota` settles the quota before it reports it. -/
def getQuota (params : Params) (env : Env) (key : KeyInfo) (self : DecisionMaker) :
    Int × DecisionMaker :=
  match self.pkgDelaySuspendInfoMap.lookup key.mapKey with
  | some pkgInfo =>
      ((pkgInfo.updateQuota params env.config env.now false).quota,
        self.updatePkg key.mapKey (fun timers pkgInfo =>
          (pkgInfo.updateQuota params env.config env.now false, timers)))
  | none => (params.initQuota, self)

/-! ## Screen events -/

def handleScreenOn (params : Params) (env : Env) (self : DecisionMaker) : DecisionMaker :=
  match env.foregroundApplications with
  | none => self
  | some fgAppList =>
      fgAppList.foldl (fun self fgApp => self.updatePkg fgApp (fun timers pkgInfo =>
        pkgInfo.stopAccountingAll params env.config env.now timers)) self

/-- The loop body of `HandleScreenOff` at one package. -/
def screenOffPkg (params : Params) (env : Env) (transientPauseUid : Finset Int)
    (self : DecisionMaker) (key : String × Int) : DecisionMaker :=
  match self.pkgDelaySuspendInfoMap.lookup key with
  | none => self
  | some pkgInfo =>
      if pkgInfo.uid ∈ transientPauseUid then self
      else if self.canStartAccountingLocked pkgInfo then
        self.updatePkg key (fun timers pkgInfo =>
          pkgInfo.startAccounting params env.config env.now (-1) timers)
      else self

def handleScreenOff (params : Params) (env : Env) (transientPauseUid : Finset Int)
    (self : DecisionMaker) : DecisionMaker :=
  self.pkgDelaySuspendInfoMap.keys.foldl (screenOffPkg params env transientPauseUid) self

/-- `InputManager::ProcessEvent` over its two listeners, the device state first. -/
def onInputEvent (params : Params) (env : Env) (transientPauseUid : Finset Int)
    (event : EventId) (stringArg : String) (self : DecisionMaker) : DecisionMaker :=
  let self := { self with
    deviceInfoManager := self.deviceInfoManager.onInputEvent event stringArg }
  match event with
  | .screenOn => self.handleScreenOn params env
  | .screenOff => self.handleScreenOff params env transientPauseUid
  | _ => self

/-! ## What the operations do to the package store

Short of granting and removing a request and of the daily refill, an operation changes the
store by calls on single packages.  `AccountingStep` lists these once; every operation is a
chain of them. -/

/-- The calls made on a stored package that keep its requests. -/
inductive PkgCall where
  | updateQuota
  | start (requestId : Int)
  | stopAll

def PkgCall.apply (params : Params) (env : Env) (call : PkgCall) (timers : TimerManager)
    (pkgInfo : PkgDelaySuspendInfo) : PkgDelaySuspendInfo × TimerManager :=
  match call with
  | .updateQuota => (pkgInfo.updateQuota params env.config env.now false, timers)
  | .start requestId => pkgInfo.startAccounting params env.config env.now requestId timers
  | .stopAll => pkgInfo.stopAccountingAll params env.config env.now timers

inductive AccountingStep (params : Params) (env : Env) (self : DecisionMaker) :
    DecisionMaker → Prop where
  /-- Packages, id generator and day are left alone. -/
  | frame (next : DecisionMaker)
      (samePkgs : next.pkgDelaySuspendInfoMap = self.pkgDelaySuspendInfoMap)
      (sameId : next.requestId = self.requestId)
      (sameDay : next.lastRequestTime = self.lastRequestTime) :
      AccountingStep params env self next
  | package (key : String × Int) (call : PkgCall) :
      AccountingStep params env self (self.updatePkg key (call.apply params env))

abbrev Reaches (params : Params) (env : Env) : DecisionMaker → DecisionMaker → Prop :=
  Relation.ReflTransGen (AccountingStep params env)

section

variable {params : Params} {env : Env} {self : DecisionMaker}

theorem reaches_frame {next : DecisionMaker}
    (samePkgs : next.pkgDelaySuspendInfoMap = self.pkgDelaySuspendInfoMap)
    (sameId : next.requestId = self.requestId)
    (sameDay : next.lastRequestTime = self.lastRequestTime) : Reaches params env self next :=
  .single (.frame next samePkgs sameId sameDay)

theorem reaches_package (key : String × Int) (call : PkgCall) :
    Reaches params env self (self.updatePkg key (call.apply params env)) :=
  .single (.package key call)

theorem reaches_foldl {α : Type} (f : DecisionMaker → α → DecisionMaker)
    (body : ∀ decision a, Reaches params env decision (f decision a)) (items : List α) :
    Reaches params env self (items.foldl f self) := by
  induction items generalizing self with
  | nil => exact .refl
  | cons item rest ih => exact (body self item).trans ih

theorem updateForegroundUidPidMap_frame (uid pid : Int) (isForeground : Bool) :
    ∃ uids, self.updateForegroundUidPidMap uid pid isForeground =
      { self with foregroundUidPidMap := uids } := by
  unfold updateForegroundUidPidMap
  dsimp only
  split
  · exact ⟨_, rfl⟩
  · split
    · exact ⟨_, rfl⟩
    · exact ⟨_, rfl⟩

theorem reaches_updateForeground (uid pid : Int) (isForeground : Bool) :
    Reaches params env self (self.updateForegroundUidPidMap uid pid isForeground) := by
  obtain ⟨uids, moved⟩ := updateForegroundUidPidMap_frame uid pid isForeground
  rw [moved]
  exact reaches_frame rfl rfl rfl

theorem reaches_tryStartAccounting (uid : Int) (bundleName : String) :
    Reaches params env self (self.tryStartAccounting params env uid bundleName).2 := by
  unfold tryStartAccounting
  split
  · exact .refl
  · split
    · exact reaches_package (bundleName, uid) (.start (-1))
    · exact .refl

theorem reaches_startTransientTaskTimeForInner (uid : Int) (name : String) :
    Reaches params env self (self.startTransientTaskTimeForInner params env uid name).2 := by
  unfold startTransientTaskTimeForInner
  split
  · exact .refl
  · exact reaches_tryStartAccounting uid name

theorem reaches_pauseTransientTaskTimeForInner (uid : Int) (name : String) :
    Reaches params env self (self.pauseTransientTaskTimeForInner params env uid name).2 := by
  unfold pauseTransientTaskTimeForInner
  split
  · exact .refl
  · split
    · exact .refl
    · exact reaches_package (name, uid) .stopAll

/-- A move to the background is accounted as by `TryStartAccounting`, up to its entry. -/
theorem handleStateChange_background (bundleName : String) (uid : Int) :
    ∃ entries, self.handleStateChange params env bundleName uid false true =
      { (self.tryStartAccounting params env uid bundleName).2 with
        pkgBgDurationMap := entries } := by
  unfold handleStateChange tryStartAccounting
  simp only [Bool.false_eq_true, ite_false, ite_true]
  cases self.pkgDelaySuspendInfoMap.lookup (bundleName, uid) with
  | none => exact ⟨self.pkgBgDurationMap, rfl⟩
  | some pkgInfo =>
      dsimp only
      cases self.canStartAccountingLocked pkgInfo with
      | false => exact ⟨self.pkgBgDurationMap, rfl⟩
      | true => exact ⟨_, rfl⟩

theorem reaches_handleStateChange (bundleName : String) (uid : Int)
    (isForeground isBackground : Bool) :
    Reaches params env self
      (self.handleStateChange params env bundleName uid isForeground isBackground) := by
  cases isForeground with
  | true => exact (reaches_package (bundleName, uid) .stopAll).trans (reaches_frame rfl rfl rfl)
  | false =>
      cases isBackground with
      | false => exact .refl
      | true =>
          obtain ⟨entries, moved⟩ := handleStateChange_background bundleName uid
          rw [moved]
          exact (reaches_tryStartAccounting uid bundleName).trans (reaches_frame rfl rfl rfl)

theorem reaches_onProcessStateChanged (processData : ProcessData) :
    Reaches params env self (self.onProcessStateChanged params env processData) := by
  unfold onProcessStateChanged
  dsimp only
  split
  · exact (reaches_updateForeground _ _ _).trans (reaches_handleStateChange _ _ _ _)
  · exact reaches_updateForeground _ _ _

theorem reaches_onProcessDied (processData : ProcessData) :
    Reaches params env self (self.onProcessDied params env processData) :=
  (reaches_updateForeground processData.uid processData.pid false).trans
    (reaches_tryStartAccounting _ _)

theorem reaches_getQuota (key : KeyInfo) :
    Reaches params env self (self.getQuota params env key).2 := by
  unfold getQuota
  split
  · exact reaches_package key.mapKey .updateQuota
  · exact .refl

theorem reaches_screenOffPkg (transientPauseUid : Finset Int) (key : String × Int) :
    Reaches params env self (screenOffPkg params env transientPauseUid self key) := by
  unfold screenOffPkg
  split
  · exact .refl
  · split
    · exact .refl
    · split
      · exact reaches_package key (.start (-1))
      · exact .refl

theorem reaches_handleScreenOn : Reaches params env self (self.handleScreenOn params env) := by
  unfold handleScreenOn
  split
  · exact .refl
  · exact reaches_foldl _ (fun _ fgApp => reaches_package fgApp .stopAll) _

theorem reaches_onInputEvent (transientPauseUid : Finset Int) (event : EventId)
    (stringArg : String) :
    Reaches params env self
      (self.onInputEvent params env transientPauseUid event stringArg) := by
  have device : Reaches params env self { self with
      deviceInfoManager := self.deviceInfoManager.onInputEvent event stringArg } :=
    reaches_frame rfl rfl rfl
  unfold onInputEvent
  dsimp only
  split
  · exact device.trans reaches_handleScreenOn
  · exact device.trans (reaches_foldl _ (fun _ key => reaches_screenOffPkg _ key) _)
  · exact device

theorem updatePkg_lookup (key a : String × Int)
    (f : TimerManager → PkgDelaySuspendInfo → PkgDelaySuspendInfo × TimerManager) :
    (self.updatePkg key f).pkgDelaySuspendInfoMap.lookup a =
      if a = key then (self.pkgDelaySuspendInfoMap.lookup a).map
        (fun pkgInfo => (f self.timerManager pkgInfo).1)
      else self.pkgDelaySuspendInfoMap.lookup a := by
  unfold updatePkg
  split
  · rename_i missing
    by_cases same : a = key
    · subst same
      simp [missing]
    · simp [same]
  · rename_i pkgInfo found
    rw [KeyedMap.lookup_adjust]
    by_cases same : a = key
    · subst same
      simp [found]
    · simp [same]

@[simp]
theorem updatePkg_requestId (key : String × Int)
    (f : TimerManager → PkgDelaySuspendInfo → PkgDelaySuspendInfo × TimerManager) :
    (self.updatePkg key f).requestId = self.requestId := by
  unfold updatePkg
  split <;> rfl

end

/-! ## Properties of every package -/

def ForallPkg (P : String × Int → PkgDelaySuspendInfo → Prop) (self : DecisionMaker) : Prop :=
  ∀ key pkgInfo, self.pkgDelaySuspendInfoMap.lookup key = some pkgInfo → P key pkgInfo

/-- `P` survives everything a decision maker does to a package short of removing a
request.  A request is added only to a list that is not full. -/
structure Closed (params : Params) (env : Env)
    (P : String × Int → PkgDelaySuspendInfo → Prop) : Prop where
  make : ∀ key : KeyInfo, P key.mapKey (PkgDelaySuspendInfo.make params key.pkg key.uid)
  call : ∀ key pkgInfo (call : PkgCall) timers, P key pkgInfo →
    P key (call.apply params env timers pkgInfo).1
  reset : ∀ key pkgInfo, P key pkgInfo →
    P key (pkgInfo.updateQuota params env.config env.now true)
  add : ∀ key pkgInfo delayInfo delayTime needSetTime, P key pkgInfo →
    pkgInfo.requestList.length < maxRequestId → delayInfo.baseTime = 0 →
    P key (pkgInfo.addRequest env.config delayInfo delayTime needSetTime).2

section

variable {params : Params} {env : Env} {P : String × Int → PkgDelaySuspendInfo → Prop}
  {self : DecisionMaker}

theorem forallPkg_updatePkg {key : String × Int}
    {f : TimerManager → PkgDelaySuspendInfo → PkgDelaySuspendInfo × TimerManager}
    (all : self.ForallPkg P)
    (keep : ∀ pkgInfo, self.pkgDelaySuspendInfoMap.lookup key = some pkgInfo → P key pkgInfo →
      P key (f self.timerManager pkgInfo).1) :
    (self.updatePkg key f).ForallPkg P := by
  intro a pkgInfo found
  rw [updatePkg_lookup] at found
  split at found
  · rename_i same
    subst same
    obtain ⟨before, beforeFound, rfl⟩ := Option.map_eq_some_iff.mp found
    exact keep before beforeFound (all a before beforeFound)
  · exact all a pkgInfo found

theorem forallPkg_insert {key : String × Int} {pkgInfo : PkgDelaySuspendInfo}
    (all : self.ForallPkg P) (new : P key pkgInfo) :
    ({ self with
      pkgDelaySuspendInfoMap := self.pkgDelaySuspendInfoMap.insert key pkgInfo } :
        DecisionMaker).ForallPkg P := by
  intro a info found
  rw [KeyedMap.lookup_insert] at found
  split at found
  · rename_i same
    subst same
    cases Option.some.inj found
    exact new
  · exact all a info found

theorem forallPkg_reaches (closed : Closed params env P) {next : DecisionMaker}
    (reaches : Reaches params env self next) (all : self.ForallPkg P) : next.ForallPkg P := by
  induction reaches with
  | refl => exact all
  | tail _ step ih =>
      cases step with
      | frame _ samePkgs _ _ =>
          intro key pkgInfo found
          rw [samePkgs] at found
          exact ih key pkgInfo found
      | package key call =>
          exact forallPkg_updatePkg ih (fun pkgInfo _ held => closed.call key pkgInfo call _ held)

theorem forallPkg_refill (closed : Closed params env P) (all : self.ForallPkg P) :
    (self.resetDayQuotaLocked params env).ForallPkg P := by
  unfold resetDayQuotaLocked
  split
  · intro key pkgInfo found
    rw [KeyedMap.lookup_mapVal, KeyedMap.lookup_filterVal] at found
    obtain ⟨before, kept, rfl⟩ := Option.map_eq_some_iff.mp found
    exact closed.reset key before (all key before (Option.filter_eq_some_iff.mp kept).1)
  · exact all

/-- What the quota check leaves: the package as it was or settled, with room when
the request may pass. -/
theorem checkQuotaTime_spec (params : Params) (env : Env) (pkgInfo : PkgDelaySuspendInfo)
    (name : String) :
    ((checkQuotaTime params env pkgInfo name).2.2 = pkgInfo ∨
      (checkQuotaTime params env pkgInfo name).2.2 =
        pkgInfo.updateQuota params env.config env.now false) ∧
      ((checkQuotaTime params env pkgInfo name).1 = .ok →
        pkgInfo.requestList.length < maxRequestId) := by
  unfold checkQuotaTime PkgDelaySuspendInfo.isAllowRequest
  by_cases full : pkgInfo.requestList.length ≥ maxRequestId
  · simp [full]
  · have room : pkgInfo.requestList.length < maxRequestId := Nat.lt_of_not_le full
    by_cases enough :
        (pkgInfo.updateQuota params env.config env.now false).quota ≥ minAllowQuotaTime
    · simp [full, enough, room]
    · by_cases exempted : env.config.isTransientTaskExemptedQuatoApp name
      · simp [full, enough, room, exempted]
      · simp [full, enough, exempted]

theorem checkQuotaTime_requestList (params : Params) (env : Env)
    (pkgInfo : PkgDelaySuspendInfo) (name : String) :
    (checkQuotaTime params env pkgInfo name).2.2.requestList = pkgInfo.requestList := by
  obtain ⟨same | settled, _⟩ := checkQuotaTime_spec params env pkgInfo name
  · rw [same]
  · rw [settled, PkgDelaySuspendInfo.updateQuota_requestList]

theorem forallPkg_grant (closed : Closed params env P) (key : KeyInfo)
    {delayInfo : DelaySuspendInfoEx} (fresh : delayInfo.baseTime = 0)
    {pkgInfo : PkgDelaySuspendInfo} (needSetTime : Bool) (held : P key.mapKey pkgInfo)
    (room : pkgInfo.requestList.length < maxRequestId) (all : self.ForallPkg P) :
    (self.grant params env key delayInfo pkgInfo needSetTime).2.ForallPkg P := by
  have added := closed.add key.mapKey pkgInfo
    { delayInfo with requestId := self.newDelaySuspendRequestId.1 }
    (self.newDelaySuspendRequestId.2.getDelayTime params) needSetTime held room fresh
  have stored : (self.newDelaySuspendRequestId.2.storeRequest key _).ForallPkg P :=
    forallPkg_insert all added
  unfold grant
  dsimp only
  split
  · exact forallPkg_updatePkg stored (fun info _ keeps =>
      closed.call key.mapKey info (.start self.newDelaySuspendRequestId.1) _ keeps)
  · exact stored

theorem forallPkg_decideQuota (closed : Closed params env P) (key : KeyInfo)
    {delayInfo : DelaySuspendInfoEx} (fresh : delayInfo.baseTime = 0) (all : self.ForallPkg P) :
    (self.decideQuota params env key delayInfo).2.2.ForallPkg P := by
  have start : P key.mapKey ((self.pkgDelaySuspendInfoMap.lookup key.mapKey).getD
      (PkgDelaySuspendInfo.make params key.pkg key.uid)) := by
    cases found : self.pkgDelaySuspendInfoMap.lookup key.mapKey with
    | none => exact closed.make key
    | some pkgInfo => exact all key.mapKey pkgInfo found
  unfold decideQuota
  dsimp only
  generalize (self.pkgDelaySuspendInfoMap.lookup key.mapKey).getD
    (PkgDelaySuspendInfo.make params key.pkg key.uid) = pkgInfo at start ⊢
  obtain ⟨checked, room⟩ := checkQuotaTime_spec params env pkgInfo key.pkg
  have held : P key.mapKey (checkQuotaTime params env pkgInfo key.pkg).2.2 := by
    rcases checked with same | settled
    · rw [same]
      exact start
    · rw [settled]
      exact closed.call key.mapKey pkgInfo .updateQuota self.timerManager start
  split
  · rename_i passed
    rw [← checkQuotaTime_requestList params env pkgInfo key.pkg] at room
    exact forallPkg_grant closed key fresh _ held (room passed) all
  · exact forallPkg_insert all held

theorem forallPkg_decide (closed : Closed params env P) (key : KeyInfo)
    {delayInfo : DelaySuspendInfoEx} (fresh : delayInfo.baseTime = 0) (all : self.ForallPkg P) :
    (self.decide params env key delayInfo).2.2.ForallPkg P := by
  have refreshed := forallPkg_refill closed all
  unfold decide
  dsimp only
  split
  · split
    · exact refreshed
    · exact forallPkg_decideQuota closed key fresh refreshed
  · exact forallPkg_decideQuota closed key fresh refreshed

theorem forallPkg_removeRequest {key : KeyInfo} {requestId : Int} (all : self.ForallPkg P)
    (keep : ∀ pkgInfo, self.pkgDelaySuspendInfoMap.lookup key.mapKey = some pkgInfo →
      P key.mapKey pkgInfo → P key.mapKey
        (pkgInfo.removeRequest params env.config env.now requestId self.timerManager).1) :
    (self.removeRequest params env (some key) requestId).ForallPkg P := by
  unfold removeRequest
  dsimp only
  split
  · exact all
  · exact forallPkg_updatePkg all keep

end

end DecisionMaker

/-! ## The decision maker as a step system -/

inductive DecisionOp where
  | decide (key : KeyInfo)
  | removeRequest (key : Option KeyInfo) (requestId : Int)
  | pause (uid : Int) (name : String)
  | start (uid : Int) (name : String)
  | getQuota (key : KeyInfo)
  | processStateChanged (processData : ProcessData)
  | processDied (processData : ProcessData)
  | inputEvent (transientPauseUid : Finset Int) (event : EventId) (stringArg : String)
  | setDump (isDump : Bool)

def DecisionMaker.step (params : Params) (self : DecisionMaker) :
    Env × DecisionOp → DecisionMaker
  | (env, .decide key) => (self.decide params env key { pid := key.pid }).2.2
  | (env, .removeRequest key requestId) => self.removeRequest params env key requestId
  | (env, .pause uid name) => (self.pauseTransientTaskTimeForInner params env uid name).2
  | (env, .start uid name) => (self.startTransientTaskTimeForInner params env uid name).2
  | (env, .getQuota key) => (self.getQuota params env key).2
  | (env, .processStateChanged processData) => self.onProcessStateChanged params env processData
  | (env, .processDied processData) => self.onProcessDied params env processData
  | (env, .inputEvent transientPauseUid event stringArg) =>
      self.onInputEvent params env transientPauseUid event stringArg
  | (_, .setDump isDump) =>
      { self with deviceInfoManager := { self.deviceInfoManager with isDump := isDump } }

/-- One call keeps a closed property of the packages, the removal of a request being
accounted for by the caller of the rule. -/
theorem DecisionMaker.forallPkg_step {params : Params}
    {P : String × Int → PkgDelaySuspendInfo → Prop} (self : DecisionMaker) (env : Env)
    (op : DecisionOp) (closed : Closed params env P)
    (removal : ∀ key requestId, op = .removeRequest (some key) requestId →
      ∀ pkgInfo, self.pkgDelaySuspendInfoMap.lookup key.mapKey = some pkgInfo →
        P key.mapKey pkgInfo → P key.mapKey
          (pkgInfo.removeRequest params env.config env.now requestId self.timerManager).1)
    (all : self.ForallPkg P) : (self.step params (env, op)).ForallPkg P := by
  cases op with
  | decide key => exact forallPkg_decide closed key rfl all
  | removeRequest key requestId =>
      cases key with
      | none => exact all
      | some key => exact forallPkg_removeRequest all (removal key requestId rfl)
  | pause uid name =>
      exact forallPkg_reaches closed (reaches_pauseTransientTaskTimeForInner uid name) all
  | start uid name =>
      exact forallPkg_reaches closed (reaches_startTransientTaskTimeForInner uid name) all
  | getQuota key => exact forallPkg_reaches closed (reaches_getQuota key) all
  | processStateChanged processData =>
      exact forallPkg_reaches closed (reaches_onProcessStateChanged processData) all
  | processDied processData =>
      exact forallPkg_reaches closed (reaches_onProcessDied processData) all
  | inputEvent transientPauseUid event stringArg =>
      exact forallPkg_reaches closed (reaches_onInputEvent transientPauseUid event stringArg) all
  | setDump isDump => exact all

end BgTaskMgr.Transient
