import BgTaskMgr.Common.ErrCode

/-!
# Transient requests of one package

`DelaySuspendInfoEx`, `PkgDelaySuspendInfo` and the timer queue their accounting
loops drive.  `now` is the reading of `TimeProvider::GetCurrentTime()` during the
call that is modelled.
-/

set_option autoImplicit false

namespace BgTaskMgr.Transient

/-- The constants of `bgtask_common.cpp`.  Three of them are system parameters
read once at start-up; the defaults are the source's. -/
structure Params where
  delayTimeNormal : Int := 180000
  delayTimeLowPower : Int := 60000
  initQuota : Int := 600000
  quotaUpdate : Int := 86400000
  deriving DecidableEq, Repr

/-- The answers of `BgtaskConfig` during one call. -/
structure BgtaskConfig where
  isTransientTaskExemptedQuatoApp : String → Bool
  transientTaskExemptedQuato : Int

def maxRequestId : Nat := 3
def minAllowQuotaTime : Int := 16000
def watchdogDelayTime : Int := 6000

/-! ## One request -/

structure DelaySuspendInfoEx where
  requestId : Int := -1
  actualDelayTime : Int := 0
  pid : Int := -1
  baseTime : Int := 0
  spendTime : Int := 0
  deriving DecidableEq, Repr

namespace DelaySuspendInfoEx

def advanceTime : Int := 6000

def getRemainDelayTime (now : Int) (info : DelaySuspendInfoEx) : Int :=
  let spendTime := if info.baseTime > 0 then info.spendTime + (now - info.baseTime)
    else info.spendTime
  let remainTime := toInt32 (info.actualDelayTime - toInt32 spendTime)
  if remainTime < 0 then 0 else remainTime

def getAdvanceCallbackTime (now : Int) (info : DelaySuspendInfoEx) : Int :=
  let advanceCallbackTime := info.getRemainDelayTime now - advanceTime
  if advanceCallbackTime > 0 then advanceCallbackTime else 0

def startAccounting (now : Int) (info : DelaySuspendInfoEx) : DelaySuspendInfoEx :=
  if info.baseTime = 0 then { info with baseTime := now } else info

def stopAccounting (now : Int) (info : DelaySuspendInfoEx) : DelaySuspendInfoEx :=
  if info.baseTime ≠ 0 then
    { info with spendTime := info.spendTime + (now - info.baseTime), baseTime := 0 }
  else info

def Accounted (info : DelaySuspendInfoEx) : Prop := info.baseTime ≠ 0

instance (info : DelaySuspendInfoEx) : Decidable info.Accounted :=
  inferInstanceAs (Decidable (info.baseTime ≠ 0))

@[simp]
theorem startAccounting_requestId (now : Int) (info : DelaySuspendInfoEx) :
    (info.startAccounting now).requestId = info.requestId := by
  unfold startAccounting
  split <;> rfl

@[simp]
theorem stopAccounting_requestId (now : Int) (info : DelaySuspendInfoEx) :
    (info.stopAccounting now).requestId = info.requestId := by
  unfold stopAccounting
  split <;> rfl

theorem startAccounting_accounted {now : Int} (running : now ≠ 0) (info : DelaySuspendInfoEx) :
    (info.startAccounting now).Accounted := by
  unfold startAccounting
  split
  · exact running
  · assumption

@[simp]
theorem stopAccounting_not_accounted (now : Int) (info : DelaySuspendInfoEx) :
    ¬ (info.stopAccounting now).Accounted := by
  unfold stopAccounting Accounted
  split <;> simp_all

end DelaySuspendInfoEx

/-! ## The expiry timers -/

/-- Pending `TimerManager` events as `(requestId, interval)`. -/
structure TimerManager where
  events : List (Int × Int) := []
  deriving DecidableEq, Repr

namespace TimerManager

def addTimer (requestId interval : Int) (timers : TimerManager) : TimerManager :=
  ⟨timers.events ++ [(requestId, interval)]⟩

/-- `RemoveEvent` drops every pending event of the id. -/
def removeTimer (requestId : Int) (timers : TimerManager) : TimerManager :=
  ⟨timers.events.filter (fun event => event.1 ≠ requestId)⟩

end TimerManager

/-! ## One package -/

structure PkgDelaySuspendInfo where
  pkg : String
  uid : Int
  quota : Int
  spendTime : Int := 0
  baseTime : Int := 0
  isCounting : Bool := false
  requestList : List DelaySuspendInfoEx := []
  deriving DecidableEq, Repr

namespace PkgDelaySuspendInfo

def make (params : Params) (pkg : String) (uid : Int) : PkgDelaySuspendInfo :=
  { pkg := pkg, uid := uid, quota := params.initQuota }

def getModifiedTime (config : BgtaskConfig) (now : Int) (self : PkgDelaySuspendInfo) : Int :=
  let exemptedQuota := if config.isTransientTaskExemptedQuatoApp self.pkg
    then config.transientTaskExemptedQuato else 0
  let time := toInt32 (toInt32 now - self.baseTime - exemptedQuota)
  if time < 0 then 0 else time

def updateQuota (params : Params) (config : BgtaskConfig) (now : Int) (reset : Bool)
    (self : PkgDelaySuspendInfo) : PkgDelaySuspendInfo :=
  let spendTime := if self.isCounting then self.getModifiedTime config now else 0
  let quota := if self.quota - spendTime < 0 then 0 else self.quota - spendTime
  { self with
    spendTime := spendTime
    quota := if reset then params.initQuota else quota
    baseTime := toInt32 now }

/-- The body of the `StartAccounting` loop at one request. -/
def startAccountingOne (params : Params) (config : BgtaskConfig) (now requestId : Int)
    (self : PkgDelaySuspendInfo) (timers : TimerManager) (info : DelaySuspendInfoEx) :
    PkgDelaySuspendInfo × TimerManager × DelaySuspendInfoEx :=
  if requestId ≠ -1 ∧ info.requestId ≠ requestId then (self, timers, info)
  else
    let self := if self.isCounting then self
      else { self.updateQuota params config now false with isCounting := true }
    if info.baseTime = 0 then
      let info := info.startAccounting now
      (self, timers.addTimer info.requestId (info.getAdvanceCallbackTime now), info)
    else (self, timers, info)

/-- The loop of `StartAccounting` over the part of `requestList_` still ahead: the
package, the timers and the rewritten part. -/
def startAccountingLoop (params : Params) (config : BgtaskConfig) (now requestId : Int) :
    PkgDelaySuspendInfo → TimerManager → List DelaySuspendInfoEx →
      PkgDelaySuspendInfo × TimerManager × List DelaySuspendInfoEx
  | self, timers, [] => (self, timers, [])
  | self, timers, info :: rest =>
      let one := startAccountingOne params config now requestId self timers info
      let more := startAccountingLoop params config now requestId one.1 one.2.1 rest
      (more.1, more.2.1, one.2.2 :: more.2.2)

/-- `StartAccounting(requestId)`; the default argument `-1` selects every request. -/
def startAccounting (params : Params) (config : BgtaskConfig) (now requestId : Int)
    (timers : TimerManager) (self : PkgDelaySuspendInfo) : PkgDelaySuspendInfo × TimerManager :=
  let loop := startAccountingLoop params config now requestId self timers self.requestList
  ({ loop.1 with requestList := loop.2.2 }, loop.2.1)

/-- The loop shared by `StopAccounting` and `StopAccountingAll`: stop the accounted
requests that `selected` picks and drop their timers. -/
def stopAccountingLoop (now : Int) (selected : DelaySuspendInfoEx → Bool) :
    TimerManager → List DelaySuspendInfoEx → TimerManager × List DelaySuspendInfoEx
  | timers, [] => (timers, [])
  | timers, info :: rest =>
      if selected info = false ∨ info.baseTime = 0 then
        let more := stopAccountingLoop now selected timers rest
        (more.1, info :: more.2)
      else
        let more := stopAccountingLoop now selected (timers.removeTimer info.requestId) rest
        (more.1, info.stopAccounting now :: more.2)

def stopAccounting (now requestId : Int) (timers : TimerManager) (self : PkgDelaySuspendInfo) :
    PkgDelaySuspendInfo × TimerManager :=
  let loop :=
    stopAccountingLoop now (fun info => info.requestId = requestId) timers self.requestList
  ({ self with requestList := loop.2 }, loop.1)

def stopAccountingAll (params : Params) (config : BgtaskConfig) (now : Int)
    (timers : TimerManager) (self : PkgDelaySuspendInfo) : PkgDelaySuspendInfo × TimerManager :=
  let loop := stopAccountingLoop now (fun _ => true) timers self.requestList
  let self := { self with requestList := loop.2 }
  ({ self.updateQuota params config now false with isCounting := false }, loop.1)

/-- `IsAllowRequest`: the verdict, and the package with its quota brought up to date
when the list is not full. -/
def isAllowRequest (params : Params) (config : BgtaskConfig) (now : Int)
    (self : PkgDelaySuspendInfo) : ErrCode × PkgDelaySuspendInfo :=
  if self.requestList.length ≥ maxRequestId then (.exceedsThreshold, self)
  else
    let self := self.updateQuota params config now false
    if self.quota ≥ minAllowQuotaTime then (.ok, self) else (.timeInsufficient, self)

/-- `AddRequest`: the request as it is stored, and the package holding it. -/
def addRequest (config : BgtaskConfig) (delayInfo : DelaySuspendInfoEx) (delayTime : Int)
    (needSetTime : Bool) (self : PkgDelaySuspendInfo) : DelaySuspendInfoEx × PkgDelaySuspendInfo :=
  let actualDelayTime := if needSetTime
    then config.transientTaskExemptedQuato + watchdogDelayTime
    else if self.quota < delayTime then self.quota else delayTime
  let delayInfo := { delayInfo with actualDelayTime := actualDelayTime }
  (delayInfo, { self with requestList := self.requestList ++ [delayInfo] })

/-- `RemoveRequest`: nothing without a request of that id; else its accounting stops
and the first such request is erased. -/
def removeRequest (params : Params) (config : BgtaskConfig) (now requestId : Int)
    (timers : TimerManager) (self : PkgDelaySuspendInfo) : PkgDelaySuspendInfo × TimerManager :=
  if self.requestList.any (fun info => info.requestId = requestId) then
    let stopped := self.stopAccounting now requestId timers
    let self := { stopped.1 with
      requestList := stopped.1.requestList.eraseP (fun info => info.requestId = requestId) }
    if self.requestList.isEmpty then
      ({ self.updateQuota params config now false with isCounting := false }, stopped.2)
    else (self, stopped.2)
  else (self, timers)

def getRemainDelayTime (now requestId : Int) (self : PkgDelaySuspendInfo) : Int :=
  match self.requestList.find? (fun info => info.requestId = requestId) with
  | some info => info.getRemainDelayTime now
  | none => 0

/-! ## What the operations do to the list and the flag -/

def selects (requestId : Int) (info : DelaySuspendInfoEx) : Bool :=
  requestId = -1 || info.requestId = requestId

section

variable (params : Params) (config : BgtaskConfig) (now : Int)

@[simp]
theorem updateQuota_requestList (reset : Bool) (self : PkgDelaySuspendInfo) :
    (self.updateQuota params config now reset).requestList = self.requestList := rfl

theorem startAccountingOne_info (requestId : Int) (self : PkgDelaySuspendInfo)
    (timers : TimerManager) (info : DelaySuspendInfoEx) :
    (startAccountingOne params config now requestId self timers info).2.2 =
      if selects requestId info then info.startAccounting now else info := by
  unfold startAccountingOne selects
  by_cases every : requestId = -1
  · by_cases idle : info.baseTime = 0
    · simp [every, idle]
    · simp [every, idle, DelaySuspendInfoEx.startAccounting]
  · by_cases same : info.requestId = requestId
    · by_cases idle : info.baseTime = 0
      · simp [same, idle]
      · simp [same, idle, DelaySuspendInfoEx.startAccounting]
    · simp [every, same]

theorem startAccountingOne_isCounting (requestId : Int) (self : PkgDelaySuspendInfo)
    (timers : TimerManager) (info : DelaySuspendInfoEx) :
    (startAccountingOne params config now requestId self timers info).1.isCounting =
      (self.isCounting || selects requestId info) := by
  unfold startAccountingOne selects
  split
  · rename_i skipped
    simp [skipped.1, skipped.2]
  · rename_i taken
    have selected : (requestId = -1 || info.requestId = requestId : Bool) = true := by
      simpa [Classical.or_iff_not_imp_left] using taken
    by_cases idle : info.baseTime = 0
    · cases counting : self.isCounting <;> simp [idle, selected, counting]
    · cases counting : self.isCounting <;> simp [idle, selected, counting]

theorem startAccountingLoop_list (requestId : Int) (self : PkgDelaySuspendInfo)
    (timers : TimerManager) (requests : List DelaySuspendInfoEx) :
    (startAccountingLoop params config now requestId self timers requests).2.2 =
      requests.map (fun info =>
        if selects requestId info then info.startAccounting now else info) := by
  induction requests generalizing self timers with
  | nil => rfl
  | cons info rest ih =>
      simp only [startAccountingLoop, List.map_cons, ih, startAccountingOne_info]

theorem startAccountingLoop_isCounting (requestId : Int) (self : PkgDelaySuspendInfo)
    (timers : TimerManager) (requests : List DelaySuspendInfoEx) :
    (startAccountingLoop params config now requestId self timers requests).1.isCounting =
      (self.isCounting || requests.any (selects requestId)) := by
  induction requests generalizing self timers with
  | nil => simp [startAccountingLoop]
  | cons info rest ih =>
      simp only [startAccountingLoop, ih, startAccountingOne_isCounting, List.any_cons,
        Bool.or_assoc]

theorem stopAccountingLoop_list (selected : DelaySuspendInfoEx → Bool)
    (timers : TimerManager) (requests : List DelaySuspendInfoEx) :
    (stopAccountingLoop now selected timers requests).2 =
      requests.map (fun info =>
        if selected info then info.stopAccounting now else info) := by
  induction requests generalizing timers with
  | nil => rfl
  | cons info rest ih =>
      unfold stopAccountingLoop
      by_cases idle : info.baseTime = 0
      · have kept : info.stopAccounting now = info := by
          simp [DelaySuspendInfoEx.stopAccounting, idle]
        simp [idle, ih, kept]
      · cases picked : selected info <;> simp [idle, ih, picked]

variable (timers : TimerManager) (self : PkgDelaySuspendInfo)

theorem startAccounting_requestList (requestId : Int) :
    (self.startAccounting params config now requestId timers).1.requestList =
      self.requestList.map (fun info =>
        if selects requestId info then info.startAccounting now else info) :=
  startAccountingLoop_list params config now requestId self timers self.requestList

theorem startAccounting_isCounting (requestId : Int) :
    (self.startAccounting params config now requestId timers).1.isCounting =
      (self.isCounting || self.requestList.any (selects requestId)) :=
  startAccountingLoop_isCounting params config now requestId self timers self.requestList

theorem stopAccounting_requestList (requestId : Int) :
    (self.stopAccounting now requestId timers).1.requestList =
      self.requestList.map (fun info =>
        if info.requestId = requestId then info.stopAccounting now else info) := by
  simp [stopAccounting, stopAccountingLoop_list]

theorem stopAccountingAll_requestList :
    (self.stopAccountingAll params config now timers).1.requestList =
      self.requestList.map (fun info => info.stopAccounting now) := by
  simp [stopAccountingAll, stopAccountingLoop_list]

@[simp]
theorem stopAccountingAll_isCounting :
    (self.stopAccountingAll params config now timers).1.isCounting = false := rfl

/-- The requests that `RemoveRequest(requestId)` leaves, before their accounting is
looked at. -/
def requestsWithout (requestId : Int) : List DelaySuspendInfoEx :=
  self.requestList.eraseP (fun info => info.requestId = requestId)

theorem eraseP_stopped (requestId : Int) (requests : List DelaySuspendInfoEx) :
    (requests.map (fun info => if info.requestId = requestId then info.stopAccounting now
        else info)).eraseP (fun info => info.requestId = requestId) =
      (requests.eraseP (fun info => info.requestId = requestId)).map (fun info =>
        if info.requestId = requestId then info.stopAccounting now else info) := by
  induction requests with
  | nil => rfl
  | cons info rest ih =>
      by_cases same : info.requestId = requestId
      · simp [same]
      · simp [same, ih]

theorem removeRequest_absent {requestId : Int}
    (absent : ∀ info ∈ self.requestList, info.requestId ≠ requestId) :
    self.removeRequest params config now requestId timers = (self, timers) := by
  have missing : self.requestList.any (fun info => info.requestId = requestId) = false := by
    simpa using absent
  simp [removeRequest, missing]

theorem removeRequest_requestList (requestId : Int) :
    (self.removeRequest params config now requestId timers).1.requestList =
      (self.requestsWithout requestId).map (fun info =>
        if info.requestId = requestId then info.stopAccounting now else info) := by
  by_cases present : self.requestList.any (fun info => info.requestId = requestId)
  · simp only [removeRequest, present, if_true]
    split <;>
      simp [requestsWithout, stopAccounting_requestList, eraseP_stopped]
  · have absent : ∀ info ∈ self.requestList, info.requestId ≠ requestId := by
      simpa using present
    rw [removeRequest_absent params config now timers self absent, requestsWithout,
      List.eraseP_of_forall_not (by simpa using absent),
      List.map_congr_left (fun info member => if_neg (absent info member)), List.map_id']

theorem removeRequest_isCounting {requestId : Int}
    (present : ∃ info ∈ self.requestList, info.requestId = requestId) :
    (self.removeRequest params config now requestId timers).1.isCounting =
      (self.isCounting && !(self.requestsWithout requestId).isEmpty) := by
  have found : self.requestList.any (fun info => info.requestId = requestId) = true := by
    simpa using present
  simp only [removeRequest, found, if_true, stopAccounting_requestList, eraseP_stopped,
    requestsWithout, List.isEmpty_map]
  split
  · rename_i emptied
    simp [emptied]
  · rename_i left
    simp [left, stopAccounting]

end

end PkgDelaySuspendInfo

end BgTaskMgr.Transient
