import BgTaskMgr.Transient.Manager

/-!
# The requests of a package

What the operations of the decision maker make of the request list under each key, apart
from the quota: some requests start or stop being accounted, one is added, one is removed.
The foreground map and the device state are looked at and, process and input events apart,
left alone.
-/

set_option autoImplicit false

namespace BgTaskMgr.Transient

namespace PkgDelaySuspendInfo

/-- The loop of `StartAccounting` settles the package at the first request it starts. -/
theorem startAccountingLoop_pkg (params : Params) (config : BgtaskConfig) (now requestId : Int)
    (self : PkgDelaySuspendInfo) (timers : TimerManager) (requests : List DelaySuspendInfoEx) :
    (startAccountingLoop params config now requestId self timers requests).1 = self ∨
      (startAccountingLoop params config now requestId self timers requests).1 =
        { self.updateQuota params config now false with isCounting := true } ∧
          self.isCounting = false := by
  induction requests generalizing self timers with
  | nil => exact Or.inl rfl
  | cons info rest ih =>
      have one : (startAccountingOne params config now requestId self timers info).1 = self ∨
          (startAccountingOne params config now requestId self timers info).1 =
            { self.updateQuota params config now false with isCounting := true } ∧
              self.isCounting = false := by
        unfold startAccountingOne
        split
        · exact Or.inl rfl
        cases counting : self.isCounting with
        | true =>
            dsimp only
            split
            · exact Or.inl rfl
            · exact Or.inl rfl
        | false =>
            dsimp only
            split
            · exact Or.inr ⟨rfl, rfl⟩
            · exact Or.inr ⟨rfl, rfl⟩
      unfold startAccountingLoop
      dsimp only
      rcases one with same | ⟨settled, idle⟩
      · rw [same]
        exact ih self _
      · rw [settled]
        rcases ih { self.updateQuota params config now false with isCounting := true } _ with
          last | ⟨-, impossible⟩
        · exact Or.inr ⟨last, idle⟩
        · exact absurd impossible (by simp)

end PkgDelaySuspendInfo

namespace DecisionMaker

def requestsAt (self : DecisionMaker) (key : String × Int) : List DelaySuspendInfoEx :=
  match self.pkgDelaySuspendInfoMap.lookup key with
  | none => []
  | some pkgInfo => pkgInfo.requestList

/-- Requests of the uid may be accounted: what `CanStartAccountingLocked` finds. -/
def mayAccount (self : DecisionMaker) (uid : Int) : Bool :=
  if !self.deviceInfoManager.isScreenOn then true else !self.isUidForeground uid

def UidsMatch (self : DecisionMaker) : Prop :=
  self.ForallPkg (fun key pkgInfo => pkgInfo.uid = key.2)

def startedList (now requestId : Int) (requests : List DelaySuspendInfoEx) :
    List DelaySuspendInfoEx :=
  requests.map (fun info =>
    if PkgDelaySuspendInfo.selects requestId info then info.startAccounting now else info)

def stoppedList (now : Int) (requests : List DelaySuspendInfoEx) : List DelaySuspendInfoEx :=
  requests.map (fun info => info.stopAccounting now)

/-- The first request with the id goes, others with it stop being accounted. -/
def removedList (now requestId : Int) (requests : List DelaySuspendInfoEx) :
    List DelaySuspendInfoEx :=
  (requests.eraseP (fun info => info.requestId = requestId)).map (fun info =>
    if info.requestId = requestId then info.stopAccounting now else info)

structure SameDevice (before after : DecisionMaker) : Prop where
  foregroundUidPidMap : after.foregroundUidPidMap = before.foregroundUidPidMap
  deviceInfoManager : after.deviceInfoManager = before.deviceInfoManager

theorem SameDevice.refl (self : DecisionMaker) : SameDevice self self := ⟨rfl, rfl⟩

theorem SameDevice.trans {first second third : DecisionMaker} (early : SameDevice first second)
    (late : SameDevice second third) : SameDevice first third :=
  ⟨late.foregroundUidPidMap.trans early.foregroundUidPidMap,
    late.deviceInfoManager.trans early.deviceInfoManager⟩

theorem SameDevice.isUidForeground {before after : DecisionMaker} (same : SameDevice before after)
    (uid : Int) : after.isUidForeground uid = before.isUidForeground uid := by
  unfold DecisionMaker.isUidForeground
  rw [same.foregroundUidPidMap]

theorem SameDevice.mayAccount {before after : DecisionMaker} (same : SameDevice before after)
    (uid : Int) : after.mayAccount uid = before.mayAccount uid := by
  unfold DecisionMaker.mayAccount
  rw [same.isUidForeground, same.deviceInfoManager]

section

variable (params : Params) (env : Env) (self : DecisionMaker)

theorem requestsAt_of_lookup {key : String × Int} {pkgInfo : PkgDelaySuspendInfo}
    (found : self.pkgDelaySuspendInfoMap.lookup key = some pkgInfo) :
    self.requestsAt key = pkgInfo.requestList := by
  unfold requestsAt
  rw [found]

theorem requestsAt_of_none {key : String × Int}
    (missing : self.pkgDelaySuspendInfoMap.lookup key = none) : self.requestsAt key = [] := by
  unfold requestsAt
  rw [missing]

theorem sameDevice_updatePkg (key : String × Int)
    (f : TimerManager → PkgDelaySuspendInfo → PkgDelaySuspendInfo × TimerManager) :
    SameDevice self (self.updatePkg key f) := by
  unfold updatePkg
  split
  · exact SameDevice.refl self
  · exact ⟨rfl, rfl⟩

/-- A call on one package, by what it makes of the request list. -/
theorem requestsAt_updatePkg {key : String × Int}
    {f : TimerManager → PkgDelaySuspendInfo → PkgDelaySuspendInfo × TimerManager}
    (change : List DelaySuspendInfoEx → List DelaySuspendInfoEx) (nothing : change [] = [])
    (effect : ∀ timers pkgInfo, (f timers pkgInfo).1.requestList = change pkgInfo.requestList)
    (a : String × Int) :
    (self.updatePkg key f).requestsAt a =
      if a = key then change (self.requestsAt a) else self.requestsAt a := by
  unfold requestsAt
  rw [updatePkg_lookup]
  by_cases here : a = key
  · rw [if_pos here, if_pos here]
    cases self.pkgDelaySuspendInfoMap.lookup a with
    | none => exact nothing.symm
    | some pkgInfo => exact effect self.timerManager pkgInfo
  · rw [if_neg here, if_neg here]

theorem requestsAt_startAccounting (key : String × Int) (requestId : Int) (a : String × Int) :
    (self.updatePkg key (fun timers pkgInfo =>
        pkgInfo.startAccounting params env.config env.now requestId timers)).requestsAt a =
      if a = key then startedList env.now requestId (self.requestsAt a)
      else self.requestsAt a := by
  refine requestsAt_updatePkg self (startedList env.now requestId) rfl ?_ a
  intro timers pkgInfo
  exact PkgDelaySuspendInfo.startAccounting_requestList params env.config env.now timers pkgInfo
    requestId

theorem requestsAt_stopAccountingAll (key a : String × Int) :
    (self.updatePkg key (fun timers pkgInfo =>
        pkgInfo.stopAccountingAll params env.config env.now timers)).requestsAt a =
      if a = key then stoppedList env.now (self.requestsAt a) else self.requestsAt a := by
  refine requestsAt_updatePkg self (stoppedList env.now) rfl ?_ a
  intro timers pkgInfo
  exact PkgDelaySuspendInfo.stopAccountingAll_requestList params env.config env.now timers pkgInfo

/-! ## Grants and removals -/

theorem requestsAt_resetDayQuotaLocked (a : String × Int) :
    (self.resetDayQuotaLocked params env).requestsAt a = self.requestsAt a := by
  unfold resetDayQuotaLocked
  split
  · unfold requestsAt
    rw [KeyedMap.lookup_mapVal, KeyedMap.lookup_filterVal]
    cases self.pkgDelaySuspendInfoMap.lookup a with
    | none => rfl
    | some pkgInfo =>
        cases empty : pkgInfo.requestList with
        | nil => simp [Option.filter, empty]
        | cons info rest => simp [Option.filter, empty]
  · rfl

theorem sameDevice_resetDayQuotaLocked :
    SameDevice self (self.resetDayQuotaLocked params env) := by
  unfold resetDayQuotaLocked
  split
  · exact ⟨rfl, rfl⟩
  · exact SameDevice.refl self

theorem requestsAt_insert (key : String × Int) (pkgInfo : PkgDelaySuspendInfo)
    {after : DecisionMaker}
    (stored : after.pkgDelaySuspendInfoMap = self.pkgDelaySuspendInfoMap.insert key pkgInfo)
    (a : String × Int) :
    after.requestsAt a = if a = key then pkgInfo.requestList else self.requestsAt a := by
  unfold requestsAt
  rw [stored, KeyedMap.lookup_insert]
  by_cases here : a = key
  · rw [if_pos here, if_pos here]
  · rw [if_neg here, if_neg here]

/-- The request that `Decide` stores for the caller, before it is accounted. -/
def IsNew (pid requestId : Int) (info : DelaySuspendInfoEx) : Prop :=
  info.requestId = requestId ∧ info.pid = pid ∧ info.baseTime = 0 ∧ info.spendTime = 0

/-- What `Decide` makes of the requests: none changes, or one is added and accounted as far
as the uid may be. -/
structure DecideRequests (env : Env) (key : KeyInfo) (before : DecisionMaker)
    (result : ErrCode × DelaySuspendInfoEx × DecisionMaker) : Prop where
  device : SameDevice before result.2.2
  refused : result.1 ≠ .ok → ∀ a, result.2.2.requestsAt a = before.requestsAt a
  granted : result.1 = .ok → result.2.1.requestId = before.newDelaySuspendRequestId.1 ∧
    ∃ info, IsNew key.pid before.newDelaySuspendRequestId.1 info ∧ ∀ a,
      result.2.2.requestsAt a = if a = key.mapKey then
        if before.mayAccount key.uid then
          startedList env.now before.newDelaySuspendRequestId.1 (before.requestsAt a ++ [info])
        else before.requestsAt a ++ [info]
      else before.requestsAt a

theorem decideRequests_grant (key : KeyInfo) {pkgInfo : PkgDelaySuspendInfo} (needSetTime : Bool)
    (own : pkgInfo.uid = key.uid) (requests : pkgInfo.requestList = self.requestsAt key.mapKey) :
    DecideRequests env key self
      (.ok, self.grant params env key { pid := key.pid } pkgInfo needSetTime) := by
  have added : ∃ info, IsNew key.pid self.newDelaySuspendRequestId.1 info ∧
      pkgInfo.addRequest env.config
          { pid := key.pid, requestId := self.newDelaySuspendRequestId.1 }
          (self.newDelaySuspendRequestId.2.getDelayTime params) needSetTime =
        (info, { pkgInfo with requestList := pkgInfo.requestList ++ [info] }) :=
    ⟨_, ⟨rfl, rfl, rfl, rfl⟩, rfl⟩
  obtain ⟨info, isNew, result⟩ := added
  have stored : ∀ a, (self.newDelaySuspendRequestId.2.storeRequest key
      { pkgInfo with requestList := pkgInfo.requestList ++ [info] }).requestsAt a =
        if a = key.mapKey then self.requestsAt a ++ [info] else self.requestsAt a := by
    intro a
    rw [requestsAt_insert self key.mapKey
      { pkgInfo with requestList := pkgInfo.requestList ++ [info] } rfl a]
    by_cases here : a = key.mapKey
    · rw [if_pos here, if_pos here, here, ← requests]
    · rw [if_neg here, if_neg here]
  have device : SameDevice self (self.newDelaySuspendRequestId.2.storeRequest key
      { pkgInfo with requestList := pkgInfo.requestList ++ [info] }) := ⟨rfl, rfl⟩
  have may : (self.newDelaySuspendRequestId.2.storeRequest key
      { pkgInfo with requestList := pkgInfo.requestList ++ [info] }).canStartAccountingLocked
        { pkgInfo with requestList := pkgInfo.requestList ++ [info] } =
      self.mayAccount key.uid := by
    rw [← own]
    rfl
  unfold grant
  dsimp only
  rw [result, may]
  cases allowed : self.mayAccount key.uid with
  | false =>
      rw [if_neg (by simp)]
      refine ⟨device, fun failed => absurd rfl failed, fun _ => ⟨isNew.1, info, isNew, ?_⟩⟩
      intro a
      rw [allowed]
      exact stored a
  | true =>
      rw [if_pos rfl]
      have updated := device.trans (sameDevice_updatePkg _ key.mapKey (fun timers pkgInfo =>
        pkgInfo.startAccounting params env.config env.now self.newDelaySuspendRequestId.1 timers))
      refine ⟨updated, fun failed => absurd rfl failed,
        fun _ => ⟨isNew.1, info, isNew, ?_⟩⟩
      intro a
      show DecisionMaker.requestsAt (DecisionMaker.updatePkg _ _ _) a = _
      rw [requestsAt_startAccounting, stored, allowed]
      by_cases here : a = key.mapKey
      · rw [if_pos here, if_pos here, if_pos here]
        rfl
      · rw [if_neg here, if_neg here, if_neg here]

/-- The package whose quota is checked for a request, stored or new, is the key's own and has
the key's requests. -/
theorem checkQuotaTime_ofKey (key : KeyInfo) (uids : self.UidsMatch) :
    (checkQuotaTime params env ((self.pkgDelaySuspendInfoMap.lookup key.mapKey).getD
      (PkgDelaySuspendInfo.make params key.pkg key.uid)) key.pkg).2.2.uid = key.uid ∧
    (checkQuotaTime params env ((self.pkgDelaySuspendInfoMap.lookup key.mapKey).getD
      (PkgDelaySuspendInfo.make params key.pkg key.uid)) key.pkg).2.2.requestList =
        self.requestsAt key.mapKey := by
  have start : ((self.pkgDelaySuspendInfoMap.lookup key.mapKey).getD
      (PkgDelaySuspendInfo.make params key.pkg key.uid)).uid = key.uid ∧
        ((self.pkgDelaySuspendInfoMap.lookup key.mapKey).getD
          (PkgDelaySuspendInfo.make params key.pkg key.uid)).requestList =
            self.requestsAt key.mapKey := by
    cases found : self.pkgDelaySuspendInfoMap.lookup key.mapKey with
    | none => exact ⟨rfl, (self.requestsAt_of_none found).symm⟩
    | some pkgInfo =>
        exact ⟨uids key.mapKey pkgInfo found, (self.requestsAt_of_lookup found).symm⟩
  generalize (self.pkgDelaySuspendInfoMap.lookup key.mapKey).getD
    (PkgDelaySuspendInfo.make params key.pkg key.uid) = pkgInfo at start ⊢
  refine ⟨?_, (checkQuotaTime_requestList params env pkgInfo key.pkg).trans start.2⟩
  obtain ⟨same | settled, -⟩ := checkQuotaTime_spec params env pkgInfo key.pkg
  · rw [same]
    exact start.1
  · rw [settled]
    exact start.1

theorem decideRequests_decideQuota (key : KeyInfo) (uids : self.UidsMatch) :
    DecideRequests env key self (self.decideQuota params env key { pid := key.pid }) := by
  obtain ⟨own, requests⟩ := checkQuotaTime_ofKey params env self key uids
  unfold decideQuota
  dsimp only
  generalize (self.pkgDelaySuspendInfoMap.lookup key.mapKey).getD
    (PkgDelaySuspendInfo.make params key.pkg key.uid) = pkgInfo at own requests ⊢
  split
  · exact decideRequests_grant params env self key _ own requests
  · rename_i failed
    refine ⟨⟨rfl, rfl⟩, ?_, fun ok => absurd ok failed⟩
    intro _ a
    rw [requestsAt_insert self key.mapKey _ rfl a]
    by_cases here : a = key.mapKey
    · rw [if_pos here, here]
      exact requests
    · rw [if_neg here]

theorem uidsMatch_resetDayQuotaLocked (uids : self.UidsMatch) :
    (self.resetDayQuotaLocked params env).UidsMatch := by
  unfold resetDayQuotaLocked
  split
  · intro key pkgInfo found
    rw [KeyedMap.lookup_mapVal, KeyedMap.lookup_filterVal] at found
    obtain ⟨before, kept, rfl⟩ := Option.map_eq_some_iff.mp found
    exact uids key before (Option.filter_eq_some_iff.mp kept).1
  · exact uids

theorem newDelaySuspendRequestId_resetDayQuotaLocked :
    (self.resetDayQuotaLocked params env).newDelaySuspendRequestId.1 =
      self.newDelaySuspendRequestId.1 := by
  unfold resetDayQuotaLocked
  split
  · rfl
  · rfl

theorem decideRequests_decide (key : KeyInfo) (uids : self.UidsMatch) :
    DecideRequests env key self (self.decide params env key { pid := key.pid }) := by
  have requests := requestsAt_resetDayQuotaLocked params env self
  have device := sameDevice_resetDayQuotaLocked params env self
  have asked := decideRequests_decideQuota params env (self.resetDayQuotaLocked params env) key
    (uidsMatch_resetDayQuotaLocked params env self uids)
  have granted : DecideRequests env key self
      ((self.resetDayQuotaLocked params env).decideQuota params env key { pid := key.pid }) := by
    refine ⟨device.trans asked.device, ?_, ?_⟩
    · intro failed a
      rw [asked.refused failed a, requests a]
    · intro ok
      have given := asked.granted ok
      rw [newDelaySuspendRequestId_resetDayQuotaLocked, device.mayAccount] at given
      simpa only [requests] using given
  unfold decide
  dsimp only
  split
  · split
    · exact ⟨device, fun _ => requests, fun ok => absurd ok (by simp)⟩
    · exact granted
  · exact granted

theorem requestsAt_removeRequest (key : KeyInfo) (requestId : Int) (a : String × Int) :
    (self.removeRequest params env (some key) requestId).requestsAt a =
      if a = key.mapKey then removedList env.now requestId (self.requestsAt a)
      else self.requestsAt a := by
  unfold removeRequest
  dsimp only
  split
  · rename_i missing
    by_cases here : a = key.mapKey
    · rw [if_pos here, here, self.requestsAt_of_none missing]
      rfl
    · rw [if_neg here]
  · show (self.updatePkg key.mapKey (fun timers pkgInfo =>
      pkgInfo.removeRequest params env.config env.now requestId timers)).requestsAt a = _
    refine requestsAt_updatePkg self (removedList env.now requestId) rfl ?_ a
    intro timers pkgInfo
    exact PkgDelaySuspendInfo.removeRequest_requestList params env.config env.now timers pkgInfo
      requestId

theorem sameDevice_removeRequest (key : Option KeyInfo) (requestId : Int) :
    SameDevice self (self.removeRequest params env key requestId) := by
  cases key with
  | none => exact SameDevice.refl self
  | some key =>
      unfold removeRequest
      dsimp only
      split
      · exact SameDevice.refl self
      · have same := sameDevice_updatePkg self key.mapKey (fun timers pkgInfo =>
          pkgInfo.removeRequest params env.config env.now requestId timers)
        exact ⟨same.foregroundUidPidMap, same.deviceInfoManager⟩

theorem requestsAt_getQuota (key : KeyInfo) (a : String × Int) :
    (self.getQuota params env key).2.requestsAt a = self.requestsAt a := by
  unfold getQuota
  split
  · refine (requestsAt_updatePkg self (fun requests => requests) rfl (fun _ _ => rfl) a).trans ?_
    split
    · rfl
    · rfl
  · rfl

theorem sameDevice_getQuota (key : KeyInfo) :
    SameDevice self (self.getQuota params env key).2 := by
  unfold getQuota
  split
  · exact sameDevice_updatePkg self key.mapKey (fun timers pkgInfo =>
      (pkgInfo.updateQuota params env.config env.now false, timers))
  · exact SameDevice.refl self

/-! ## Accounting of a whole package -/

theorem canStartAccountingLocked_of_lookup (uids : self.UidsMatch) {key : String × Int}
    {pkgInfo : PkgDelaySuspendInfo}
    (found : self.pkgDelaySuspendInfoMap.lookup key = some pkgInfo) :
    self.canStartAccountingLocked pkgInfo = self.mayAccount key.2 := by
  rw [← uids key pkgInfo found]
  rfl

theorem requestsAt_unstarted {key : String × Int}
    (missing : self.pkgDelaySuspendInfoMap.lookup key = none) (may : Prop) [Decidable may]
    (a : String × Int) :
    (if a = key ∧ may then startedList env.now (-1) (self.requestsAt a) else self.requestsAt a) =
      self.requestsAt a := by
  split
  · rename_i here
    rw [here.1, self.requestsAt_of_none missing]
    rfl
  · rfl

theorem requestsAt_startIfMay (uids : self.UidsMatch) {key : String × Int}
    {pkgInfo : PkgDelaySuspendInfo}
    (found : self.pkgDelaySuspendInfoMap.lookup key = some pkgInfo) (a : String × Int) :
    (if self.canStartAccountingLocked pkgInfo then
        self.updatePkg key (fun timers pkgInfo =>
          pkgInfo.startAccounting params env.config env.now (-1) timers)
      else self).requestsAt a =
      if a = key ∧ self.mayAccount key.2 = true then
        startedList env.now (-1) (self.requestsAt a)
      else self.requestsAt a := by
  rw [canStartAccountingLocked_of_lookup self uids found]
  cases self.mayAccount key.2 with
  | false => simp
  | true =>
      rw [if_pos rfl, requestsAt_startAccounting]
      simp

theorem requestsAt_tryStartAccounting (uids : self.UidsMatch) (uid : Int) (bundleName : String)
    (a : String × Int) :
    (self.tryStartAccounting params env uid bundleName).2.requestsAt a =
      if a = (bundleName, uid) ∧ self.mayAccount uid = true then
        startedList env.now (-1) (self.requestsAt a)
      else self.requestsAt a := by
  unfold tryStartAccounting
  split
  · rename_i missing
    exact (requestsAt_unstarted env self missing _ a).symm
  · rename_i pkgInfo found
    have started := requestsAt_startIfMay params env self uids found a
    cases allowed : self.canStartAccountingLocked pkgInfo with
    | false =>
        rw [allowed] at started
        exact started
    | true =>
        rw [allowed] at started
        exact started

theorem sameDevice_tryStartAccounting (uid : Int) (bundleName : String) :
    SameDevice self (self.tryStartAccounting params env uid bundleName).2 := by
  unfold tryStartAccounting
  split
  · exact SameDevice.refl self
  · split
    · exact sameDevice_updatePkg self (bundleName, uid) (fun timers pkgInfo =>
        pkgInfo.startAccounting params env.config env.now (-1) timers)
    · exact SameDevice.refl self

theorem requestsAt_startTransientTaskTimeForInner (uids : self.UidsMatch) (uid : Int)
    (name : String) (a : String × Int) :
    (self.startTransientTaskTimeForInner params env uid name).2.requestsAt a =
      if a = (name, uid) ∧ self.isUidForeground uid = false then
        startedList env.now (-1) (self.requestsAt a)
      else self.requestsAt a := by
  unfold startTransientTaskTimeForInner
  cases foreground : self.isUidForeground uid with
  | true => simp
  | false =>
      have may : self.mayAccount uid = true := by simp [mayAccount, foreground]
      rw [if_neg (by simp), requestsAt_tryStartAccounting params env self uids, may]
      simp

theorem sameDevice_startTransientTaskTimeForInner (uid : Int) (name : String) :
    SameDevice self (self.startTransientTaskTimeForInner params env uid name).2 := by
  unfold startTransientTaskTimeForInner
  split
  · exact SameDevice.refl self
  · exact sameDevice_tryStartAccounting params env self uid name

theorem pauseTransientTaskTimeForInner_cases (uid : Int) (name : String) :
    (self.pauseTransientTaskTimeForInner params env uid name).1 = .ok ∧
        self.isUidForeground uid = false ∧
        (self.pauseTransientTaskTimeForInner params env uid name).2 =
          self.updatePkg (name, uid) (fun timers pkgInfo =>
            pkgInfo.stopAccountingAll params env.config env.now timers) ∨
      (self.pauseTransientTaskTimeForInner params env uid name).1 ≠ .ok ∧
        (self.pauseTransientTaskTimeForInner params env uid name).2 = self := by
  unfold pauseTransientTaskTimeForInner
  split
  · exact Or.inr ⟨by simp, rfl⟩
  · rename_i background
    split
    · exact Or.inr ⟨by simp, rfl⟩
    · exact Or.inl ⟨rfl, by simpa using background, rfl⟩

/-! ## Process events -/

theorem requestsAt_updateForegroundUidPidMap (uid pid : Int) (isForeground : Bool)
    (a : String × Int) :
    (self.updateForegroundUidPidMap uid pid isForeground).requestsAt a = self.requestsAt a := by
  obtain ⟨uids, moved⟩ := updateForegroundUidPidMap_frame uid pid isForeground
  rw [moved]
  rfl

theorem isUidForeground_updateForegroundUidPidMap_ne {uid other : Int} (pid : Int)
    (isForeground : Bool) (different : other ≠ uid) :
    (self.updateForegroundUidPidMap uid pid isForeground).isUidForeground other =
      self.isUidForeground other := by
  unfold updateForegroundUidPidMap isUidForeground
  dsimp only
  split
  · rw [KeyedMap.lookup_insert, if_neg different]
  split
  · rw [KeyedMap.lookup_erase, if_neg different]
  · rw [KeyedMap.lookup_insert, if_neg different]

theorem isUidForeground_updateForegroundUidPidMap_true (uid pid : Int) :
    (self.updateForegroundUidPidMap uid pid true).isUidForeground uid = true := by
  unfold updateForegroundUidPidMap isUidForeground
  dsimp only
  rw [if_pos rfl, KeyedMap.lookup_insert, if_pos rfl]
  rfl

theorem isUidForeground_of_left {uid pid other : Int}
    (foreground : (self.updateForegroundUidPidMap uid pid false).isUidForeground other = true) :
    self.isUidForeground other = true := by
  by_cases same : other = uid
  · subst same
    unfold updateForegroundUidPidMap isUidForeground at foreground
    dsimp only at foreground
    rw [if_neg (by simp)] at foreground
    cases found : self.foregroundUidPidMap.lookup other with
    | none =>
        rw [found] at foreground
        simp at foreground
    | some pids =>
        unfold isUidForeground
        rw [found]
        rfl
  · rwa [isUidForeground_updateForegroundUidPidMap_ne self pid false same] at foreground

theorem deviceInfoManager_updateForegroundUidPidMap (uid pid : Int) (isForeground : Bool) :
    (self.updateForegroundUidPidMap uid pid isForeground).deviceInfoManager =
      self.deviceInfoManager := by
  obtain ⟨uids, moved⟩ := updateForegroundUidPidMap_frame uid pid isForeground
  rw [moved]

theorem uidsMatch_updateForegroundUidPidMap (uids : self.UidsMatch) (uid pid : Int)
    (isForeground : Bool) : (self.updateForegroundUidPidMap uid pid isForeground).UidsMatch := by
  obtain ⟨_, moved⟩ := updateForegroundUidPidMap_frame uid pid isForeground
  rw [moved]
  exact uids

theorem requestsAt_handleStateChange (uids : self.UidsMatch) (bundleName : String) (uid : Int)
    (isForeground isBackground : Bool) (a : String × Int) :
    (self.handleStateChange params env bundleName uid isForeground isBackground).requestsAt a =
      if isForeground then
        if a = (bundleName, uid) then stoppedList env.now (self.requestsAt a)
        else self.requestsAt a
      else if isBackground then
        if a = (bundleName, uid) ∧ self.mayAccount uid = true then
          startedList env.now (-1) (self.requestsAt a)
        else self.requestsAt a
      else self.requestsAt a := by
  cases isForeground with
  | true => exact requestsAt_stopAccountingAll params env self (bundleName, uid) a
  | false =>
      cases isBackground with
      | false => rfl
      | true =>
          obtain ⟨entries, moved⟩ := handleStateChange_background bundleName uid
          rw [moved]
          exact requestsAt_tryStartAccounting params env self uids uid bundleName a

theorem sameDevice_handleStateChange (bundleName : String) (uid : Int)
    (isForeground isBackground : Bool) :
    SameDevice self
      (self.handleStateChange params env bundleName uid isForeground isBackground) := by
  cases isForeground with
  | true =>
      have same := sameDevice_updatePkg self (bundleName, uid) (fun timers pkgInfo =>
        pkgInfo.stopAccountingAll params env.config env.now timers)
      exact ⟨same.foregroundUidPidMap, same.deviceInfoManager⟩
  | false =>
      cases isBackground with
      | false => exact SameDevice.refl self
      | true =>
          obtain ⟨entries, moved⟩ := handleStateChange_background bundleName uid
          have same := sameDevice_tryStartAccounting params env self uid bundleName
          rw [moved]
          exact ⟨same.foregroundUidPidMap, same.deviceInfoManager⟩

/-! ## Screen events -/

theorem stoppedList_stoppedList (now : Int) (requests : List DelaySuspendInfoEx) :
    stoppedList now (stoppedList now requests) = stoppedList now requests := by
  unfold stoppedList
  rw [List.map_map]
  refine List.map_congr_left ?_
  intro info _
  show (info.stopAccounting now).stopAccounting now = info.stopAccounting now
  have idle : (info.stopAccounting now).baseTime = 0 :=
    not_not.mp (info.stopAccounting_not_accounted now)
  rw [DelaySuspendInfoEx.stopAccounting, if_neg (by simp [idle])]

theorem requestsAt_foldl_stopAccountingAll (apps : List (String × Int)) (a : String × Int) :
    (apps.foldl (fun self fgApp => self.updatePkg fgApp (fun timers pkgInfo =>
        pkgInfo.stopAccountingAll params env.config env.now timers)) self).requestsAt a =
      if a ∈ apps then stoppedList env.now (self.requestsAt a) else self.requestsAt a := by
  induction apps generalizing self with
  | nil => simp
  | cons app rest ih =>
      rw [List.foldl_cons, ih, requestsAt_stopAccountingAll]
      by_cases here : a = app
      · rw [if_pos here, if_pos (List.mem_cons.mpr (Or.inl here))]
        split
        · exact stoppedList_stoppedList env.now (self.requestsAt a)
        · rfl
      · rw [if_neg here]
        simp [here]

theorem sameDevice_foldl {α : Type} (f : DecisionMaker → α → DecisionMaker)
    (body : ∀ decision item, SameDevice decision (f decision item)) (items : List α) :
    SameDevice self (items.foldl f self) := by
  induction items generalizing self with
  | nil => exact SameDevice.refl self
  | cons item rest ih => exact (body self item).trans (ih (f self item))

theorem sameDevice_screenOffPkg (transientPauseUid : Finset Int) (key : String × Int) :
    SameDevice self (screenOffPkg params env transientPauseUid self key) := by
  unfold screenOffPkg
  split
  · exact SameDevice.refl self
  split
  · exact SameDevice.refl self
  split
  · exact sameDevice_updatePkg self key (fun timers pkgInfo =>
      pkgInfo.startAccounting params env.config env.now (-1) timers)
  · exact SameDevice.refl self

theorem uidsMatch_updatePkg (uids : self.UidsMatch) (key : String × Int)
    (f : TimerManager → PkgDelaySuspendInfo → PkgDelaySuspendInfo × TimerManager)
    (keeps : ∀ timers pkgInfo, (f timers pkgInfo).1.uid = pkgInfo.uid) :
    (self.updatePkg key f).UidsMatch := by
  refine forallPkg_updatePkg uids ?_
  intro pkgInfo _ own
  rw [keeps]
  exact own

theorem startAccounting_uid (config : BgtaskConfig) (now requestId : Int) (timers : TimerManager)
    (pkgInfo : PkgDelaySuspendInfo) :
    (pkgInfo.startAccounting params config now requestId timers).1.uid = pkgInfo.uid := by
  unfold PkgDelaySuspendInfo.startAccounting
  dsimp only
  rcases PkgDelaySuspendInfo.startAccountingLoop_pkg params config now requestId pkgInfo timers
    pkgInfo.requestList with same | ⟨settled, -⟩
  · rw [same]
  · rw [settled]
    rfl

theorem uidsMatch_screenOffPkg (uids : self.UidsMatch) (transientPauseUid : Finset Int)
    (key : String × Int) : (screenOffPkg params env transientPauseUid self key).UidsMatch := by
  unfold screenOffPkg
  split
  · exact uids
  split
  · exact uids
  split
  · exact uidsMatch_updatePkg self uids key _
      (startAccounting_uid params env.config env.now (-1))
  · exact uids

theorem requestsAt_screenOffPkg (uids : self.UidsMatch) (transientPauseUid : Finset Int)
    (key a : String × Int) :
    (screenOffPkg params env transientPauseUid self key).requestsAt a =
      if a = key ∧ key.2 ∉ transientPauseUid ∧ self.mayAccount key.2 = true then
        startedList env.now (-1) (self.requestsAt a)
      else self.requestsAt a := by
  unfold screenOffPkg
  split
  · rename_i missing
    exact (requestsAt_unstarted env self missing _ a).symm
  · rename_i pkgInfo found
    rw [uids key pkgInfo found]
    split
    · rename_i paused
      simp [paused]
    · rename_i running
      rw [requestsAt_startIfMay params env self uids found a]
      simp [running]

theorem requestsAt_foldl_screenOffPkg (transientPauseUid : Finset Int)
    (keys : List (String × Int)) (distinct : keys.Nodup) (uids : self.UidsMatch)
    (a : String × Int) :
    (keys.foldl (screenOffPkg params env transientPauseUid) self).requestsAt a =
      if a ∈ keys ∧ a.2 ∉ transientPauseUid ∧ self.mayAccount a.2 = true then
        startedList env.now (-1) (self.requestsAt a)
      else self.requestsAt a := by
  induction keys generalizing self with
  | nil => simp
  | cons key rest ih =>
      obtain ⟨fresh, distinctRest⟩ := List.nodup_cons.mp distinct
      have device := sameDevice_screenOffPkg params env self transientPauseUid key
      rw [List.foldl_cons, ih _ distinctRest
        (uidsMatch_screenOffPkg params env self uids transientPauseUid key), device.mayAccount,
        requestsAt_screenOffPkg params env self uids]
      by_cases here : a = key
      · subst here
        simp [fresh]
      · simp [here]

theorem requestsAt_handleScreenOff (transientPauseUid : Finset Int) (uids : self.UidsMatch)
    (a : String × Int) :
    (self.handleScreenOff params env transientPauseUid).requestsAt a =
      if a.2 ∉ transientPauseUid ∧ self.mayAccount a.2 = true then
        startedList env.now (-1) (self.requestsAt a)
      else self.requestsAt a := by
  unfold handleScreenOff
  rw [requestsAt_foldl_screenOffPkg params env self transientPauseUid
    self.pkgDelaySuspendInfoMap.keys self.pkgDelaySuspendInfoMap.nodupKeys uids a]
  by_cases stored : a ∈ self.pkgDelaySuspendInfoMap.keys
  · simp [stored]
  · -- a key that is not stored has no request
    have missing : self.pkgDelaySuspendInfoMap.lookup a = none := by
      rw [AList.lookup_eq_none]
      exact fun member => stored (AList.mem_keys.mp member)
    have none := self.requestsAt_of_none missing
    rw [none, if_neg (fun both => stored both.1)]
    split
    · rfl
    · rfl

theorem sameDevice_handleScreenOff (transientPauseUid : Finset Int) :
    SameDevice self (self.handleScreenOff params env transientPauseUid) :=
  sameDevice_foldl self _
    (fun decision key => sameDevice_screenOffPkg params env decision transientPauseUid key) _

theorem sameDevice_handleScreenOn : SameDevice self (self.handleScreenOn params env) := by
  unfold handleScreenOn
  split
  · exact SameDevice.refl self
  · refine sameDevice_foldl self _ ?_ _
    intro decision fgApp
    exact sameDevice_updatePkg decision fgApp _

theorem requestsAt_handleScreenOn (a : String × Int) :
    (self.handleScreenOn params env).requestsAt a =
      if a ∈ env.foregroundApplications.getD [] then stoppedList env.now (self.requestsAt a)
      else self.requestsAt a := by
  unfold handleScreenOn
  split
  · rename_i unknown
    simp [unknown]
  · rename_i apps known
    rw [requestsAt_foldl_stopAccountingAll, known]
    rfl

end

/-! ## Members of a changed list -/

section

variable {now requestId : Int} {requests : List DelaySuspendInfoEx} {info : DelaySuspendInfoEx}

/-- A request of a started list: where it comes from and what starting made of it. -/
theorem of_mem_startedList (member : info ∈ startedList now requestId requests) :
    ∃ before ∈ requests, before.requestId = info.requestId ∧
      (before.Accounted → info.Accounted) ∧
      (now ≠ 0 → PkgDelaySuspendInfo.selects requestId info = true → info.Accounted) ∧
      (PkgDelaySuspendInfo.selects requestId info = false → info = before) := by
  obtain ⟨before, stored, rfl⟩ := List.mem_map.mp member
  refine ⟨before, stored, ?_⟩
  by_cases selected : PkgDelaySuspendInfo.selects requestId before = true
  · rw [if_pos selected]
    have sameId := before.startAccounting_requestId now
    have stillSelected : PkgDelaySuspendInfo.selects requestId (before.startAccounting now) =
        true := by
      unfold PkgDelaySuspendInfo.selects at selected ⊢
      rw [sameId]
      exact selected
    refine ⟨sameId.symm, ?_, ?_, ?_⟩
    · intro accounted
      unfold DelaySuspendInfoEx.startAccounting
      rw [if_neg accounted]
      exact accounted
    · intro running _
      exact DelaySuspendInfoEx.startAccounting_accounted running before
    · intro unselected
      rw [stillSelected] at unselected
      exact absurd unselected (by simp)
  · rw [if_neg selected]
    exact ⟨rfl, id, fun _ isSelected => absurd isSelected selected, fun _ => rfl⟩

theorem of_mem_stoppedList (member : info ∈ stoppedList now requests) :
    ¬ info.Accounted ∧ ∃ before ∈ requests, before.requestId = info.requestId := by
  obtain ⟨before, stored, rfl⟩ := List.mem_map.mp member
  exact ⟨before.stopAccounting_not_accounted now, before, stored,
    (before.stopAccounting_requestId now).symm⟩

/-- A request that a removal leaves is as it was, or has the removed id and is stopped. -/
theorem of_mem_removedList (member : info ∈ removedList now requestId requests) :
    info ∈ requests ∨ info.requestId = requestId ∧ ¬ info.Accounted := by
  obtain ⟨before, left, rfl⟩ := List.mem_map.mp member
  have stored := List.mem_of_mem_eraseP left
  by_cases same : before.requestId = requestId
  · rw [if_pos same]
    exact Or.inr ⟨(before.stopAccounting_requestId now).trans same,
      before.stopAccounting_not_accounted now⟩
  · rw [if_neg same]
    exact Or.inl stored

theorem startedList_ne_nil (changed : startedList now requestId requests ≠ []) :
    requests ≠ [] := by
  intro empty
  rw [empty] at changed
  exact changed rfl

theorem stoppedList_ne_nil (changed : stoppedList now requests ≠ []) : requests ≠ [] := by
  intro empty
  rw [empty] at changed
  exact changed rfl

theorem removedList_ne_nil (changed : removedList now requestId requests ≠ []) :
    requests ≠ [] := by
  intro empty
  rw [empty] at changed
  exact changed rfl

end

end DecisionMaker

end BgTaskMgr.Transient
