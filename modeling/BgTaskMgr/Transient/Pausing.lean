import BgTaskMgr.Transient.AccountingRules
import BgTaskMgr.Transient.StoreConsistency

/-!
# Paused uids

`PauseTransientTaskTimeForInner` stops the requests of a uid and puts it into
`transientPauseUid_`.  The set is asked by `HandleScreenOff` alone: a granted request and a
process that leaves the foreground start the accounting of a paused uid again.  Short of
these a paused package stays frozen.
-/

set_option autoImplicit false

namespace BgTaskMgr.Transient

namespace DecisionMaker

section

variable {params : Params} {env : Env} {self : DecisionMaker}

/-! ## Packages appear by requests alone -/

theorem stored_updatePkg {key a : String × Int}
    {f : TimerManager → PkgDelaySuspendInfo → PkgDelaySuspendInfo × TimerManager}
    (stored : a ∈ (self.updatePkg key f).pkgDelaySuspendInfoMap) :
    a ∈ self.pkgDelaySuspendInfoMap := by
  rw [← AList.lookup_isSome] at stored ⊢
  rw [updatePkg_lookup] at stored
  split at stored
  · simpa using stored
  · exact stored

theorem stored_refill {a : String × Int}
    (stored : a ∈ (self.resetDayQuotaLocked params env).pkgDelaySuspendInfoMap) :
    a ∈ self.pkgDelaySuspendInfoMap := by
  unfold resetDayQuotaLocked at stored
  split at stored
  · rw [KeyedMap.mem_iff_lookup] at stored ⊢
    obtain ⟨pkgInfo, found⟩ := stored
    rw [KeyedMap.lookup_mapVal, KeyedMap.lookup_filterVal] at found
    obtain ⟨before, kept, -⟩ := Option.map_eq_some_iff.mp found
    exact ⟨before, (Option.filter_eq_some_iff.mp kept).1⟩
  · exact stored

theorem stored_reaches {next : DecisionMaker} (reaches : Reaches params env self next)
    {a : String × Int} (stored : a ∈ next.pkgDelaySuspendInfoMap) :
    a ∈ self.pkgDelaySuspendInfoMap := by
  induction reaches with
  | refl => exact stored
  | tail _ step ih =>
      cases step with
      | frame _ samePkgs _ _ => exact ih (samePkgs ▸ stored)
      | package key call => exact ih (stored_updatePkg stored)

theorem stored_decideQuota (key : KeyInfo) (delayInfo : DelaySuspendInfoEx) {a : String × Int}
    (stored : a ∈ (self.decideQuota params env key delayInfo).2.2.pkgDelaySuspendInfoMap) :
    a = key.mapKey ∨ a ∈ self.pkgDelaySuspendInfoMap := by
  unfold decideQuota at stored
  dsimp only at stored
  split at stored
  · unfold grant at stored
    dsimp only at stored
    split at stored
    · have inserted := stored_updatePkg stored
      exact AList.mem_insert _ |>.mp inserted
    · exact AList.mem_insert _ |>.mp stored
  · exact AList.mem_insert _ |>.mp stored

theorem stored_decide (key : KeyInfo) (delayInfo : DelaySuspendInfoEx) {a : String × Int}
    (stored : a ∈ (self.decide params env key delayInfo).2.2.pkgDelaySuspendInfoMap) :
    a = key.mapKey ∨ a ∈ self.pkgDelaySuspendInfoMap := by
  have settled : a ∈ ((self.resetDayQuotaLocked params env).decideQuota params env key
      delayInfo).2.2.pkgDelaySuspendInfoMap → a = key.mapKey ∨ a ∈ self.pkgDelaySuspendInfoMap := by
    intro later
    rcases stored_decideQuota key delayInfo later with here | before
    · exact Or.inl here
    · exact Or.inr (stored_refill before)
  unfold decide at stored
  dsimp only at stored
  split at stored
  · split at stored
    · exact Or.inr (stored_refill stored)
    · exact settled stored
  · exact settled stored

theorem stored_removeRequest {key : Option KeyInfo} {requestId : Int} {a : String × Int}
    (stored : a ∈ (self.removeRequest params env key requestId).pkgDelaySuspendInfoMap) :
    a ∈ self.pkgDelaySuspendInfoMap := by
  unfold removeRequest at stored
  split at stored
  · exact stored
  split at stored
  · exact stored
  · exact stored_updatePkg stored

end

def NamedPkgs (bundleOf : Int → String) (self : DecisionMaker) : Prop :=
  ∀ a ∈ self.pkgDelaySuspendInfoMap, a.1 = bundleOf a.2

theorem namedPkgs_call {params : Params} {env : Env} {self : DecisionMaker}
    {bundleOf : Int → String}
    (answered : ∀ uid name, env.bundleNameForUid uid = some name → name = bundleOf uid)
    (op : DecisionOp) (namedCall : BgTransientTaskMgr.NamedCall env op)
    (named : self.NamedPkgs bundleOf) : (self.step params (env, op)).NamedPkgs bundleOf := by
  intro a stored
  cases op with
  | decide key =>
      rcases stored_decide key _ stored with here | before
      · rw [here]
        exact answered key.uid key.pkg namedCall
      · exact named a before
  | removeRequest key requestId => exact named a (stored_removeRequest stored)
  | pause uid name =>
      exact named a (stored_reaches (reaches_pauseTransientTaskTimeForInner uid name) stored)
  | start uid name =>
      exact named a (stored_reaches (reaches_startTransientTaskTimeForInner uid name) stored)
  | getQuota key => exact named a (stored_reaches (reaches_getQuota key) stored)
  | processStateChanged processData =>
      exact named a (stored_reaches (reaches_onProcessStateChanged processData) stored)
  | processDied processData =>
      exact named a (stored_reaches (reaches_onProcessDied processData) stored)
  | inputEvent transientPauseUid event stringArg =>
      exact named a (stored_reaches (reaches_onInputEvent transientPauseUid event stringArg) stored)
  | setDump isDump => exact named a stored

end DecisionMaker

/-! ## Frozen packages -/

namespace PkgDelaySuspendInfo

/-- Nothing of the package is accounted, and its quota has not fallen below `least`, unless
it has been refilled. -/
structure Frozen (params : Params) (least : Int) (pkgInfo : PkgDelaySuspendInfo) : Prop where
  isCounting : pkgInfo.isCounting = false
  idle : ∀ info ∈ pkgInfo.requestList, ¬ info.Accounted
  quota : least ≤ pkgInfo.quota ∨ params.initQuota ≤ pkgInfo.quota

section

variable {params : Params} (config : BgtaskConfig) (now : Int) {least : Int}
  {pkgInfo : PkgDelaySuspendInfo}

theorem frozen_make (pkg : String) (uid : Int) :
    Frozen params least (PkgDelaySuspendInfo.make params pkg uid) :=
  ⟨rfl, fun _ member => absurd member List.not_mem_nil, Or.inr (le_refl _)⟩

theorem frozen_updateQuota (frozen : Frozen params least pkgInfo) (reset : Bool) :
    Frozen params least (pkgInfo.updateQuota params config now reset) := by
  refine ⟨frozen.isCounting, frozen.idle, ?_⟩
  -- without counting nothing is charged
  have kept : pkgInfo.quota ≤ (if pkgInfo.quota - 0 < 0 then 0 else pkgInfo.quota - 0) := by
    split <;> omega
  unfold PkgDelaySuspendInfo.updateQuota
  rw [frozen.isCounting]
  cases reset with
  | true => exact Or.inr (le_refl _)
  | false =>
      rcases frozen.quota with above | refilled
      · exact Or.inl (above.trans kept)
      · exact Or.inr (refilled.trans kept)

theorem frozen_stopAccountingAll (frozen : Frozen params least pkgInfo) (timers : TimerManager) :
    Frozen params least (pkgInfo.stopAccountingAll params config now timers).1 := by
  refine ⟨rfl, ?_, ?_⟩
  · intro info member
    rw [stopAccountingAll_requestList] at member
    obtain ⟨before, -, rfl⟩ := List.mem_map.mp member
    exact before.stopAccounting_not_accounted now
  · exact (frozen_updateQuota config now frozen false).quota

theorem frozen_addRequest (frozen : Frozen params least pkgInfo) {delayInfo : DelaySuspendInfoEx}
    (fresh : delayInfo.baseTime = 0) (delayTime : Int) (needSetTime : Bool) :
    Frozen params least (pkgInfo.addRequest config delayInfo delayTime needSetTime).2 := by
  refine ⟨frozen.isCounting, ?_, frozen.quota⟩
  intro info member
  rcases List.mem_append.mp member with old | new
  · exact frozen.idle info old
  · rw [List.mem_singleton.mp new]
    exact fun accounted => accounted fresh

theorem frozen_removeRequest (frozen : Frozen params least pkgInfo) (requestId : Int)
    (timers : TimerManager) :
    Frozen params least (pkgInfo.removeRequest params config now requestId timers).1 := by
  have idle : ∀ info ∈ (pkgInfo.removeRequest params config now requestId timers).1.requestList,
      ¬ info.Accounted := by
    intro info member
    rw [removeRequest_requestList] at member
    obtain ⟨before, left, rfl⟩ := List.mem_map.mp member
    split
    · exact before.stopAccounting_not_accounted now
    · exact frozen.idle before (List.mem_of_mem_eraseP left)
  by_cases present : ∃ info ∈ pkgInfo.requestList, info.requestId = requestId
  · refine ⟨?_, idle, ?_⟩
    · rw [removeRequest_isCounting params config now timers pkgInfo present, frozen.isCounting]
      rfl
    · unfold removeRequest
      split
      · dsimp only
        split
        · exact (frozen_updateQuota config now frozen false).quota
        · exact frozen.quota
      · exact frozen.quota
  · have absent : ∀ info ∈ pkgInfo.requestList, info.requestId ≠ requestId :=
      fun info member same => present ⟨info, member, same⟩
    rw [removeRequest_absent params config now timers pkgInfo absent]
    exact frozen

theorem frozen_startAccounting_nil (frozen : Frozen params least pkgInfo)
    (empty : pkgInfo.requestList = []) (requestId : Int) (timers : TimerManager) :
    Frozen params least (pkgInfo.startAccounting params config now requestId timers).1 := by
  have same : (pkgInfo.startAccounting params config now requestId timers).1 =
      { pkgInfo with requestList := [] } := by
    unfold startAccounting
    rw [empty]
    rfl
  rw [same]
  exact ⟨frozen.isCounting, fun _ member => absurd member List.not_mem_nil, frozen.quota⟩

end

end PkgDelaySuspendInfo

namespace DecisionMaker

def FrozenAt (params : Params) (uid least : Int) (self : DecisionMaker) : Prop :=
  self.ForallPkg (fun key pkgInfo => key.2 = uid → PkgDelaySuspendInfo.Frozen params least pkgInfo)

section

variable {params : Params} (env : Env) {self : DecisionMaker} {uid least : Int}

theorem frozenAt_of_same {next : DecisionMaker} (frozen : self.FrozenAt params uid least)
    (samePkgs : next.pkgDelaySuspendInfoMap = self.pkgDelaySuspendInfoMap) :
    next.FrozenAt params uid least := by
  intro key pkgInfo found
  rw [samePkgs] at found
  exact frozen key pkgInfo found

/-- A call on a package keeps the uid frozen, a start only if it finds nothing to start. -/
theorem frozenAt_call (frozen : self.FrozenAt params uid least) (key : String × Int)
    (call : PkgCall)
    (spared : key.2 = uid → ∀ requestId, call = .start requestId → self.requestsAt key = []) :
    (self.updatePkg key (call.apply params env)).FrozenAt params uid least := by
  refine forallPkg_updatePkg frozen (fun pkgInfo found held isUid => ?_)
  cases call with
  | updateQuota => exact PkgDelaySuspendInfo.frozen_updateQuota _ _ (held isUid) false
  | stopAll => exact PkgDelaySuspendInfo.frozen_stopAccountingAll _ _ (held isUid) _
  | start requestId =>
      have empty := spared isUid requestId rfl
      rw [self.requestsAt_of_lookup found] at empty
      exact PkgDelaySuspendInfo.frozen_startAccounting_nil _ _ (held isUid) empty requestId _

theorem frozenAt_refill (frozen : self.FrozenAt params uid least) :
    (self.resetDayQuotaLocked params env).FrozenAt params uid least := by
  unfold resetDayQuotaLocked
  split
  · intro key pkgInfo found isUid
    rw [KeyedMap.lookup_mapVal, KeyedMap.lookup_filterVal] at found
    obtain ⟨before, kept, rfl⟩ := Option.map_eq_some_iff.mp found
    have held := frozen key before (Option.filter_eq_some_iff.mp kept).1 isUid
    exact PkgDelaySuspendInfo.frozen_updateQuota _ _ held true
  · exact frozen

theorem frozenAt_grant (frozen : self.FrozenAt params uid least) (key : KeyInfo)
    {pkgInfo : PkgDelaySuspendInfo} (needSetTime : Bool) (own : pkgInfo.uid = key.uid)
    (held : key.uid = uid → PkgDelaySuspendInfo.Frozen params least pkgInfo)
    (spared : key.uid = uid → self.mayAccount uid = false) :
    (self.grant params env key { pid := key.pid } pkgInfo needSetTime).2.FrozenAt params uid
      least := by
  have stored : ∀ delayInfo : DelaySuspendInfoEx, delayInfo.baseTime = 0 → ∀ delayTime,
      (self.newDelaySuspendRequestId.2.storeRequest key (pkgInfo.addRequest env.config delayInfo
        delayTime needSetTime).2).FrozenAt params uid least := by
    intro delayInfo fresh delayTime
    exact forallPkg_insert frozen (fun isUid =>
      PkgDelaySuspendInfo.frozen_addRequest _ (held isUid) fresh delayTime needSetTime)
  unfold grant
  dsimp only
  split
  · rename_i may
    refine forallPkg_updatePkg (stored _ rfl _) (fun started _ _ isUid => ?_)
    -- a paused uid that may not be accounted does not reach the start
    have refused := spared isUid
    have asked : self.mayAccount pkgInfo.uid = true := may
    rw [own, show key.uid = uid from isUid, refused] at asked
    exact absurd asked (by simp)
  · exact stored _ rfl _

theorem frozenAt_decideQuota (frozen : self.FrozenAt params uid least) (uids : self.UidsMatch)
    (key : KeyInfo)
    (spared : key.uid = uid →
      (self.decideQuota params env key { pid := key.pid }).1 = .ok → self.mayAccount uid = false) :
    (self.decideQuota params env key { pid := key.pid }).2.2.FrozenAt params uid least := by
  have start : ((self.pkgDelaySuspendInfoMap.lookup key.mapKey).getD
      (PkgDelaySuspendInfo.make params key.pkg key.uid)).uid = key.uid ∧
        (key.uid = uid → PkgDelaySuspendInfo.Frozen params least
          ((self.pkgDelaySuspendInfoMap.lookup key.mapKey).getD
            (PkgDelaySuspendInfo.make params key.pkg key.uid))) := by
    cases found : self.pkgDelaySuspendInfoMap.lookup key.mapKey with
    | none => exact ⟨rfl, fun _ => PkgDelaySuspendInfo.frozen_make key.pkg key.uid⟩
    | some pkgInfo =>
        exact ⟨uids key.mapKey pkgInfo found, fun isUid => frozen key.mapKey pkgInfo found isUid⟩
  unfold decideQuota at spared ⊢
  dsimp only at spared ⊢
  generalize (self.pkgDelaySuspendInfoMap.lookup key.mapKey).getD
    (PkgDelaySuspendInfo.make params key.pkg key.uid) = pkgInfo at start spared ⊢
  have checked : (checkQuotaTime params env pkgInfo key.pkg).2.2.uid = key.uid ∧
      (key.uid = uid → PkgDelaySuspendInfo.Frozen params least
        (checkQuotaTime params env pkgInfo key.pkg).2.2) := by
    obtain ⟨same | settled, -⟩ := checkQuotaTime_spec params env pkgInfo key.pkg
    · rw [same]
      exact start
    · rw [settled]
      exact ⟨start.1, fun isUid => PkgDelaySuspendInfo.frozen_updateQuota _ _ (start.2 isUid) false⟩
  split
  · rename_i passed
    rw [if_pos passed] at spared
    exact frozenAt_grant env frozen key _ checked.1 checked.2 (fun isUid => spared isUid rfl)
  · exact forallPkg_insert frozen checked.2

theorem frozenAt_decide (frozen : self.FrozenAt params uid least) (uids : self.UidsMatch)
    (key : KeyInfo)
    (spared : key.uid = uid →
      (self.decide params env key { pid := key.pid }).1 = .ok → self.mayAccount uid = false) :
    (self.decide params env key { pid := key.pid }).2.2.FrozenAt params uid least := by
  have refilled := frozenAt_refill env frozen
  have device := sameDevice_resetDayQuotaLocked params env self
  rw [← device.mayAccount] at spared
  have asked := frozenAt_decideQuota env refilled
    (uidsMatch_resetDayQuotaLocked params env self uids) key
  unfold decide at spared ⊢
  dsimp only at spared ⊢
  split at spared
  · split at spared
    · rename_i late
      rw [if_pos late]
      exact refilled
    · rename_i early
      rw [if_neg early]
      exact asked spared
  · exact asked spared

theorem frozenAt_removeRequest (frozen : self.FrozenAt params uid least) (key : Option KeyInfo)
    (requestId : Int) :
    (self.removeRequest params env key requestId).FrozenAt params uid least := by
  cases key with
  | none => exact frozen
  | some key =>
      refine forallPkg_removeRequest frozen (fun pkgInfo _ held isUid => ?_)
      exact PkgDelaySuspendInfo.frozen_removeRequest _ _ (held isUid) requestId _

/-- The uid may be accounted and the package has a request: a start would thaw it. -/
def Thaws (self : DecisionMaker) (key : String × Int) : Prop :=
  self.mayAccount key.2 = true ∧ self.requestsAt key ≠ []

theorem frozenAt_tryStartAccounting (frozen : self.FrozenAt params uid least)
    (uids : self.UidsMatch) (other : Int) (bundleName : String)
    (spared : other = uid → ¬ self.Thaws (bundleName, other)) :
    (self.tryStartAccounting params env other bundleName).2.FrozenAt params uid least := by
  unfold tryStartAccounting
  split
  · exact frozen
  split
  · rename_i pkgInfo found may
    rw [canStartAccountingLocked_of_lookup self uids found] at may
    refine frozenAt_call env frozen (bundleName, other) (.start (-1)) (fun isUid _ _ => ?_)
    by_contra requests
    exact spared isUid ⟨may, requests⟩
  · exact frozen

theorem frozenAt_handleStateChange (frozen : self.FrozenAt params uid least)
    (uids : self.UidsMatch) (bundleName : String) (other : Int)
    (isForeground isBackground : Bool)
    (spared : isForeground = false → isBackground = true → other = uid →
      ¬ self.Thaws (bundleName, other)) :
    (self.handleStateChange params env bundleName other isForeground isBackground).FrozenAt params
      uid least := by
  cases isForeground with
  | true =>
      have stopped := frozenAt_call env frozen (bundleName, other) .stopAll
        (fun _ _ isStart => absurd isStart (by simp))
      exact frozenAt_of_same stopped rfl
  | false =>
      cases isBackground with
      | false => exact frozen
      | true =>
          obtain ⟨entries, moved⟩ := handleStateChange_background bundleName other
          have started := frozenAt_tryStartAccounting env frozen uids other bundleName
            (spared rfl rfl)
          rw [moved]
          exact frozenAt_of_same started rfl

theorem pkgDelaySuspendInfoMap_updateForegroundUidPidMap (decision : DecisionMaker)
    (other pid : Int) (isForeground : Bool) :
    (decision.updateForegroundUidPidMap other pid isForeground).pkgDelaySuspendInfoMap =
      decision.pkgDelaySuspendInfoMap := by
  obtain ⟨uids, moved⟩ := updateForegroundUidPidMap_frame other pid isForeground
  rw [moved]

/-- The process leaves the foreground, and with it a package that thaws. -/
def LeavesThawing (self : DecisionMaker) (processData : ProcessData) : Prop :=
  (self.updateForegroundUidPidMap processData.uid processData.pid false).Thaws
    (processData.bundleName, processData.uid)

theorem frozenAt_onProcessStateChanged (frozen : self.FrozenAt params uid least)
    (uids : self.UidsMatch) (processData : ProcessData)
    (spared : processData.state = .background → processData.uid = uid →
      ¬ self.LeavesThawing processData) :
    (self.onProcessStateChanged params env processData).FrozenAt params uid least := by
  have moved := fun isForeground => frozenAt_of_same frozen
    (pkgDelaySuspendInfoMap_updateForegroundUidPidMap self processData.uid
      processData.pid isForeground)
  have uidsMoved := uidsMatch_updateForegroundUidPidMap self uids processData.uid processData.pid
  unfold onProcessStateChanged
  dsimp only
  split
  · refine frozenAt_handleStateChange env (moved _) (uidsMoved _) _ _ _ _ ?_
    intro notForeground isBackground isUid
    rw [notForeground]
    exact spared (by simpa using isBackground) isUid
  · exact moved _

theorem frozenAt_onProcessDied (frozen : self.FrozenAt params uid least) (uids : self.UidsMatch)
    (processData : ProcessData)
    (spared : processData.uid = uid → ¬ self.LeavesThawing processData) :
    (self.onProcessDied params env processData).FrozenAt params uid least := by
  have moved := frozenAt_of_same frozen
    (pkgDelaySuspendInfoMap_updateForegroundUidPidMap self processData.uid
      processData.pid false)
  exact frozenAt_tryStartAccounting env moved
    (uidsMatch_updateForegroundUidPidMap self uids processData.uid processData.pid false) _ _
    spared

theorem frozenAt_getQuota (frozen : self.FrozenAt params uid least) (key : KeyInfo) :
    (self.getQuota params env key).2.FrozenAt params uid least := by
  unfold getQuota
  split
  · exact frozenAt_call env frozen key.mapKey .updateQuota (fun _ _ isStart => absurd isStart (by simp))
  · exact frozen

theorem frozenAt_pause (frozen : self.FrozenAt params uid least) (other : Int) (name : String) :
    (self.pauseTransientTaskTimeForInner params env other name).2.FrozenAt params uid least := by
  unfold pauseTransientTaskTimeForInner
  split
  · exact frozen
  split
  · exact frozen
  · exact frozenAt_call env frozen (name, other) .stopAll (fun _ _ isStart => absurd isStart (by simp))

theorem frozenAt_start (frozen : self.FrozenAt params uid least) (uids : self.UidsMatch)
    {other : Int} (different : other ≠ uid) (name : String) :
    (self.startTransientTaskTimeForInner params env other name).2.FrozenAt params uid least := by
  unfold startTransientTaskTimeForInner
  split
  · exact frozen
  · exact frozenAt_tryStartAccounting env frozen uids other name (fun isUid => absurd isUid different)

theorem frozenAt_screenOffPkg (frozen : self.FrozenAt params uid least) (uids : self.UidsMatch)
    {transientPauseUid : Finset Int} (paused : uid ∈ transientPauseUid) (key : String × Int) :
    (screenOffPkg params env transientPauseUid self key).FrozenAt params uid least := by
  unfold screenOffPkg
  split
  · exact frozen
  split
  · exact frozen
  rename_i pkgInfo found running
  split
  · refine frozenAt_call env frozen key (.start (-1)) (fun isUid _ _ => ?_)
    rw [uids key pkgInfo found, isUid] at running
    exact absurd paused running
  · exact frozen

theorem frozenAt_onInputEvent (frozen : self.FrozenAt params uid least) (uids : self.UidsMatch)
    {transientPauseUid : Finset Int} (paused : uid ∈ transientPauseUid) (event : EventId)
    (stringArg : String) :
    (self.onInputEvent params env transientPauseUid event stringArg).FrozenAt params uid
      least := by
  unfold onInputEvent
  dsimp only
  split
  · unfold handleScreenOn
    split
    · exact frozen
    · refine List.foldlRecOn (motive := FrozenAt params uid least) _ _ frozen ?_
      intro decision held app _
      exact frozenAt_call env held app .stopAll (fun _ _ isStart => absurd isStart (by simp))
  · -- the loop keeps the uids of the packages as well
    have loop : ∀ (keys : List (String × Int)) (decision : DecisionMaker),
        decision.FrozenAt params uid least → decision.UidsMatch →
        (keys.foldl (screenOffPkg params env transientPauseUid) decision).FrozenAt params uid
          least := by
      intro keys
      induction keys with
      | nil => exact fun _ held _ => held
      | cons key rest ih =>
          intro decision held match_
          exact ih _ (frozenAt_screenOffPkg env held match_ paused key)
            (uidsMatch_screenOffPkg params env decision match_ transientPauseUid key)
    exact loop _ _ frozen uids
  · exact frozen

end

end DecisionMaker

open DecisionMaker

namespace BgTransientTaskMgr

theorem namedPkgs_step {params : Params} {s : BgTransientTaskMgr} {bundleOf : Int → String}
    (label : Env × Op) (answered : NamesAnswered bundleOf label.1)
    (named : s.decisionMaker.NamedPkgs bundleOf) :
    (s.step params label).decisionMaker.NamedPkgs bundleOf := by
  obtain ⟨env, op⟩ := label
  have drives := drives_step params env (s := s) op
  generalize (s.step params (env, op)).decisionMaker = after at drives ⊢
  induction drives with
  | refl => exact named
  | tail _ step ih =>
      cases step with
      | call op namedCall => exact namedPkgs_call answered op namedCall ih
      | fired timers => exact ih

/-! ## Runs of a paused uid -/

/-- The step does not start the accounting of the uid behind its pause: no request of it is
granted and no process of it leaves the foreground while it may be accounted. -/
def KeepsPause (params : Params) (uid : Int) (s : BgTransientTaskMgr) : Env × Op → Prop
  | (env, .requestSuspendDelay other pid callback) =>
      other = uid → granted params s (env, .requestSuspendDelay other pid callback) = true →
        s.decisionMaker.mayAccount uid = false
  | (_, .processStateChanged processData) =>
      processData.uid = uid → processData.state = .background →
        ¬ s.decisionMaker.LeavesThawing processData
  | (_, .processDied processData) =>
      processData.uid = uid → ¬ s.decisionMaker.LeavesThawing processData
  | _ => True

def NotResumed (uid : Int) : Op → Prop
  | .start other => other ≠ uid
  | .suspendManagerDie => False
  | _ => True

instance (uid : Int) : DecidablePred (NotResumed uid) := fun op =>
  match op with
  | .start _ => inferInstanceAs (Decidable (_ ≠ _))
  | .suspendManagerDie => inferInstanceAs (Decidable False)
  | .initNecessaryState _ | .requestSuspendDelay _ _ _ | .cancelSuspendDelay _ _ _
  | .watchdogEvent _ | .expiredCallbackDeath _ | .timerEvent _ | .appCacheStateChanged _ _ _
  | .appCacheLocked _ | .getAllTransientTasks _ _ | .dumpAllRequestId | .pause _
  | .processStateChanged _ | .processDied _ | .inputEvent _ _ | .setDump _ =>
      inferInstanceAs (Decidable True)

section

variable {params : Params} (env : Env) {s : BgTransientTaskMgr} {uid least : Int}

theorem paused_of_effect {op : Op} {after : BgTransientTaskMgr} (notResumed : NotResumed uid op)
    (paused : uid ∈ s.transientPauseUid) (effect : RequestEffect env s op after) :
    uid ∈ after.transientPauseUid := by
  cases effect with
  | unmoved setting _ =>
      rw [setting.transientPauseUid]
      exact paused
  | granted _ _ _ _ transientPauseUid _ _ => exact transientPauseUid ▸ paused
  | removed setting _ chain =>
      rw [(sameSetting_of_removals chain).2, setting.transientPauseUid]
      exact paused
  | paused _ _ _ transientPauseUid _ _ =>
      rw [transientPauseUid]
      exact Finset.mem_insert_of_mem paused
  | resumed _ _ _ transientPauseUid _ _ =>
      rw [transientPauseUid]
      exact Finset.mem_erase.mpr ⟨Ne.symm notResumed, paused⟩
  | managerDied _ _ _ _ => exact notResumed.elim
  | entered _ _ transientPauseUid _ _ => exact transientPauseUid ▸ paused
  | left _ _ transientPauseUid _ _ => exact transientPauseUid ▸ paused
  | drifted _ _ transientPauseUid _ _ => exact transientPauseUid ▸ paused
  | input _ transientPauseUid _ _ => exact transientPauseUid ▸ paused
  | dumpSet _ transientPauseUid _ _ _ => exact transientPauseUid ▸ paused

theorem frozenAt_requestSuspendDelay (frozen : s.decisionMaker.FrozenAt params uid least)
    (uids : s.decisionMaker.UidsMatch) (other pid : Int) (callback : ExpiredCallback)
    (keeps : KeepsPause params uid s (env, .requestSuspendDelay other pid callback)) :
    (s.requestSuspendDelay params env other pid callback).2.decisionMaker.FrozenAt params uid
      least := by
  simp only [KeepsPause, granted, decide_eq_true_eq] at keeps
  unfold requestSuspendDelay at keeps ⊢
  split
  · exact frozen
  rename_i ready
  rw [if_neg ready] at keeps
  split
  · exact frozen
  rename_i name remote legal
  rw [legal] at keeps
  unfold requestSuspendDelayLocked at keeps ⊢
  dsimp only at keeps ⊢
  split
  · exact frozen
  rename_i unknown
  rw [if_neg unknown] at keeps
  have decided := frozenAt_decide env frozen uids ⟨name, other, pid⟩ (fun isUid ok => by
    rw [if_pos ok] at keeps
    exact keeps isUid rfl)
  split
  · exact decided
  · exact decided

theorem frozenAt_cancelSuspendDelayLocked (frozen : s.decisionMaker.FrozenAt params uid least)
    (requestId : Int) :
    (s.cancelSuspendDelayLocked params env requestId).2.decisionMaker.FrozenAt params uid
      least := by
  have removed := frozenAt_removeRequest env frozen (s.keyInfoMap.lookup requestId)
    requestId
  unfold cancelSuspendDelayLocked
  dsimp only
  split
  · exact removed
  · exact removed

theorem frozenAt_cancelSnapshot (frozen : s.decisionMaker.FrozenAt params uid least)
    (requestIdList : List Int) :
    (s.cancelSnapshot params env requestIdList).decisionMaker.FrozenAt params uid least := by
  unfold cancelSnapshot
  apply List.foldlRecOn (motive := fun current : BgTransientTaskMgr =>
    current.decisionMaker.FrozenAt params uid least) _ _ frozen
  intro current frozen requestId _
  exact frozenAt_cancelSuspendDelayLocked env frozen requestId

theorem frozenAt_if {first : BgTransientTaskMgr} (ready : Bool)
    (frozen : s.decisionMaker.FrozenAt params uid least)
    (held : first.decisionMaker.FrozenAt params uid least) :
    (if ready then first else s).decisionMaker.FrozenAt params uid least := by
  split
  · exact held
  · exact frozen

/-- A step that neither resumes the uid nor starts it behind its pause keeps it frozen. -/
theorem frozenAt_step (frozen : s.decisionMaker.FrozenAt params uid least)
    (uids : s.decisionMaker.UidsMatch) (paused : uid ∈ s.transientPauseUid) (op : Op)
    (notResumed : NotResumed uid op) (keeps : KeepsPause params uid s (env, op)) :
    (s.step params (env, op)).decisionMaker.FrozenAt params uid least := by
  cases op with
  | initNecessaryState servicesUp => exact frozenAt_if servicesUp frozen frozen
  | requestSuspendDelay other pid callback =>
      exact frozenAt_requestSuspendDelay env frozen uids other pid callback keeps
  | cancelSuspendDelay other pid requestId =>
      simp only [step, cancelSuspendDelay]
      split
      · exact frozen
      split
      · exact frozen
      split
      · exact frozen
      split
      · exact frozenAt_cancelSuspendDelayLocked env frozen requestId
      · exact frozen
  | watchdogEvent requestId =>
      simp only [step, forceCancelSuspendDelay]
      split
      · have cancelled := frozenAt_cancelSuspendDelayLocked env frozen requestId
          (s := { s with watchdog := s.watchdog.erase requestId })
        exact cancelled
      · exact frozen
  | expiredCallbackDeath remote =>
      simp only [step, handleExpiredCallbackDeath]
      split
      · exact frozen
      split
      · exact frozen
      · exact frozenAt_removeRequest env frozen _ _
  | timerEvent requestId =>
      obtain ⟨-, decision⟩ := decisionMaker_handleRequestExpired requestId (s := { s with
        decisionMaker := { s.decisionMaker with
          timerManager := ⟨s.decisionMaker.timerManager.events.eraseP
            (fun event => event.1 = requestId)⟩ } })
      simp only [step]
      rw [decision]
      exact frozenAt_of_same frozen rfl
  | appCacheStateChanged other pid bundleName =>
      simp only [step, onAppCacheStateChanged]
      split
      · exact frozen
      split
      · exact frozen
      split
      · exact frozen
      · exact frozen
  | appCacheLocked index =>
      simp only [step]
      split
      · exact frozen
      · rename_i requestIdList _
        have cancelled := frozenAt_cancelSnapshot env frozen requestIdList
          (s := { s with cacheSnapshots := s.cacheSnapshots.eraseIdx index })
        exact cancelled
  | getAllTransientTasks other pid =>
      simp only [step, getAllTransientTasks]
      split
      · exact frozen
      split
      · exact frozen
      split
      · exact frozen
      · exact frozenAt_getQuota env frozen _
  | dumpAllRequestId =>
      refine frozenAt_if s.isReady frozen ?_
      apply List.foldlRecOn (motive := DecisionMaker.FrozenAt params uid least) _ _ frozen
      intro decision held record _
      exact DecisionMaker.frozenAt_getQuota env held _
  | pause other =>
      simp only [step, pauseTransientTaskTimeForInner]
      split
      · exact frozen
      split
      · exact frozen
      split
      · exact frozen
      split
      · exact frozen
      rename_i name _
      have stopped := frozenAt_pause env frozen other name
      split
      · exact stopped
      · exact stopped
  | start other =>
      simp only [step, startTransientTaskTimeForInner]
      split
      · exact frozen
      split
      · exact frozen
      split
      · exact frozen
      split
      · exact frozen
      rename_i name _
      have started := frozenAt_start env frozen uids notResumed name
      split
      · exact started
      · exact started
  | suspendManagerDie => exact notResumed.elim
  | processStateChanged processData =>
      refine frozenAt_if s.isReady frozen ?_
      exact frozenAt_onProcessStateChanged env frozen uids processData
        (fun isBackground isUid => keeps isUid isBackground)
  | processDied processData =>
      exact frozenAt_if s.isReady frozen (frozenAt_onProcessDied env frozen uids processData keeps)
  | inputEvent event stringArg =>
      exact frozenAt_if s.isReady frozen (frozenAt_onInputEvent env frozen uids paused event stringArg)
  | setDump isDump => exact frozenAt_if s.isReady frozen (frozenAt_of_same frozen rfl)

/-- A pause that succeeds puts the uid into the set and freezes its package. -/
theorem frozenAt_of_paused {bundleOf : Int → String} (answered : NamesAnswered bundleOf env)
    (named : s.decisionMaker.NamedPkgs bundleOf)
    (ok : (s.pauseTransientTaskTimeForInner params env uid).1 = .ok) :
    uid ∈ (s.step params (env, .pause uid)).transientPauseUid ∧
      ∃ atPause, (s.step params (env, .pause uid)).decisionMaker.pkgDelaySuspendInfoMap.lookup
          (bundleOf uid, uid) = some atPause ∧
        (s.step params (env, .pause uid)).decisionMaker.FrozenAt params uid atPause.quota := by
  simp only [step]
  unfold pauseTransientTaskTimeForInner at ok ⊢
  split at ok
  · exact absurd ok (by simp)
  rename_i ready
  rw [if_neg ready]
  split at ok
  · exact absurd ok (by simp)
  rename_i caller
  rw [if_neg caller]
  split at ok
  · exact absurd ok (by simp)
  rename_i legal
  rw [if_neg legal]
  split at ok
  · exact absurd ok (by simp)
  rename_i name lookup
  obtain rfl := answered uid name lookup
  dsimp only at ok
  split at ok
  swap
  · rename_i failed
    exact absurd ok failed
  rename_i stopped
  dsimp only
  rw [if_pos stopped]
  refine ⟨Finset.mem_insert_self _ _, ?_⟩
  unfold DecisionMaker.pauseTransientTaskTimeForInner at stopped ⊢
  split at stopped
  · exact absurd stopped (by simp)
  rename_i background
  rw [if_neg background]
  split at stopped
  · exact absurd stopped (by simp)
  rename_i pkgInfo found
  dsimp only
  have atPause : (s.decisionMaker.updatePkg (bundleOf uid, uid) (fun timers pkgInfo =>
      pkgInfo.stopAccountingAll params env.config env.now timers)).pkgDelaySuspendInfoMap.lookup
        (bundleOf uid, uid) = _ := updatePkg_lookup (bundleOf uid, uid) (bundleOf uid, uid) _
  rw [if_pos rfl, found, Option.map_some] at atPause
  refine ⟨_, atPause, ?_⟩
  intro key later isLater isUid
  -- the uid has no package but the one of its bundle
  have stored : key ∈ s.decisionMaker.pkgDelaySuspendInfoMap :=
    stored_updatePkg (KeyedMap.mem_iff_lookup.mpr ⟨later, isLater⟩)
  have here : key = (bundleOf uid, uid) := by
    refine Prod.ext ?_ isUid
    rw [named key stored, isUid]
  rw [here, atPause] at isLater
  rw [← Option.some.inj isLater]
  refine ⟨rfl, ?_, Or.inl (le_refl _)⟩
  intro info member
  rw [PkgDelaySuspendInfo.stopAccountingAll_requestList] at member
  obtain ⟨before, -, rfl⟩ := List.mem_map.mp member
  exact before.stopAccounting_not_accounted env.now

end

/-- After a pause that succeeded, and until the uid is resumed or the suspend manager dies, no
request of the uid is accounted and the quota of its packages does not fall, in every run
whose steps do not start the uid behind its pause. -/
theorem frozen_while_paused (params : Params) (bundleOf : Int → String)
    (before : List (Env × Op)) (env : Env) (uid : Int) (during : List (Env × Op))
    (answered : ∀ label ∈ before ++ [(env, Op.pause uid)], NamesAnswered bundleOf label.1)
    (ok : ((StepSystem.run (step params) {} before).pauseTransientTaskTimeForInner params env
      uid).1 = .ok)
    (notResumed : ∀ label ∈ during, NotResumed uid label.2)
    (keeps : StepSystem.Admissible (step params) (KeepsPause params uid)
      (StepSystem.run (step params) {} (before ++ [(env, .pause uid)])) during) :
    ∃ atPause,
      (StepSystem.run (step params) {} (before ++
        [(env, .pause uid)])).decisionMaker.pkgDelaySuspendInfoMap.lookup (bundleOf uid, uid) =
          some atPause ∧
      ∀ name pkgInfo,
        (StepSystem.run (step params) {} (before ++ [(env, .pause uid)] ++
          during)).decisionMaker.pkgDelaySuspendInfoMap.lookup (name, uid) = some pkgInfo →
        pkgInfo.isCounting = false ∧ (∀ info ∈ pkgInfo.requestList, ¬ info.Accounted) ∧
          (atPause.quota ≤ pkgInfo.quota ∨ params.initQuota ≤ pkgInfo.quota) := by
  have start : (StepSystem.run (step params) {} before).decisionMaker.UidsMatch ∧
      (StepSystem.run (step params) {} before).decisionMaker.NamedPkgs bundleOf := by
    have preserve : ∀ (s : BgTransientTaskMgr) (label : Env × Op),
        s.decisionMaker.UidsMatch ∧ s.decisionMaker.NamedPkgs bundleOf →
        NamesAnswered bundleOf label.1 → (s.step params label).decisionMaker.UidsMatch ∧
          (s.step params label).decisionMaker.NamedPkgs bundleOf := by
      intro s label held answer
      exact ⟨uidsMatch_step params label.1 held.1 label.2, namedPkgs_step label answer held.2⟩
    exact StepSystem.run_invariant_forall preserve before _
      ⟨fun _ _ found => absurd found (by simp), fun _ stored => absurd stored (by simp)⟩
      (fun label member => answered label (by simp [member]))
  simp only [StepSystem.run_append] at keeps ⊢
  generalize StepSystem.run (step params) {} before = s at start ok keeps ⊢
  obtain ⟨paused, atPause, isAtPause, frozen⟩ :=
    frozenAt_of_paused env (answered (env, .pause uid) (by simp)) start.2 ok
  refine ⟨atPause, isAtPause, ?_⟩
  have preserve : ∀ (s : BgTransientTaskMgr) (label : Env × Op),
      (uid ∈ s.transientPauseUid ∧ s.decisionMaker.UidsMatch) ∧
        s.decisionMaker.FrozenAt params uid atPause.quota →
      NotResumed uid label.2 ∧ KeepsPause params uid s label →
      (uid ∈ (s.step params label).transientPauseUid ∧
        (s.step params label).decisionMaker.UidsMatch) ∧
        (s.step params label).decisionMaker.FrozenAt params uid atPause.quota := by
    intro s label held allowed
    obtain ⟨⟨isPaused, uids⟩, isFrozen⟩ := held
    refine ⟨⟨?_, uidsMatch_step params label.1 uids label.2⟩, ?_⟩
    · exact paused_of_effect label.1 allowed.1 isPaused
        (requestEffect_step params label.1 uids label.2)
    · exact frozenAt_step label.1 isFrozen uids isPaused label.2 allowed.1 allowed.2
  have kept := (StepSystem.run_invariant preserve during _
    ⟨⟨paused, uidsMatch_step params env start.1 (.pause uid)⟩, frozen⟩
    (keeps.and_forall notResumed)).2
  intro name pkgInfo later
  have held := kept (name, uid) pkgInfo later rfl
  exact ⟨held.isCounting, held.idle, held.quota⟩

def beforePauseLabels : List (Env × Op) :=
  [(quietEnv 1000, .initNecessaryState true),
    (quietEnv 2000, .requestSuspendDelay 100 7 (.of 1))]

def frontRequestLabels : List (Env × Op) :=
  [(quietEnv 4000, .processStateChanged ⟨"app", 100, 7, .foreground⟩),
    (quietEnv 5000, .requestSuspendDelay 100 7 (.of 2))]

theorem frozen_while_paused_in_front :
    ∃ pkgInfo, (StepSystem.run (step {}) {} (beforePauseLabels ++ [(quietEnv 3000, .pause 100)] ++
        frontRequestLabels)).decisionMaker.pkgDelaySuspendInfoMap.lookup ("app", 100) =
          some pkgInfo ∧
      pkgInfo.requestList.length = 2 ∧ pkgInfo.isCounting = false := by
  have answered : ∀ label ∈ beforePauseLabels ++ [(quietEnv 3000, Op.pause 100)],
      NamesAnswered (fun _ => "app") label.1 := by
    intro label member uid name answer
    simp only [beforePauseLabels, List.cons_append, List.nil_append, List.mem_cons,
      List.not_mem_nil, or_false] at member
    rcases member with rfl | rfl | rfl <;> exact (Option.some.inj answer).symm
  obtain ⟨_, _, frozen⟩ := frozen_while_paused {} (fun _ => "app") beforePauseLabels
    (quietEnv 3000) 100 frontRequestLabels answered (by decide) (by decide)
    ⟨fun _ isBackground => absurd isBackground (by decide), fun _ _ => by decide, trivial⟩
  obtain ⟨pkgInfo, stored⟩ : ∃ pkgInfo, (StepSystem.run (step {}) {} (beforePauseLabels ++
      [(quietEnv 3000, .pause 100)] ++ frontRequestLabels)).decisionMaker.pkgDelaySuspendInfoMap.lookup
        ("app", 100) = some pkgInfo := Option.isSome_iff_exists.mp (by decide)
  refine ⟨pkgInfo, stored, ?_, (frozen "app" pkgInfo stored).1⟩
  have length : ((StepSystem.run (step {}) {} (beforePauseLabels ++ [(quietEnv 3000, .pause 100)] ++
      frontRequestLabels)).decisionMaker.pkgDelaySuspendInfoMap.lookup ("app", 100)).map
        (fun pkgInfo => pkgInfo.requestList.length) = some 2 := by decide
  rw [stored] at length
  exact Option.some.inj length

/-- A request made while its uid is paused in the background is accounted. -/
theorem accounted_while_paused :
    let s := StepSystem.run (step {}) {} beforePauseLabels
    let paused := s.pauseTransientTaskTimeForInner {} (quietEnv 3000) 100
    paused.1 = .ok ∧
      let later := paused.2.step {} (quietEnv 4000, .requestSuspendDelay 100 7 (.of 2))
      100 ∈ later.transientPauseUid ∧
        ∃ info ∈ later.requestsAt ("app", 100), info.Accounted := by
  refine ⟨by decide, by decide, ⟨2, 180000, 7, 4000, 0⟩, by decide, by decide⟩

end BgTransientTaskMgr

end BgTaskMgr.Transient
