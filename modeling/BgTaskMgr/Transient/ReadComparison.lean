import BgTaskMgr.Lib.RelatedMaps
import BgTaskMgr.Transient.Quota

/-!
# Packages with and without reads

`GetQuota` settles the quota before it reports it, so that the same calls with and without
further reads leave different packages behind: quota, base time and the time last spent
differ.  What the next settlement makes of them does not, as long as it charges the whole span.
-/

set_option autoImplicit false

namespace BgTaskMgr.Transient

/-! ## Packages that differ by reads -/

def BgtaskConfig.allowance (config : BgtaskConfig) (pkg : String) : Int :=
  if config.isTransientTaskExemptedQuatoApp pkg then config.transientTaskExemptedQuato else 0

namespace PkgDelaySuspendInfo

/-- What is left of the quota when the open span is charged without an allowance. -/
def dueQuota (now : Int) (self : PkgDelaySuspendInfo) : Int :=
  max 0 (self.quota - if self.isCounting then max 0 (toInt32 (toInt32 now - self.baseTime)) else 0)

/-- The packages of two runs that differ by reads.  `plain` tells the packages that never have
an allowance; of the others the quotas are not compared. -/
structure Alike (plain : String → Bool) (now : Int) (key : String × Int)
    (one other : PkgDelaySuspendInfo) : Prop where
  pkg : one.pkg = key.1
  pkg' : other.pkg = key.1
  uid : one.uid = other.uid
  isCounting : one.isCounting = other.isCounting
  requestIds : one.requestList.map (fun info => info.requestId) =
    other.requestList.map (fun info => info.requestId)
  quota : plain key.1 = true → one.dueQuota now = other.dueQuota now

def NoAllowance (plain : String → Bool) (config : BgtaskConfig) : Prop :=
  ∀ pkg, plain pkg = true → config.allowance pkg = 0

section

variable {plain : String → Bool} {params : Params} {config : BgtaskConfig} {now : Int}
  {key : String × Int} {one other self : PkgDelaySuspendInfo}

theorem quota_eq_dueQuota (free : config.allowance self.pkg = 0) :
    (self.updateQuota params config now false).quota = self.dueQuota now := by
  unfold BgtaskConfig.allowance at free
  simp only [dueQuota, updateQuota, getModifiedTime, free, Int.sub_zero]
  cases self.isCounting with
  | false =>
      simp only [Bool.false_eq_true, if_false]
      omega
  | true =>
      simp only [Bool.false_eq_true, if_false, if_true]
      omega

/-- A settled package owes nothing more, whether it goes on counting or not. -/
theorem dueQuota_of_settled (params : Params) (free : config.allowance self.pkg = 0)
    (isCounting : Bool) :
    ({ self.updateQuota params config now false with isCounting := isCounting } :
      PkgDelaySuspendInfo).dueQuota now = self.dueQuota now := by
  have settled : (self.updateQuota params config now false).quota = self.dueQuota now :=
    quota_eq_dueQuota free
  have nonneg : 0 ≤ self.dueQuota now := le_max_left _ _
  have nothing : toInt32 (toInt32 now - toInt32 now) = 0 := by
    rw [Int.sub_self]
    rfl
  have base : (self.updateQuota params config now false).baseTime = toInt32 now := rfl
  change max 0 ((self.updateQuota params config now false).quota - _) = _
  simp only [settled, base, nothing, max_self, ite_self, Int.sub_zero]
  omega

theorem Alike.symm (alike : Alike plain now key one other) : Alike plain now key other one where
  pkg := alike.pkg'
  pkg' := alike.pkg
  uid := alike.uid.symm
  isCounting := alike.isCounting.symm
  requestIds := alike.requestIds.symm
  quota isPlain := (alike.quota isPlain).symm

theorem Alike.settle (params : Params) (alike : Alike plain now key one other)
    (free : NoAllowance plain config) (isCounting : Bool) :
    Alike plain now key
      { one.updateQuota params config now false with isCounting := isCounting }
      { other.updateQuota params config now false with isCounting := isCounting } where
  pkg := alike.pkg
  pkg' := alike.pkg'
  uid := alike.uid
  isCounting := rfl
  requestIds := alike.requestIds
  quota isPlain := by
    rw [dueQuota_of_settled params (alike.pkg ▸ free _ isPlain),
      dueQuota_of_settled params (alike.pkg' ▸ free _ isPlain)]
    exact alike.quota isPlain

theorem Alike.read (params : Params) (alike : Alike plain now key one other)
    (free : NoAllowance plain config) :
    Alike plain now key one (other.updateQuota params config now false) where
  pkg := alike.pkg
  pkg' := alike.pkg'
  uid := alike.uid
  isCounting := alike.isCounting
  requestIds := alike.requestIds
  quota isPlain := by
    have settled : (other.updateQuota params config now false).dueQuota now = other.dueQuota now :=
      dueQuota_of_settled params (alike.pkg' ▸ free _ isPlain) other.isCounting
    rw [settled]
    exact alike.quota isPlain

theorem Alike.of_same {one' other' : PkgDelaySuspendInfo} (alike : Alike plain now key one other)
    (same : one' = { one with requestList := one'.requestList })
    (same' : other' = { other with requestList := other'.requestList })
    (requestIds : one'.requestList.map (fun info => info.requestId) =
      other'.requestList.map (fun info => info.requestId)) :
    Alike plain now key one' other' := by
  rw [same, same']
  exact { alike with requestIds := requestIds }

theorem Alike.refill (alike : Alike plain now key one other) :
    Alike plain now key (one.updateQuota params config now true)
      (other.updateQuota params config now true) where
  pkg := alike.pkg
  pkg' := alike.pkg'
  uid := alike.uid
  isCounting := alike.isCounting
  requestIds := alike.requestIds
  quota _ := by
    simp only [dueQuota, updateQuota, if_true, alike.isCounting]

theorem alike_make (params : Params) (pkg : String) (uid : Int) :
    Alike plain now (pkg, uid) (make params pkg uid) (make params pkg uid) where
  pkg := rfl
  pkg' := rfl
  uid := rfl
  isCounting := rfl
  requestIds := rfl
  quota _ := rfl

/-- `StartAccounting` settles a package that does not count when it starts a request. -/
theorem startAccounting_cases (params : Params) (config : BgtaskConfig) (now requestId : Int)
    (timers : TimerManager) (self : PkgDelaySuspendInfo) :
    let started := (self.startAccounting params config now requestId timers).1
    (self.isCounting || !self.requestList.any (selects requestId)) = true ∧
        started = { self with requestList := started.requestList } ∨
      (self.isCounting || !self.requestList.any (selects requestId)) = false ∧
        started = { self.updateQuota params config now false with
          isCounting := true
          requestList := started.requestList } := by
  intro started
  have counting : started.isCounting =
      (self.isCounting || self.requestList.any (selects requestId)) :=
    startAccounting_isCounting params config now timers self requestId
  have shape : started =
      { (startAccountingLoop params config now requestId self timers self.requestList).1 with
        requestList := started.requestList } := rfl
  rcases startAccountingLoop_pkg params config now requestId self timers self.requestList with
    same | ⟨settled, idle⟩
  · left
    rw [same] at shape
    have kept : started.isCounting = self.isCounting := by rw [shape]
    rw [kept] at counting
    refine ⟨?_, shape⟩
    cases any : self.requestList.any (selects requestId) with
    | false => simp
    | true => simpa [any] using counting
  · right
    rw [settled] at shape
    have starts : started.isCounting = true := by rw [shape]
    rw [starts, idle] at counting
    refine ⟨?_, shape⟩
    rw [Bool.false_or] at counting
    rw [idle, ← counting]
    rfl

theorem any_selects (requestId : Int) :
    self.requestList.any (selects requestId) =
      (self.requestList.map (fun info => info.requestId)).any
        (fun id => requestId = -1 || id = requestId) := by
  rw [List.any_map]
  rfl

theorem requestIds_startAccounting (requestId : Int) (timers : TimerManager) :
    (self.startAccounting params config now requestId timers).1.requestList.map
        (fun info => info.requestId) = self.requestList.map (fun info => info.requestId) := by
  rw [startAccounting_requestList, List.map_map]
  apply List.map_congr_left
  intro info _
  dsimp only [Function.comp_apply]
  split
  · exact DelaySuspendInfoEx.startAccounting_requestId now info
  · rfl

theorem requestIds_stopAccountingLoop (selected : DelaySuspendInfoEx → Bool) (timers : TimerManager)
    (requests : List DelaySuspendInfoEx) :
    (stopAccountingLoop now selected timers requests).2.map (fun info => info.requestId) =
      requests.map (fun info => info.requestId) := by
  rw [stopAccountingLoop_list, List.map_map]
  apply List.map_congr_left
  intro info _
  dsimp only [Function.comp_apply]
  split
  · exact DelaySuspendInfoEx.stopAccounting_requestId now info
  · rfl

theorem Alike.start (alike : Alike plain now key one other) (free : NoAllowance plain config)
    (requestId : Int) (timers timers' : TimerManager) :
    Alike plain now key (one.startAccounting params config now requestId timers).1
      (other.startAccounting params config now requestId timers').1 := by
  have ids : (one.startAccounting params config now requestId timers).1.requestList.map
      (fun info => info.requestId) =
        (other.startAccounting params config now requestId timers').1.requestList.map
          (fun info => info.requestId) := by
    rw [requestIds_startAccounting, requestIds_startAccounting, alike.requestIds]
  have sameGuard : (one.isCounting || !one.requestList.any (selects requestId)) =
      (other.isCounting || !other.requestList.any (selects requestId)) := by
    rw [any_selects, any_selects, alike.requestIds, alike.isCounting]
  rcases startAccounting_cases params config now requestId timers one with
    ⟨guard, shape⟩ | ⟨guard, shape⟩
  · rcases startAccounting_cases params config now requestId timers' other with
      ⟨-, shape'⟩ | ⟨guard', -⟩
    · exact alike.of_same shape shape' ids
    · rw [← sameGuard, guard] at guard'
      exact absurd guard' (by simp)
  · rcases startAccounting_cases params config now requestId timers' other with
      ⟨guard', -⟩ | ⟨-, shape'⟩
    · rw [← sameGuard, guard] at guard'
      exact absurd guard' (by simp)
    · exact (alike.settle params free true).of_same shape shape' ids

theorem Alike.stopAll (alike : Alike plain now key one other) (free : NoAllowance plain config)
    (timers timers' : TimerManager) :
    Alike plain now key (one.stopAccountingAll params config now timers).1
      (other.stopAccountingAll params config now timers').1 := by
  have listed : Alike plain now key
      { one with requestList := (stopAccountingLoop now (fun _ => true) timers one.requestList).2 }
      { other with
        requestList := (stopAccountingLoop now (fun _ => true) timers' other.requestList).2 } := by
    refine alike.of_same rfl rfl ?_
    dsimp only
    rw [requestIds_stopAccountingLoop, requestIds_stopAccountingLoop, alike.requestIds]
  exact listed.settle params free false

theorem Alike.call {env : Env} (alike : Alike plain env.now key one other)
    (free : NoAllowance plain env.config) (call : DecisionMaker.PkgCall)
    (timers timers' : TimerManager) :
    Alike plain env.now key (call.apply params env timers one).1
      (call.apply params env timers' other).1 := by
  cases call with
  | updateQuota => exact ((alike.read params free).symm.read params free).symm
  | start requestId => exact alike.start free requestId timers timers'
  | stopAll => exact alike.stopAll free timers timers'

theorem Alike.add (config : BgtaskConfig) (alike : Alike plain now key one other)
    (delayInfo : DelaySuspendInfoEx) (delayTime delayTime' : Int)
    (needSetTime needSetTime' : Bool) :
    Alike plain now key (one.addRequest config delayInfo delayTime needSetTime).2
      (other.addRequest config delayInfo delayTime' needSetTime').2 := by
  refine alike.of_same rfl rfl ?_
  simp [addRequest, alike.requestIds]

theorem requestIds_eraseP (requestId : Int) (requests : List DelaySuspendInfoEx) :
    (requests.eraseP (fun info => info.requestId = requestId)).map (fun info => info.requestId) =
      (requests.map (fun info => info.requestId)).eraseP (fun id => id = requestId) := by
  rw [List.eraseP_map]
  rfl

theorem Alike.isEmpty (alike : Alike plain now key one other) :
    one.requestList.isEmpty = other.requestList.isEmpty := by
  have same := congrArg List.isEmpty alike.requestIds
  rwa [List.isEmpty_map, List.isEmpty_map] at same

theorem Alike.remove (alike : Alike plain now key one other) (free : NoAllowance plain config)
    (requestId : Int) (timers timers' : TimerManager) :
    Alike plain now key (one.removeRequest params config now requestId timers).1
      (other.removeRequest params config now requestId timers').1 := by
  have found (self : PkgDelaySuspendInfo) :
      self.requestList.any (fun info => info.requestId = requestId) =
        (self.requestList.map (fun info => info.requestId)).any (fun id => id = requestId) := by
    rw [List.any_map]
    rfl
  have erased : Alike plain now key
      { (one.stopAccounting now requestId timers).1 with
        requestList := (one.stopAccounting now requestId timers).1.requestList.eraseP
          (fun info => info.requestId = requestId) }
      { (other.stopAccounting now requestId timers').1 with
        requestList := (other.stopAccounting now requestId timers').1.requestList.eraseP
          (fun info => info.requestId = requestId) } := by
    refine alike.of_same rfl rfl ?_
    dsimp only [stopAccounting]
    rw [requestIds_eraseP, requestIds_eraseP, requestIds_stopAccountingLoop,
      requestIds_stopAccountingLoop, alike.requestIds]
  have sameFound : one.requestList.any (fun info => info.requestId = requestId) =
      other.requestList.any (fun info => info.requestId = requestId) := by
    rw [found one, found other, alike.requestIds]
  have sameEmpty := erased.isEmpty
  unfold removeRequest
  rw [sameFound]
  split
  · dsimp only at sameEmpty ⊢
    rw [sameEmpty]
    split
    · exact erased.settle params free false
    · exact erased
  · exact alike

/-- While the package counts, its base time stands for a moment since `began`. -/
def SpanSince (began time : Int) (self : PkgDelaySuspendInfo) : Prop :=
  self.isCounting = true → ∃ base, began ≤ base ∧ base ≤ time ∧ self.baseTime = toInt32 base

theorem dueQuota_of_span {base : Int} (counting : self.isCounting = true)
    (isBase : self.baseTime = toInt32 base) (passed : base ≤ now) (short : now - base ≤ intMax) :
    self.dueQuota now = max 0 (self.quota - (now - base)) := by
  unfold dueQuota
  rw [counting, isBase, toInt32_sub_toInt32 passed short]
  simp only [if_true]
  omega

theorem dueQuota_later {began later : Int} (span : self.SpanSince began now) (passed : now ≤ later)
    (short : self.isCounting = true → later - began ≤ intMax) :
    self.dueQuota later =
      max 0 (self.dueQuota now - if self.isCounting then later - now else 0) := by
  cases counting : self.isCounting with
  | false =>
      unfold dueQuota
      rw [counting]
      simp only [Bool.false_eq_true, if_false]
      omega
  | true =>
      obtain ⟨base, after, before, isBase⟩ := span counting
      have close := short counting
      rw [dueQuota_of_span counting isBase (by omega) (by omega),
        dueQuota_of_span counting isBase before (by omega)]
      simp only [if_true]
      omega

theorem Alike.later {began later : Int} (alike : Alike plain now key one other)
    (span : one.SpanSince began now) (span' : other.SpanSince began now) (passed : now ≤ later)
    (short : plain key.1 = true → one.isCounting = true → later - began ≤ intMax) :
    Alike plain later key one other where
  pkg := alike.pkg
  pkg' := alike.pkg'
  uid := alike.uid
  isCounting := alike.isCounting
  requestIds := alike.requestIds
  quota isPlain := by
    rw [dueQuota_later span passed (short isPlain),
      dueQuota_later span' passed (alike.isCounting ▸ short isPlain), alike.quota isPlain,
      alike.isCounting]

end

end PkgDelaySuspendInfo

/-! ## Decision makers that differ by reads -/

namespace DecisionMaker

/-- The decision makers of two runs that differ by reads: timers and posted events apart, only
the packages differ. -/
structure Alike (plain : String → Bool) (now : Int) (one other : DecisionMaker) : Prop where
  requestId : one.requestId = other.requestId
  lastRequestTime : one.lastRequestTime = other.lastRequestTime
  deviceInfoManager : one.deviceInfoManager = other.deviceInfoManager
  pkgs : KeyedMap.Related (PkgDelaySuspendInfo.Alike plain now) one.pkgDelaySuspendInfoMap
    other.pkgDelaySuspendInfoMap
  pkgBgDurationMap : one.pkgBgDurationMap = other.pkgBgDurationMap
  foregroundUidPidMap : one.foregroundUidPidMap = other.foregroundUidPidMap

section

variable {plain : String → Bool} {params : Params} {env : Env} {one other : DecisionMaker}

theorem Alike.symm (alike : Alike plain env.now one other) : Alike plain env.now other one where
  requestId := alike.requestId.symm
  lastRequestTime := alike.lastRequestTime.symm
  deviceInfoManager := alike.deviceInfoManager.symm
  pkgs :=
    { keys := alike.pkgs.keys.symm
      vals := fun found found' => (alike.pkgs.vals found' found).symm }
  pkgBgDurationMap := alike.pkgBgDurationMap.symm
  foregroundUidPidMap := alike.foregroundUidPidMap.symm

theorem Alike.updatePkg (alike : Alike plain env.now one other) (key : String × Int)
    {f : TimerManager → PkgDelaySuspendInfo → PkgDelaySuspendInfo × TimerManager}
    (keeps : ∀ pkgInfo pkgInfo' timers timers',
      PkgDelaySuspendInfo.Alike plain env.now key pkgInfo pkgInfo' →
        PkgDelaySuspendInfo.Alike plain env.now key (f timers pkgInfo).1 (f timers' pkgInfo').1) :
    Alike plain env.now (one.updatePkg key f) (other.updatePkg key f) := by
  unfold DecisionMaker.updatePkg
  rcases alike.pkgs.lookup key with ⟨missing, missing'⟩ | ⟨pkgInfo, pkgInfo', found, found', same⟩
  · rw [missing, missing']
    exact alike
  · rw [found, found']
    exact { alike with pkgs := alike.pkgs.adjust (keeps _ _ _ _ same) }

theorem Alike.call (params : Params) (alike : Alike plain env.now one other)
    (free : PkgDelaySuspendInfo.NoAllowance plain env.config) (key : String × Int)
    (call : PkgCall) :
    Alike plain env.now (one.updatePkg key (call.apply params env))
      (other.updatePkg key (call.apply params env)) :=
  alike.updatePkg key (fun _ _ timers timers' same => same.call free call timers timers')

theorem Alike.getQuota (alike : Alike plain env.now one other)
    (free : PkgDelaySuspendInfo.NoAllowance plain env.config) (key : KeyInfo) :
    Alike plain env.now one (other.getQuota params env key).2 := by
  unfold DecisionMaker.getQuota DecisionMaker.updatePkg
  rcases alike.pkgs.lookup key.mapKey with ⟨-, missing'⟩ | ⟨pkgInfo, pkgInfo', found, found', same⟩
  · rw [missing']
    exact alike
  · rw [found']
    have put := alike.pkgs.adjust (same.read params free)
    rw [KeyedMap.adjust_self found] at put
    exact { alike with pkgs := put }

theorem Alike.updateForegroundUidPidMap (alike : Alike plain env.now one other) (uid pid : Int)
    (isForeground : Bool) :
    Alike plain env.now (one.updateForegroundUidPidMap uid pid isForeground)
      (other.updateForegroundUidPidMap uid pid isForeground) := by
  unfold DecisionMaker.updateForegroundUidPidMap
  rw [alike.foregroundUidPidMap]
  dsimp only
  split
  · exact { alike with foregroundUidPidMap := rfl }
  · split
    · exact { alike with foregroundUidPidMap := rfl }
    · exact { alike with foregroundUidPidMap := rfl }

theorem Alike.isUidForeground (alike : Alike plain env.now one other) (uid : Int) :
    one.isUidForeground uid = other.isUidForeground uid := by
  unfold DecisionMaker.isUidForeground
  rw [alike.foregroundUidPidMap]

theorem Alike.canStartAccountingLocked (alike : Alike plain env.now one other)
    {pkgInfo pkgInfo' : PkgDelaySuspendInfo} (sameUid : pkgInfo.uid = pkgInfo'.uid) :
    one.canStartAccountingLocked pkgInfo = other.canStartAccountingLocked pkgInfo' := by
  unfold DecisionMaker.canStartAccountingLocked
  rw [alike.deviceInfoManager, alike.isUidForeground, sameUid]

theorem Alike.tryStartAccounting (alike : Alike plain env.now one other)
    (free : PkgDelaySuspendInfo.NoAllowance plain env.config) (uid : Int) (bundleName : String) :
    (one.tryStartAccounting params env uid bundleName).1 =
        (other.tryStartAccounting params env uid bundleName).1 ∧
      Alike plain env.now (one.tryStartAccounting params env uid bundleName).2
        (other.tryStartAccounting params env uid bundleName).2 := by
  unfold DecisionMaker.tryStartAccounting
  rcases alike.pkgs.lookup (bundleName, uid) with
    ⟨missing, missing'⟩ | ⟨pkgInfo, pkgInfo', found, found', same⟩
  · rw [missing, missing']
    exact ⟨rfl, alike⟩
  · rw [found, found']
    dsimp only
    rw [alike.canStartAccountingLocked same.uid]
    split
    · exact ⟨rfl, alike.call params free (bundleName, uid) (.start (-1))⟩
    · exact ⟨rfl, alike⟩

theorem Alike.handleStateChange (alike : Alike plain env.now one other)
    (free : PkgDelaySuspendInfo.NoAllowance plain env.config) (bundleName : String) (uid : Int)
    (isForeground isBackground : Bool) :
    Alike plain env.now
      (one.handleStateChange params env bundleName uid isForeground isBackground)
      (other.handleStateChange params env bundleName uid isForeground isBackground) := by
  unfold DecisionMaker.handleStateChange
  dsimp only
  split
  · have stopped := alike.call params free (bundleName, uid) .stopAll
    exact { stopped with
      pkgBgDurationMap := congrArg (AList.erase (bundleName, uid)) stopped.pkgBgDurationMap }
  · split
    · rcases alike.pkgs.lookup (bundleName, uid) with
        ⟨missing, missing'⟩ | ⟨pkgInfo, pkgInfo', found, found', same⟩
      · rw [missing, missing']
        exact alike
      · rw [found, found']
        dsimp only
        rw [alike.canStartAccountingLocked same.uid]
        split
        · have started := alike.call params free (bundleName, uid) (.start (-1))
          exact { started with
            pkgBgDurationMap := congrArg (AList.insert (bundleName, uid) (toInt32 env.now))
              started.pkgBgDurationMap }
        · exact alike
    · exact alike

theorem Alike.onProcessStateChanged (alike : Alike plain env.now one other)
    (free : PkgDelaySuspendInfo.NoAllowance plain env.config) (processData : ProcessData) :
    Alike plain env.now (one.onProcessStateChanged params env processData)
      (other.onProcessStateChanged params env processData) := by
  unfold DecisionMaker.onProcessStateChanged
  dsimp only
  split
  · exact (alike.updateForegroundUidPidMap _ _ _).handleStateChange free _ _ _ _
  · exact alike.updateForegroundUidPidMap _ _ _

theorem Alike.onProcessDied (alike : Alike plain env.now one other)
    (free : PkgDelaySuspendInfo.NoAllowance plain env.config) (processData : ProcessData) :
    Alike plain env.now (one.onProcessDied params env processData)
      (other.onProcessDied params env processData) :=
  ((alike.updateForegroundUidPidMap processData.uid processData.pid false).tryStartAccounting free
    processData.uid processData.bundleName).2

theorem Alike.pauseTransientTaskTimeForInner (params : Params)
    (alike : Alike plain env.now one other)
    (free : PkgDelaySuspendInfo.NoAllowance plain env.config) (uid : Int) (name : String) :
    (one.pauseTransientTaskTimeForInner params env uid name).1 =
        (other.pauseTransientTaskTimeForInner params env uid name).1 ∧
      Alike plain env.now (one.pauseTransientTaskTimeForInner params env uid name).2
        (other.pauseTransientTaskTimeForInner params env uid name).2 := by
  unfold DecisionMaker.pauseTransientTaskTimeForInner
  rw [alike.isUidForeground]
  split
  · exact ⟨rfl, alike⟩
  · rcases alike.pkgs.lookup (name, uid) with
      ⟨missing, missing'⟩ | ⟨pkgInfo, pkgInfo', found, found', same⟩
    · rw [missing, missing']
      exact ⟨rfl, alike⟩
    · rw [found, found']
      exact ⟨rfl, alike.call params free (name, uid) .stopAll⟩

theorem Alike.startTransientTaskTimeForInner (params : Params)
    (alike : Alike plain env.now one other)
    (free : PkgDelaySuspendInfo.NoAllowance plain env.config) (uid : Int) (name : String) :
    (one.startTransientTaskTimeForInner params env uid name).1 =
        (other.startTransientTaskTimeForInner params env uid name).1 ∧
      Alike plain env.now (one.startTransientTaskTimeForInner params env uid name).2
        (other.startTransientTaskTimeForInner params env uid name).2 := by
  unfold DecisionMaker.startTransientTaskTimeForInner
  rw [alike.isUidForeground]
  split
  · exact ⟨rfl, alike⟩
  · exact alike.tryStartAccounting free uid name

theorem Alike.screenOffPkg (alike : Alike plain env.now one other)
    (free : PkgDelaySuspendInfo.NoAllowance plain env.config) (transientPauseUid : Finset Int)
    (key : String × Int) :
    Alike plain env.now (screenOffPkg params env transientPauseUid one key)
      (DecisionMaker.screenOffPkg params env transientPauseUid other key) := by
  unfold DecisionMaker.screenOffPkg
  rcases alike.pkgs.lookup key with ⟨missing, missing'⟩ | ⟨pkgInfo, pkgInfo', found, found', same⟩
  · rw [missing, missing']
    exact alike
  · rw [found, found']
    dsimp only
    rw [same.uid, alike.canStartAccountingLocked same.uid]
    split
    · exact alike
    · split
      · exact alike.call params free key (.start (-1))
      · exact alike

theorem Alike.onInputEvent (alike : Alike plain env.now one other)
    (free : PkgDelaySuspendInfo.NoAllowance plain env.config) (transientPauseUid : Finset Int)
    (event : EventId) (stringArg : String) :
    Alike plain env.now (one.onInputEvent params env transientPauseUid event stringArg)
      (other.onInputEvent params env transientPauseUid event stringArg) := by
  have device : Alike plain env.now
      { one with deviceInfoManager := one.deviceInfoManager.onInputEvent event stringArg }
      { other with deviceInfoManager := other.deviceInfoManager.onInputEvent event stringArg } :=
    { alike with deviceInfoManager := by rw [alike.deviceInfoManager] }
  unfold DecisionMaker.onInputEvent
  dsimp only
  split
  · unfold DecisionMaker.handleScreenOn
    split
    · exact device
    · refine List.foldl_rel device ?_
      intro fgApp _ first second same
      exact same.call params free fgApp .stopAll
  · unfold DecisionMaker.handleScreenOff
    have sameKeys := device.pkgs.keys
    rw [sameKeys]
    refine List.foldl_rel device ?_
    intro key _ first second same
    exact same.screenOffPkg free transientPauseUid key
  · exact device

theorem Alike.resetDayQuotaLocked (params : Params) (alike : Alike plain env.now one other) :
    Alike plain env.now (one.resetDayQuotaLocked params env)
      (other.resetDayQuotaLocked params env) := by
  unfold DecisionMaker.resetDayQuotaLocked
  rw [alike.lastRequestTime]
  split
  · have filtered := alike.pkgs.filterVal (p := fun _ pkgInfo => !pkgInfo.requestList.isEmpty)
      (q := fun _ pkgInfo => !pkgInfo.requestList.isEmpty)
      (fun _ _ _ same => congrArg not same.isEmpty)
    exact { alike with
      lastRequestTime := rfl
      pkgs := filtered.mapVal (fun _ _ _ same => same.refill) }
  · exact alike

theorem checkQuotaTime_full {pkgInfo : PkgDelaySuspendInfo} {name : String}
    (full : pkgInfo.requestList.length ≥ maxRequestId) :
    checkQuotaTime params env pkgInfo name = (.exceedsThreshold, false, pkgInfo) := by
  simp [checkQuotaTime, PkgDelaySuspendInfo.isAllowRequest, full]

/-- A list that is not full: the package is settled, and passes by its quota or by exemption. -/
theorem checkQuotaTime_room {pkgInfo : PkgDelaySuspendInfo} {name : String}
    (room : ¬ pkgInfo.requestList.length ≥ maxRequestId) :
    let settled := pkgInfo.updateQuota params env.config env.now false
    checkQuotaTime params env pkgInfo name =
      if settled.quota ≥ minAllowQuotaTime then (.ok, false, settled)
      else if env.config.isTransientTaskExemptedQuatoApp name then (.ok, true, settled)
      else (.timeInsufficient, false, settled) := by
  intro settled
  unfold checkQuotaTime PkgDelaySuspendInfo.isAllowRequest
  rw [if_neg room]
  by_cases enough : settled.quota ≥ minAllowQuotaTime
  · simp [settled, enough]
  · simp [settled, enough]

/-- The quota check of a plain package sees the same quota; the others pass it by exemption. -/
theorem alike_checkQuotaTime (params : Params) {key : String × Int}
    {pkgInfo pkgInfo' : PkgDelaySuspendInfo}
    (same : PkgDelaySuspendInfo.Alike plain env.now key pkgInfo pkgInfo')
    (free : PkgDelaySuspendInfo.NoAllowance plain env.config)
    (exempted : plain key.1 = false → env.config.isTransientTaskExemptedQuatoApp key.1 = true) :
    (checkQuotaTime params env pkgInfo key.1).1 = (checkQuotaTime params env pkgInfo' key.1).1 ∧
      PkgDelaySuspendInfo.Alike plain env.now key (checkQuotaTime params env pkgInfo key.1).2.2
        (checkQuotaTime params env pkgInfo' key.1).2.2 := by
  have sameLength : pkgInfo.requestList.length = pkgInfo'.requestList.length := by
    simpa using congrArg List.length same.requestIds
  have settled : PkgDelaySuspendInfo.Alike plain env.now key
      (pkgInfo.updateQuota params env.config env.now false)
      (pkgInfo'.updateQuota params env.config env.now false) := same.call free .updateQuota {} {}
  by_cases full : pkgInfo.requestList.length ≥ maxRequestId
  · rw [checkQuotaTime_full full, checkQuotaTime_full (sameLength ▸ full)]
    exact ⟨rfl, same⟩
  rw [checkQuotaTime_room full, checkQuotaTime_room (sameLength ▸ full)]
  cases isPlain : plain key.1 with
  | true =>
      have sameQuota : (pkgInfo.updateQuota params env.config env.now false).quota =
          (pkgInfo'.updateQuota params env.config env.now false).quota := by
        rw [PkgDelaySuspendInfo.quota_eq_dueQuota (same.pkg ▸ free _ isPlain),
          PkgDelaySuspendInfo.quota_eq_dueQuota (same.pkg' ▸ free _ isPlain), same.quota isPlain]
      rw [sameQuota]
      split
      · exact ⟨rfl, settled⟩
      · split
        · exact ⟨rfl, settled⟩
        · exact ⟨rfl, settled⟩
  | false =>
      rw [exempted isPlain, if_pos rfl, if_pos rfl]
      constructor
      · split
        · split
          · rfl
          · rfl
        · split
          · rfl
          · rfl
      · split
        · split
          · exact settled
          · exact settled
        · split
          · exact settled
          · exact settled

theorem Alike.grant (params : Params) (alike : Alike plain env.now one other)
    (free : PkgDelaySuspendInfo.NoAllowance plain env.config) (key : KeyInfo)
    (delayInfo : DelaySuspendInfoEx) {pkgInfo pkgInfo' : PkgDelaySuspendInfo}
    (same : PkgDelaySuspendInfo.Alike plain env.now key.mapKey pkgInfo pkgInfo')
    (needSetTime needSetTime' : Bool) :
    (one.grant params env key delayInfo pkgInfo needSetTime).1.requestId =
        (other.grant params env key delayInfo pkgInfo' needSetTime').1.requestId ∧
      Alike plain env.now (one.grant params env key delayInfo pkgInfo needSetTime).2
        (other.grant params env key delayInfo pkgInfo' needSetTime').2 := by
  have sameId : one.newDelaySuspendRequestId.1 = other.newDelaySuspendRequestId.1 := by
    simp only [newDelaySuspendRequestId, alike.requestId]
  have next : Alike plain env.now one.newDelaySuspendRequestId.2
      other.newDelaySuspendRequestId.2 := by
    exact { alike with requestId := congrArg (fun id => id + 1) sameId }
  unfold DecisionMaker.grant
  dsimp only
  rw [sameId]
  have added := same.add env.config { delayInfo with requestId := other.newDelaySuspendRequestId.1 }
    (one.newDelaySuspendRequestId.2.getDelayTime params)
    (other.newDelaySuspendRequestId.2.getDelayTime params) needSetTime needSetTime'
  have stored : Alike plain env.now (one.newDelaySuspendRequestId.2.storeRequest key _)
      (other.newDelaySuspendRequestId.2.storeRequest key _) :=
    { next with pkgs := next.pkgs.insert added }
  rw [stored.canStartAccountingLocked added.uid]
  split
  · exact ⟨rfl, stored.call params free key.mapKey (.start other.newDelaySuspendRequestId.1)⟩
  · exact ⟨rfl, stored⟩

/-- A request that both runs make: the same verdict and the same id. -/
theorem Alike.decideQuota (alike : Alike plain env.now one other)
    (free : PkgDelaySuspendInfo.NoAllowance plain env.config) (key : KeyInfo)
    (delayInfo : DelaySuspendInfoEx)
    (exempted : plain key.pkg = false →
      env.config.isTransientTaskExemptedQuatoApp key.pkg = true) :
    (one.decideQuota params env key delayInfo).1 = (other.decideQuota params env key delayInfo).1 ∧
      (one.decideQuota params env key delayInfo).2.1.requestId =
        (other.decideQuota params env key delayInfo).2.1.requestId ∧
      Alike plain env.now (one.decideQuota params env key delayInfo).2.2
        (other.decideQuota params env key delayInfo).2.2 := by
  have stored : PkgDelaySuspendInfo.Alike plain env.now key.mapKey
      ((one.pkgDelaySuspendInfoMap.lookup key.mapKey).getD
        (PkgDelaySuspendInfo.make params key.pkg key.uid))
      ((other.pkgDelaySuspendInfoMap.lookup key.mapKey).getD
        (PkgDelaySuspendInfo.make params key.pkg key.uid)) := by
    rcases alike.pkgs.lookup key.mapKey with
      ⟨missing, missing'⟩ | ⟨pkgInfo, pkgInfo', found, found', same⟩
    · rw [missing, missing']
      exact PkgDelaySuspendInfo.alike_make params key.pkg key.uid
    · rw [found, found']
      exact same
  obtain ⟨sameVerdict, checked⟩ := alike_checkQuotaTime params stored free exempted
  unfold DecisionMaker.decideQuota
  dsimp only
  change (checkQuotaTime params env _ key.pkg).1 = (checkQuotaTime params env _ key.pkg).1
    at sameVerdict
  rw [sameVerdict]
  split
  · obtain ⟨sameId, granted⟩ := alike.grant params free key delayInfo checked _ _
    exact ⟨rfl, sameId, granted⟩
  · exact ⟨rfl, rfl, { alike with pkgs := alike.pkgs.insert checked }⟩

theorem Alike.decide (params : Params) (alike : Alike plain env.now one other)
    (free : PkgDelaySuspendInfo.NoAllowance plain env.config) (key : KeyInfo)
    (delayInfo : DelaySuspendInfoEx)
    (exempted : plain key.pkg = false →
      env.config.isTransientTaskExemptedQuatoApp key.pkg = true) :
    (one.decide params env key delayInfo).1 = (other.decide params env key delayInfo).1 ∧
      (one.decide params env key delayInfo).2.1.requestId =
        (other.decide params env key delayInfo).2.1.requestId ∧
      Alike plain env.now (one.decide params env key delayInfo).2.2
        (other.decide params env key delayInfo).2.2 := by
  have refreshed := alike.resetDayQuotaLocked params
  unfold DecisionMaker.decide
  dsimp only
  rw [refreshed.pkgBgDurationMap]
  split
  · split
    · exact ⟨rfl, rfl, refreshed⟩
    · exact refreshed.decideQuota free key delayInfo exempted
  · exact refreshed.decideQuota free key delayInfo exempted

theorem Alike.removeRequest (params : Params) (alike : Alike plain env.now one other)
    (free : PkgDelaySuspendInfo.NoAllowance plain env.config) (key : Option KeyInfo)
    (requestId : Int) :
    Alike plain env.now (one.removeRequest params env key requestId)
      (other.removeRequest params env key requestId) := by
  unfold DecisionMaker.removeRequest
  cases key with
  | none => exact alike
  | some key =>
      dsimp only
      rcases alike.pkgs.lookup key.mapKey with
        ⟨missing, missing'⟩ | ⟨pkgInfo, pkgInfo', found, found', same⟩
      · rw [missing, missing']
        exact alike
      · rw [found, found']
        have removed := alike.updatePkg key.mapKey (f := fun timers pkgInfo =>
          pkgInfo.removeRequest params env.config env.now requestId timers)
          (fun _ _ timers timers' same => same.remove free requestId timers timers')
        exact { removed with }

end

end DecisionMaker

end BgTaskMgr.Transient
