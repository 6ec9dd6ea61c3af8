import BgTaskMgr.Transient.Manager

/-!
# The three stores of the transient task manager agree

`keyInfoMap_`, `expiredCallbackMap_` and the request lists of the decision maker
hold the same request ids, each under one package.  The decision maker's share of
the argument is what its operations do to the ids of each package; the manager's
share moves the three stores together.
-/

set_option autoImplicit false

namespace BgTaskMgr.Transient

open StepSystem

/-! ## Request ids in the decision maker -/

def PkgDelaySuspendInfo.requestIds (self : PkgDelaySuspendInfo) : List Int :=
  self.requestList.map (fun info => info.requestId)

namespace DecisionMaker

def requestIds (self : DecisionMaker) (key : String × Int) : List Int :=
  ((self.pkgDelaySuspendInfoMap.lookup key).map PkgDelaySuspendInfo.requestIds).getD []

def allRequestIds (self : DecisionMaker) : List Int :=
  (KeyedMap.vals self.pkgDelaySuspendInfoMap).flatMap PkgDelaySuspendInfo.requestIds

structure SameRequests (before after : DecisionMaker) : Prop where
  ids : ∀ key, after.requestIds key = before.requestIds key
  generator : after.requestId = before.requestId

theorem SameRequests.trans {first second third : DecisionMaker}
    (one : SameRequests first second) (two : SameRequests second third) :
    SameRequests first third where
  ids key := (two.ids key).trans (one.ids key)
  generator := two.generator.trans one.generator

theorem PkgCall.requestIds_apply (params : Params) (env : Env) (call : PkgCall)
    (timers : TimerManager) (pkgInfo : PkgDelaySuspendInfo) :
    (call.apply params env timers pkgInfo).1.requestIds = pkgInfo.requestIds := by
  cases call with
  | updateQuota => rfl
  | start requestId =>
      simp only [apply, PkgDelaySuspendInfo.requestIds,
        PkgDelaySuspendInfo.startAccounting_requestList, List.map_map]
      refine List.map_congr_left (fun info _ => ?_)
      simp only [Function.comp_apply]
      split <;> simp
  | stopAll =>
      simp [apply, PkgDelaySuspendInfo.requestIds,
        PkgDelaySuspendInfo.stopAccountingAll_requestList]

section

variable {params : Params} {env : Env} {self : DecisionMaker}

theorem requestIds_updatePkg {key a : String × Int}
    {f : TimerManager → PkgDelaySuspendInfo → PkgDelaySuspendInfo × TimerManager} :
    (self.updatePkg key f).requestIds a =
      if a = key then ((self.pkgDelaySuspendInfoMap.lookup a).map
        (fun pkgInfo => (f self.timerManager pkgInfo).1.requestIds)).getD []
      else self.requestIds a := by
  unfold requestIds
  rw [updatePkg_lookup]
  split <;> simp [Function.comp_def]

theorem sameRequests_accountingStep {next : DecisionMaker}
    (step : AccountingStep params env self next) : SameRequests self next := by
  cases step with
  | frame _ samePkgs sameId _ =>
      exact ⟨fun key => by rw [requestIds, requestIds, samePkgs], sameId⟩
  | package key call =>
      refine ⟨fun a => ?_, updatePkg_requestId key _⟩
      rw [requestIds_updatePkg]
      split
      · simp only [PkgCall.requestIds_apply]
        rfl
      · rfl

theorem sameRequests_refill : SameRequests self (self.resetDayQuotaLocked params env) := by
  unfold resetDayQuotaLocked
  split
  · refine ⟨fun key => ?_, rfl⟩
    simp only [requestIds, KeyedMap.lookup_mapVal, KeyedMap.lookup_filterVal]
    cases found : self.pkgDelaySuspendInfoMap.lookup key with
    | none => rfl
    | some pkgInfo =>
        by_cases empty : pkgInfo.requestList = []
        · simp [Option.filter, empty, PkgDelaySuspendInfo.requestIds]
        · simp [Option.filter, empty, PkgDelaySuspendInfo.requestIds]
  · exact ⟨fun _ => rfl, rfl⟩

theorem sameRequests_reaches {next : DecisionMaker} (reaches : Reaches params env self next) :
    SameRequests self next := by
  induction reaches with
  | refl => exact ⟨fun _ => rfl, rfl⟩
  | tail _ step ih => exact ih.trans (sameRequests_accountingStep step)

structure DecideSpec (params : Params) (env : Env) (key : KeyInfo)
    (before after : DecisionMaker) (ret : ErrCode) (delayInfo : DelaySuspendInfoEx) : Prop where
  refused : ret ≠ .ok → SameRequests before after
  granted : ret = .ok → delayInfo.requestId = before.newDelaySuspendRequestId.1 ∧
    after.requestId = delayInfo.requestId + 1 ∧
    after.requestIds key.mapKey = before.requestIds key.mapKey ++ [delayInfo.requestId] ∧
    ∀ a, a ≠ key.mapKey → after.requestIds a = before.requestIds a

theorem requestIds_insert (key a : String × Int) (pkgInfo : PkgDelaySuspendInfo)
    (tasks : List (TransientTaskEventType × TransientTaskAppInfo)) :
    ({ self with
      pkgDelaySuspendInfoMap := self.pkgDelaySuspendInfoMap.insert key pkgInfo
      suscriberTasks := tasks } : DecisionMaker).requestIds a =
        if a = key then pkgInfo.requestIds else self.requestIds a := by
  unfold requestIds
  rw [KeyedMap.lookup_insert]
  split <;> rfl

theorem grant_spec (key : KeyInfo) (delayInfo : DelaySuspendInfoEx)
    (pkgInfo : PkgDelaySuspendInfo) (needSetTime : Bool)
    (ids : pkgInfo.requestIds = self.requestIds key.mapKey) :
    DecideSpec params env key self (self.grant params env key delayInfo pkgInfo needSetTime).2 .ok
      (self.grant params env key delayInfo pkgInfo needSetTime).1 := by
  refine ⟨fun impossible => absurd rfl impossible, fun _ => ?_⟩
  let new := self.newDelaySuspendRequestId
  let added := pkgInfo.addRequest env.config { delayInfo with requestId := new.1 }
    (new.2.getDelayTime params) needSetTime
  let stored := new.2.storeRequest key added.2
  have addedIds : added.2.requestIds = self.requestIds key.mapKey ++ [new.1] := by
    rw [← ids]
    simp [added, PkgDelaySuspendInfo.addRequest, PkgDelaySuspendInfo.requestIds]
  have storedIds : ∀ a, stored.requestIds a =
      if a = key.mapKey then self.requestIds key.mapKey ++ [new.1] else self.requestIds a := by
    intro a
    rw [← addedIds]
    exact requestIds_insert key.mapKey a added.2 _
  have accounted : SameRequests stored
      (self.grant params env key delayInfo pkgInfo needSetTime).2 := by
    unfold grant
    dsimp only
    split
    · exact sameRequests_accountingStep (.package key.mapKey (.start new.1))
    · exact ⟨fun _ => rfl, rfl⟩
  have given : (self.grant params env key delayInfo pkgInfo needSetTime).1.requestId = new.1 := by
    unfold grant
    dsimp only
    split <;> rfl
  refine ⟨given, ?_, ?_, ?_⟩
  · rw [given, accounted.generator]
    rfl
  · rw [given, accounted.ids, storedIds, if_pos rfl]
  · intro a other
    rw [accounted.ids, storedIds, if_neg other]

theorem decideQuota_spec (params : Params) (env : Env) (self : DecisionMaker) (key : KeyInfo)
    (delayInfo : DelaySuspendInfoEx) :
    DecideSpec params env key self (self.decideQuota params env key delayInfo).2.2
      (self.decideQuota params env key delayInfo).1
      (self.decideQuota params env key delayInfo).2.1 := by
  have start : ((self.pkgDelaySuspendInfoMap.lookup key.mapKey).getD
      (PkgDelaySuspendInfo.make params key.pkg key.uid)).requestIds =
        self.requestIds key.mapKey := by
    unfold requestIds
    cases self.pkgDelaySuspendInfoMap.lookup key.mapKey <;> rfl
  unfold decideQuota
  dsimp only
  generalize (self.pkgDelaySuspendInfoMap.lookup key.mapKey).getD
    (PkgDelaySuspendInfo.make params key.pkg key.uid) = pkgInfo at start ⊢
  have checked : (checkQuotaTime params env pkgInfo key.pkg).2.2.requestIds =
      self.requestIds key.mapKey := by
    rw [PkgDelaySuspendInfo.requestIds, checkQuotaTime_requestList]
    exact start
  split
  · exact grant_spec key delayInfo _ _ checked
  · rename_i failed
    refine ⟨fun _ => ⟨fun a => ?_, rfl⟩, fun passed => absurd passed failed⟩
    refine (requestIds_insert key.mapKey a _ self.suscriberTasks).trans ?_
    split
    · rename_i same
      rw [same, checked]
    · rfl

theorem decide_spec (params : Params) (env : Env) (self : DecisionMaker) (key : KeyInfo)
    (delayInfo : DelaySuspendInfoEx) :
    DecideSpec params env key self (self.decide params env key delayInfo).2.2
      (self.decide params env key delayInfo).1 (self.decide params env key delayInfo).2.1 := by
  have refill : SameRequests self (self.resetDayQuotaLocked params env) :=
    sameRequests_refill
  have quota := decideQuota_spec params env (self.resetDayQuotaLocked params env) key delayInfo
  have afterRefill : DecideSpec params env key self
      ((self.resetDayQuotaLocked params env).decideQuota params env key delayInfo).2.2
      ((self.resetDayQuotaLocked params env).decideQuota params env key delayInfo).1
      ((self.resetDayQuotaLocked params env).decideQuota params env key delayInfo).2.1 := by
    refine ⟨fun failed => refill.trans (quota.refused failed), fun passed => ?_⟩
    obtain ⟨given, next, here, there⟩ := quota.granted passed
    refine ⟨?_, next, ?_, ?_⟩
    · rw [given, newDelaySuspendRequestId, newDelaySuspendRequestId, refill.generator]
    · rw [here, refill.ids]
    · intro a other
      rw [there a other, refill.ids]
  unfold decide
  dsimp only
  split
  · split
    · exact ⟨fun _ => refill, fun passed => absurd passed (by simp)⟩
    · exact afterRefill
  · exact afterRefill

theorem PkgDelaySuspendInfo.requestIds_removeRequest (timers : TimerManager)
    (pkgInfo : PkgDelaySuspendInfo) (requestId : Int) :
    (pkgInfo.removeRequest params env.config env.now requestId timers).1.requestIds =
      pkgInfo.requestIds.erase requestId := by
  have stopKeepsId : (fun info : DelaySuspendInfoEx => info.requestId) ∘ (fun info =>
      if info.requestId = requestId then info.stopAccounting env.now else info) =
        fun info => info.requestId := by
    funext info
    simp only [Function.comp_apply]
    split <;> simp
  rw [PkgDelaySuspendInfo.requestIds, PkgDelaySuspendInfo.removeRequest_requestList, List.map_map,
    stopKeepsId, PkgDelaySuspendInfo.requestsWithout, PkgDelaySuspendInfo.requestIds,
    List.erase_eq_eraseP, List.eraseP_map]
  simp only [Function.comp_def, Bool.beq_eq_decide_eq, eq_comm]

theorem requestIds_removeRequest (params : Params) (env : Env) (self : DecisionMaker)
    (key : KeyInfo) (requestId : Int) (a : String × Int) :
    (self.removeRequest params env (some key) requestId).requestIds a =
      if a = key.mapKey then (self.requestIds a).erase requestId else self.requestIds a := by
  cases found : self.pkgDelaySuspendInfoMap.lookup key.mapKey with
  | none =>
      have empty : self.requestIds key.mapKey = [] := by
        simp [requestIds, found]
      simp only [removeRequest, found]
      split
      · rename_i same
        rw [same, empty, List.erase_nil]
      · rfl
  | some pkgInfo =>
      simp only [removeRequest, found]
      refine requestIds_updatePkg.trans ?_
      split
      · rename_i same
        subst same
        simp [requestIds, found, PkgDelaySuspendInfo.requestIds_removeRequest]
      · rfl

theorem requestId_removeRequest (params : Params) (env : Env) (self : DecisionMaker)
    (key : Option KeyInfo) (requestId : Int) :
    (self.removeRequest params env key requestId).requestId = self.requestId := by
  cases key with
  | none => rfl
  | some key =>
      cases found : self.pkgDelaySuspendInfoMap.lookup key.mapKey <;>
        simp [removeRequest, found]

end

end DecisionMaker

/-! ## The manager's stores -/

namespace BgTransientTaskMgr

/-- The stores agree, and every id held was handed out before. -/
structure Consistent (mgr : BgTransientTaskMgr) : Prop where
  owned : ∀ id keyInfo, mgr.keyInfoMap.lookup id = some keyInfo →
    id ∈ mgr.decisionMaker.requestIds keyInfo.mapKey
  recorded : ∀ key id, id ∈ mgr.decisionMaker.requestIds key →
    ∃ keyInfo, mgr.keyInfoMap.lookup id = some keyInfo ∧ keyInfo.mapKey = key
  nodup : ∀ key, (mgr.decisionMaker.requestIds key).Nodup
  sameKeys : ∀ id, id ∈ mgr.keyInfoMap ↔ id ∈ mgr.expiredCallbackMap
  distinctRemotes : ∀ i j remote, mgr.expiredCallbackMap.lookup i = some remote →
    mgr.expiredCallbackMap.lookup j = some remote → i = j
  bounded : mgr.decisionMaker.ForallPkg
    (fun _ pkgInfo => pkgInfo.requestList.length ≤ maxRequestId)
  issued : ∀ key, ∀ id ∈ mgr.decisionMaker.requestIds key, id < mgr.decisionMaker.requestId

theorem consistent_initial : Consistent {} where
  owned _ _ found := by cases found
  recorded _ _ member := by cases member
  nodup _ := List.nodup_nil
  sameKeys _ := by simp
  distinctRemotes _ _ _ found := by cases found
  bounded _ _ found := by cases found
  issued _ _ member := by cases member

theorem bounded_closed (params : Params) (env : Env) :
    DecisionMaker.Closed params env
      (fun _ pkgInfo => pkgInfo.requestList.length ≤ maxRequestId) where
  make _ := Nat.zero_le _
  call _ pkgInfo call timers held := by
    have ids := DecisionMaker.PkgCall.requestIds_apply params env call timers pkgInfo
    have lengths := congrArg List.length ids
    simp only [PkgDelaySuspendInfo.requestIds, List.length_map] at lengths
    rw [lengths]
    exact held
  reset _ _ held := held
  add _ _ _ _ _ _ room _ := by
    simpa [PkgDelaySuspendInfo.addRequest] using Nat.succ_le_of_lt room

def Keeps (before after : BgTransientTaskMgr) : Prop :=
  (Consistent before → Consistent after) ∧
    after.decisionMaker.requestId = before.decisionMaker.requestId

theorem Keeps.refl (self : BgTransientTaskMgr) : Keeps self self := ⟨id, rfl⟩

theorem Keeps.trans {first second third : BgTransientTaskMgr} (one : Keeps first second)
    (two : Keeps second third) : Keeps first third :=
  ⟨fun start => two.1 (one.1 start), two.2.trans one.2⟩

section

variable (params : Params) (env : Env) {self : BgTransientTaskMgr}

theorem consistent_of_same {after : BgTransientTaskMgr} (consistent : Consistent self)
    (sameKeyInfo : after.keyInfoMap = self.keyInfoMap)
    (sameCallbacks : after.expiredCallbackMap = self.expiredCallbackMap)
    (same : DecisionMaker.SameRequests self.decisionMaker after.decisionMaker)
    (bounded : after.decisionMaker.ForallPkg
      (fun _ pkgInfo => pkgInfo.requestList.length ≤ maxRequestId)) : Consistent after := by
  refine ⟨?_, ?_, ?_, ?_, ?_, bounded, ?_⟩
  · intro id keyInfo found
    rw [sameKeyInfo] at found
    rw [same.ids]
    exact consistent.owned id keyInfo found
  · intro key id member
    rw [same.ids] at member
    rw [sameKeyInfo]
    exact consistent.recorded key id member
  · intro key
    rw [same.ids]
    exact consistent.nodup key
  · rw [sameKeyInfo, sameCallbacks]
    exact consistent.sameKeys
  · rw [sameCallbacks]
    exact consistent.distinctRemotes
  · intro key id member
    rw [same.ids] at member
    rw [same.generator]
    exact consistent.issued key id member

theorem keeps_of_reaches {after : BgTransientTaskMgr}
    (sameKeyInfo : after.keyInfoMap = self.keyInfoMap)
    (sameCallbacks : after.expiredCallbackMap = self.expiredCallbackMap)
    (reaches : DecisionMaker.Reaches params env self.decisionMaker after.decisionMaker) :
    Keeps self after := by
  have same := DecisionMaker.sameRequests_reaches reaches
  refine ⟨fun consistent => ?_, same.generator⟩
  exact consistent_of_same consistent sameKeyInfo sameCallbacks same
    (DecisionMaker.forallPkg_reaches (bounded_closed params env) reaches consistent.bounded)

theorem removeRequest_length_le (timers : TimerManager) (pkgInfo : PkgDelaySuspendInfo)
    (requestId : Int) :
    (pkgInfo.removeRequest params env.config env.now requestId timers).1.requestList.length ≤
      pkgInfo.requestList.length := by
  rw [PkgDelaySuspendInfo.removeRequest_requestList, List.length_map]
  exact (List.eraseP_sublist).length_le

theorem keeps_of_removed {after : BgTransientTaskMgr} {requestId : Int} {keyInfo : KeyInfo}
    (found : self.keyInfoMap.lookup requestId = some keyInfo)
    (decision : after.decisionMaker =
      self.decisionMaker.removeRequest params env (some keyInfo) requestId)
    (keys : after.keyInfoMap = self.keyInfoMap.erase requestId)
    (callbacks : after.expiredCallbackMap = self.expiredCallbackMap.erase requestId) :
    Keeps self after := by
  refine ⟨fun consistent => ?_, ?_⟩
  · have left : ∀ key id, id ∈ after.decisionMaker.requestIds key ↔
        id ≠ requestId ∧ id ∈ self.decisionMaker.requestIds key := by
      intro key id
      rw [decision, DecisionMaker.requestIds_removeRequest]
      split
      · exact (consistent.nodup key).mem_erase_iff
      · rename_i other
        refine ⟨fun member => ⟨?_, member⟩, fun both => both.2⟩
        rintro rfl
        obtain ⟨owner, ownerFound, ownerKey⟩ := consistent.recorded key id member
        rw [found] at ownerFound
        cases Option.some.inj ownerFound
        exact other ownerKey.symm
    refine ⟨?_, ?_, ?_, ?_, ?_, ?_, ?_⟩
    · intro id owner ownerFound
      rw [keys, KeyedMap.lookup_erase] at ownerFound
      split at ownerFound
      · cases ownerFound
      · rename_i other
        exact (left _ _).mpr ⟨other, consistent.owned id owner ownerFound⟩
    · intro key id member
      obtain ⟨other, before⟩ := (left key id).mp member
      rw [keys, KeyedMap.lookup_erase, if_neg other]
      exact consistent.recorded key id before
    · intro key
      rw [decision, DecisionMaker.requestIds_removeRequest]
      split
      · exact (consistent.nodup key).erase requestId
      · exact consistent.nodup key
    · intro id
      rw [keys, callbacks, AList.mem_erase, AList.mem_erase, consistent.sameKeys]
    · intro i j remote first second
      rw [callbacks, KeyedMap.lookup_erase] at first second
      split at first
      · cases first
      · split at second
        · cases second
        · exact consistent.distinctRemotes i j remote first second
    · rw [decision]
      exact DecisionMaker.forallPkg_removeRequest consistent.bounded
        (fun pkgInfo _ held => (removeRequest_length_le params env _ pkgInfo requestId).trans held)
    · intro key id member
      rw [decision, DecisionMaker.requestId_removeRequest]
      exact consistent.issued key id ((left key id).mp member).2
  · rw [decision, DecisionMaker.requestId_removeRequest]

/-- An id without key information is in none of the stores, so cancelling it changes
none of them. -/
theorem keeps_cancelSuspendDelayLocked (requestId : Int) :
    Keeps self (self.cancelSuspendDelayLocked params env requestId).2 := by
  cases found : self.keyInfoMap.lookup requestId with
  | some keyInfo =>
      refine ⟨fun consistent => ?_, ?_⟩
      · have held : requestId ∈ self.expiredCallbackMap :=
          (consistent.sameKeys requestId).mp (KeyedMap.mem_iff_lookup.mpr ⟨keyInfo, found⟩)
        refine (keeps_of_removed params env found ?_ ?_ ?_).1 consistent <;>
          simp [cancelSuspendDelayLocked, removeWatchdog, held, found]
      · simp only [cancelSuspendDelayLocked]
        split <;> exact DecisionMaker.requestId_removeRequest params env _ _ _
  | none =>
      refine ⟨fun consistent => ?_, ?_⟩
      · have absent : requestId ∉ self.keyInfoMap := AList.lookup_eq_none.mp found
        have silent : requestId ∉ self.expiredCallbackMap :=
          fun member => absent ((consistent.sameKeys requestId).mpr member)
        have kept : self.keyInfoMap.erase requestId = self.keyInfoMap :=
          AList.ext (List.kerase_of_notMem_keys absent)
        refine (keeps_of_reaches params env ?_ ?_ ?_).1 consistent
        · simp [cancelSuspendDelayLocked, removeWatchdog, silent, kept]
        · simp [cancelSuspendDelayLocked, removeWatchdog, silent]
        · simp only [cancelSuspendDelayLocked, removeWatchdog, found, silent, if_false]
          exact .refl
      · simp only [cancelSuspendDelayLocked]
        split <;> exact DecisionMaker.requestId_removeRequest params env _ _ _

theorem keeps_forceCancelSuspendDelay (requestId : Int) :
    Keeps self (self.forceCancelSuspendDelay params env requestId) := by
  unfold forceCancelSuspendDelay
  split
  · exact keeps_cancelSuspendDelayLocked params env requestId
  · exact Keeps.refl self

theorem keeps_cancelSuspendDelay (uid pid requestId : Int) :
    Keeps self (self.cancelSuspendDelay params env uid pid requestId).2 := by
  unfold cancelSuspendDelay
  split
  · exact Keeps.refl self
  · split
    · exact Keeps.refl self
    · split
      · exact Keeps.refl self
      · split
        · exact keeps_cancelSuspendDelayLocked params env requestId
        · exact Keeps.refl self

theorem keeps_cancelSnapshot (requestIdList : List Int) :
    Keeps self (self.cancelSnapshot params env requestIdList) := by
  unfold cancelSnapshot
  induction requestIdList generalizing self with
  | nil => exact Keeps.refl self
  | cons requestId rest ih => exact (keeps_cancelSuspendDelayLocked params env requestId).trans ih

theorem keeps_handleExpiredCallbackDeath (remote : Remote) :
    Keeps self (self.handleExpiredCallbackDeath params env remote) := by
  unfold handleExpiredCallbackDeath
  split
  · exact Keeps.refl self
  · rename_i callbackIter iterFound
    have held : self.expiredCallbackMap.lookup callbackIter.1 = some callbackIter.2 :=
      KeyedMap.mem_entries_iff.mp (List.mem_of_find?_eq_some iterFound)
    simp only [removeWatchdog]
    split
    · rename_i missing
      refine ⟨fun consistent => ?_, rfl⟩
      have member := (consistent.sameKeys callbackIter.1).mpr
        (KeyedMap.mem_iff_lookup.mpr ⟨_, held⟩)
      exact absurd member (AList.lookup_eq_none.mp missing)
    · rename_i keyInfo found
      exact keeps_of_removed params env found rfl rfl rfl

theorem keeps_handleRequestExpired (requestId : Int) :
    Keeps self (self.handleRequestExpired requestId) := by
  unfold handleRequestExpired
  split
  · dsimp only
    split <;> exact ⟨fun consistent => ⟨consistent.owned, consistent.recorded, consistent.nodup,
      consistent.sameKeys, consistent.distinctRemotes, consistent.bounded, consistent.issued⟩, rfl⟩
  · exact Keeps.refl self

end

/-! ## Granting a request -/

theorem consistent_of_granted {self after : BgTransientTaskMgr} {keyInfo : KeyInfo}
    {remote : Remote} (consistent : Consistent self)
    (unused : ∀ id, self.expiredCallbackMap.lookup id ≠ some remote)
    (next : after.decisionMaker.requestId = self.decisionMaker.requestId + 1)
    (here : after.decisionMaker.requestIds keyInfo.mapKey =
      self.decisionMaker.requestIds keyInfo.mapKey ++ [self.decisionMaker.requestId])
    (there : ∀ a, a ≠ keyInfo.mapKey →
      after.decisionMaker.requestIds a = self.decisionMaker.requestIds a)
    (keys : after.keyInfoMap = self.keyInfoMap.insert self.decisionMaker.requestId keyInfo)
    (callbacks : after.expiredCallbackMap =
      self.expiredCallbackMap.insert self.decisionMaker.requestId remote)
    (bounded : after.decisionMaker.ForallPkg
      (fun _ pkgInfo => pkgInfo.requestList.length ≤ maxRequestId)) : Consistent after := by
  have fresh : ∀ key, self.decisionMaker.requestId ∉ self.decisionMaker.requestIds key :=
    fun key member => absurd (consistent.issued key _ member) (lt_irrefl _)
  have members : ∀ key id, id ∈ after.decisionMaker.requestIds key ↔
      id ∈ self.decisionMaker.requestIds key ∨
        (key = keyInfo.mapKey ∧ id = self.decisionMaker.requestId) := by
    intro key id
    by_cases same : key = keyInfo.mapKey
    · simp [same, here]
    · simp [same, there key same]
  refine ⟨?_, ?_, ?_, ?_, ?_, bounded, ?_⟩
  · intro id owner found
    rw [keys, KeyedMap.lookup_insert] at found
    split at found
    · rename_i new
      cases Option.some.inj found
      exact (members _ _).mpr (Or.inr ⟨rfl, new⟩)
    · exact (members _ _).mpr (Or.inl (consistent.owned id owner found))
  · intro key id member
    rw [keys, KeyedMap.lookup_insert]
    rcases (members key id).mp member with before | ⟨rfl, rfl⟩
    · have old : id ≠ self.decisionMaker.requestId := by
        rintro rfl
        exact fresh key before
      rw [if_neg old]
      exact consistent.recorded key id before
    · exact ⟨keyInfo, if_pos rfl, rfl⟩
  · intro key
    by_cases same : key = keyInfo.mapKey
    · rw [same, here]
      exact List.nodup_append.mpr ⟨consistent.nodup _, List.nodup_singleton _,
        fun id member other added => by
          rw [List.mem_singleton.mp added]
          rintro rfl
          exact fresh _ member⟩
    · rw [there key same]
      exact consistent.nodup key
  · intro id
    rw [keys, callbacks, AList.mem_insert, AList.mem_insert, consistent.sameKeys]
  · intro i j held first second
    rw [callbacks, KeyedMap.lookup_insert] at first second
    split at first
    · split at second
      · rename_i left right
        rw [left, right]
      · cases Option.some.inj first
        exact absurd second (unused j)
    · split at second
      · cases Option.some.inj second
        exact absurd first (unused i)
      · exact consistent.distinctRemotes i j held first second
  · intro key id member
    rw [next]
    rcases (members key id).mp member with before | ⟨_, rfl⟩
    · have issued := consistent.issued key id before
      omega
    · omega

def granted (params : Params) (self : BgTransientTaskMgr) : Env × Op → Bool
  | (env, .requestSuspendDelay uid pid callback) =>
      (self.requestSuspendDelay params env uid pid callback).1 = .ok
  | _ => false

theorem requestSuspendDelayLocked_spec (params : Params) (env : Env) (name : String)
    (uid pid : Int) (remote : Remote) (self : BgTransientTaskMgr)
    (unwrapped : (self.requestSuspendDelayLocked params env name uid pid remote).1 = .ok →
      self.decisionMaker.requestId ≠ intMax) (consistent : Consistent self) :
    Consistent (self.requestSuspendDelayLocked params env name uid pid remote).2 ∧
      (self.requestSuspendDelayLocked params env name uid pid remote).2.decisionMaker.requestId =
        self.decisionMaker.requestId +
          if (self.requestSuspendDelayLocked params env name uid pid remote).1 = .ok
            then 1 else 0 := by
  have spec := DecisionMaker.decide_spec params env self.decisionMaker ⟨name, uid, pid⟩
    { pid := pid }
  have bounded := DecisionMaker.forallPkg_decide (bounded_closed params env)
    ⟨name, uid, pid⟩ (show ({ pid := pid } : DelaySuspendInfoEx).baseTime = 0 from rfl)
    consistent.bounded
  unfold requestSuspendDelayLocked at unwrapped ⊢
  split
  · exact ⟨consistent, by simp⟩
  · rename_i unused
    rw [if_neg unused] at unwrapped
    dsimp only at unwrapped ⊢
    split
    · rename_i passed
      rw [if_pos passed] at unwrapped
      obtain ⟨given, next, here, there⟩ := spec.granted passed
      have id_eq : (self.decisionMaker.decide params env ⟨name, uid, pid⟩
          { pid := pid }).2.1.requestId = self.decisionMaker.requestId := by
        rw [given, DecisionMaker.newDelaySuspendRequestId, if_neg (unwrapped rfl)]
      rw [id_eq] at next here
      have free : ∀ id, self.expiredCallbackMap.lookup id ≠ some remote := by
        intro id found
        refine unused (List.find?_isSome.mpr ⟨⟨id, remote⟩, ?_, by simp⟩)
        exact KeyedMap.mem_entries_iff.mpr found
      refine ⟨consistent_of_granted consistent free next here there ?_ ?_ bounded, ?_⟩
      · simp only [id_eq]
      · simp only [id_eq]
      · simpa using next
    · rename_i failed
      have same := spec.refused failed
      exact ⟨consistent_of_same consistent rfl rfl same bounded, by simp [same.generator]⟩

theorem requestSuspendDelay_spec (params : Params) (env : Env) (uid pid : Int)
    (callback : ExpiredCallback) (self : BgTransientTaskMgr)
    (unwrapped : (self.requestSuspendDelay params env uid pid callback).1 = .ok →
      self.decisionMaker.requestId ≠ intMax) (consistent : Consistent self) :
    Consistent (self.requestSuspendDelay params env uid pid callback).2 ∧
      (self.requestSuspendDelay params env uid pid callback).2.decisionMaker.requestId =
        self.decisionMaker.requestId +
          if (self.requestSuspendDelay params env uid pid callback).1 = .ok then 1 else 0 := by
  unfold requestSuspendDelay at unwrapped ⊢
  split
  · exact ⟨consistent, by simp⟩
  · rename_i ready
    rw [if_neg ready] at unwrapped
    split
    · rename_i ret illegal
      refine ⟨consistent, ?_⟩
      have failed : ret ≠ .ok := by
        rintro rfl
        unfold isCallingInfoLegal at illegal
        split at illegal
        · cases illegal
        · split at illegal <;> cases illegal
      simp [failed]
    · rename_i name remote legal
      rw [legal] at unwrapped
      exact requestSuspendDelayLocked_spec params env name uid pid remote self unwrapped consistent

/-! ## Every step, every run -/

theorem Keeps.step {before after : BgTransientTaskMgr} (keeps : Keeps before after)
    (consistent : Consistent before) : Consistent after ∧
      after.decisionMaker.requestId = before.decisionMaker.requestId +
        if false = true then 1 else 0 :=
  ⟨keeps.1 consistent, by simp [keeps.2]⟩

/-- Only `RequestSuspendDelay` hands out ids. -/
theorem keeps_step (params : Params) (env : Env) (self : BgTransientTaskMgr) (op : Op)
    (other : ∀ uid pid callback, op ≠ .requestSuspendDelay uid pid callback) :
    Keeps self (self.step params (env, op)) := by
  have whenReady : ∀ {after : BgTransientTaskMgr}, Keeps self after →
      Keeps self (if self.isReady then after else self) := by
    intro after keeps
    split
    · exact keeps
    · exact Keeps.refl self
  cases op with
  | initNecessaryState servicesUp =>
      simp only [step]
      split
      · exact keeps_of_reaches params env rfl rfl .refl
      · exact Keeps.refl self
  | requestSuspendDelay uid pid callback => exact absurd rfl (other uid pid callback)
  | cancelSuspendDelay uid pid requestId =>
      exact keeps_cancelSuspendDelay params env uid pid requestId
  | watchdogEvent requestId =>
      have popped : Keeps self { self with watchdog := self.watchdog.erase requestId } :=
        keeps_of_reaches params env rfl rfl .refl
      exact popped.trans (keeps_forceCancelSuspendDelay params env requestId)
  | expiredCallbackDeath remote =>
      exact keeps_handleExpiredCallbackDeath params env remote
  | timerEvent requestId =>
      have popped : Keeps self { self with
          decisionMaker := { self.decisionMaker with
            timerManager := ⟨self.decisionMaker.timerManager.events.eraseP
              (fun event => event.1 = requestId)⟩ } } :=
        keeps_of_reaches params env rfl rfl (DecisionMaker.reaches_frame rfl rfl rfl)
      exact popped.trans (keeps_handleRequestExpired requestId)
  | appCacheStateChanged uid pid bundleName =>
      simp only [step, onAppCacheStateChanged]
      split
      · exact Keeps.refl self
      · split
        · exact Keeps.refl self
        · split
          · exact Keeps.refl self
          · exact keeps_of_reaches params env rfl rfl .refl
  | appCacheLocked index =>
      simp only [step]
      split
      · exact Keeps.refl self
      · have popped : Keeps self { self with
            cacheSnapshots := self.cacheSnapshots.eraseIdx index } :=
          keeps_of_reaches params env rfl rfl .refl
        exact popped.trans (keeps_cancelSnapshot params env _)
  | getAllTransientTasks uid pid =>
      simp only [step, getAllTransientTasks]
      split
      · exact Keeps.refl self
      · split
        · exact Keeps.refl self
        · split
          · exact Keeps.refl self
          · exact keeps_of_reaches params env rfl rfl (DecisionMaker.reaches_getQuota _)
  | dumpAllRequestId =>
      simp only [step]
      refine whenReady (keeps_of_reaches params env rfl rfl ?_)
      exact DecisionMaker.reaches_foldl _ (fun _ _ => DecisionMaker.reaches_getQuota _) _
  | pause uid =>
      simp only [step, pauseTransientTaskTimeForInner]
      split
      · exact Keeps.refl self
      · split
        · exact Keeps.refl self
        · split
          · exact Keeps.refl self
          · split
            · exact Keeps.refl self
            · split <;> exact keeps_of_reaches params env rfl rfl
                (DecisionMaker.reaches_pauseTransientTaskTimeForInner uid _)
  | start uid =>
      simp only [step, startTransientTaskTimeForInner]
      split
      · exact Keeps.refl self
      · split
        · exact Keeps.refl self
        · split
          · exact Keeps.refl self
          · split
            · exact Keeps.refl self
            · split <;> exact keeps_of_reaches params env rfl rfl
                (DecisionMaker.reaches_startTransientTaskTimeForInner uid _)
  | suspendManagerDie =>
      simp only [step]
      refine whenReady (keeps_of_reaches params env rfl rfl ?_)
      refine DecisionMaker.reaches_foldl _ (fun decision uid => ?_) _
      unfold restartUid
      split
      · exact .refl
      · exact DecisionMaker.reaches_startTransientTaskTimeForInner uid _
  | processStateChanged processData =>
      simp only [step]
      exact whenReady (keeps_of_reaches params env rfl rfl
        (DecisionMaker.reaches_onProcessStateChanged processData))
  | processDied processData =>
      simp only [step]
      exact whenReady (keeps_of_reaches params env rfl rfl
        (DecisionMaker.reaches_onProcessDied processData))
  | inputEvent event stringArg =>
      simp only [step]
      exact whenReady (keeps_of_reaches params env rfl rfl
        (DecisionMaker.reaches_onInputEvent _ event stringArg))
  | setDump isDump =>
      simp only [step]
      exact whenReady (keeps_of_reaches params env rfl rfl
        (DecisionMaker.reaches_frame rfl rfl rfl))

theorem step_keeps_consistent (params : Params) (self : BgTransientTaskMgr) (label : Env × Op)
    (unwrapped : granted params self label = true → self.decisionMaker.requestId ≠ intMax)
    (consistent : Consistent self) :
    Consistent (self.step params label) ∧
      (self.step params label).decisionMaker.requestId = self.decisionMaker.requestId +
        if granted params self label then 1 else 0 := by
  obtain ⟨env, op⟩ := label
  by_cases request : ∃ uid pid callback, op = .requestSuspendDelay uid pid callback
  · obtain ⟨uid, pid, callback, rfl⟩ := request
    have unwrappedRequest : (self.requestSuspendDelay params env uid pid callback).1 = .ok →
        self.decisionMaker.requestId ≠ intMax := by
      intro passed
      exact unwrapped (by simpa [granted] using passed)
    simpa [granted, step] using
      requestSuspendDelay_spec params env uid pid callback self unwrappedRequest consistent
  · have other : ∀ uid pid callback, op ≠ .requestSuspendDelay uid pid callback :=
      fun uid pid callback same => request ⟨uid, pid, callback, same⟩
    have grantsNothing : granted params self (env, op) = false := by
      cases op with
      | requestSuspendDelay uid pid callback => exact absurd rfl (other uid pid callback)
      | _ => rfl
    rw [grantsNothing]
    exact (keeps_step params env self op other).step consistent

/-- From a consistent state, a run that does not exhaust the id generator ends in a
consistent state. -/
theorem run_keeps_consistent (params : Params) (labels : List (Env × Op))
    (self : BgTransientTaskMgr) (consistent : Consistent self)
    (enough : self.decisionMaker.requestId +
      count (step params) (granted params) self labels ≤ intMax) :
    Consistent (run (step params) self labels) := by
  induction labels generalizing self with
  | nil => exact consistent
  | cons label rest ih =>
      have counted : count (step params) (granted params) self (label :: rest) =
          (if granted params self label then 1 else 0) +
            count (step params) (granted params) (self.step params label) rest := rfl
      have unwrapped : granted params self label = true →
          self.decisionMaker.requestId ≠ intMax := by
        intro grants
        rw [counted, if_pos grants] at enough
        omega
      obtain ⟨next, advanced⟩ := step_keeps_consistent params self label unwrapped consistent
      refine ih (self.step params label) next ?_
      rw [advanced]
      rw [counted] at enough
      by_cases grants : granted params self label = true
      · rw [if_pos grants] at enough ⊢
        push_cast at enough
        omega
      · rw [if_neg grants] at enough ⊢
        push_cast at enough
        omega

theorem mem_allRequestIds {decision : DecisionMaker} {id : Int} :
    id ∈ decision.allRequestIds ↔ ∃ key, id ∈ decision.requestIds key := by
  unfold DecisionMaker.allRequestIds DecisionMaker.requestIds
  rw [List.mem_flatMap]
  constructor
  · rintro ⟨pkgInfo, stored, member⟩
    obtain ⟨key, found⟩ := KeyedMap.mem_vals.mp stored
    exact ⟨key, by simpa [found] using member⟩
  · rintro ⟨key, member⟩
    cases found : decision.pkgDelaySuspendInfoMap.lookup key with
    | none => simp [found] at member
    | some pkgInfo =>
        exact ⟨pkgInfo, KeyedMap.mem_vals.mpr ⟨key, found⟩, by simpa [found] using member⟩

/-- No id occurs twice: not within a list, and not in two lists since its key
information names one package. -/
theorem allRequestIds_nodup {self : BgTransientTaskMgr} (consistent : Consistent self) :
    self.decisionMaker.allRequestIds.Nodup := by
  have idsOf : ∀ e ∈ self.decisionMaker.pkgDelaySuspendInfoMap.entries,
      self.decisionMaker.requestIds e.1 = e.2.requestIds := by
    intro e member
    have found := KeyedMap.mem_entries_iff.mp member
    simp [DecisionMaker.requestIds, found]
  unfold DecisionMaker.allRequestIds KeyedMap.vals
  rw [List.flatMap_map, List.nodup_flatMap]
  refine ⟨fun e member => ?_, ?_⟩
  · rw [← idsOf e member]
    exact consistent.nodup e.1
  · have apart := List.nodupKeys_iff_pairwise.mp
      self.decisionMaker.pkgDelaySuspendInfoMap.nodupKeys
    refine apart.imp_of_mem (fun {e f} eMember fMember differ => ?_)
    intro id inFirst inSecond
    obtain ⟨owner, ownerFound, ownerKey⟩ := consistent.recorded e.1 id (by
      rw [idsOf e eMember]
      exact inFirst)
    obtain ⟨other, otherFound, otherKey⟩ := consistent.recorded f.1 id (by
      rw [idsOf f fMember]
      exact inSecond)
    rw [ownerFound] at otherFound
    cases Option.some.inj otherFound
    exact differ (ownerKey.symm.trans otherKey)

/-- Along every run with fewer than `2 ^ 31 - 2` grants, the two maps of the manager
and the request lists of the decision maker hold the same ids, each id once and under
the package its key information names; no two callbacks share a remote object and no
list is longer than `MAX_REQUEST_ID`. -/
theorem store_consistent (params : Params) (labels : List (Env × Op))
    (few : count (step params) (granted params) {} labels < 2 ^ 31 - 2) :
    let mgr := run (step params) {} labels
    (∀ id, id ∈ mgr.keyInfoMap ↔ id ∈ mgr.expiredCallbackMap) ∧
      (∀ id, id ∈ mgr.keyInfoMap ↔ id ∈ mgr.decisionMaker.allRequestIds) ∧
      mgr.decisionMaker.allRequestIds.Nodup ∧
      (∀ id keyInfo, mgr.keyInfoMap.lookup id = some keyInfo →
        ∃ pkgInfo, mgr.decisionMaker.pkgDelaySuspendInfoMap.lookup
          (keyInfo.pkg, keyInfo.uid) = some pkgInfo ∧ id ∈ pkgInfo.requestIds) ∧
      (∀ i j remote, mgr.expiredCallbackMap.lookup i = some remote →
        mgr.expiredCallbackMap.lookup j = some remote → i = j) ∧
      ∀ key pkgInfo, mgr.decisionMaker.pkgDelaySuspendInfoMap.lookup key = some pkgInfo →
        pkgInfo.requestList.length ≤ maxRequestId := by
  intro mgr
  have consistent : Consistent mgr := by
    refine run_keeps_consistent params labels {} consistent_initial ?_
    simp only [intMax]
    omega
  refine ⟨consistent.sameKeys, ?_, allRequestIds_nodup consistent, ?_, consistent.distinctRemotes,
    consistent.bounded⟩
  · intro id
    rw [KeyedMap.mem_iff_lookup, mem_allRequestIds]
    constructor
    · rintro ⟨keyInfo, found⟩
      exact ⟨keyInfo.mapKey, consistent.owned id keyInfo found⟩
    · rintro ⟨key, member⟩
      obtain ⟨keyInfo, found, _⟩ := consistent.recorded key id member
      exact ⟨keyInfo, found⟩
  · intro id keyInfo found
    have member := consistent.owned id keyInfo found
    unfold DecisionMaker.requestIds at member
    cases stored : mgr.decisionMaker.pkgDelaySuspendInfoMap.lookup keyInfo.mapKey with
    | none => simp [stored] at member
    | some pkgInfo => exact ⟨pkgInfo, stored, by simpa [stored] using member⟩

/-- Two requests of one package; the first is cancelled after the app-cache change
read it and before that change takes the lock. -/
def staleSnapshotLabels : List (Env × Op) :=
  [(quietEnv 500, .initNecessaryState true),
    (quietEnv 1000, .requestSuspendDelay 100 7 (.of 1)),
    (quietEnv 1000, .requestSuspendDelay 100 7 (.of 2)),
    (quietEnv 1100, .appCacheStateChanged 100 7 "app"),
    (quietEnv 1200, .cancelSuspendDelay 100 7 1),
    (quietEnv 1300, .requestSuspendDelay 100 7 (.of 3)),
    (quietEnv 1400, .appCacheLocked 0)]

theorem store_consistent_stale_snapshot :
    count (step {}) (granted {}) {} staleSnapshotLabels = 3 ∧
      (run (step {}) {} staleSnapshotLabels).keyInfoMap.keys = [3] ∧
      (run (step {}) {} staleSnapshotLabels).decisionMaker.allRequestIds.Nodup :=
  ⟨by decide, by decide, (store_consistent {} staleSnapshotLabels (by decide)).2.2.1⟩

end BgTransientTaskMgr

end BgTaskMgr.Transient
