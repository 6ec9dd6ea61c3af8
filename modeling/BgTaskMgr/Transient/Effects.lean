import BgTaskMgr.Transient.Requests

/-!
# What a step of the transient task manager does to requests

`RequestEffect` says once what each operation makes of the request lists, of the ids the
manager holds, of the paused uids and of the device state; the rules on accounting are
proved from it.
-/

set_option autoImplicit false

namespace BgTaskMgr.Transient

open DecisionMaker

namespace BgTransientTaskMgr

def requestsAt (self : BgTransientTaskMgr) (key : String × Int) : List DelaySuspendInfoEx :=
  self.decisionMaker.requestsAt key

def Holds (self : BgTransientTaskMgr) (key : String × Int) (requestId : Int) : Prop :=
  (self.keyInfoMap.lookup requestId).map KeyInfo.mapKey = some key

instance (self : BgTransientTaskMgr) (key : String × Int) (requestId : Int) :
    Decidable (self.Holds key requestId) :=
  inferInstanceAs (Decidable (_ = _))

/-- The request is stored under the key, and the manager holds its id for it. -/
def LiveAt (self : BgTransientTaskMgr) (key : String × Int) (info : DelaySuspendInfoEx) : Prop :=
  info ∈ self.requestsAt key ∧ self.Holds key info.requestId

structure SameSetting (before after : BgTransientTaskMgr) : Prop where
  keyInfoMap : after.keyInfoMap = before.keyInfoMap
  transientPauseUid : after.transientPauseUid = before.transientPauseUid
  device : SameDevice before.decisionMaker after.decisionMaker

theorem SameSetting.refl (self : BgTransientTaskMgr) : SameSetting self self :=
  ⟨rfl, rfl, SameDevice.refl _⟩

/-- One request is removed: the first with the id under the key the manager holds it for. -/
structure Removal (now : Int) (before after : BgTransientTaskMgr) : Prop where
  device : SameDevice before.decisionMaker after.decisionMaker
  transientPauseUid : after.transientPauseUid = before.transientPauseUid
  gone : ∃ requestId, (∀ id, after.keyInfoMap.lookup id =
      if id = requestId then none else before.keyInfoMap.lookup id) ∧ ∀ a,
    after.requestsAt a = if before.Holds a requestId then
      removedList now requestId (before.requestsAt a) else before.requestsAt a

inductive RequestEffect (env : Env) (s : BgTransientTaskMgr) : Op → BgTransientTaskMgr → Prop where
  | unmoved {op : Op} {after : BgTransientTaskMgr} (setting : SameSetting s after)
      (requests : ∀ a, after.requestsAt a = s.requestsAt a) : RequestEffect env s op after
  | granted {uid pid : Int} {callback : ExpiredCallback} {after : BgTransientTaskMgr}
      {name : String} {requestId : Int} {info : DelaySuspendInfoEx}
      (lookup : env.bundleNameForUid uid = some name)
      (id : requestId = s.decisionMaker.newDelaySuspendRequestId.1)
      (isNew : IsNew pid requestId info)
      (keyInfoMap : after.keyInfoMap = s.keyInfoMap.insert requestId ⟨name, uid, pid⟩)
      (transientPauseUid : after.transientPauseUid = s.transientPauseUid)
      (device : SameDevice s.decisionMaker after.decisionMaker)
      (requests : ∀ a, after.requestsAt a = if a = (name, uid) then
          if s.decisionMaker.mayAccount uid then
            startedList env.now requestId (s.requestsAt a ++ [info])
          else s.requestsAt a ++ [info]
        else s.requestsAt a) :
      RequestEffect env s (.requestSuspendDelay uid pid callback) after
  | removed {op : Op} {middle after : BgTransientTaskMgr} (setting : SameSetting s middle)
      (requests : ∀ a, middle.requestsAt a = s.requestsAt a)
      (chain : Relation.ReflTransGen (Removal env.now) middle after) : RequestEffect env s op after
  | paused {uid : Int} {after : BgTransientTaskMgr} {name : String}
      (lookup : env.bundleNameForUid uid = some name)
      (background : s.decisionMaker.isUidForeground uid = false)
      (keyInfoMap : after.keyInfoMap = s.keyInfoMap)
      (transientPauseUid : after.transientPauseUid = insert uid s.transientPauseUid)
      (device : SameDevice s.decisionMaker after.decisionMaker)
      (requests : ∀ a, after.requestsAt a =
        if a = (name, uid) then stoppedList env.now (s.requestsAt a) else s.requestsAt a) :
      RequestEffect env s (.pause uid) after
  | resumed {uid : Int} {after : BgTransientTaskMgr} {name : String}
      (lookup : env.bundleNameForUid uid = some name)
      (background : s.decisionMaker.isUidForeground uid = false)
      (keyInfoMap : after.keyInfoMap = s.keyInfoMap)
      (transientPauseUid : after.transientPauseUid = s.transientPauseUid.erase uid)
      (device : SameDevice s.decisionMaker after.decisionMaker)
      (requests : ∀ a, after.requestsAt a =
        if a = (name, uid) then startedList env.now (-1) (s.requestsAt a) else s.requestsAt a) :
      RequestEffect env s (.start uid) after
  | managerDied {after : BgTransientTaskMgr}
      (keyInfoMap : after.keyInfoMap = s.keyInfoMap)
      (transientPauseUid : after.transientPauseUid = ∅)
      (device : SameDevice s.decisionMaker after.decisionMaker)
      (requests : ∀ a, after.requestsAt a =
        if a.2 ∈ s.transientPauseUid ∧ env.bundleNameForUid a.2 = some a.1 ∧
            s.decisionMaker.isUidForeground a.2 = false then
          startedList env.now (-1) (s.requestsAt a)
        else s.requestsAt a) :
      RequestEffect env s .suspendManagerDie after
  | entered {processData : ProcessData} {after : BgTransientTaskMgr}
      (state : processData.state = .foreground ∨ processData.state = .focus)
      (keyInfoMap : after.keyInfoMap = s.keyInfoMap)
      (transientPauseUid : after.transientPauseUid = s.transientPauseUid)
      (device : SameDevice (s.decisionMaker.updateForegroundUidPidMap processData.uid
        processData.pid true) after.decisionMaker)
      (requests : ∀ a, after.requestsAt a =
        if a = (processData.bundleName, processData.uid) then
          stoppedList env.now (s.requestsAt a)
        else s.requestsAt a) :
      RequestEffect env s (.processStateChanged processData) after
  | left {op : Op} {processData : ProcessData} {after : BgTransientTaskMgr}
      (event : op = .processStateChanged processData ∧ processData.state = .background ∨
        op = .processDied processData)
      (keyInfoMap : after.keyInfoMap = s.keyInfoMap)
      (transientPauseUid : after.transientPauseUid = s.transientPauseUid)
      (device : SameDevice (s.decisionMaker.updateForegroundUidPidMap processData.uid
        processData.pid false) after.decisionMaker)
      (requests : ∀ a, after.requestsAt a =
        if a = (processData.bundleName, processData.uid) ∧
            (s.decisionMaker.updateForegroundUidPidMap processData.uid processData.pid
              false).mayAccount processData.uid = true then
          startedList env.now (-1) (s.requestsAt a)
        else s.requestsAt a) :
      RequestEffect env s op after
  /-- A process takes a state that is neither in front nor in the background. -/
  | drifted {processData : ProcessData} {after : BgTransientTaskMgr}
      (state : processData.state = .other) (keyInfoMap : after.keyInfoMap = s.keyInfoMap)
      (transientPauseUid : after.transientPauseUid = s.transientPauseUid)
      (device : SameDevice (s.decisionMaker.updateForegroundUidPidMap processData.uid
        processData.pid false) after.decisionMaker)
      (requests : ∀ a, after.requestsAt a = s.requestsAt a) :
      RequestEffect env s (.processStateChanged processData) after
  | input {event : EventId} {stringArg : String} {after : BgTransientTaskMgr}
      (keyInfoMap : after.keyInfoMap = s.keyInfoMap)
      (transientPauseUid : after.transientPauseUid = s.transientPauseUid)
      (device : SameDevice { s.decisionMaker with
        deviceInfoManager := s.decisionMaker.deviceInfoManager.onInputEvent event stringArg }
        after.decisionMaker)
      (requests : ∀ a, after.requestsAt a = match event with
        | .screenOn =>
            if a ∈ env.foregroundApplications.getD [] then stoppedList env.now (s.requestsAt a)
            else s.requestsAt a
        | .screenOff =>
            if a.2 ∉ s.transientPauseUid ∧ after.decisionMaker.mayAccount a.2 = true then
              startedList env.now (-1) (s.requestsAt a)
            else s.requestsAt a
        | _ => s.requestsAt a) :
      RequestEffect env s (.inputEvent event stringArg) after
  | dumpSet {isDump : Bool} {after : BgTransientTaskMgr}
      (keyInfoMap : after.keyInfoMap = s.keyInfoMap)
      (transientPauseUid : after.transientPauseUid = s.transientPauseUid)
      (foreground : after.decisionMaker.foregroundUidPidMap = s.decisionMaker.foregroundUidPidMap)
      (screen : after.decisionMaker.deviceInfoManager.isScreenOn =
        s.decisionMaker.deviceInfoManager.isScreenOn)
      (requests : ∀ a, after.requestsAt a = s.requestsAt a) :
      RequestEffect env s (.setDump isDump) after

section

variable (params : Params) (env : Env) {s : BgTransientTaskMgr}

theorem holds_iff {requestId : Int} {keyInfo : KeyInfo}
    (held : s.keyInfoMap.lookup requestId = some keyInfo) (a : String × Int) :
    s.Holds a requestId ↔ a = keyInfo.mapKey := by
  unfold Holds
  rw [held]
  simp [eq_comm]

theorem not_holds {requestId : Int} (missing : s.keyInfoMap.lookup requestId = none)
    (a : String × Int) : ¬ s.Holds a requestId := by
  unfold Holds
  rw [missing]
  simp

theorem lookup_of_legal {env : Env} {uid pid : Int} {callback : ExpiredCallback} {name : String}
    {remote : Remote} (legal : isCallingInfoLegal env uid pid callback = .ok (name, remote)) :
    env.bundleNameForUid uid = some name := by
  unfold isCallingInfoLegal at legal
  split at legal
  · exact absurd legal (by simp)
  split at legal
  · exact absurd legal (by simp)
  · exact absurd legal (by simp)
  · exact absurd legal (by simp)
  · rename_i answer
    simp only [Except.ok.injEq, Prod.mk.injEq] at legal
    rw [answer, legal.1]

theorem effect_requestSuspendDelay (uids : s.decisionMaker.UidsMatch) (uid pid : Int)
    (callback : ExpiredCallback) :
    RequestEffect env s (.requestSuspendDelay uid pid callback)
      (s.requestSuspendDelay params env uid pid callback).2 := by
  unfold requestSuspendDelay
  split
  · exact .unmoved (SameSetting.refl s) (fun _ => rfl)
  split
  · exact .unmoved (SameSetting.refl s) (fun _ => rfl)
  rename_i name remote legal
  have lookup := lookup_of_legal legal
  unfold requestSuspendDelayLocked
  split
  · exact .unmoved (SameSetting.refl s) (fun _ => rfl)
  have decided := decideRequests_decide params env s.decisionMaker ⟨name, uid, pid⟩ uids
  dsimp only
  split
  · rename_i ok
    obtain ⟨id, info, isNew, requests⟩ := decided.granted ok
    refine .granted lookup id (id ▸ isNew) rfl rfl decided.device ?_
    intro a
    rw [id]
    exact requests a
  · rename_i failed
    exact .unmoved ⟨rfl, rfl, decided.device⟩ (decided.refused failed)

/-- What `RemoveRequest` makes of the requests, for the key the manager holds the id for. -/
theorem requestsAt_removeHeld (requestId : Int) (a : String × Int) :
    (s.decisionMaker.removeRequest params env (s.keyInfoMap.lookup requestId)
      requestId).requestsAt a = if s.Holds a requestId then
        removedList env.now requestId (s.requestsAt a) else s.requestsAt a := by
  cases held : s.keyInfoMap.lookup requestId with
  | none =>
      rw [if_neg (not_holds held a)]
      rfl
  | some keyInfo =>
      rw [requestsAt_removeRequest]
      exact if_congr (holds_iff held a).symm rfl rfl

theorem removal_cancelSuspendDelayLocked (requestId : Int) :
    Removal env.now s (s.cancelSuspendDelayLocked params env requestId).2 := by
  have requests := requestsAt_removeHeld params env (s := s) requestId
  have device := sameDevice_removeRequest params env s.decisionMaker
    (s.keyInfoMap.lookup requestId) requestId
  have ids := KeyedMap.lookup_erase s.keyInfoMap requestId
  unfold cancelSuspendDelayLocked
  dsimp only
  split
  · exact ⟨device, rfl, requestId, ids, requests⟩
  · exact ⟨device, rfl, requestId, ids, requests⟩

theorem removal_handleExpiredCallbackDeath (remote : Remote) :
    Relation.ReflTransGen (Removal env.now) s
      (s.handleExpiredCallbackDeath params env remote) := by
  unfold handleExpiredCallbackDeath
  split
  · exact .refl
  · rename_i callback found
    have requests := requestsAt_removeHeld params env (s := s) callback.1
    dsimp only
    split
    · rename_i missing
      have absent : s.keyInfoMap.lookup callback.1 = none := missing
      refine .single ⟨SameDevice.refl _, rfl, callback.1, ?_, ?_⟩
      · intro id
        split
        · rename_i here
          rw [here]
          exact absent
        · rfl
      · intro a
        rw [if_neg (not_holds absent a)]
        rfl
    · rename_i keyInfo held
      have lookup : s.keyInfoMap.lookup callback.1 = some keyInfo := held
      rw [lookup] at requests
      refine .single ⟨?_, rfl, callback.1, KeyedMap.lookup_erase s.keyInfoMap callback.1, requests⟩
      exact sameDevice_removeRequest params env s.decisionMaker (some keyInfo) callback.1

theorem effect_pause (uid : Int) :
    RequestEffect env s (.pause uid) (s.pauseTransientTaskTimeForInner params env uid).2 := by
  unfold pauseTransientTaskTimeForInner
  split
  · exact .unmoved (SameSetting.refl s) (fun _ => rfl)
  split
  · exact .unmoved (SameSetting.refl s) (fun _ => rfl)
  split
  · exact .unmoved (SameSetting.refl s) (fun _ => rfl)
  split
  · exact .unmoved (SameSetting.refl s) (fun _ => rfl)
  rename_i name lookup
  dsimp only
  rcases s.decisionMaker.pauseTransientTaskTimeForInner_cases params env uid name with
    ⟨ok, background, stopped⟩ | ⟨failed, unchanged⟩
  · rw [if_pos ok, stopped]
    have device := sameDevice_updatePkg s.decisionMaker (name, uid) (fun timers pkgInfo =>
      pkgInfo.stopAccountingAll params env.config env.now timers)
    exact .paused lookup background rfl rfl device
      (requestsAt_stopAccountingAll params env s.decisionMaker (name, uid))
  · rw [if_neg failed, unchanged]
    exact .unmoved (SameSetting.refl s) (fun _ => rfl)

theorem effect_start (uids : s.decisionMaker.UidsMatch) (uid : Int) :
    RequestEffect env s (.start uid) (s.startTransientTaskTimeForInner params env uid).2 := by
  unfold startTransientTaskTimeForInner
  split
  · exact .unmoved (SameSetting.refl s) (fun _ => rfl)
  split
  · exact .unmoved (SameSetting.refl s) (fun _ => rfl)
  split
  · exact .unmoved (SameSetting.refl s) (fun _ => rfl)
  split
  · exact .unmoved (SameSetting.refl s) (fun _ => rfl)
  rename_i name lookup
  have device := sameDevice_startTransientTaskTimeForInner params env s.decisionMaker uid name
  have requests := requestsAt_startTransientTaskTimeForInner params env s.decisionMaker uids uid
    name
  dsimp only
  cases foreground : s.decisionMaker.isUidForeground uid with
  | true =>
      have refused : s.decisionMaker.startTransientTaskTimeForInner params env uid name =
          (.foreground, s.decisionMaker) := by
        unfold DecisionMaker.startTransientTaskTimeForInner
        rw [if_pos foreground]
      rw [refused]
      exact .unmoved (SameSetting.refl s) (fun _ => rfl)
  | false =>
      rw [foreground] at requests
      split
      · refine .resumed lookup foreground rfl rfl device ?_
        intro a
        exact (requests a).trans (if_congr (by simp) rfl rfl)
      · rename_i failed
        -- only a package that is not there is refused in the background
        have missing : s.decisionMaker.pkgDelaySuspendInfoMap.lookup (name, uid) = none := by
          unfold DecisionMaker.startTransientTaskTimeForInner tryStartAccounting at failed
          rw [if_neg (by simp [foreground])] at failed
          split at failed
          · assumption
          · rename_i pkgInfo found
            have may : s.decisionMaker.canStartAccountingLocked pkgInfo = true := by
              rw [canStartAccountingLocked_of_lookup s.decisionMaker uids found]
              simp [mayAccount, foreground]
            rw [if_pos may] at failed
            exact absurd rfl failed
        refine .unmoved ⟨rfl, rfl, device⟩ ?_
        intro a
        refine (requests a).trans ?_
        split
        · rename_i here
          show _ = s.decisionMaker.requestsAt a
          rw [here.1, s.decisionMaker.requestsAt_of_none missing]
          rfl
        · rfl

theorem uidsMatch_tryStartAccounting {decision : DecisionMaker} (uids : decision.UidsMatch)
    (uid : Int) (name : String) : (decision.tryStartAccounting params env uid name).2.UidsMatch := by
  unfold tryStartAccounting
  split
  · exact uids
  split
  · exact uidsMatch_updatePkg decision uids (name, uid) _
      (startAccounting_uid params env.config env.now (-1))
  · exact uids

theorem uidsMatch_restartUid {decision : DecisionMaker} (uids : decision.UidsMatch) (uid : Int) :
    (restartUid params env decision uid).UidsMatch := by
  unfold restartUid
  split
  · exact uids
  · unfold DecisionMaker.startTransientTaskTimeForInner
    split
    · exact uids
    · exact uidsMatch_tryStartAccounting params env uids uid _

theorem requestsAt_foldl_restartUid (paused : List Int) (distinct : paused.Nodup)
    {decision : DecisionMaker} (uids : decision.UidsMatch) (a : String × Int) :
    SameDevice decision (paused.foldl (restartUid params env) decision) ∧
      (paused.foldl (restartUid params env) decision).requestsAt a =
        if a.2 ∈ paused ∧ env.bundleNameForUid a.2 = some a.1 ∧
            decision.isUidForeground a.2 = false then
          startedList env.now (-1) (decision.requestsAt a)
        else decision.requestsAt a := by
  induction paused generalizing decision with
  | nil => exact ⟨SameDevice.refl _, by simp⟩
  | cons uid rest ih =>
      obtain ⟨fresh, distinctRest⟩ := List.nodup_cons.mp distinct
      have one : SameDevice decision (restartUid params env decision uid) ∧
          (restartUid params env decision uid).requestsAt a =
            if a.2 = uid ∧ env.bundleNameForUid uid = some a.1 ∧
                decision.isUidForeground uid = false then
              startedList env.now (-1) (decision.requestsAt a)
            else decision.requestsAt a := by
        unfold restartUid
        split
        · rename_i unknown
          exact ⟨SameDevice.refl _, by simp [unknown]⟩
        · rename_i name known
          refine ⟨sameDevice_startTransientTaskTimeForInner params env decision uid name, ?_⟩
          rw [requestsAt_startTransientTaskTimeForInner params env decision uids uid name a]
          refine if_congr ?_ rfl rfl
          rw [known, Option.some.injEq, Prod.ext_iff]
          constructor
          · rintro ⟨⟨sameName, sameUid⟩, background⟩
            exact ⟨sameUid, sameName.symm, background⟩
          · rintro ⟨sameUid, sameName, background⟩
            exact ⟨⟨sameName.symm, sameUid⟩, background⟩
      obtain ⟨device, requests⟩ := one
      obtain ⟨laterDevice, later⟩ := ih distinctRest (uidsMatch_restartUid params env uids uid)
      refine ⟨device.trans laterDevice, ?_⟩
      rw [List.foldl_cons, later, requests, device.isUidForeground]
      by_cases here : a.2 = uid
      · rw [if_neg (fun both => fresh (here ▸ both.1))]
        simp [here]
      · simp [here]

theorem effect_suspendManagerDie (uids : s.decisionMaker.UidsMatch) :
    RequestEffect env s .suspendManagerDie (s.handleSuspendManagerDie params env) := by
  have loop := fun a => requestsAt_foldl_restartUid params env
    (s.transientPauseUid.sort (· ≤ ·)) (s.transientPauseUid.sort_nodup _) uids a
  refine .managerDied rfl rfl (loop ("", 0)).1 ?_
  intro a
  exact (loop a).2.trans (if_congr (by rw [Finset.mem_sort]) rfl rfl)

theorem effect_processStateChanged (uids : s.decisionMaker.UidsMatch) (processData : ProcessData) :
    RequestEffect env s (.processStateChanged processData)
      { s with
        decisionMaker := s.decisionMaker.onProcessStateChanged params env processData } := by
  have moved := uidsMatch_updateForegroundUidPidMap s.decisionMaker uids processData.uid
    processData.pid
  have requests := requestsAt_updateForegroundUidPidMap s.decisionMaker processData.uid
    processData.pid
  have change := fun isForeground isBackground => requestsAt_handleStateChange params env
    (s.decisionMaker.updateForegroundUidPidMap processData.uid processData.pid isForeground)
    (moved isForeground) processData.bundleName processData.uid isForeground isBackground
  have device := fun isForeground isBackground => sameDevice_handleStateChange params env
    (s.decisionMaker.updateForegroundUidPidMap processData.uid processData.pid isForeground)
    processData.bundleName processData.uid isForeground isBackground
  have front : ∀ state, processData.state = state → (state = .foreground ∨ state = .focus) →
      RequestEffect env s (.processStateChanged processData)
        { s with
          decisionMaker := s.decisionMaker.onProcessStateChanged params env processData } := by
    intro state isState isFront
    have step : s.decisionMaker.onProcessStateChanged params env processData =
        (s.decisionMaker.updateForegroundUidPidMap processData.uid processData.pid
          true).handleStateChange params env processData.bundleName processData.uid true false := by
      unfold onProcessStateChanged
      rw [isState]
      rcases isFront with rfl | rfl
      · rfl
      · rfl
    rw [step]
    refine .entered (isState ▸ isFront) rfl rfl (device true false) ?_
    intro a
    refine (change true false a).trans ?_
    rw [if_pos rfl, requests]
    rfl
  cases state : processData.state with
  | foreground => exact front .foreground state (Or.inl rfl)
  | focus => exact front .focus state (Or.inr rfl)
  | background =>
      have step : s.decisionMaker.onProcessStateChanged params env processData =
          (s.decisionMaker.updateForegroundUidPidMap processData.uid processData.pid
            false).handleStateChange params env processData.bundleName processData.uid false
              true := by
        unfold onProcessStateChanged
        rw [state]
        rfl
      rw [step]
      refine .left (Or.inl ⟨rfl, state⟩) rfl rfl (device false true) ?_
      intro a
      refine (change false true a).trans ?_
      rw [if_neg (by simp), if_pos rfl, requests]
      rfl
  | other =>
      have step : s.decisionMaker.onProcessStateChanged params env processData =
          s.decisionMaker.updateForegroundUidPidMap processData.uid processData.pid false := by
        unfold onProcessStateChanged
        rw [state]
        rfl
      rw [step]
      exact .drifted state rfl rfl (SameDevice.refl _) (requests false)

theorem effect_processDied (uids : s.decisionMaker.UidsMatch) (processData : ProcessData) :
    RequestEffect env s (.processDied processData)
      { s with decisionMaker := s.decisionMaker.onProcessDied params env processData } := by
  have moved := uidsMatch_updateForegroundUidPidMap s.decisionMaker uids processData.uid
    processData.pid false
  refine .left (Or.inr rfl) rfl rfl (sameDevice_tryStartAccounting params env _ _ _) ?_
  intro a
  refine (requestsAt_tryStartAccounting params env _ moved processData.uid
    processData.bundleName a).trans ?_
  rw [requestsAt_updateForegroundUidPidMap]
  rfl

theorem effect_inputEvent (uids : s.decisionMaker.UidsMatch) (event : EventId)
    (stringArg : String) :
    RequestEffect env s (.inputEvent event stringArg)
      { s with
        decisionMaker := s.decisionMaker.onInputEvent params env s.transientPauseUid event
          stringArg } := by
  have noted : ({ s.decisionMaker with
      deviceInfoManager := s.decisionMaker.deviceInfoManager.onInputEvent event stringArg } :
        DecisionMaker).UidsMatch := uids
  unfold onInputEvent
  dsimp only
  split
  · refine .input rfl rfl (sameDevice_handleScreenOn params env _) ?_
    exact requestsAt_handleScreenOn params env _
  · have device := sameDevice_handleScreenOff params env ({ s.decisionMaker with
      deviceInfoManager := s.decisionMaker.deviceInfoManager.onInputEvent .screenOff stringArg } :
        DecisionMaker) s.transientPauseUid
    refine .input rfl rfl device ?_
    intro a
    refine (requestsAt_handleScreenOff params env _ s.transientPauseUid noted a).trans ?_
    exact if_congr (and_congr_right (fun _ => by rw [device.mayAccount])) rfl rfl
  · rename_i notOn notOff
    refine .input rfl rfl (SameDevice.refl _) ?_
    intro a
    cases event with
    | screenOn => exact absurd rfl notOn
    | screenOff => exact absurd rfl notOff
    | appRunFront => rfl
    | screenUnlock => rfl
    | batteryLow => rfl
    | batteryOkay => rfl

theorem effect_getAllTransientTasks (uid pid : Int) :
    RequestEffect env s (.getAllTransientTasks uid pid)
      (s.getAllTransientTasks params env uid pid).2 := by
  unfold getAllTransientTasks
  split
  · exact .unmoved (SameSetting.refl s) (fun _ => rfl)
  split
  · exact .unmoved (SameSetting.refl s) (fun _ => rfl)
  split
  · exact .unmoved (SameSetting.refl s) (fun _ => rfl)
  · exact .unmoved ⟨rfl, rfl, sameDevice_getQuota params env s.decisionMaker _⟩
      (requestsAt_getQuota params env s.decisionMaker _)

theorem requestsAt_foldl_getQuota (records : List (Σ _ : Int, KeyInfo))
    (decision : DecisionMaker) (a : String × Int) :
    (records.foldl (fun decision record => (decision.getQuota params env record.2).2)
      decision).requestsAt a = decision.requestsAt a := by
  induction records generalizing decision with
  | nil => rfl
  | cons record rest ih =>
      rw [List.foldl_cons, ih]
      exact requestsAt_getQuota params env decision record.2 a

theorem effect_dumpAllRequestId :
    RequestEffect env s .dumpAllRequestId (s.dumpAllRequestId params env) := by
  have device : SameDevice s.decisionMaker (s.dumpAllRequestId params env).decisionMaker :=
    sameDevice_foldl s.decisionMaker
      (fun decision (record : Σ _ : Int, KeyInfo) => (decision.getQuota params env record.2).2)
      (fun decision (record : Σ _ : Int, KeyInfo) =>
        sameDevice_getQuota params env decision record.2) _
  exact .unmoved ⟨rfl, rfl, device⟩ (requestsAt_foldl_getQuota params env _ s.decisionMaker)

theorem removal_cancelSuspendDelay (uid pid requestId : Int) :
    Relation.ReflTransGen (Removal env.now) s
      (s.cancelSuspendDelay params env uid pid requestId).2 := by
  unfold cancelSuspendDelay
  split
  · exact .refl
  split
  · exact .refl
  split
  · exact .refl
  split
  · exact .single (removal_cancelSuspendDelayLocked params env requestId)
  · exact .refl

theorem removal_forceCancelSuspendDelay (requestId : Int) :
    Relation.ReflTransGen (Removal env.now) s (s.forceCancelSuspendDelay params env requestId) := by
  unfold forceCancelSuspendDelay
  split
  · exact .single (removal_cancelSuspendDelayLocked params env requestId)
  · exact .refl

theorem removal_cancelSnapshot (requestIdList : List Int) :
    Relation.ReflTransGen (Removal env.now) s (s.cancelSnapshot params env requestIdList) := by
  unfold cancelSnapshot
  induction requestIdList generalizing s with
  | nil => exact .refl
  | cons requestId rest ih =>
      exact Relation.ReflTransGen.head (removal_cancelSuspendDelayLocked params env requestId) ih

theorem decisionMaker_handleRequestExpired (requestId : Int) :
    SameSetting s (s.handleRequestExpired requestId) ∧
      (s.handleRequestExpired requestId).decisionMaker = s.decisionMaker := by
  unfold handleRequestExpired
  split
  · dsimp only
    split
    · exact ⟨⟨rfl, rfl, SameDevice.refl _⟩, rfl⟩
    · exact ⟨⟨rfl, rfl, SameDevice.refl _⟩, rfl⟩
  · exact ⟨SameSetting.refl s, rfl⟩

theorem effect_if {op : Op} {after : BgTransientTaskMgr} (ready : Bool)
    (effect : RequestEffect env s op after) :
    RequestEffect env s op (if ready then after else s) := by
  split
  · exact effect
  · exact .unmoved (SameSetting.refl s) (fun _ => rfl)

theorem requestEffect_step (uids : s.decisionMaker.UidsMatch) (op : Op) :
    RequestEffect env s op (s.step params (env, op)) := by
  have same : RequestEffect env s op s := .unmoved (SameSetting.refl s) (fun _ => rfl)
  cases op with
  | initNecessaryState servicesUp =>
      exact effect_if env servicesUp (.unmoved ⟨rfl, rfl, SameDevice.refl _⟩ (fun _ => rfl))
  | requestSuspendDelay uid pid callback =>
      exact effect_requestSuspendDelay params env uids uid pid callback
  | cancelSuspendDelay uid pid requestId =>
      exact .removed (SameSetting.refl s) (fun _ => rfl)
        (removal_cancelSuspendDelay params env uid pid requestId)
  | watchdogEvent requestId =>
      have chain := removal_forceCancelSuspendDelay params env requestId
        (s := { s with watchdog := s.watchdog.erase requestId })
      refine .removed ?_ (fun _ => ?_) chain
      · exact ⟨rfl, rfl, SameDevice.refl _⟩
      · rfl
  | expiredCallbackDeath remote =>
      exact .removed (SameSetting.refl s) (fun _ => rfl)
        (removal_handleExpiredCallbackDeath params env remote)
  | timerEvent requestId =>
      obtain ⟨setting, decision⟩ := decisionMaker_handleRequestExpired requestId (s := { s with
        decisionMaker := { s.decisionMaker with
          timerManager := ⟨s.decisionMaker.timerManager.events.eraseP
            (fun event => event.1 = requestId)⟩ } })
      refine .unmoved ⟨setting.keyInfoMap, setting.transientPauseUid, ?_⟩ ?_
      · exact ⟨setting.device.foregroundUidPidMap, setting.device.deviceInfoManager⟩
      · intro a
        have requests := congrArg (fun decision => DecisionMaker.requestsAt decision a) decision
        exact requests
  | appCacheStateChanged uid pid bundleName =>
      simp only [step, onAppCacheStateChanged]
      split
      · exact same
      split
      · exact same
      split
      · exact same
      · exact .unmoved ⟨rfl, rfl, SameDevice.refl _⟩ (fun _ => rfl)
  | appCacheLocked index =>
      simp only [step]
      split
      · exact same
      · rename_i requestIdList _
        have chain := removal_cancelSnapshot params env requestIdList
          (s := { s with cacheSnapshots := s.cacheSnapshots.eraseIdx index })
        refine .removed ?_ (fun _ => ?_) chain
        · exact ⟨rfl, rfl, SameDevice.refl _⟩
        · rfl
  | getAllTransientTasks uid pid => exact effect_getAllTransientTasks params env uid pid
  | dumpAllRequestId =>
      exact effect_if env s.isReady (effect_dumpAllRequestId params env)
  | pause uid => exact effect_pause params env uid
  | start uid => exact effect_start params env uids uid
  | suspendManagerDie =>
      exact effect_if env s.isReady (effect_suspendManagerDie params env uids)
  | processStateChanged processData =>
      exact effect_if env s.isReady (effect_processStateChanged params env uids processData)
  | processDied processData =>
      exact effect_if env s.isReady (effect_processDied params env uids processData)
  | inputEvent event stringArg =>
      exact effect_if env s.isReady (effect_inputEvent params env uids event stringArg)
  | setDump isDump =>
      exact effect_if env s.isReady (.dumpSet rfl rfl rfl rfl (fun _ => rfl))

/-! ## The decision maker within the manager -/

/-- The requests decided on are those of bundles as the bundle manager names them. -/
def NamedCall (env : Env) : DecisionOp → Prop
  | .decide key => env.bundleNameForUid key.uid = some key.pkg
  | _ => True

/-- One call that reaches the decision maker, or an event leaving its timer queue. -/
inductive DecisionStep (params : Params) (env : Env) (before : DecisionMaker) :
    DecisionMaker → Prop where
  | call (op : DecisionOp) (named : NamedCall env op) :
      DecisionStep params env before (before.step params (env, op))
  | fired (timers : TimerManager) :
      DecisionStep params env before { before with timerManager := timers }

abbrev Drives (params : Params) (env : Env) : DecisionMaker → DecisionMaker → Prop :=
  Relation.ReflTransGen (DecisionStep params env)

theorem drives_call (before : DecisionMaker) (op : DecisionOp) (named : NamedCall env op) :
    Drives params env before (before.step params (env, op)) :=
  .single (.call op named)

theorem drives_cancelSuspendDelayLocked (requestId : Int) :
    Drives params env s.decisionMaker
      (s.cancelSuspendDelayLocked params env requestId).2.decisionMaker := by
  have removed := drives_call params env s.decisionMaker
    (.removeRequest (s.keyInfoMap.lookup requestId) requestId) trivial
  unfold cancelSuspendDelayLocked
  dsimp only
  split
  · exact removed
  · exact removed

theorem drives_cancelSnapshot (requestIdList : List Int) :
    Drives params env s.decisionMaker
      (s.cancelSnapshot params env requestIdList).decisionMaker := by
  unfold cancelSnapshot
  induction requestIdList generalizing s with
  | nil => exact .refl
  | cons requestId rest ih =>
      exact (drives_cancelSuspendDelayLocked params env requestId).trans ih

theorem drives_foldl {α : Type} (f : DecisionMaker → α → DecisionMaker)
    (body : ∀ decision item, Drives params env decision (f decision item)) (items : List α)
    (decision : DecisionMaker) : Drives params env decision (items.foldl f decision) := by
  induction items generalizing decision with
  | nil => exact .refl
  | cons item rest ih => exact (body decision item).trans (ih (f decision item))

theorem drives_requestSuspendDelay (uid pid : Int) (callback : ExpiredCallback) :
    Drives params env s.decisionMaker
      (s.requestSuspendDelay params env uid pid callback).2.decisionMaker := by
  unfold requestSuspendDelay
  split
  · exact .refl
  split
  · exact .refl
  rename_i name remote legal
  have lookup := lookup_of_legal legal
  have decided := drives_call params env s.decisionMaker (.decide ⟨name, uid, pid⟩)
    lookup
  unfold requestSuspendDelayLocked
  split
  · exact .refl
  dsimp only
  split
  · exact decided
  · exact decided

theorem drives_cancelSuspendDelay (uid pid requestId : Int) :
    Drives params env s.decisionMaker
      (s.cancelSuspendDelay params env uid pid requestId).2.decisionMaker := by
  unfold cancelSuspendDelay
  split
  · exact .refl
  split
  · exact .refl
  split
  · exact .refl
  split
  · exact drives_cancelSuspendDelayLocked params env requestId
  · exact .refl

theorem drives_handleExpiredCallbackDeath (remote : Remote) :
    Drives params env s.decisionMaker
      (s.handleExpiredCallbackDeath params env remote).decisionMaker := by
  unfold handleExpiredCallbackDeath
  split
  · exact .refl
  rename_i callback _
  dsimp only
  split
  · exact .refl
  · rename_i keyInfo _
    exact drives_call params env _ (.removeRequest (some keyInfo) callback.1) trivial

theorem drives_getAllTransientTasks (uid pid : Int) :
    Drives params env s.decisionMaker
      (s.getAllTransientTasks params env uid pid).2.decisionMaker := by
  unfold getAllTransientTasks
  split
  · exact .refl
  split
  · exact .refl
  split
  · exact .refl
  · rename_i name _
    exact drives_call params env _ (.getQuota ⟨name, uid, pid⟩) trivial

theorem drives_pause (uid : Int) :
    Drives params env s.decisionMaker
      (s.pauseTransientTaskTimeForInner params env uid).2.decisionMaker := by
  unfold pauseTransientTaskTimeForInner
  split
  · exact .refl
  split
  · exact .refl
  split
  · exact .refl
  split
  · exact .refl
  rename_i name _
  have paused := drives_call params env s.decisionMaker (.pause uid name) trivial
  dsimp only
  split
  · exact paused
  · exact paused

theorem drives_start (uid : Int) :
    Drives params env s.decisionMaker
      (s.startTransientTaskTimeForInner params env uid).2.decisionMaker := by
  unfold startTransientTaskTimeForInner
  split
  · exact .refl
  split
  · exact .refl
  split
  · exact .refl
  split
  · exact .refl
  rename_i name _
  have started := drives_call params env s.decisionMaker (.start uid name) trivial
  dsimp only
  split
  · exact started
  · exact started

theorem drives_restartUid (decision : DecisionMaker) (uid : Int) :
    Drives params env decision (restartUid params env decision uid) := by
  unfold restartUid
  split
  · exact .refl
  · rename_i name _
    exact drives_call params env _ (.start uid name) trivial

theorem drives_if {decision next : DecisionMaker} (ready : Bool)
    (drives : Drives params env decision next) {first second : BgTransientTaskMgr}
    (isNext : first.decisionMaker = next) (isSame : second.decisionMaker = decision) :
    Drives params env decision (if ready then first else second).decisionMaker := by
  split
  · rw [isNext]
    exact drives
  · rw [isSame]

/-- A step of the manager reaches its decision maker by calls of the latter alone. -/
theorem drives_step (op : Op) :
    Drives params env s.decisionMaker (s.step params (env, op)).decisionMaker := by
  cases op with
  | initNecessaryState servicesUp => exact drives_if params env servicesUp .refl rfl rfl
  | requestSuspendDelay uid pid callback =>
      exact drives_requestSuspendDelay params env uid pid callback
  | cancelSuspendDelay uid pid requestId =>
      exact drives_cancelSuspendDelay params env uid pid requestId
  | watchdogEvent requestId =>
      simp only [step, forceCancelSuspendDelay]
      split
      · have chain := drives_cancelSuspendDelayLocked params env requestId
          (s := { s with watchdog := s.watchdog.erase requestId })
        exact chain
      · exact .refl
  | expiredCallbackDeath remote => exact drives_handleExpiredCallbackDeath params env remote
  | timerEvent requestId =>
      obtain ⟨-, decision⟩ := decisionMaker_handleRequestExpired requestId (s := { s with
        decisionMaker := { s.decisionMaker with
          timerManager := ⟨s.decisionMaker.timerManager.events.eraseP
            (fun event => event.1 = requestId)⟩ } })
      simp only [step]
      rw [decision]
      exact .single (.fired _)
  | appCacheStateChanged uid pid bundleName =>
      simp only [step, onAppCacheStateChanged]
      split
      · exact .refl
      split
      · exact .refl
      split
      · exact .refl
      · exact .refl
  | appCacheLocked index =>
      simp only [step]
      split
      · exact .refl
      · rename_i requestIdList _
        have chain := drives_cancelSnapshot params env requestIdList
          (s := { s with cacheSnapshots := s.cacheSnapshots.eraseIdx index })
        exact chain
  | getAllTransientTasks uid pid => exact drives_getAllTransientTasks params env uid pid
  | dumpAllRequestId =>
      refine drives_if params env s.isReady ?_ rfl rfl
      exact drives_foldl params env
        (fun decision (record : Σ _ : Int, KeyInfo) => (decision.getQuota params env record.2).2)
        (fun decision record => drives_call params env _ (.getQuota record.2) trivial) _ _
  | pause uid => exact drives_pause params env uid
  | start uid => exact drives_start params env uid
  | suspendManagerDie =>
      refine drives_if params env s.isReady ?_ rfl rfl
      exact drives_foldl params env (restartUid params env) (drives_restartUid params env) _ _
  | processStateChanged processData =>
      exact drives_if params env s.isReady
        (drives_call params env _ (.processStateChanged processData) trivial) rfl rfl
  | processDied processData =>
      exact drives_if params env s.isReady (drives_call params env _ (.processDied processData) trivial)
        rfl rfl
  | inputEvent event stringArg =>
      exact drives_if params env s.isReady
        (drives_call params env _ (.inputEvent s.transientPauseUid event stringArg) trivial) rfl rfl
  | setDump isDump =>
      exact drives_if params env s.isReady (drives_call params env _ (.setDump isDump) trivial) rfl rfl

/-- A property of all packages that every call keeps is kept by a step of the manager. -/
theorem forallPkg_drives {P : String × Int → PkgDelaySuspendInfo → Prop}
    (closed : Closed params env P)
    (removal : ∀ key pkgInfo requestId timers, P key pkgInfo →
      P key (pkgInfo.removeRequest params env.config env.now requestId timers).1)
    {before after : DecisionMaker} (drives : Drives params env before after)
    (all : before.ForallPkg P) : after.ForallPkg P := by
  induction drives with
  | refl => exact all
  | tail _ step ih =>
      cases step with
      | call op _ =>
          refine DecisionMaker.forallPkg_step _ env op closed ?_ ih
          intro key requestId _ pkgInfo _ held
          exact removal key.mapKey pkgInfo requestId _ held
      | fired timers => exact ih

theorem uidsClosed : Closed params env (fun key pkgInfo => pkgInfo.uid = key.2) where
  make _ := rfl
  call key pkgInfo call timers held := by
    cases call with
    | updateQuota => exact held
    | start requestId =>
        exact (startAccounting_uid params env.config env.now requestId timers pkgInfo).trans held
    | stopAll => exact held
  reset _ _ held := held
  add _ _ _ _ _ held _ _ := held

theorem removeRequest_uid (requestId : Int) (timers : TimerManager)
    (pkgInfo : PkgDelaySuspendInfo) :
    (pkgInfo.removeRequest params env.config env.now requestId timers).1.uid = pkgInfo.uid := by
  unfold PkgDelaySuspendInfo.removeRequest
  split
  · dsimp only
    split
    · rfl
    · rfl
  · rfl

theorem uidsMatch_step (uids : s.decisionMaker.UidsMatch) (op : Op) :
    (s.step params (env, op)).decisionMaker.UidsMatch := by
  refine forallPkg_drives params env (uidsClosed params env) ?_ (drives_step params env op) uids
  intro key pkgInfo requestId timers held
  exact (removeRequest_uid params env requestId timers pkgInfo).trans held

end

end BgTransientTaskMgr

end BgTaskMgr.Transient
