import BgTaskMgr.Transient.Effects

/-!
# When a request is accounted

Two rules tie the accounting of a request to the screen and to the processes of its uid:
with the screen on a request is accounted while no process of its uid is in the foreground,
with the screen off it is accounted whatever its processes do.  Both are read off what a
step does to the request lists.
-/

set_option autoImplicit false

namespace BgTaskMgr.Transient

namespace DecisionMaker

theorem mayAccount_of_background {self : DecisionMaker} {uid : Int}
    (background : self.isUidForeground uid = false) : self.mayAccount uid = true := by
  unfold mayAccount
  rw [background]
  split
  · rfl
  · rfl

theorem mayAccount_of_foreground {self : DecisionMaker} {uid : Int}
    (screen : self.deviceInfoManager.isScreenOn = true)
    (foreground : self.isUidForeground uid = true) : self.mayAccount uid = false := by
  unfold mayAccount
  rw [screen, foreground]
  rfl

theorem mayAccount_of_screenOff {self : DecisionMaker}
    (screen : self.deviceInfoManager.isScreenOn = false) (uid : Int) :
    self.mayAccount uid = true := by
  unfold mayAccount
  rw [screen]
  rfl

theorem isScreenOn_of_onInputEvent {device : DeviceInfoManager} {event : EventId}
    {stringArg : String} (other : event ≠ .screenOn)
    (screen : (device.onInputEvent event stringArg).isScreenOn = true) :
    device.isScreenOn = true := by
  unfold DeviceInfoManager.onInputEvent at screen
  split at screen
  · exact screen
  · cases event with
    | screenOn => exact absurd rfl other
    | screenOff => exact absurd screen (by simp)
    | appRunFront => exact screen
    | screenUnlock => exact screen
    | batteryLow => exact screen
    | batteryOkay => exact screen

end DecisionMaker

open DecisionMaker

namespace BgTransientTaskMgr

/-! ## Requests stay under the bundle of their uid -/

/-- Requests are stored under the bundle of their uid alone. -/
def Named (bundleOf : Int → String) (s : BgTransientTaskMgr) : Prop :=
  ∀ key, s.requestsAt key ≠ [] → key.1 = bundleOf key.2

/-- The bundle manager, when it answers, gives the bundle of the uid. -/
def NamesAnswered (bundleOf : Int → String) (env : Env) : Prop :=
  ∀ uid name, env.bundleNameForUid uid = some name → name = bundleOf uid

section

variable {bundleOf : Int → String} {env : Env} {s after : BgTransientTaskMgr} {op : Op}

theorem named_of_removals (named : Named bundleOf s)
    (chain : Relation.ReflTransGen (Removal env.now) s after) : Named bundleOf after := by
  induction chain with
  | refl => exact named
  | tail _ removal ih =>
      obtain ⟨-, -, requestId, -, requests⟩ := removal
      intro key stored
      rw [requests] at stored
      split at stored
      · exact ih key (removedList_ne_nil stored)
      · exact ih key stored

theorem named_of_effect (answered : NamesAnswered bundleOf env) (named : Named bundleOf s)
    (effect : RequestEffect env s op after) : Named bundleOf after := by
  -- apart from a grant a list is empty after the step when it was before
  have keeps : (∀ key, after.requestsAt key ≠ [] → s.requestsAt key ≠ []) →
      Named bundleOf after := fun emptied key stored => named key (emptied key stored)
  cases effect with
  | unmoved setting requests => exact keeps (fun key stored => requests key ▸ stored)
  | granted lookup id isNew keyInfoMap transientPauseUid device requests =>
      intro key stored
      rw [requests] at stored
      split at stored
      · rename_i here
        rw [here]
        exact answered _ _ lookup
      · exact named key stored
  | removed setting requests chain =>
      refine named_of_removals ?_ chain
      intro key stored
      exact named key (requests key ▸ stored)
  | paused lookup background keyInfoMap transientPauseUid device requests =>
      refine keeps (fun key stored => ?_)
      rw [requests] at stored
      split at stored
      · exact stoppedList_ne_nil stored
      · exact stored
  | resumed lookup background keyInfoMap transientPauseUid device requests =>
      refine keeps (fun key stored => ?_)
      rw [requests] at stored
      split at stored
      · exact startedList_ne_nil stored
      · exact stored
  | managerDied keyInfoMap transientPauseUid device requests =>
      refine keeps (fun key stored => ?_)
      rw [requests] at stored
      split at stored
      · exact startedList_ne_nil stored
      · exact stored
  | entered state keyInfoMap transientPauseUid device requests =>
      refine keeps (fun key stored => ?_)
      rw [requests] at stored
      split at stored
      · exact stoppedList_ne_nil stored
      · exact stored
  | left event keyInfoMap transientPauseUid device requests =>
      refine keeps (fun key stored => ?_)
      rw [requests] at stored
      split at stored
      · exact startedList_ne_nil stored
      · exact stored
  | drifted state keyInfoMap transientPauseUid device requests =>
      exact keeps (fun key stored => requests key ▸ stored)
  | input keyInfoMap transientPauseUid device requests =>
      refine keeps (fun key stored => ?_)
      rw [requests] at stored
      split at stored
      · split at stored
        · exact stoppedList_ne_nil stored
        · exact stored
      · split at stored
        · exact startedList_ne_nil stored
        · exact stored
      · exact stored
  | dumpSet keyInfoMap transientPauseUid foreground screen requests =>
      exact keeps (fun key stored => requests key ▸ stored)

/-! ## The foreground rule -/

/-- A process event carries the bundle of its uid and one of the states the observer
reports. -/
def Reported (bundleOf : Int → String) : Op → Prop
  | .processStateChanged processData =>
      processData.bundleName = bundleOf processData.uid ∧ processData.state ≠ .other
  | .processDied processData => processData.bundleName = bundleOf processData.uid
  | _ => True

instance (bundleOf : Int → String) : DecidablePred (Reported bundleOf) := fun op =>
  match op with
  | .processStateChanged _ => inferInstanceAs (Decidable (_ ∧ _))
  | .processDied _ => inferInstanceAs (Decidable (_ = _))
  | .initNecessaryState _ | .requestSuspendDelay _ _ _ | .cancelSuspendDelay _ _ _
  | .watchdogEvent _ | .expiredCallbackDeath _ | .timerEvent _ | .appCacheStateChanged _ _ _
  | .appCacheLocked _ | .getAllTransientTasks _ _ | .dumpAllRequestId | .pause _ | .start _
  | .suspendManagerDie | .inputEvent _ _ | .setDump _ => inferInstanceAs (Decidable True)

/-- What a step is promised: the clock runs, the bundle manager knows every uid, and
process events are as the observer reports them. -/
structure Promised (bundleOf : Int → String) (label : Env × Op) : Prop where
  running : label.1.now ≠ 0
  names : ∀ uid, label.1.bundleNameForUid uid = some (bundleOf uid)
  reported : Reported bundleOf label.2

/-- The foreground applications that a screen event asks for are those of the map. -/
def QueryAgrees (bundleOf : Int → String) (s : BgTransientTaskMgr) : Env × Op → Prop
  | (env, .inputEvent .screenOn _) =>
      ∃ apps, env.foregroundApplications = some apps ∧
        ∀ app, app ∈ apps ↔
          app.1 = bundleOf app.2 ∧ s.decisionMaker.isUidForeground app.2 = true
  | _ => True

def isScreenOn (s : BgTransientTaskMgr) : Bool := s.decisionMaker.deviceInfoManager.isScreenOn

/-- With the screen on, nothing of a uid in front is accounted; every live request of a uid
that is neither in front nor paused is, whatever the screen. -/
structure Ruled (bundleOf : Int → String) (s : BgTransientTaskMgr) : Prop where
  uids : s.decisionMaker.UidsMatch
  named : Named bundleOf s
  stopped : s.isScreenOn = true → ∀ key info, info ∈ s.requestsAt key →
    s.decisionMaker.isUidForeground key.2 = true → ¬ info.Accounted
  running : ∀ key info, s.LiveAt key info → s.decisionMaker.isUidForeground key.2 = false →
    key.2 ∉ s.transientPauseUid → info.Accounted

theorem ruled_initial (bundleOf : Int → String) : Ruled bundleOf {} where
  uids _ _ found := absurd found (by simp)
  named _ stored := absurd rfl stored
  stopped _ _ _ member := absurd member (List.not_mem_nil)
  running _ _ live := absurd live.1 (List.not_mem_nil)

theorem holds_of_same {key : String × Int} {requestId : Int}
    (same : after.keyInfoMap = s.keyInfoMap) (holds : after.Holds key requestId) :
    s.Holds key requestId := by
  unfold Holds at holds ⊢
  rwa [same] at holds

theorem isScreenOn_of_same (same : SameDevice s.decisionMaker after.decisionMaker) :
    after.isScreenOn = s.isScreenOn := by
  unfold isScreenOn
  rw [same.deviceInfoManager]

theorem liveAt_of_removals {key : String × Int} {info : DelaySuspendInfoEx}
    (chain : Relation.ReflTransGen (Removal env.now) s after) (live : after.LiveAt key info) :
    s.LiveAt key info := by
  induction chain with
  | refl => exact live
  | tail _ removal ih =>
      obtain ⟨-, -, requestId, ids, requests⟩ := removal
      obtain ⟨member, holds⟩ := live
      unfold Holds at holds
      rw [ids] at holds
      by_cases gone : info.requestId = requestId
      · rw [if_pos gone] at holds
        exact absurd holds (by simp)
      · rw [if_neg gone] at holds
        refine ih ⟨?_, holds⟩
        rw [requests] at member
        split at member
        · rcases of_mem_removedList member with kept | ⟨same, -⟩
          · exact kept
          · exact absurd same gone
        · exact member

theorem mem_of_removals {key : String × Int} {info : DelaySuspendInfoEx}
    (chain : Relation.ReflTransGen (Removal env.now) s after)
    (member : info ∈ after.requestsAt key) (accounted : info.Accounted) :
    info ∈ s.requestsAt key := by
  induction chain with
  | refl => exact member
  | tail _ removal ih =>
      obtain ⟨-, -, requestId, -, requests⟩ := removal
      rw [requests] at member
      split at member
      · rcases of_mem_removedList member with kept | ⟨-, idle⟩
        · exact ih kept
        · exact absurd accounted idle
      · exact ih member

theorem sameSetting_of_removals (chain : Relation.ReflTransGen (Removal env.now) s after) :
    SameDevice s.decisionMaker after.decisionMaker ∧
      after.transientPauseUid = s.transientPauseUid := by
  induction chain with
  | refl => exact ⟨SameDevice.refl _, rfl⟩
  | tail _ removal ih =>
      exact ⟨ih.1.trans removal.device, removal.transientPauseUid.trans ih.2⟩

/-- A grant whose uid may be accounted accounts the new request and leaves the others. -/
theorem liveAt_of_granted {uid pid : Int} {name : String} {requestId : Int}
    {new : DelaySuspendInfoEx} {key : String × Int} {info : DelaySuspendInfoEx}
    (clock : env.now ≠ 0) (isNew : IsNew pid requestId new)
    (keyInfoMap : after.keyInfoMap = s.keyInfoMap.insert requestId ⟨name, uid, pid⟩)
    (requests : ∀ a, after.requestsAt a = if a = (name, uid) then
        if s.decisionMaker.mayAccount uid then
          startedList env.now requestId (s.requestsAt a ++ [new])
        else s.requestsAt a ++ [new]
      else s.requestsAt a)
    (may : key = (name, uid) → s.decisionMaker.mayAccount uid = true)
    (live : after.LiveAt key info) : s.LiveAt key info ∨ info.Accounted := by
  obtain ⟨member, holds⟩ := live
  unfold Holds at holds
  rw [keyInfoMap, KeyedMap.lookup_insert] at holds
  rw [requests] at member
  split at member
  · rename_i here
    rw [if_pos (may here)] at member
    obtain ⟨before, stored, sameId, _, accounted, untouched⟩ := of_mem_startedList member
    by_cases selected : PkgDelaySuspendInfo.selects requestId info = true
    · exact Or.inr (accounted clock selected)
    · have different : info.requestId ≠ requestId := by
        intro same
        exact selected (by simp [PkgDelaySuspendInfo.selects, same])
      rw [if_neg different] at holds
      refine Or.inl ⟨?_, holds⟩
      rw [untouched (by simpa using selected)]
      rcases List.mem_append.mp stored with old | added
      · exact old
      · rw [List.mem_singleton.mp added] at sameId
        exact absurd (sameId.symm.trans isNew.1) different
  · rename_i elsewhere
    by_cases same : info.requestId = requestId
    · -- the manager holds the id for the new request's package now
      rw [if_pos same] at holds
      exact absurd (Option.some.inj holds).symm elsewhere
    · rw [if_neg same] at holds
      exact Or.inl ⟨member, holds⟩

/-! ### What becomes of one request -/

structure RuledAt (s : BgTransientTaskMgr) (key : String × Int) (info : DelaySuspendInfoEx) :
    Prop where
  stopped : s.isScreenOn = true → info ∈ s.requestsAt key →
    s.decisionMaker.isUidForeground key.2 = true → ¬ info.Accounted
  running : s.LiveAt key info → s.decisionMaker.isUidForeground key.2 = false →
    key.2 ∉ s.transientPauseUid → info.Accounted

variable {key : String × Int} {info : DelaySuspendInfoEx}

theorem Ruled.at (ruled : Ruled bundleOf s) : RuledAt s key info where
  stopped screen member foreground := ruled.stopped screen key info member foreground
  running live background unpaused := ruled.running key info live background unpaused

/-- The requests under the key stay.  While there are any, the screen does not come on under a
uid in front, and the uid neither moves to the front or away from it nor loses a pause. -/
theorem RuledAt.of_kept (rule : RuledAt s key info) (ids : after.keyInfoMap = s.keyInfoMap)
    (requests : after.requestsAt key = s.requestsAt key)
    (screen : s.requestsAt key ≠ [] → after.isScreenOn = true →
      after.decisionMaker.isUidForeground key.2 = true → s.isScreenOn = true)
    (front : s.requestsAt key ≠ [] → after.decisionMaker.isUidForeground key.2 = true →
      s.decisionMaker.isUidForeground key.2 = true)
    (back : s.requestsAt key ≠ [] → after.decisionMaker.isUidForeground key.2 = false →
      s.decisionMaker.isUidForeground key.2 = false ∧
        (key.2 ∈ s.transientPauseUid → key.2 ∈ after.transientPauseUid)) :
    RuledAt after key info where
  stopped isOn member foreground := by
    rw [requests] at member
    have stored := List.ne_nil_of_mem member
    exact rule.stopped (screen stored isOn foreground) member (front stored foreground)
  running live background unpaused := by
    obtain ⟨member, holds⟩ := live
    rw [requests] at member
    obtain ⟨background, pauses⟩ := back (List.ne_nil_of_mem member) background
    exact rule.running ⟨member, holds_of_same ids holds⟩ background
      (fun paused => unpaused (pauses paused))

/-- The requests under the key stay, and the step is about neither the screen, nor the processes,
nor the pauses. -/
theorem RuledAt.of_setting (rule : RuledAt s key info) (ids : after.keyInfoMap = s.keyInfoMap)
    (pauses : after.transientPauseUid = s.transientPauseUid)
    (foreground : after.decisionMaker.foregroundUidPidMap = s.decisionMaker.foregroundUidPidMap)
    (screen : after.isScreenOn = true → s.isScreenOn = true)
    (requests : after.requestsAt key = s.requestsAt key) : RuledAt after key info := by
  have same : after.decisionMaker.isUidForeground key.2 =
      s.decisionMaker.isUidForeground key.2 := by
    unfold DecisionMaker.isUidForeground
    rw [foreground]
  exact rule.of_kept ids requests (fun _ isOn _ => screen isOn) (fun _ front => same ▸ front)
    (fun _ back => ⟨same ▸ back, fun paused => pauses ▸ paused⟩)

/-- What is stopped is of a uid that comes to the front or is paused. -/
theorem RuledAt.of_stopped
    (requests : after.requestsAt key = stoppedList env.now (s.requestsAt key))
    (because : after.decisionMaker.isUidForeground key.2 = true ∨ key.2 ∈ after.transientPauseUid) :
    RuledAt after key info where
  stopped _ member _ := by
    rw [requests] at member
    exact (of_mem_stoppedList member).1
  running _ background unpaused := by
    rcases because with front | paused
    · exact absurd (front.symm.trans background) (by simp)
    · exact absurd paused unpaused

theorem accounted_of_startedList (clock : env.now ≠ 0) {requests : List DelaySuspendInfoEx}
    (member : info ∈ startedList env.now (-1) requests) : info.Accounted := by
  obtain ⟨_, _, _, _, accounted, _⟩ := of_mem_startedList member
  exact accounted clock (by simp [PkgDelaySuspendInfo.selects])

theorem RuledAt.of_started (clock : env.now ≠ 0)
    (requests : after.requestsAt key = startedList env.now (-1) (s.requestsAt key))
    (may : after.decisionMaker.mayAccount key.2 = true) : RuledAt after key info where
  stopped screen _ foreground := by
    rw [mayAccount_of_foreground screen foreground] at may
    exact absurd may (by simp)
  running live _ _ := by
    obtain ⟨member, -⟩ := live
    rw [requests] at member
    exact accounted_of_startedList clock member

/-- A grant accounts the new request unless its uid is in front with the screen on. -/
theorem RuledAt.of_granted (rule : RuledAt s key info) (clock : env.now ≠ 0) {uid pid : Int}
    {name : String} {requestId : Int} {new : DelaySuspendInfoEx} (isNew : IsNew pid requestId new)
    (keyInfoMap : after.keyInfoMap = s.keyInfoMap.insert requestId ⟨name, uid, pid⟩)
    (pauses : after.transientPauseUid = s.transientPauseUid)
    (device : SameDevice s.decisionMaker after.decisionMaker)
    (requests : ∀ a, after.requestsAt a = if a = (name, uid) then
        if s.decisionMaker.mayAccount uid then
          startedList env.now requestId (s.requestsAt a ++ [new])
        else s.requestsAt a ++ [new]
      else s.requestsAt a) : RuledAt after key info where
  stopped screen member foreground := by
    rw [isScreenOn_of_same device] at screen
    rw [device.isUidForeground] at foreground
    rw [requests] at member
    split at member
    · rename_i here
      have may := mayAccount_of_foreground screen foreground
      rw [here] at may
      rw [if_neg (by simp [may])] at member
      rcases List.mem_append.mp member with old | added
      · exact rule.stopped screen old foreground
      · rw [List.mem_singleton.mp added]
        exact fun accounted => accounted isNew.2.2.1
    · exact rule.stopped screen member foreground
  running live background unpaused := by
    rw [device.isUidForeground] at background
    rw [pauses] at unpaused
    have may := mayAccount_of_background background
    rcases liveAt_of_granted clock isNew keyInfoMap requests (fun here => by rwa [here] at may)
      live with before | accounted
    · exact rule.running before background unpaused
    · exact accounted

theorem RuledAt.of_removals (rule : RuledAt s key info)
    (chain : Relation.ReflTransGen (Removal env.now) s after) : RuledAt after key info := by
  obtain ⟨device, pauses⟩ := sameSetting_of_removals chain
  constructor
  · intro screen member foreground accounted
    rw [isScreenOn_of_same device] at screen
    rw [device.isUidForeground] at foreground
    exact rule.stopped screen (mem_of_removals chain member accounted) foreground accounted
  · intro live background unpaused
    rw [device.isUidForeground] at background
    rw [pauses] at unpaused
    exact rule.running (liveAt_of_removals chain live) background unpaused

/-! ### What an operation does to it -/

theorem RuledAt.of_entered (rule : RuledAt s key info) {processData : ProcessData}
    (named : s.requestsAt key ≠ [] → key.1 = bundleOf key.2)
    (reported : processData.bundleName = bundleOf processData.uid)
    (ids : after.keyInfoMap = s.keyInfoMap)
    (pauses : after.transientPauseUid = s.transientPauseUid)
    (device : SameDevice (s.decisionMaker.updateForegroundUidPidMap processData.uid
      processData.pid true) after.decisionMaker)
    (requests : after.requestsAt key = if key = (processData.bundleName, processData.uid) then
      stoppedList env.now (s.requestsAt key) else s.requestsAt key) : RuledAt after key info := by
  by_cases here : key = (processData.bundleName, processData.uid)
  · rw [if_pos here] at requests
    refine .of_stopped requests (Or.inl ?_)
    rw [device.isUidForeground, here]
    exact isUidForeground_updateForegroundUidPidMap_true _ _ _
  · rw [if_neg here] at requests
    have apart : s.requestsAt key ≠ [] → after.decisionMaker.isUidForeground key.2 =
        s.decisionMaker.isUidForeground key.2 := by
      intro stored
      have different : key.2 ≠ processData.uid := by
        intro same
        exact here (Prod.ext ((named stored).trans (by rw [same, reported])) same)
      rw [device.isUidForeground, isUidForeground_updateForegroundUidPidMap_ne _ _ _ different]
    have screen : after.isScreenOn = s.isScreenOn := by
      rw [isScreenOn, device.deviceInfoManager, deviceInfoManager_updateForegroundUidPidMap]
      rfl
    exact rule.of_kept ids requests (fun _ isOn _ => screen ▸ isOn)
      (fun stored front => (apart stored).symm.trans front)
      (fun stored back => ⟨(apart stored).symm.trans back, fun paused => pauses ▸ paused⟩)

/-- A process leaves the front: the requests of its package start, if they may. -/
theorem RuledAt.of_left (rule : RuledAt s key info) (clock : env.now ≠ 0)
    {processData : ProcessData} (named : s.requestsAt key ≠ [] → key.1 = bundleOf key.2)
    (reported : processData.bundleName = bundleOf processData.uid)
    (ids : after.keyInfoMap = s.keyInfoMap)
    (pauses : after.transientPauseUid = s.transientPauseUid)
    (device : SameDevice (s.decisionMaker.updateForegroundUidPidMap processData.uid
      processData.pid false) after.decisionMaker)
    (requests : after.requestsAt key = if key = (processData.bundleName, processData.uid) ∧
        (s.decisionMaker.updateForegroundUidPidMap processData.uid processData.pid
          false).mayAccount processData.uid = true then
        startedList env.now (-1) (s.requestsAt key)
      else s.requestsAt key) : RuledAt after key info := by
  rw [← device.mayAccount] at requests
  by_cases starts : key = (processData.bundleName, processData.uid) ∧
      after.decisionMaker.mayAccount processData.uid = true
  · rw [if_pos starts] at requests
    refine .of_started clock requests ?_
    rw [starts.1]
    exact starts.2
  · rw [if_neg starts] at requests
    have screen : after.isScreenOn = s.isScreenOn := by
      rw [isScreenOn, device.deviceInfoManager, deviceInfoManager_updateForegroundUidPidMap]
      rfl
    refine rule.of_kept ids requests (fun _ isOn _ => screen ▸ isOn) ?_ ?_
    · intro _ front
      rw [device.isUidForeground] at front
      exact isUidForeground_of_left s.decisionMaker front
    · intro stored back
      have different : key.2 ≠ processData.uid := by
        intro same
        refine starts ⟨Prod.ext ((named stored).trans (by rw [same, reported])) same, ?_⟩
        exact mayAccount_of_background (same ▸ back)
      rw [device.isUidForeground,
        isUidForeground_updateForegroundUidPidMap_ne _ _ _ different] at back
      exact ⟨back, fun paused => pauses ▸ paused⟩

/-- With the screen on the requests of the apps in front stop; with it off, all start that may. -/
theorem RuledAt.of_input (rule : RuledAt s key info) (clock : env.now ≠ 0) {event : EventId}
    {stringArg : String} (named : s.requestsAt key ≠ [] → key.1 = bundleOf key.2)
    (ids : after.keyInfoMap = s.keyInfoMap)
    (pauses : after.transientPauseUid = s.transientPauseUid)
    (device : SameDevice { s.decisionMaker with
      deviceInfoManager := s.decisionMaker.deviceInfoManager.onInputEvent event stringArg }
      after.decisionMaker)
    (on : event = .screenOn → after.requestsAt key =
      if key ∈ env.foregroundApplications.getD [] then stoppedList env.now (s.requestsAt key)
      else s.requestsAt key)
    (off : event = .screenOff → after.requestsAt key =
      if key.2 ∉ s.transientPauseUid ∧ after.decisionMaker.mayAccount key.2 = true then
        startedList env.now (-1) (s.requestsAt key)
      else s.requestsAt key)
    (other : event ≠ .screenOn → event ≠ .screenOff → after.requestsAt key = s.requestsAt key)
    (agrees : QueryAgrees bundleOf s (env, .inputEvent event stringArg)) :
    RuledAt after key info := by
  have same : after.decisionMaker.isUidForeground key.2 =
      s.decisionMaker.isUidForeground key.2 := device.isUidForeground key.2
  have screenOff : event ≠ .screenOn → after.isScreenOn = true → s.isScreenOn = true := by
    intro other screen
    rw [isScreenOn, device.deviceInfoManager] at screen
    exact isScreenOn_of_onInputEvent other screen
  by_cases isOn : event = .screenOn
  · subst isOn
    obtain ⟨apps, known, listed⟩ := agrees
    have turn := on rfl
    rw [known, Option.getD_some] at turn
    by_cases app : key ∈ apps
    · rw [if_pos app] at turn
      exact .of_stopped turn (Or.inl (same.trans ((listed key).mp app).2))
    · rw [if_neg app] at turn
      refine rule.of_kept ids turn ?_ (fun _ front => same ▸ front)
        (fun _ back => ⟨same ▸ back, fun paused => pauses ▸ paused⟩)
      intro stored _ front
      exact absurd ((listed key).mpr ⟨named stored, same.symm.trans front⟩) app
  by_cases isOff : event = .screenOff
  · have turn := off isOff
    split at turn
    · rename_i starts
      exact .of_started clock turn starts.2
    · exact rule.of_setting ids pauses device.foregroundUidPidMap (screenOff isOn) turn
  · exact rule.of_setting ids pauses device.foregroundUidPidMap (screenOff isOn)
      (other isOn isOff)

theorem ruledAt_of_effect (ruled : Ruled bundleOf s) (promised : Promised bundleOf (env, op))
    (agrees : QueryAgrees bundleOf s (env, op)) (effect : RequestEffect env s op after) :
    RuledAt after key info := by
  have rule : RuledAt s key info := ruled.at
  have clock : env.now ≠ 0 := promised.running
  have still (device : SameDevice s.decisionMaker after.decisionMaker) :
      after.isScreenOn = true → s.isScreenOn = true :=
    fun screen => (isScreenOn_of_same device).symm.trans screen
  cases effect with
  | unmoved setting requests =>
      exact rule.of_setting setting.keyInfoMap setting.transientPauseUid
        setting.device.foregroundUidPidMap (still setting.device) (requests key)
  | granted lookup id isNew keyInfoMap transientPauseUid device requests =>
      exact rule.of_granted clock isNew keyInfoMap transientPauseUid device requests
  | @removed _ middle _ setting requests chain =>
      have kept : RuledAt middle key info :=
        rule.of_setting setting.keyInfoMap setting.transientPauseUid
          setting.device.foregroundUidPidMap
          (fun screen => (isScreenOn_of_same setting.device).symm.trans screen) (requests key)
      exact kept.of_removals chain
  | paused lookup background keyInfoMap transientPauseUid device requests =>
      have same := device.isUidForeground key.2
      have turn := requests key
      split at turn
      · rename_i here
        refine .of_stopped turn (Or.inr ?_)
        rw [transientPauseUid, here]
        exact Finset.mem_insert_self _ _
      · refine rule.of_kept keyInfoMap turn (fun _ isOn _ => still device isOn)
          (fun _ front => same ▸ front) (fun _ back => ⟨same ▸ back, fun paused => ?_⟩)
        rw [transientPauseUid]
        exact Finset.mem_insert_of_mem paused
  | @resumed uid _ name lookup background keyInfoMap transientPauseUid device requests =>
      have same := device.isUidForeground key.2
      have turn := requests key
      split at turn
      · rename_i here
        refine .of_started clock turn (mayAccount_of_background ?_)
        rw [same, here]
        exact background
      · rename_i elsewhere
        refine rule.of_kept keyInfoMap turn (fun _ isOn _ => still device isOn)
          (fun _ front => same ▸ front) (fun stored back => ⟨same ▸ back, fun paused => ?_⟩)
        rw [transientPauseUid]
        refine Finset.mem_erase.mpr ⟨fun isUid => elsewhere (Prod.ext ?_ isUid), paused⟩
        rw [ruled.named key stored, isUid]
        exact Option.some.inj ((promised.names uid).symm.trans lookup)
  | managerDied keyInfoMap transientPauseUid device requests =>
      have same := device.isUidForeground key.2
      have turn := requests key
      split at turn
      · rename_i resumes
        exact .of_started clock turn (mayAccount_of_background (same.trans resumes.2.2))
      · rename_i left
        refine rule.of_kept keyInfoMap turn (fun _ isOn _ => still device isOn)
          (fun _ front => same ▸ front) (fun stored back => ⟨same ▸ back, fun paused => ?_⟩)
        refine absurd ⟨paused, ?_, same ▸ back⟩ left
        rw [ruled.named key stored]
        exact promised.names key.2
  | entered state keyInfoMap transientPauseUid device requests =>
      exact rule.of_entered (ruled.named key) (promised.reported : _ ∧ _).1 keyInfoMap
        transientPauseUid device (requests key)
  | @left _ processData _ event keyInfoMap transientPauseUid device requests =>
      have reported : processData.bundleName = bundleOf processData.uid := by
        rcases event with ⟨rfl, -⟩ | rfl
        · exact (promised.reported : _ ∧ _).1
        · exact promised.reported
      exact rule.of_left clock (ruled.named key) reported keyInfoMap transientPauseUid device
        (requests key)
  | drifted state keyInfoMap transientPauseUid device requests =>
      exact absurd state (promised.reported : _ ∧ _).2
  | @input event _ _ keyInfoMap transientPauseUid device requests =>
      refine rule.of_input clock (ruled.named key) keyInfoMap transientPauseUid device ?_ ?_ ?_
        agrees
      · rintro rfl
        exact requests key
      · rintro rfl
        exact requests key
      · intro notOn notOff
        have turn := requests key
        cases event with
        | screenOn => exact absurd rfl notOn
        | screenOff => exact absurd rfl notOff
        | appRunFront | screenUnlock | batteryLow | batteryOkay => exact turn
  | dumpSet keyInfoMap transientPauseUid foreground screen requests =>
      refine rule.of_setting keyInfoMap transientPauseUid foreground ?_ (requests key)
      intro isOn
      rwa [isScreenOn, screen] at isOn

theorem ruled_step (params : Params) (label : Env × Op) (ruled : Ruled bundleOf s)
    (promised : Promised bundleOf label) (agrees : QueryAgrees bundleOf s label) :
    Ruled bundleOf (s.step params label) := by
  obtain ⟨env, op⟩ := label
  have effect := requestEffect_step params env ruled.uids op
  refine ⟨uidsMatch_step params env ruled.uids op, ?_, ?_, ?_⟩
  · refine named_of_effect ?_ ruled.named effect
    intro uid name answer
    exact Option.some.inj (answer.symm.trans (promised.names uid))
  · intro screen key info member foreground
    exact (ruledAt_of_effect ruled promised agrees effect).stopped screen member foreground
  · intro key info live background unpaused
    exact (ruledAt_of_effect ruled promised agrees effect).running live background unpaused

end

theorem ruled_run (params : Params) (bundleOf : Int → String) (labels : List (Env × Op))
    (promised : ∀ label ∈ labels, Promised bundleOf label)
    (agrees : StepSystem.Admissible (step params) (QueryAgrees bundleOf) {} labels) :
    Ruled bundleOf (StepSystem.run (step params) {} labels) := by
  refine StepSystem.run_invariant (fun s label ruled ok => ?_) labels _
    (ruled_initial bundleOf) (agrees.and_forall promised)
  exact ruled_step params label ruled ok.1 ok.2

/-! ## The screen-off rule -/

/-- Nothing that the rule asks to be accounted is stored under the key. -/
def Exempt (s : BgTransientTaskMgr) (key : String × Int) : Prop :=
  key.2 ∈ s.transientPauseUid ∨ ∀ info, ¬ s.LiveAt key info

/-- With the screen off, the step takes none of the branches that do not look at it: a
process coming to the front stops the requests of its package, so does a screen-on event
that the device state ignores during a dump session, and the death of the suspend manager
ends the pause of a uid in front, or of one the bundle manager does not know, without
starting anything. -/
def LooksAtScreen (s : BgTransientTaskMgr) : Env × Op → Prop
  | (_, .processStateChanged processData) =>
      processData.state = .foreground ∨ processData.state = .focus →
        s.Exempt (processData.bundleName, processData.uid)
  | (env, .inputEvent .screenOn stringArg) =>
      s.decisionMaker.deviceInfoManager.isDump = true → stringArg ≠ "dump" →
        ∀ app ∈ env.foregroundApplications.getD [], s.Exempt app
  | (env, .suspendManagerDie) =>
      ∀ key info, s.LiveAt key info → key.2 ∈ s.transientPauseUid →
        env.bundleNameForUid key.2 = some key.1 ∧
          s.decisionMaker.isUidForeground key.2 = false
  | _ => True

/-- With the screen off, every live request of a uid that is not paused is accounted. -/
structure RunsDark (bundleOf : Int → String) (s : BgTransientTaskMgr) : Prop where
  uids : s.decisionMaker.UidsMatch
  named : Named bundleOf s
  running : s.isScreenOn = false → ∀ key info, s.LiveAt key info →
    key.2 ∉ s.transientPauseUid → info.Accounted

theorem runsDark_initial (bundleOf : Int → String) : RunsDark bundleOf {} where
  uids _ _ found := absurd found (by simp)
  named _ stored := absurd rfl stored
  running _ _ _ live := absurd live.1 (List.not_mem_nil)

section

variable {bundleOf : Int → String} {env : Env} {s after : BgTransientTaskMgr} {op : Op}

/-- A screen event that leaves the screen off was ignored, or came from a dump session. -/
theorem ignored_of_dark {device : DeviceInfoManager} {stringArg : String}
    (dark : (device.onInputEvent .screenOn stringArg).isScreenOn = false) :
    device.isScreenOn = false ∧ device.isDump = true ∧ stringArg ≠ "dump" := by
  unfold DeviceInfoManager.onInputEvent at dark
  split at dark
  · rename_i ignored
    exact ⟨dark, by simpa using ignored⟩
  · exact absurd dark (by simp)

theorem dark_of_onInputEvent {device : DeviceInfoManager} {event : EventId} {stringArg : String}
    (other : event ≠ .screenOff)
    (dark : (device.onInputEvent event stringArg).isScreenOn = false) :
    device.isScreenOn = false := by
  unfold DeviceInfoManager.onInputEvent at dark
  split at dark
  · exact dark
  · cases event with
    | screenOff => exact absurd rfl other
    | screenOn => exact absurd dark (by simp)
    | appRunFront => exact dark
    | screenUnlock => exact dark
    | batteryLow => exact dark
    | batteryOkay => exact dark

def DarkAt (s : BgTransientTaskMgr) (key : String × Int) (info : DelaySuspendInfoEx) : Prop :=
  s.isScreenOn = false → s.LiveAt key info → key.2 ∉ s.transientPauseUid → info.Accounted

variable {key : String × Int} {info : DelaySuspendInfoEx}

/-- The requests under the key stay.  Unless the uid is paused the screen was off before, and a
live request keeps the pause of its uid. -/
theorem DarkAt.of_kept (rule : DarkAt s key info) (ids : after.keyInfoMap = s.keyInfoMap)
    (requests : after.requestsAt key = s.requestsAt key)
    (screen : after.isScreenOn = false → key.2 ∉ after.transientPauseUid → s.isScreenOn = false)
    (pauses : s.isScreenOn = false → s.LiveAt key info → key.2 ∈ s.transientPauseUid →
      key.2 ∈ after.transientPauseUid) : DarkAt after key info := by
  rintro dark ⟨member, holds⟩ unpaused
  rw [requests] at member
  have live : s.LiveAt key info := ⟨member, holds_of_same ids holds⟩
  have darkBefore := screen dark unpaused
  exact rule darkBefore live (fun paused => unpaused (pauses darkBefore live paused))

theorem DarkAt.of_setting (rule : DarkAt s key info) (ids : after.keyInfoMap = s.keyInfoMap)
    (pauses : after.transientPauseUid = s.transientPauseUid)
    (screen : after.isScreenOn = false → s.isScreenOn = false)
    (requests : after.requestsAt key = s.requestsAt key) : DarkAt after key info :=
  rule.of_kept ids requests (fun dark _ => screen dark) (fun _ _ paused => pauses ▸ paused)

theorem DarkAt.of_stopped (ids : after.keyInfoMap = s.keyInfoMap)
    (requests : after.requestsAt key = stoppedList env.now (s.requestsAt key))
    (idle : after.isScreenOn = false →
      key.2 ∈ after.transientPauseUid ∨ ∀ info, ¬ s.LiveAt key info) : DarkAt after key info := by
  rintro dark ⟨member, holds⟩ unpaused
  rw [requests] at member
  obtain ⟨-, before, stored, sameId⟩ := of_mem_stoppedList member
  rcases idle dark with paused | idle
  · exact absurd paused unpaused
  · exact absurd ⟨stored, sameId ▸ holds_of_same ids holds⟩ (idle before)

theorem DarkAt.of_started (clock : env.now ≠ 0)
    (requests : after.requestsAt key = startedList env.now (-1) (s.requestsAt key)) :
    DarkAt after key info := by
  rintro - ⟨member, -⟩ -
  rw [requests] at member
  exact accounted_of_startedList clock member

theorem DarkAt.of_removals (rule : DarkAt s key info)
    (chain : Relation.ReflTransGen (Removal env.now) s after) : DarkAt after key info := by
  obtain ⟨device, pauses⟩ := sameSetting_of_removals chain
  intro dark live unpaused
  rw [isScreenOn_of_same device] at dark
  rw [pauses] at unpaused
  exact rule dark (liveAt_of_removals chain live) unpaused

theorem DarkAt.of_entered (rule : DarkAt s key info) {processData : ProcessData}
    (looks : s.isScreenOn = false → s.Exempt (processData.bundleName, processData.uid))
    (ids : after.keyInfoMap = s.keyInfoMap)
    (pauses : after.transientPauseUid = s.transientPauseUid)
    (screen : after.isScreenOn = s.isScreenOn)
    (requests : after.requestsAt key = if key = (processData.bundleName, processData.uid) then
      stoppedList env.now (s.requestsAt key) else s.requestsAt key) : DarkAt after key info := by
  by_cases here : key = (processData.bundleName, processData.uid)
  · rw [if_pos here] at requests
    refine .of_stopped ids requests (fun dark => ?_)
    rw [pauses, here]
    exact looks (screen ▸ dark)
  · rw [if_neg here] at requests
    exact rule.of_setting ids pauses (fun dark => screen ▸ dark) requests

/-- A screen-on event stops something only where it is ignored; a screen-off event starts all that
is not paused. -/
theorem DarkAt.of_input (rule : DarkAt s key info) (clock : env.now ≠ 0) {event : EventId}
    {stringArg : String}
    (looks : s.isScreenOn = false → s.LooksAtScreen (env, .inputEvent event stringArg))
    (ids : after.keyInfoMap = s.keyInfoMap)
    (pauses : after.transientPauseUid = s.transientPauseUid)
    (screen : after.isScreenOn =
      (s.decisionMaker.deviceInfoManager.onInputEvent event stringArg).isScreenOn)
    (on : event = .screenOn → after.requestsAt key =
      if key ∈ env.foregroundApplications.getD [] then stoppedList env.now (s.requestsAt key)
      else s.requestsAt key)
    (off : event = .screenOff → after.requestsAt key =
      if key.2 ∉ s.transientPauseUid ∧ after.decisionMaker.mayAccount key.2 = true then
        startedList env.now (-1) (s.requestsAt key)
      else s.requestsAt key)
    (other : event ≠ .screenOn → event ≠ .screenOff → after.requestsAt key = s.requestsAt key) :
    DarkAt after key info := by
  by_cases isOn : event = .screenOn
  · subst isOn
    have ignored (dark : after.isScreenOn = false) := ignored_of_dark (screen ▸ dark)
    have turn := on rfl
    split at turn
    · rename_i app
      refine .of_stopped ids turn (fun dark => ?_)
      obtain ⟨darkBefore, isDump, arg⟩ := ignored dark
      rw [pauses]
      exact looks darkBefore isDump arg key app
    · exact rule.of_setting ids pauses (fun dark => (ignored dark).1) turn
  by_cases isOff : event = .screenOff
  · have turn := off isOff
    split at turn
    · exact .of_started clock turn
    · rename_i stays
      refine rule.of_kept ids turn (fun dark unpaused => ?_) (fun _ _ paused => pauses ▸ paused)
      exact absurd ⟨pauses ▸ unpaused, mayAccount_of_screenOff dark key.2⟩ stays
  · exact rule.of_setting ids pauses (fun dark => dark_of_onInputEvent isOff (screen ▸ dark))
      (other isOn isOff)

theorem darkAt_of_effect (runs : RunsDark bundleOf s) (clock : env.now ≠ 0)
    (answered : NamesAnswered bundleOf env)
    (looks : s.isScreenOn = false → s.LooksAtScreen (env, op))
    (effect : RequestEffect env s op after) : DarkAt after key info := by
  have rule : DarkAt s key info :=
    fun dark live unpaused => runs.running dark key info live unpaused
  have still (device : SameDevice s.decisionMaker after.decisionMaker) :
      after.isScreenOn = false → s.isScreenOn = false :=
    fun dark => (isScreenOn_of_same device).symm.trans dark
  have moved {processData : ProcessData} {inFront : Bool}
      (device : SameDevice (s.decisionMaker.updateForegroundUidPidMap processData.uid
        processData.pid inFront) after.decisionMaker) : after.isScreenOn = s.isScreenOn := by
    rw [isScreenOn, device.deviceInfoManager, deviceInfoManager_updateForegroundUidPidMap]
    rfl
  cases effect with
  | unmoved setting requests =>
      exact rule.of_setting setting.keyInfoMap setting.transientPauseUid (still setting.device)
        (requests key)
  | granted lookup id isNew keyInfoMap transientPauseUid device requests =>
      intro dark live unpaused
      have may := mayAccount_of_screenOff (still device dark)
      rcases liveAt_of_granted clock isNew keyInfoMap requests (fun _ => may _) live with
        before | accounted
      · exact rule (still device dark) before (transientPauseUid ▸ unpaused)
      · exact accounted
  | @removed _ middle _ setting requests chain =>
      have kept : DarkAt middle key info :=
        rule.of_setting setting.keyInfoMap setting.transientPauseUid
          (fun dark => (isScreenOn_of_same setting.device).symm.trans dark) (requests key)
      exact kept.of_removals chain
  | paused lookup background keyInfoMap transientPauseUid device requests =>
      have turn := requests key
      split at turn
      · rename_i here
        refine .of_stopped keyInfoMap turn (fun _ => Or.inl ?_)
        rw [transientPauseUid, here]
        exact Finset.mem_insert_self _ _
      · refine rule.of_kept keyInfoMap turn (fun dark _ => still device dark) (fun _ _ paused => ?_)
        rw [transientPauseUid]
        exact Finset.mem_insert_of_mem paused
  | @resumed uid _ name lookup background keyInfoMap transientPauseUid device requests =>
      have turn := requests key
      split at turn
      · exact .of_started clock turn
      · rename_i elsewhere
        refine rule.of_kept keyInfoMap turn (fun dark _ => still device dark)
          (fun _ live paused => ?_)
        rw [transientPauseUid]
        refine Finset.mem_erase.mpr ⟨fun isUid => elsewhere (Prod.ext ?_ isUid), paused⟩
        rw [runs.named key (List.ne_nil_of_mem live.1), isUid, answered uid name lookup]
  | managerDied keyInfoMap transientPauseUid device requests =>
      have turn := requests key
      split at turn
      · exact .of_started clock turn
      · rename_i left
        refine rule.of_kept keyInfoMap turn (fun dark _ => still device dark)
          (fun dark live paused => ?_)
        exact absurd ⟨paused, looks dark key info live paused⟩ left
  | entered state keyInfoMap transientPauseUid device requests =>
      exact rule.of_entered (fun dark => looks dark state) keyInfoMap transientPauseUid
        (moved device) (requests key)
  | left event keyInfoMap transientPauseUid device requests =>
      have turn := requests key
      split at turn
      · exact .of_started clock turn
      · exact rule.of_setting keyInfoMap transientPauseUid (fun dark => moved device ▸ dark) turn
  | drifted state keyInfoMap transientPauseUid device requests =>
      exact rule.of_setting keyInfoMap transientPauseUid (fun dark => moved device ▸ dark)
        (requests key)
  | @input event _ _ keyInfoMap transientPauseUid device requests =>
      refine rule.of_input clock looks keyInfoMap transientPauseUid ?_ ?_ ?_ ?_
      · rw [isScreenOn, device.deviceInfoManager]
      · rintro rfl
        exact requests key
      · rintro rfl
        exact requests key
      · intro notOn notOff
        have turn := requests key
        cases event with
        | screenOn => exact absurd rfl notOn
        | screenOff => exact absurd rfl notOff
        | appRunFront | screenUnlock | batteryLow | batteryOkay => exact turn
  | dumpSet keyInfoMap transientPauseUid foreground screen requests =>
      refine rule.of_setting keyInfoMap transientPauseUid ?_ (requests key)
      intro dark
      rwa [isScreenOn, screen] at dark

theorem runsDark_step (params : Params) (label : Env × Op) (rule : RunsDark bundleOf s)
    (clock : label.1.now ≠ 0) (answered : NamesAnswered bundleOf label.1)
    (looks : s.isScreenOn = false → s.LooksAtScreen label) :
    RunsDark bundleOf (s.step params label) := by
  obtain ⟨env, op⟩ := label
  have effect := requestEffect_step params env rule.uids op
  exact ⟨uidsMatch_step params env rule.uids op, named_of_effect answered rule.named effect,
    fun dark _ _ live unpaused =>
      darkAt_of_effect rule clock answered looks effect dark live unpaused⟩

end

/-- With the screen off, a live request of a uid that is not paused is accounted, in every run
whose steps look at the screen. -/
theorem accounted_of_screenOff (params : Params) (bundleOf : Int → String)
    (labels : List (Env × Op))
    (promised : ∀ label ∈ labels, label.1.now ≠ 0 ∧ NamesAnswered bundleOf label.1)
    (looks : StepSystem.Admissible (step params)
      (fun s label => s.isScreenOn = false → s.LooksAtScreen label) {} labels)
    (dark : (StepSystem.run (step params) {} labels).isScreenOn = false)
    (uid : Int) (unpaused : uid ∉ (StepSystem.run (step params) {} labels).transientPauseUid)
    (name : String) (info : DelaySuspendInfoEx)
    (live : (StepSystem.run (step params) {} labels).LiveAt (name, uid) info) :
    info.Accounted := by
  have rule : RunsDark bundleOf (StepSystem.run (step params) {} labels) := by
    refine StepSystem.run_invariant (fun s label rule ok => ?_) labels _
      (runsDark_initial bundleOf) (looks.and_forall promised)
    exact runsDark_step params label rule ok.1.1 ok.1.2 ok.2
  exact rule.running dark (name, uid) info live unpaused

def darkLabels : List (Env × Op) :=
  [(quietEnv 1000, .initNecessaryState true),
    (quietEnv 1000, .processStateChanged ⟨"app", 100, 7, .foreground⟩),
    (quietEnv 2000, .requestSuspendDelay 100 7 (.of 1)),
    (quietEnv 3000, .inputEvent .screenOff ""),
    (quietEnv 4000, .processDied ⟨"app", 100, 7, .other⟩),
    (quietEnv 5000, .requestSuspendDelay 100 8 (.of 2))]

theorem accounted_of_screenOff_two_requests :
    let s := StepSystem.run (step {}) {} darkLabels
    s.LiveAt ("app", 100) ⟨1, 180000, 7, 3000, 0⟩ ∧
      (⟨1, 180000, 7, 3000, 0⟩ : DelaySuspendInfoEx).Accounted := by
  have live : (StepSystem.run (step {}) {} darkLabels).LiveAt ("app", 100)
      ⟨1, 180000, 7, 3000, 0⟩ := by
    constructor
    · decide
    · decide
  have promised : ∀ label ∈ darkLabels,
      label.1.now ≠ 0 ∧ NamesAnswered (fun _ => "app") label.1 := by
    intro label member
    refine ⟨(by decide : ∀ label ∈ darkLabels, label.1.now ≠ 0) label member, ?_⟩
    simp only [darkLabels, List.mem_cons, List.not_mem_nil, or_false] at member
    intro uid name answer
    rcases member with rfl | rfl | rfl | rfl | rfl | rfl <;> exact (Option.some.inj answer).symm
  refine ⟨live, accounted_of_screenOff {} (fun _ => "app") darkLabels promised ?_ (by decide) 100
    (by decide) "app" _ live⟩
  refine ⟨fun _ => trivial, fun dark => ?_, fun _ => trivial, fun _ => trivial, fun _ => trivial,
    fun _ => trivial, trivial⟩
  exact absurd dark (by decide)

def darkForegroundLabels : List (Env × Op) :=
  [(quietEnv 1000, .initNecessaryState true),
    (quietEnv 2000, .requestSuspendDelay 100 7 (.of 1)),
    (quietEnv 3000, .inputEvent .screenOff ""),
    (quietEnv 4000, .processStateChanged ⟨"app", 100, 7, .foreground⟩)]

theorem stopped_with_screenOff :
    let s := StepSystem.run (step {}) {} darkForegroundLabels
    s.isScreenOn = false ∧ 100 ∉ s.transientPauseUid ∧
      s.LiveAt ("app", 100) ⟨1, 180000, 7, 0, 2000⟩ ∧
      ¬ (⟨1, 180000, 7, 0, 2000⟩ : DelaySuspendInfoEx).Accounted := by
  refine ⟨by decide, by decide, ⟨by decide, by decide⟩, by decide⟩

end BgTransientTaskMgr

end BgTaskMgr.Transient
