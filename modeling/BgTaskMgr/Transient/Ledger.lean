import BgTaskMgr.Transient.Effects
import BgTaskMgr.Transient.StoreConsistency

/-!
# The ledger of transient requests

The requests, their timers, watchdogs and events apart from quota, clock and device: a
`Ledger` holds these, its moves are what single loops of the code do to them, and every step
of the manager is a chain of moves.  The rules on timers and events are proved on the ledger.
-/

set_option autoImplicit false

namespace BgTaskMgr.Transient

open DecisionMaker

@[ext]
structure Ledger where
  requests : String × Int → List DelaySuspendInfoEx
  /-- The ids of the pending timers. -/
  timers : List Int
  tasks : List (TransientTaskEventType × TransientTaskAppInfo)
  keyInfoMap : KeyedMap Int KeyInfo
  expiredCallbackMap : KeyedMap Int Remote
  watchdog : List Int
  expiredNotices : List Int

namespace Ledger

def startedTimers (requestId : Int) (requests : List DelaySuspendInfoEx) : List Int :=
  (requests.filter (fun info =>
    PkgDelaySuspendInfo.selects requestId info && info.baseTime == 0)).map
      (fun info => info.requestId)

def accountedIn (requests : List DelaySuspendInfoEx) (requestId : Int) : Bool :=
  requests.any (fun info => info.requestId == requestId && info.baseTime != 0)

def start (now : Int) (key : String × Int) (requestId : Int) (l : Ledger) : Ledger :=
  { l with
    requests := Function.update l.requests key (startedList now requestId (l.requests key))
    timers := l.timers ++ startedTimers requestId (l.requests key) }

def stop (now : Int) (key : String × Int) (l : Ledger) : Ledger :=
  { l with
    requests := Function.update l.requests key (stoppedList now (l.requests key))
    timers := l.timers.filter (fun id => !accountedIn (l.requests key) id) }

/-- A request is stored and made known, before it is accounted. -/
def grant (keyInfo : KeyInfo) (remote : Remote) (info : DelaySuspendInfoEx) (l : Ledger) :
    Ledger :=
  { l with
    requests := Function.update l.requests keyInfo.mapKey (l.requests keyInfo.mapKey ++ [info])
    tasks := l.tasks ++ [(.taskStart, ⟨keyInfo.pkg, keyInfo.uid, keyInfo.pid⟩)] ++
      if l.requests keyInfo.mapKey = []
        then [(.appTaskStart, { packageName := keyInfo.pkg, uid := keyInfo.uid })] else []
    keyInfoMap := l.keyInfoMap.insert info.requestId keyInfo
    expiredCallbackMap := l.expiredCallbackMap.insert info.requestId remote }

def remove (now : Int) (requestId : Int) (keyInfo : KeyInfo) (l : Ledger) : Ledger :=
  let left := removedList now requestId (l.requests keyInfo.mapKey)
  { l with
    requests := Function.update l.requests keyInfo.mapKey left
    timers := if accountedIn (l.requests keyInfo.mapKey) requestId
      then l.timers.filter (fun id => id ≠ requestId) else l.timers
    tasks := l.tasks ++ [(.taskEnd, ⟨keyInfo.pkg, keyInfo.uid, keyInfo.pid⟩)] ++
      if left = [] then [(.appTaskEnd, { packageName := keyInfo.pkg, uid := keyInfo.uid })]
        else []
    keyInfoMap := l.keyInfoMap.erase requestId
    expiredCallbackMap := l.expiredCallbackMap.erase requestId
    watchdog := l.watchdog.filter (fun id => id ≠ requestId) }

/-- What is left of an id that is not held goes. -/
def drop (requestId : Int) (l : Ledger) : Ledger :=
  { l with
    expiredCallbackMap := l.expiredCallbackMap.erase requestId
    watchdog := l.watchdog.filter (fun id => id ≠ requestId) }

def fire (requestId : Int) (l : Ledger) : Ledger :=
  { l with
    timers := l.timers.erase requestId
    expiredNotices := if requestId ∈ l.expiredCallbackMap
      then l.expiredNotices ++ [requestId] else l.expiredNotices
    watchdog := if requestId ∈ l.expiredCallbackMap ∧ requestId ∈ l.keyInfoMap
      then l.watchdog ++ [requestId] else l.watchdog }

def bark (requestId : Int) (l : Ledger) : Ledger :=
  { l with watchdog := l.watchdog.erase requestId }

/-- Every held id is that of a request stored under its key. -/
def Owned (l : Ledger) : Prop :=
  ∀ requestId keyInfo, l.keyInfoMap.lookup requestId = some keyInfo →
    ∃ info ∈ l.requests keyInfo.mapKey, info.requestId = requestId

section

variable (l : Ledger) (now : Int)

theorem requests_start (key : String × Int) (requestId : Int) (a : String × Int) :
    (l.start now key requestId).requests a =
      if a = key then startedList now requestId (l.requests a) else l.requests a := by
  unfold start
  dsimp only
  rw [Function.update_apply]
  split
  · rename_i here
    rw [here]
  · rfl

theorem requests_stop (key a : String × Int) :
    (l.stop now key).requests a =
      if a = key then stoppedList now (l.requests a) else l.requests a := by
  unfold stop
  dsimp only
  rw [Function.update_apply]
  split
  · rename_i here
    rw [here]
  · rfl

theorem requests_grant (keyInfo : KeyInfo) (remote : Remote) (info : DelaySuspendInfoEx)
    (a : String × Int) :
    (l.grant keyInfo remote info).requests a =
      if a = keyInfo.mapKey then l.requests a ++ [info] else l.requests a := by
  unfold grant
  dsimp only
  rw [Function.update_apply]
  split
  · rename_i here
    rw [here]
  · rfl

theorem requests_remove (requestId : Int) (keyInfo : KeyInfo) (a : String × Int) :
    (l.remove now requestId keyInfo).requests a =
      if a = keyInfo.mapKey then removedList now requestId (l.requests a) else l.requests a := by
  unfold remove
  dsimp only
  rw [Function.update_apply]
  split
  · rename_i here
    rw [here]
  · rfl

end

end Ledger

/-- What a loop of the code does to the ledger; `stops` are the packages the step may stop. -/
inductive Move (now : Int) (stops : String × Int → Prop) (l : Ledger) : Ledger → Prop where
  | start (key : String × Int) : Move now stops l (l.start now key (-1))
  | stop (key : String × Int) (may : stops key) : Move now stops l (l.stop now key)
  | remove {requestId : Int} {keyInfo : KeyInfo}
      (held : l.keyInfoMap.lookup requestId = some keyInfo) :
      Move now stops l (l.remove now requestId keyInfo)
  | drop {requestId : Int} (missing : l.keyInfoMap.lookup requestId = none) :
      Move now stops l (l.drop requestId)
  | bark (requestId : Int) : Move now stops l (l.bark requestId)

abbrev Moves (now : Int) (stops : String × Int → Prop) : Ledger → Ledger → Prop :=
  Relation.ReflTransGen (Move now stops)

namespace PkgDelaySuspendInfo

section

variable (params : Params) (config : BgtaskConfig) (now : Int)

theorem startAccountingOne_timers (requestId : Int) (self : PkgDelaySuspendInfo)
    (timers : TimerManager) (info : DelaySuspendInfoEx) :
    (startAccountingOne params config now requestId self timers info).2.1.events.map
        (fun event => event.1) =
      timers.events.map (fun event => event.1) ++ Ledger.startedTimers requestId [info] := by
  unfold startAccountingOne Ledger.startedTimers selects
  split
  · rename_i skipped
    simp [skipped.1, skipped.2]
  · rename_i taken
    have selected : (requestId = -1 || info.requestId = requestId : Bool) = true := by
      simpa [Classical.or_iff_not_imp_left] using taken
    by_cases idle : info.baseTime = 0
    · simp [idle, selected, TimerManager.addTimer]
    · simp [idle]

theorem startAccountingLoop_timers (requestId : Int) (self : PkgDelaySuspendInfo)
    (timers : TimerManager) (requests : List DelaySuspendInfoEx) :
    (startAccountingLoop params config now requestId self timers requests).2.1.events.map
        (fun event => event.1) =
      timers.events.map (fun event => event.1) ++ Ledger.startedTimers requestId requests := by
  induction requests generalizing self timers with
  | nil => simp [startAccountingLoop, Ledger.startedTimers]
  | cons info rest ih =>
      rw [startAccountingLoop, ih, startAccountingOne_timers, List.append_assoc]
      congr 1
      unfold Ledger.startedTimers
      rw [← List.map_append, ← List.filter_append]
      rfl

theorem stopAccountingLoop_timers (selected : DelaySuspendInfoEx → Bool)
    (timers : TimerManager) (requests : List DelaySuspendInfoEx) :
    (stopAccountingLoop now selected timers requests).1.events.map (fun event => event.1) =
      (timers.events.map (fun event => event.1)).filter
        (fun id => !Ledger.accountedIn (requests.filter selected) id) := by
  induction requests generalizing timers with
  | nil => simp [stopAccountingLoop, Ledger.accountedIn]
  | cons info rest ih =>
      unfold stopAccountingLoop
      split
      · rename_i skipped
        rw [ih]
        refine List.filter_congr (fun id _ => ?_)
        rcases skipped with unselected | idle
        · simp [unselected]
        · cases picked : selected info with
          | true => simp [picked, Ledger.accountedIn, idle]
          | false => simp [picked]
      · rename_i taken
        rw [not_or] at taken
        have picked : selected info = true := by simpa using taken.1
        rw [ih, List.filter_cons_of_pos picked]
        simp only [TimerManager.removeTimer, List.filter_map, List.filter_filter, Function.comp_def]
        congr 1
        refine List.filter_congr (fun event _ => ?_)
        by_cases same : event.1 = info.requestId
        · simp [same, Ledger.accountedIn, taken.2]
        · simp [same, Ledger.accountedIn, Ne.symm same]

end

end PkgDelaySuspendInfo

/-! ## Calls on packages -/

namespace DecisionMaker

def timerIds (self : DecisionMaker) : List Int :=
  self.timerManager.events.map (fun event => event.1)

@[simp]
theorem suscriberTasks_updatePkg (self : DecisionMaker) (key : String × Int)
    (f : TimerManager → PkgDelaySuspendInfo → PkgDelaySuspendInfo × TimerManager) :
    (self.updatePkg key f).suscriberTasks = self.suscriberTasks := by
  unfold updatePkg
  split
  · rfl
  · rfl

theorem timerIds_updatePkg (self : DecisionMaker) {key : String × Int}
    {f : TimerManager → PkgDelaySuspendInfo → PkgDelaySuspendInfo × TimerManager}
    (change : List DelaySuspendInfoEx → List Int → List Int)
    (nothing : ∀ timers, change [] timers = timers)
    (effect : ∀ timers pkgInfo, (f timers pkgInfo).2.events.map (fun event => event.1) =
      change pkgInfo.requestList (timers.events.map (fun event => event.1))) :
    (self.updatePkg key f).timerIds = change (self.requestsAt key) self.timerIds := by
  cases found : self.pkgDelaySuspendInfoMap.lookup key with
  | none =>
      rw [self.requestsAt_of_none found, nothing]
      unfold updatePkg
      rw [found]
  | some pkgInfo =>
      rw [self.requestsAt_of_lookup found]
      unfold updatePkg
      rw [found]
      exact effect self.timerManager pkgInfo

end DecisionMaker

namespace BgTransientTaskMgr

def ledgerOf (s : BgTransientTaskMgr) (decision : DecisionMaker) : Ledger where
  requests := decision.requestsAt
  timers := decision.timerIds
  tasks := decision.suscriberTasks
  keyInfoMap := s.keyInfoMap
  expiredCallbackMap := s.expiredCallbackMap
  watchdog := s.watchdog
  expiredNotices := s.expiredNotices

def ledger (s : BgTransientTaskMgr) : Ledger := s.ledgerOf s.decisionMaker

section

variable (params : Params) (env : Env) (s : BgTransientTaskMgr) (decision : DecisionMaker)
  {stops : String × Int → Prop}

theorem ledgerOf_congr {next : DecisionMaker}
    (requests : ∀ a, next.requestsAt a = decision.requestsAt a)
    (timers : next.timerIds = decision.timerIds)
    (tasks : next.suscriberTasks = decision.suscriberTasks) :
    s.ledgerOf next = s.ledgerOf decision :=
  Ledger.ext (funext requests) timers tasks rfl rfl rfl rfl

theorem ledgerOf_startAccounting (key : String × Int) (requestId : Int) :
    s.ledgerOf (decision.updatePkg key (fun timers pkgInfo =>
        pkgInfo.startAccounting params env.config env.now requestId timers)) =
      (s.ledgerOf decision).start env.now key requestId := by
  refine Ledger.ext ?_ ?_ (suscriberTasks_updatePkg decision key _) rfl rfl rfl rfl
  · funext a
    refine (requestsAt_startAccounting params env decision key requestId a).trans ?_
    rw [Ledger.requests_start]
    rfl
  · refine timerIds_updatePkg decision
      (fun requests timers => timers ++ Ledger.startedTimers requestId requests) ?_ ?_
    · exact fun timers => List.append_nil timers
    · intro timers pkgInfo
      exact PkgDelaySuspendInfo.startAccountingLoop_timers params env.config env.now requestId
        pkgInfo timers pkgInfo.requestList

theorem ledgerOf_stopAccountingAll (key : String × Int) :
    s.ledgerOf (decision.updatePkg key (fun timers pkgInfo =>
        pkgInfo.stopAccountingAll params env.config env.now timers)) =
      (s.ledgerOf decision).stop env.now key := by
  refine Ledger.ext ?_ ?_ (suscriberTasks_updatePkg decision key _) rfl rfl rfl rfl
  · funext a
    refine (requestsAt_stopAccountingAll params env decision key a).trans ?_
    rw [Ledger.requests_stop]
    rfl
  · refine timerIds_updatePkg decision
      (fun requests timers => timers.filter (fun id => !Ledger.accountedIn requests id)) ?_ ?_
    · intro timers
      simp [Ledger.accountedIn]
    · intro timers pkgInfo
      have stopped := PkgDelaySuspendInfo.stopAccountingLoop_timers env.now (fun _ => true) timers
        pkgInfo.requestList
      rw [List.filter_true] at stopped
      exact stopped

theorem moves_tryStartAccounting (uid : Int) (name : String) :
    Moves env.now stops (s.ledgerOf decision)
      (s.ledgerOf (decision.tryStartAccounting params env uid name).2) := by
  unfold tryStartAccounting
  split
  · exact .refl
  split
  · rw [ledgerOf_startAccounting]
    exact .single (.start _)
  · exact .refl

theorem moves_startTransientTaskTimeForInner (uid : Int) (name : String) :
    Moves env.now stops (s.ledgerOf decision)
      (s.ledgerOf (decision.startTransientTaskTimeForInner params env uid name).2) := by
  unfold DecisionMaker.startTransientTaskTimeForInner
  split
  · exact .refl
  · exact moves_tryStartAccounting params env s decision uid name

theorem moves_pauseTransientTaskTimeForInner (uid : Int) (name : String)
    (may : decision.isUidForeground uid = false → stops (name, uid)) :
    Moves env.now stops (s.ledgerOf decision)
      (s.ledgerOf (decision.pauseTransientTaskTimeForInner params env uid name).2) := by
  unfold DecisionMaker.pauseTransientTaskTimeForInner
  split
  · exact .refl
  rename_i background
  split
  · exact .refl
  · rw [ledgerOf_stopAccountingAll]
    exact .single (.stop _ (may (by simpa using background)))

theorem moves_handleStateChange (bundleName : String) (uid : Int)
    (isForeground isBackground : Bool) (may : isForeground = true → stops (bundleName, uid)) :
    Moves env.now stops (s.ledgerOf decision) (s.ledgerOf
      (decision.handleStateChange params env bundleName uid isForeground isBackground)) := by
  cases isForeground with
  | true =>
      have stopped := ledgerOf_stopAccountingAll params env s decision (bundleName, uid)
      exact .single (stopped ▸ .stop _ (may rfl))
  | false =>
      cases isBackground with
      | false => exact .refl
      | true =>
          obtain ⟨entries, moved⟩ := handleStateChange_background bundleName uid
          rw [moved]
          exact moves_tryStartAccounting params env s decision uid bundleName

theorem ledgerOf_updateForegroundUidPidMap (uid pid : Int) (isForeground : Bool) :
    s.ledgerOf (decision.updateForegroundUidPidMap uid pid isForeground) =
      s.ledgerOf decision := by
  obtain ⟨uids, moved⟩ := updateForegroundUidPidMap_frame uid pid isForeground
  rw [moved]
  rfl

theorem moves_onProcessStateChanged (processData : ProcessData)
    (may : processData.state = .foreground ∨ processData.state = .focus →
      stops (processData.bundleName, processData.uid)) :
    Moves env.now stops (s.ledgerOf decision)
      (s.ledgerOf (decision.onProcessStateChanged params env processData)) := by
  unfold onProcessStateChanged
  dsimp only
  rw [← ledgerOf_updateForegroundUidPidMap s decision processData.uid processData.pid
    (processData.state == .foreground || processData.state == .focus)]
  split
  · refine moves_handleStateChange params env s _ _ _ _ _ ?_
    intro front
    exact may (by simpa using front)
  · exact .refl

theorem moves_onProcessDied (processData : ProcessData) :
    Moves env.now stops (s.ledgerOf decision)
      (s.ledgerOf (decision.onProcessDied params env processData)) := by
  unfold onProcessDied
  rw [← ledgerOf_updateForegroundUidPidMap s decision processData.uid processData.pid false]
  exact moves_tryStartAccounting params env s _ _ _

theorem ledgerOf_getQuota (key : KeyInfo) :
    s.ledgerOf (decision.getQuota params env key).2 = s.ledgerOf decision := by
  refine ledgerOf_congr s decision (requestsAt_getQuota params env decision key) ?_ ?_
  · unfold getQuota
    split
    · refine (timerIds_updatePkg decision (fun _ timers => timers) (fun _ => rfl) ?_)
      exact fun _ _ => rfl
    · rfl
  · unfold getQuota
    split
    · exact suscriberTasks_updatePkg decision _ _
    · rfl

theorem moves_foldl {α : Type} (f : DecisionMaker → α → DecisionMaker) (items : List α)
    (body : ∀ decision, ∀ item ∈ items,
      Moves env.now stops (s.ledgerOf decision) (s.ledgerOf (f decision item))) :
    Moves env.now stops (s.ledgerOf decision) (s.ledgerOf (items.foldl f decision)) := by
  induction items generalizing decision with
  | nil => exact .refl
  | cons item rest ih =>
      refine (body decision item (by simp)).trans (ih (f decision item) ?_)
      exact fun later member isMember => body later member (by simp [isMember])

theorem moves_screenOffPkg (transientPauseUid : Finset Int) (key : String × Int) :
    Moves env.now stops (s.ledgerOf decision)
      (s.ledgerOf (screenOffPkg params env transientPauseUid decision key)) := by
  unfold screenOffPkg
  split
  · exact .refl
  split
  · exact .refl
  split
  · have started := ledgerOf_startAccounting params env s decision key (-1)
    exact .single (started ▸ .start key)
  · exact .refl

theorem moves_handleScreenOn
    (may : ∀ app ∈ env.foregroundApplications.getD [], stops app) :
    Moves env.now stops (s.ledgerOf decision)
      (s.ledgerOf (decision.handleScreenOn params env)) := by
  unfold handleScreenOn
  split
  · exact .refl
  · rename_i apps known
    rw [known] at may
    refine moves_foldl env s decision _ apps ?_
    intro later app listed
    have stopped := ledgerOf_stopAccountingAll params env s later app
    exact .single (stopped ▸ .stop app (may app listed))

theorem moves_handleScreenOff (transientPauseUid : Finset Int) :
    Moves env.now stops (s.ledgerOf decision)
      (s.ledgerOf (decision.handleScreenOff params env transientPauseUid)) := by
  refine moves_foldl env s decision _ _ ?_
  intro later key _
  exact moves_screenOffPkg params env s later transientPauseUid key

theorem moves_onInputEvent (transientPauseUid : Finset Int) (event : EventId) (stringArg : String)
    (may : event = .screenOn → ∀ app ∈ env.foregroundApplications.getD [], stops app) :
    Moves env.now stops (s.ledgerOf decision)
      (s.ledgerOf (decision.onInputEvent params env transientPauseUid event stringArg)) := by
  have noted : s.ledgerOf { decision with
      deviceInfoManager := decision.deviceInfoManager.onInputEvent event stringArg } =
        s.ledgerOf decision := rfl
  rw [← noted]
  unfold onInputEvent
  dsimp only
  split
  · exact moves_handleScreenOn params env s _ (may rfl)
  · exact moves_handleScreenOff params env s _ transientPauseUid
  · exact .refl

theorem moves_restartUid (uid : Int) :
    Moves env.now stops (s.ledgerOf decision)
      (s.ledgerOf (restartUid params env decision uid)) := by
  unfold restartUid
  split
  · exact .refl
  · exact moves_startTransientTaskTimeForInner params env s decision uid _

end

/-! ## Grants and removals -/

section

variable (params : Params) (env : Env) {s : BgTransientTaskMgr}

theorem timerIds_removeRequest (decision : DecisionMaker) (key : String × Int) (requestId : Int) :
    (decision.updatePkg key (fun timers pkgInfo =>
        pkgInfo.removeRequest params env.config env.now requestId timers)).timerIds =
      if Ledger.accountedIn (decision.requestsAt key) requestId
        then decision.timerIds.filter (fun id => id ≠ requestId) else decision.timerIds := by
  refine timerIds_updatePkg decision (fun requests timers =>
    if Ledger.accountedIn requests requestId then timers.filter (fun id => id ≠ requestId)
    else timers) (fun _ => rfl) ?_
  intro timers pkgInfo
  have stopped := PkgDelaySuspendInfo.stopAccountingLoop_timers env.now
    (fun info => info.requestId = requestId) timers pkgInfo.requestList
  have picked : ∀ id, Ledger.accountedIn
      (pkgInfo.requestList.filter (fun info => info.requestId = requestId)) id =
        (Ledger.accountedIn pkgInfo.requestList requestId && decide (id = requestId)) := by
    intro id
    rw [Bool.eq_iff_iff]
    simp only [Ledger.accountedIn, List.any_eq_true, List.mem_filter, Bool.and_eq_true,
      decide_eq_true_eq, beq_iff_eq, bne_iff_ne]
    constructor
    · rintro ⟨info, ⟨member, ofId⟩, same, accounted⟩
      exact ⟨⟨info, member, ofId, accounted⟩, same.symm.trans ofId⟩
    · rintro ⟨⟨info, member, ofId, accounted⟩, rfl⟩
      exact ⟨info, ⟨member, ofId⟩, ofId, accounted⟩
  simp only [picked] at stopped
  have removed : (pkgInfo.removeRequest params env.config env.now requestId timers).2 =
      if pkgInfo.requestList.any (fun info => info.requestId = requestId) then
        (PkgDelaySuspendInfo.stopAccountingLoop env.now (fun info => info.requestId = requestId)
          timers pkgInfo.requestList).1
      else timers := by
    unfold PkgDelaySuspendInfo.removeRequest
    split
    · dsimp only
      split
      · rfl
      · rfl
    · rfl
  rw [removed]
  cases accounted : Ledger.accountedIn pkgInfo.requestList requestId with
  | true =>
      have present : pkgInfo.requestList.any (fun info => info.requestId = requestId) = true := by
        unfold Ledger.accountedIn at accounted
        rw [List.any_eq_true] at accounted ⊢
        obtain ⟨info, member, isIt⟩ := accounted
        rw [Bool.and_eq_true, beq_iff_eq] at isIt
        exact ⟨info, member, by simpa using isIt.1⟩
      rw [if_pos present, stopped, accounted]
      simp
  | false =>
      rw [accounted] at stopped
      split
      · rw [stopped]
        simp
      · simp

theorem books_removeRequest (decision : DecisionMaker) (keyInfo : KeyInfo) (requestId : Int)
    (stored : decision.requestsAt keyInfo.mapKey ≠ []) :
    (decision.removeRequest params env (some keyInfo) requestId).timerIds =
        (if Ledger.accountedIn (decision.requestsAt keyInfo.mapKey) requestId
          then decision.timerIds.filter (fun id => id ≠ requestId) else decision.timerIds) ∧
      (decision.removeRequest params env (some keyInfo) requestId).suscriberTasks =
        decision.suscriberTasks ++ [(.taskEnd, ⟨keyInfo.pkg, keyInfo.uid, keyInfo.pid⟩)] ++
          if removedList env.now requestId (decision.requestsAt keyInfo.mapKey) = []
            then [(.appTaskEnd, { packageName := keyInfo.pkg, uid := keyInfo.uid })] else [] := by
  have requests := requestsAt_removeRequest params env decision keyInfo requestId keyInfo.mapKey
  have timers := timerIds_removeRequest params env decision keyInfo.mapKey requestId
  rw [if_pos rfl] at requests
  rw [← requests]
  cases found : decision.pkgDelaySuspendInfoMap.lookup keyInfo.mapKey with
  | none => exact absurd (decision.requestsAt_of_none found) stored
  | some pkgInfo =>
      simp only [removeRequest, found]
      refine ⟨timers, ?_⟩
      rw [suscriberTasks_updatePkg]
      congr 1
      refine if_congr ?_ rfl rfl
      unfold DecisionMaker.requestsAt
      dsimp only
      cases (decision.updatePkg keyInfo.mapKey (fun timers pkgInfo => pkgInfo.removeRequest params
        env.config env.now requestId timers)).pkgDelaySuspendInfoMap.lookup keyInfo.mapKey with
      | none => simp
      | some left => exact List.isEmpty_iff

theorem ledger_cancelSuspendDelayLocked (owned : s.ledger.Owned) (requestId : Int)
    (stops : String × Int → Prop) :
    Move env.now stops s.ledger (s.cancelSuspendDelayLocked params env requestId).2.ledger := by
  -- the callback is erased, were there none to erase
  have callbacks : (s.cancelSuspendDelayLocked params env requestId).2.ledger =
      (BgTransientTaskMgr.mk s.isReady (s.expiredCallbackMap.erase requestId)
        (s.keyInfoMap.erase requestId)
        (s.decisionMaker.removeRequest params env (s.keyInfoMap.lookup requestId) requestId)
        (s.watchdog.filter (fun id => id ≠ requestId)) s.transientPauseUid s.cacheSnapshots
        s.expiredNotices).ledger := by
    unfold cancelSuspendDelayLocked
    dsimp only
    split
    · rfl
    · rename_i absent
      have missing : s.expiredCallbackMap.lookup requestId = none :=
        AList.lookup_eq_none.mpr absent
      rw [KeyedMap.erase_of_lookup_none missing]
      rfl
  rw [callbacks]
  cases held : s.keyInfoMap.lookup requestId with
  | none =>
      rw [KeyedMap.erase_of_lookup_none held]
      exact .drop held
  | some keyInfo =>
      obtain ⟨info, member, -⟩ := owned requestId keyInfo held
      have books := books_removeRequest params env s.decisionMaker keyInfo requestId
        (List.ne_nil_of_mem member)
      have removed : (BgTransientTaskMgr.mk s.isReady (s.expiredCallbackMap.erase requestId)
          (s.keyInfoMap.erase requestId)
          (s.decisionMaker.removeRequest params env (some keyInfo) requestId)
          (s.watchdog.filter (fun id => id ≠ requestId)) s.transientPauseUid s.cacheSnapshots
          s.expiredNotices).ledger = s.ledger.remove env.now requestId keyInfo := by
        refine Ledger.ext ?_ books.1 books.2 rfl rfl rfl rfl
        funext a
        rw [Ledger.requests_remove]
        exact requestsAt_removeRequest params env s.decisionMaker keyInfo requestId a
      rw [removed]
      exact .remove held

theorem ledger_handleExpiredCallbackDeath (owned : s.ledger.Owned) (remote : Remote)
    (stops : String × Int → Prop) :
    Moves env.now stops s.ledger (s.handleExpiredCallbackDeath params env remote).ledger := by
  unfold handleExpiredCallbackDeath
  split
  · exact .refl
  rename_i callback found
  dsimp only
  split
  · rename_i missing
    exact .single (.drop missing)
  · rename_i keyInfo isHeld
    have held : s.keyInfoMap.lookup callback.1 = some keyInfo := isHeld
    obtain ⟨info, member, -⟩ := owned callback.1 keyInfo held
    have books := books_removeRequest params env s.decisionMaker keyInfo callback.1
      (List.ne_nil_of_mem member)
    have removed : (BgTransientTaskMgr.mk s.isReady (s.expiredCallbackMap.erase callback.1)
        (s.keyInfoMap.erase callback.1)
        (s.decisionMaker.removeRequest params env (some keyInfo) callback.1)
        (s.watchdog.filter (fun id => id ≠ callback.1)) s.transientPauseUid s.cacheSnapshots
        s.expiredNotices).ledger = s.ledger.remove env.now callback.1 keyInfo := by
      refine Ledger.ext ?_ books.1 books.2 rfl rfl rfl rfl
      funext a
      rw [Ledger.requests_remove]
      exact requestsAt_removeRequest params env s.decisionMaker keyInfo callback.1 a
    have move : Move env.now stops s.ledger (s.ledger.remove env.now callback.1 keyInfo) :=
      .remove held
    rw [← removed] at move
    exact .single move

/-- What `Decide` makes of the timers and the events: nothing, or the events of a start and
the timers of what is accounted. -/
structure DecideBooks (key : KeyInfo) (before : DecisionMaker)
    (result : ErrCode × DelaySuspendInfoEx × DecisionMaker) : Prop where
  refused : result.1 ≠ .ok → result.2.2.timerIds = before.timerIds ∧
    result.2.2.suscriberTasks = before.suscriberTasks
  granted : result.1 = .ok →
    result.2.2.timerIds = (if before.mayAccount key.uid then
        before.timerIds ++ (Ledger.startedTimers before.newDelaySuspendRequestId.1
          (before.requestsAt key.mapKey) ++ [before.newDelaySuspendRequestId.1])
      else before.timerIds) ∧
    result.2.2.suscriberTasks = before.suscriberTasks ++
      [(.taskStart, ⟨key.pkg, key.uid, key.pid⟩)] ++
        if before.requestsAt key.mapKey = []
          then [(.appTaskStart, { packageName := key.pkg, uid := key.uid })] else []

theorem decideBooks_grant (decision : DecisionMaker) (key : KeyInfo)
    {pkgInfo : PkgDelaySuspendInfo} (needSetTime : Bool) (own : pkgInfo.uid = key.uid)
    (requests : pkgInfo.requestList = decision.requestsAt key.mapKey) :
    DecideBooks key decision
      (.ok, decision.grant params env key { pid := key.pid } pkgInfo needSetTime) := by
  refine ⟨fun failed => absurd rfl failed, fun _ => ?_⟩
  have one : ∀ info : DelaySuspendInfoEx,
      (pkgInfo.requestList ++ [info]).length = 1 ↔ decision.requestsAt key.mapKey = [] := by
    intro info
    rw [requests]
    simp
  have tasks : ∀ info : DelaySuspendInfoEx, (decision.newDelaySuspendRequestId.2.storeRequest key
      { pkgInfo with requestList := pkgInfo.requestList ++ [info] }).suscriberTasks =
        decision.suscriberTasks ++ [(.taskStart, ⟨key.pkg, key.uid, key.pid⟩)] ++
          if decision.requestsAt key.mapKey = []
            then [(.appTaskStart, { packageName := key.pkg, uid := key.uid })] else [] := by
    intro info
    unfold storeRequest
    dsimp only
    rw [if_congr (one info) rfl rfl]
    rfl
  have may : ∀ info : DelaySuspendInfoEx, (decision.newDelaySuspendRequestId.2.storeRequest key
      { pkgInfo with requestList := pkgInfo.requestList ++ [info] }).canStartAccountingLocked
        { pkgInfo with requestList := pkgInfo.requestList ++ [info] } =
      decision.mayAccount key.uid := by
    intro info
    rw [← own]
    rfl
  unfold grant PkgDelaySuspendInfo.addRequest
  dsimp only
  rw [may]
  cases allowed : decision.mayAccount key.uid with
  | false => exact ⟨rfl, tasks _⟩
  | true =>
      rw [if_pos rfl, if_pos rfl]
      refine ⟨?_, (suscriberTasks_updatePkg _ _ _).trans (tasks _)⟩
      · refine (timerIds_updatePkg _ (fun requests timers => timers ++
          Ledger.startedTimers decision.newDelaySuspendRequestId.1 requests)
          (fun timers => List.append_nil timers) (fun timers pkgInfo =>
            PkgDelaySuspendInfo.startAccountingLoop_timers params env.config env.now
              decision.newDelaySuspendRequestId.1 pkgInfo timers pkgInfo.requestList)).trans ?_
        rw [requestsAt_insert decision key.mapKey _ rfl, if_pos rfl, requests]
        have kept (stored : PkgDelaySuspendInfo) :
            (decision.newDelaySuspendRequestId.2.storeRequest key stored).timerIds =
              decision.timerIds := rfl
        simp [Ledger.startedTimers, PkgDelaySuspendInfo.selects, kept]

theorem decideBooks_decideQuota (decision : DecisionMaker) (uids : decision.UidsMatch)
    (key : KeyInfo) :
    DecideBooks key decision (decision.decideQuota params env key { pid := key.pid }) := by
  obtain ⟨own, requests⟩ := checkQuotaTime_ofKey params env decision key uids
  unfold decideQuota
  dsimp only
  generalize (decision.pkgDelaySuspendInfoMap.lookup key.mapKey).getD
    (PkgDelaySuspendInfo.make params key.pkg key.uid) = pkgInfo at own requests ⊢
  split
  · exact decideBooks_grant params env decision key _ own requests
  · rename_i failed
    exact ⟨fun _ => ⟨rfl, rfl⟩, fun ok => absurd ok failed⟩

theorem decideBooks_decide (decision : DecisionMaker) (uids : decision.UidsMatch)
    (key : KeyInfo) :
    DecideBooks key decision (decision.decide params env key { pid := key.pid }) := by
  have timers : (decision.resetDayQuotaLocked params env).timerIds = decision.timerIds := by
    unfold resetDayQuotaLocked
    split
    · rfl
    · rfl
  have tasks : (decision.resetDayQuotaLocked params env).suscriberTasks =
      decision.suscriberTasks := by
    unfold resetDayQuotaLocked
    split
    · rfl
    · rfl
  have device := sameDevice_resetDayQuotaLocked params env decision
  have asked := decideBooks_decideQuota params env (decision.resetDayQuotaLocked params env)
    (uidsMatch_resetDayQuotaLocked params env decision uids) key
  have quota : DecideBooks key decision
      ((decision.resetDayQuotaLocked params env).decideQuota params env key { pid := key.pid }) := by
    obtain ⟨refused, granted⟩ := asked
    rw [timers, tasks] at refused
    rw [timers, tasks, device.mayAccount, requestsAt_resetDayQuotaLocked,
      newDelaySuspendRequestId_resetDayQuotaLocked] at granted
    exact ⟨refused, granted⟩
  unfold DecisionMaker.decide
  dsimp only
  split
  · split
    · exact ⟨fun _ => ⟨timers, tasks⟩, fun ok => absurd ok (by simp)⟩
    · exact quota
  · exact quota

theorem ledger_of_decided {keyInfo : KeyInfo} (remote : Remote) {info : DelaySuspendInfoEx}
    {decided : DecisionMaker} {requestId : Int} (isNew : IsNew keyInfo.pid requestId info)
    (requests : ∀ a, decided.requestsAt a = if a = keyInfo.mapKey then
        if s.decisionMaker.mayAccount keyInfo.uid then
          startedList env.now requestId (s.decisionMaker.requestsAt a ++ [info])
        else s.decisionMaker.requestsAt a ++ [info]
      else s.decisionMaker.requestsAt a)
    (timers : decided.timerIds = if s.decisionMaker.mayAccount keyInfo.uid then
        s.decisionMaker.timerIds ++ (Ledger.startedTimers requestId
          (s.decisionMaker.requestsAt keyInfo.mapKey) ++ [requestId])
      else s.decisionMaker.timerIds)
    (tasks : decided.suscriberTasks = s.decisionMaker.suscriberTasks ++
      [(.taskStart, ⟨keyInfo.pkg, keyInfo.uid, keyInfo.pid⟩)] ++
        if s.decisionMaker.requestsAt keyInfo.mapKey = []
          then [(.appTaskStart, { packageName := keyInfo.pkg, uid := keyInfo.uid })] else []) :
    ({ s with
        expiredCallbackMap := s.expiredCallbackMap.insert requestId remote
        keyInfoMap := s.keyInfoMap.insert requestId keyInfo
        decisionMaker := decided } : BgTransientTaskMgr).ledger =
      if s.decisionMaker.mayAccount keyInfo.uid then
        (s.ledger.grant keyInfo remote info).start env.now keyInfo.mapKey requestId
      else s.ledger.grant keyInfo remote info := by
  have new : Ledger.startedTimers requestId [info] = [requestId] := by
    simp [Ledger.startedTimers, PkgDelaySuspendInfo.selects, isNew.1, isNew.2.2.1]
  obtain ⟨rfl, -⟩ := isNew
  cases may : s.decisionMaker.mayAccount keyInfo.uid with
  | false =>
      rw [may] at timers
      refine Ledger.ext (funext fun a => ?_) timers tasks rfl rfl rfl rfl
      rw [if_neg (by simp), Ledger.requests_grant]
      refine (requests a).trans ?_
      rw [may]
      rfl
  | true =>
      rw [may, if_pos rfl] at timers
      rw [if_pos rfl]
      refine Ledger.ext (funext fun a => ?_) ?_ tasks rfl rfl rfl rfl
      · rw [Ledger.requests_start, Ledger.requests_grant]
        refine (requests a).trans ?_
        rw [may]
        by_cases here : a = keyInfo.mapKey
        · rw [if_pos here, if_pos here, if_pos here]
          rfl
        · rw [if_neg here, if_neg here, if_neg here]
          rfl
      · refine timers.trans ?_
        unfold Ledger.start
        dsimp only
        rw [Ledger.requests_grant, if_pos rfl]
        have split : Ledger.startedTimers info.requestId
            (s.ledger.requests keyInfo.mapKey ++ [info]) =
              Ledger.startedTimers info.requestId (s.ledger.requests keyInfo.mapKey) ++
                Ledger.startedTimers info.requestId [info] := by
          unfold Ledger.startedTimers
          rw [List.filter_append, List.map_append]
        rw [split, new]
        rfl

/-! ## Steps -/

def stopsOf (env : Env) (s : BgTransientTaskMgr) : Op → String × Int → Prop
  | .pause uid, key => s.isReady = true ∧ checkProcessName env = true ∧ 0 ≤ uid ∧ key.2 = uid ∧
      env.bundleNameForUid uid = some key.1 ∧ s.decisionMaker.isUidForeground uid = false
  | .processStateChanged processData, key =>
      (processData.state = .foreground ∨ processData.state = .focus) ∧
        key = (processData.bundleName, processData.uid)
  | .inputEvent .screenOn _, key => key ∈ env.foregroundApplications.getD []
  | _, _ => False

inductive LedgerStep (params : Params) (env : Env) (s : BgTransientTaskMgr) :
    Op → Ledger → Prop where
  | moves {op : Op} {l : Ledger} (chain : Moves env.now (stopsOf env s op) s.ledger l) :
      LedgerStep params env s op l
  | granted {uid pid : Int} {callback : ExpiredCallback} {name : String} {remote : Remote}
      {info : DelaySuspendInfoEx} {l : Ledger}
      (ok : (s.requestSuspendDelay params env uid pid callback).1 = .ok)
      (isNew : IsNew pid s.decisionMaker.newDelaySuspendRequestId.1 info)
      (result : l = if s.decisionMaker.mayAccount uid then
          (s.ledger.grant ⟨name, uid, pid⟩ remote info).start env.now (name, uid)
            s.decisionMaker.newDelaySuspendRequestId.1
        else s.ledger.grant ⟨name, uid, pid⟩ remote info) :
      LedgerStep params env s (.requestSuspendDelay uid pid callback) l
  | fired {requestId : Int} {l : Ledger} (result : l = s.ledger.fire requestId) :
      LedgerStep params env s (.timerEvent requestId) l

theorem ledger_requestSuspendDelayLocked (uids : s.decisionMaker.UidsMatch) (name : String)
    (uid pid : Int) (remote : Remote) :
    (s.requestSuspendDelayLocked params env name uid pid remote).2.ledger = s.ledger ∨
      (s.requestSuspendDelayLocked params env name uid pid remote).1 = .ok ∧
        ∃ info, IsNew pid s.decisionMaker.newDelaySuspendRequestId.1 info ∧
          (s.requestSuspendDelayLocked params env name uid pid remote).2.ledger =
            if s.decisionMaker.mayAccount uid then
              (s.ledger.grant ⟨name, uid, pid⟩ remote info).start env.now (name, uid)
                s.decisionMaker.newDelaySuspendRequestId.1
            else s.ledger.grant ⟨name, uid, pid⟩ remote info := by
  have lists := decideRequests_decide params env s.decisionMaker ⟨name, uid, pid⟩ uids
  have books := decideBooks_decide params env s.decisionMaker uids ⟨name, uid, pid⟩
  unfold requestSuspendDelayLocked
  split
  · exact Or.inl rfl
  dsimp only
  split
  · rename_i ok
    obtain ⟨id, info, isNew, requests⟩ := lists.granted ok
    obtain ⟨timers, tasks⟩ := books.granted ok
    have ledger := ledger_of_decided env remote isNew requests timers tasks
    rw [id]
    exact Or.inr ⟨rfl, info, isNew, ledger⟩
  · rename_i failed
    obtain ⟨timers, tasks⟩ := books.refused failed
    exact Or.inl (ledgerOf_congr s s.decisionMaker (lists.refused failed) timers tasks)

theorem ledgerStep_requestSuspendDelay (uids : s.decisionMaker.UidsMatch) (uid pid : Int)
    (callback : ExpiredCallback) :
    LedgerStep params env s (.requestSuspendDelay uid pid callback)
      (s.requestSuspendDelay params env uid pid callback).2.ledger := by
  cases ready : s.isReady with
  | false =>
      have refused : s.requestSuspendDelay params env uid pid callback = (.sysNotReady, s) := by
        unfold requestSuspendDelay
        rw [if_pos (by simp [ready])]
      rw [refused]
      exact .moves .refl
  | true =>
      cases legal : isCallingInfoLegal env uid pid callback with
      | error ret =>
          have refused : s.requestSuspendDelay params env uid pid callback = (ret, s) := by
            unfold requestSuspendDelay
            rw [if_neg (by simp [ready]), legal]
          rw [refused]
          exact .moves .refl
      | ok caller =>
          obtain ⟨name, remote⟩ := caller
          have locked : s.requestSuspendDelay params env uid pid callback =
              s.requestSuspendDelayLocked params env name uid pid remote := by
            unfold requestSuspendDelay
            rw [if_neg (by simp [ready]), legal]
          rcases ledger_requestSuspendDelayLocked params env uids name uid pid remote with
            same | ⟨ok, info, isNew, ledger⟩
          · rw [locked, same]
            exact .moves .refl
          · rw [locked]
            exact .granted (locked ▸ ok) isNew ledger

section

variable {now : Int} {l next : Ledger}

theorem exists_id_map {requests : List DelaySuspendInfoEx}
    {f : DelaySuspendInfoEx → DelaySuspendInfoEx} {requestId : Int}
    (sameId : ∀ info, (f info).requestId = info.requestId)
    (stored : ∃ info ∈ requests, info.requestId = requestId) :
    ∃ info ∈ requests.map f, info.requestId = requestId := by
  obtain ⟨info, member, ofId⟩ := stored
  exact ⟨f info, List.mem_map.mpr ⟨info, member, rfl⟩, (sameId info).trans ofId⟩

theorem owned_start (owned : l.Owned) (key : String × Int) (requestId : Int) :
    (l.start now key requestId).Owned := by
  intro id keyInfo held
  have stored := owned id keyInfo held
  rw [Ledger.requests_start]
  split
  · refine exists_id_map (fun info => ?_) stored
    split
    · exact info.startAccounting_requestId now
    · rfl
  · exact stored

theorem owned_stop (owned : l.Owned) (key : String × Int) : (l.stop now key).Owned := by
  intro id keyInfo held
  have stored := owned id keyInfo held
  rw [Ledger.requests_stop]
  split
  · exact exists_id_map (fun info => info.stopAccounting_requestId now) stored
  · exact stored

theorem owned_grant (owned : l.Owned) (keyInfo : KeyInfo) (remote : Remote)
    (info : DelaySuspendInfoEx) : (l.grant keyInfo remote info).Owned := by
  intro id holder held
  change (l.keyInfoMap.insert info.requestId keyInfo).lookup id = some holder at held
  rw [KeyedMap.lookup_insert] at held
  rw [Ledger.requests_grant]
  split at held
  · rename_i same
    cases Option.some.inj held
    rw [if_pos rfl]
    exact ⟨info, by simp, same.symm⟩
  · obtain ⟨old, member, ofId⟩ := owned id holder held
    split
    · exact ⟨old, by simp [member], ofId⟩
    · exact ⟨old, member, ofId⟩

theorem owned_remove (owned : l.Owned) (gone : Int) (goneInfo : KeyInfo) :
    (l.remove now gone goneInfo).Owned := by
  intro id holder held
  change (l.keyInfoMap.erase gone).lookup id = some holder at held
  rw [KeyedMap.lookup_erase] at held
  split at held
  · exact absurd held (by simp)
  rename_i different
  obtain ⟨info, member, ofId⟩ := owned id holder held
  rw [Ledger.requests_remove]
  split
  · refine ⟨info, ?_, ofId⟩
    have other : info.requestId ≠ gone := ofId ▸ different
    refine List.mem_map.mpr ⟨info, ?_, if_neg other⟩
    exact (List.mem_eraseP_of_neg (by simpa using other)).mpr member
  · exact ⟨info, member, ofId⟩

theorem owned_move {stops : String × Int → Prop} (owned : l.Owned)
    (move : Move now stops l next) : next.Owned := by
  cases move with
  | start key => exact owned_start owned key (-1)
  | stop key _ => exact owned_stop owned key
  | remove _ => exact owned_remove owned _ _
  | drop _ => exact owned
  | bark _ => exact owned

/-- What every move keeps, a chain of moves keeps. -/
theorem of_moves {stops : String × Int → Prop} {inv : Ledger → Prop}
    (preserve : ∀ l next, Move now stops l next → inv l → inv next)
    (chain : Moves now stops l next) (start : inv l) : inv next := by
  induction chain with
  | refl => exact start
  | tail _ move ih => exact preserve _ _ move ih

end

theorem moves_cancelSnapshot (owned : s.ledger.Owned) (requestIdList : List Int)
    (stops : String × Int → Prop) :
    Moves env.now stops s.ledger (s.cancelSnapshot params env requestIdList).ledger := by
  unfold cancelSnapshot
  induction requestIdList generalizing s with
  | nil => exact .refl
  | cons requestId rest ih =>
      have move := ledger_cancelSuspendDelayLocked params env owned requestId stops
      exact Relation.ReflTransGen.head move (ih (owned_move owned move))

theorem ledgerStep_if {op : Op} {first : BgTransientTaskMgr} (ready : Bool)
    (chain : Moves env.now (stopsOf env s op) s.ledger first.ledger) :
    LedgerStep params env s op (if ready then first else s).ledger := by
  split
  · exact .moves chain
  · exact .moves .refl

theorem timerIds_eraseP (requestId : Int) (events : List (Int × Int)) :
    (events.eraseP (fun event => event.1 = requestId)).map (fun event => event.1) =
      (events.map (fun event => event.1)).erase requestId := by
  rw [List.erase_eq_eraseP, List.eraseP_map]
  congr 2
  funext event
  simp only [Function.comp_apply, eq_comm]
  rfl

theorem ledger_timerEvent (requestId : Int) :
    (s.step params (env, .timerEvent requestId)).ledger = s.ledger.fire requestId := by
  have timers := timerIds_eraseP requestId s.decisionMaker.timerManager.events
  simp only [step, handleRequestExpired]
  split
  · rename_i called
    have isCalled : requestId ∈ s.ledger.expiredCallbackMap := called
    split
    · rename_i held
      have isHeld : requestId ∈ s.ledger.keyInfoMap := held
      refine Ledger.ext rfl timers rfl rfl rfl ?_ ?_
      · exact (if_pos ⟨isCalled, isHeld⟩).symm
      · exact (if_pos isCalled).symm
    · rename_i unheld
      have notHeld : requestId ∉ s.ledger.keyInfoMap := unheld
      refine Ledger.ext rfl timers rfl rfl rfl ?_ ?_
      · exact (if_neg (fun both => notHeld both.2)).symm
      · exact (if_pos isCalled).symm
  · rename_i uncalled
    have notCalled : requestId ∉ s.ledger.expiredCallbackMap := uncalled
    refine Ledger.ext rfl timers rfl rfl rfl ?_ ?_
    · exact (if_neg (fun both => notCalled both.1)).symm
    · exact (if_neg notCalled).symm

/-- Every step of the manager is a step of the ledger. -/
theorem ledgerStep_step (uids : s.decisionMaker.UidsMatch) (owned : s.ledger.Owned) (op : Op) :
    LedgerStep params env s op (s.step params (env, op)).ledger := by
  cases op with
  | initNecessaryState servicesUp => exact ledgerStep_if params env servicesUp .refl
  | requestSuspendDelay uid pid callback =>
      exact ledgerStep_requestSuspendDelay params env uids uid pid callback
  | cancelSuspendDelay uid pid requestId =>
      simp only [step, cancelSuspendDelay]
      split
      · exact .moves .refl
      split
      · exact .moves .refl
      split
      · exact .moves .refl
      split
      · exact .moves (.single (ledger_cancelSuspendDelayLocked params env owned requestId _))
      · exact .moves .refl
  | watchdogEvent requestId =>
      simp only [step, forceCancelSuspendDelay]
      refine .moves (Relation.ReflTransGen.head (.bark requestId) ?_)
      split
      · have cancelled := ledger_cancelSuspendDelayLocked params env
          (s := { s with watchdog := s.watchdog.erase requestId }) owned requestId
          (stopsOf env s (.watchdogEvent requestId))
        exact .single cancelled
      · exact .refl
  | expiredCallbackDeath remote =>
      exact .moves (ledger_handleExpiredCallbackDeath params env owned remote _)
  | timerEvent requestId =>
      exact .fired (ledger_timerEvent params env requestId)
  | appCacheStateChanged uid pid bundleName =>
      simp only [step, onAppCacheStateChanged]
      split
      · exact .moves .refl
      split
      · exact .moves .refl
      split
      · exact .moves .refl
      · exact .moves .refl
  | appCacheLocked index =>
      simp only [step]
      split
      · exact .moves .refl
      · rename_i requestIdList _
        have chain := moves_cancelSnapshot params env
          (s := { s with cacheSnapshots := s.cacheSnapshots.eraseIdx index }) owned requestIdList
          (stopsOf env s (.appCacheLocked index))
        exact .moves chain
  | getAllTransientTasks uid pid =>
      simp only [step, getAllTransientTasks]
      split
      · exact .moves .refl
      split
      · exact .moves .refl
      split
      · exact .moves .refl
      · rename_i name _
        refine .moves ?_
        show Moves _ _ _ (s.ledgerOf _)
        rw [ledgerOf_getQuota]
        exact .refl
  | dumpAllRequestId =>
      refine ledgerStep_if params env s.isReady ?_
      refine moves_foldl env s s.decisionMaker _ s.keyInfoMap.entries ?_
      intro decision record _
      rw [ledgerOf_getQuota]
  | pause uid =>
      simp only [step, pauseTransientTaskTimeForInner]
      split
      · exact .moves .refl
      rename_i ready
      split
      · exact .moves .refl
      rename_i caller
      split
      · exact .moves .refl
      rename_i legal
      split
      · exact .moves .refl
      rename_i name known
      have chain : Moves env.now (stopsOf env s (.pause uid)) s.ledger (s.ledgerOf
          (s.decisionMaker.pauseTransientTaskTimeForInner params env uid name).2) :=
        moves_pauseTransientTaskTimeForInner params env s s.decisionMaker uid name
          (fun background => ⟨by simpa using ready, by simpa using caller, not_lt.mp legal, rfl,
            known, background⟩)
      split
      · exact .moves chain
      · exact .moves chain
  | start uid =>
      simp only [step, startTransientTaskTimeForInner]
      split
      · exact .moves .refl
      split
      · exact .moves .refl
      split
      · exact .moves .refl
      split
      · exact .moves .refl
      rename_i name _
      have chain : Moves env.now (stopsOf env s (.start uid)) s.ledger (s.ledgerOf
          (s.decisionMaker.startTransientTaskTimeForInner params env uid name).2) :=
        moves_startTransientTaskTimeForInner params env s s.decisionMaker uid name
      split
      · exact .moves chain
      · exact .moves chain
  | suspendManagerDie =>
      refine ledgerStep_if params env s.isReady ?_
      refine moves_foldl env s s.decisionMaker (restartUid params env) _ ?_
      intro decision uid _
      exact moves_restartUid params env s decision uid
  | processStateChanged processData =>
      refine ledgerStep_if params env s.isReady ?_
      exact moves_onProcessStateChanged params env s s.decisionMaker processData
        (fun front => ⟨front, rfl⟩)
  | processDied processData =>
      refine ledgerStep_if params env s.isReady ?_
      exact moves_onProcessDied params env s s.decisionMaker processData
  | inputEvent event stringArg =>
      refine ledgerStep_if params env s.isReady ?_
      refine moves_onInputEvent params env s s.decisionMaker s.transientPauseUid event stringArg ?_
      rintro rfl app listed
      exact listed
  | setDump isDump => exact ledgerStep_if params env s.isReady .refl

theorem owned_ledgerStep {op : Op} {l : Ledger} (owned : s.ledger.Owned)
    (step : LedgerStep params env s op l) : l.Owned := by
  cases step with
  | moves chain => exact of_moves (fun _ _ move held => owned_move held move) chain owned
  | granted ok isNew result =>
      rw [result]
      split
      · exact owned_start (owned_grant owned _ _ _) _ _
      · exact owned_grant owned _ _ _
  | fired result =>
      rw [result]
      exact owned

end

end BgTransientTaskMgr

end BgTaskMgr.Transient
