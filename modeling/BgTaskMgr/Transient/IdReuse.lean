import BgTaskMgr.Transient.Timers

/-!
# A request id handed out twice

`NewDelaySuspendRequestId` starts again at its first value after `INT_MAX - 1` and does not
ask whether a request still has that id.  One app keeps a request while it is in the
foreground, where nothing is accounted; another one asks and cancels until the ids start
again.
-/

set_option autoImplicit false

namespace BgTaskMgr.Transient

open DecisionMaker

namespace BgTransientTaskMgr

def stayingPkg : PkgDelaySuspendInfo where
  pkg := "app"
  uid := 100
  quota := 600000
  baseTime := 1000
  requestList := [{ requestId := 1, actualDelayTime := 180000, pid := 7 }]

def cyclingPkg : PkgDelaySuspendInfo where
  pkg := "app"
  uid := 200
  quota := 600000
  baseTime := 1000

/-- Between two cycles: both apps in front, the first with its request, the generator at
`next`. -/
structure Idle (next : Int) (s : BgTransientTaskMgr) : Prop where
  isReady : s.isReady = true
  generator : s.decisionMaker.requestId = next
  lastRequestTime : s.decisionMaker.lastRequestTime = 0
  window : s.decisionMaker.pkgBgDurationMap.lookup ("app", 200) = none
  cycling : s.decisionMaker.pkgDelaySuspendInfoMap.lookup ("app", 200) = some cyclingPkg
  staying : s.decisionMaker.pkgDelaySuspendInfoMap.lookup ("app", 100) = some stayingPkg
  screen : s.decisionMaker.deviceInfoManager.isScreenOn = true
  lowPower : s.decisionMaker.deviceInfoManager.isLowPowerMode = false
  front : s.decisionMaker.foregroundUidPidMap.lookup 200 = some {8}
  stayingFront : s.decisionMaker.foregroundUidPidMap.lookup 100 = some {7}
  timers : s.decisionMaker.timerManager = {}
  callbacks : ∀ id remote, s.expiredCallbackMap.lookup id = some remote → remote ≠ 2

def idAt (next : Int) : Int := if next = intMax then 1 else next

def cycleRequest (requestId : Int) : DelaySuspendInfoEx where
  requestId := requestId
  actualDelayTime := 180000
  pid := 8

def afterRequest (decision : DecisionMaker) (requestId : Int) : DecisionMaker :=
  { decision with
    requestId := requestId + 1
    pkgDelaySuspendInfoMap := decision.pkgDelaySuspendInfoMap.insert ("app", 200)
      { cyclingPkg with requestList := [cycleRequest requestId] }
    suscriberTasks := decision.suscriberTasks ++ [(.taskStart, ⟨"app", 200, 8⟩)] ++
      [(.appTaskStart, { packageName := "app", uid := 200 })] }

section

variable {next : Int} {s : BgTransientTaskMgr}

theorem decide_of_idle (idle : Idle next s) :
    s.decisionMaker.decide {} (quietEnv 1000) ⟨"app", 200, 8⟩ { pid := 8 } =
      (.ok, cycleRequest (idAt next), afterRequest s.decisionMaker (idAt next)) := by
  have sameDay : s.decisionMaker.resetDayQuotaLocked {} (quietEnv 1000) = s.decisionMaker := by
    unfold resetDayQuotaLocked
    rw [idle.lastRequestTime, if_neg (by decide)]
  have id : s.decisionMaker.newDelaySuspendRequestId =
      (idAt next, { s.decisionMaker with requestId := idAt next + 1 }) := by
    unfold newDelaySuspendRequestId idAt
    rw [idle.generator]
    rfl
  have checked : checkQuotaTime {} (quietEnv 1000) cyclingPkg "app" = (.ok, false, cyclingPkg) := by
    decide
  unfold DecisionMaker.decide
  rw [sameDay]
  have window : s.decisionMaker.pkgBgDurationMap.lookup (KeyInfo.mapKey ⟨"app", 200, 8⟩) = none :=
    idle.window
  have cycling : s.decisionMaker.pkgDelaySuspendInfoMap.lookup
      (KeyInfo.mapKey ⟨"app", 200, 8⟩) = some cyclingPkg := idle.cycling
  dsimp only
  rw [window]
  dsimp only
  unfold decideQuota
  rw [cycling]
  dsimp only [Option.getD_some]
  rw [checked]
  dsimp only
  rw [if_pos rfl]
  unfold grant
  rw [id]
  dsimp only
  have delay : DecisionMaker.getDelayTime {}
      { s.decisionMaker with requestId := idAt next + 1 } = 180000 := by
    unfold getDelayTime
    dsimp only
    rw [idle.lowPower]
    rfl
  rw [delay]
  have added : cyclingPkg.addRequest (quietEnv 1000).config
      { pid := 8, requestId := idAt next } 180000 false =
      (cycleRequest (idAt next),
        { cyclingPkg with requestList := [cycleRequest (idAt next)] }) := rfl
  rw [added]
  have front : ({ s.decisionMaker with
      requestId := idAt next + 1 }.storeRequest ⟨"app", 200, 8⟩
        { cyclingPkg with requestList := [cycleRequest (idAt next)] }).canStartAccountingLocked
        { cyclingPkg with requestList := [cycleRequest (idAt next)] } = false := by
    unfold canStartAccountingLocked isUidForeground storeRequest
    dsimp only
    rw [idle.screen]
    have inFront : s.decisionMaker.foregroundUidPidMap.lookup cyclingPkg.uid = some {8} :=
      idle.front
    rw [inFront]
    rfl
  rw [if_neg (by rw [front]; decide)]
  rfl

def requested (s : BgTransientTaskMgr) (requestId : Int) : BgTransientTaskMgr :=
  { s with
    decisionMaker := afterRequest s.decisionMaker requestId
    expiredCallbackMap := s.expiredCallbackMap.insert requestId 2
    keyInfoMap := s.keyInfoMap.insert requestId ⟨"app", 200, 8⟩ }

theorem requestSuspendDelay_eq_of_idle (idle : Idle next s) :
    s.requestSuspendDelay {} (quietEnv 1000) 200 8 (.of 2) = (.ok, requested s (idAt next)) := by
  have legal : isCallingInfoLegal (quietEnv 1000) 200 8 (.of 2) = .ok ("app", 2) := rfl
  have newCallback : s.expiredCallbackMap.entries.find? (fun e => e.2 = 2) = none := by
    rw [List.find?_eq_none]
    rintro ⟨id, remote⟩ member
    rw [decide_eq_true_eq]
    exact idle.callbacks id remote (KeyedMap.mem_entries_iff.mp member)
  unfold BgTransientTaskMgr.requestSuspendDelay requestSuspendDelayLocked
  rw [if_neg (by rw [idle.isReady]; decide), legal]
  dsimp only
  rw [newCallback, if_neg (by decide), decide_of_idle idle, if_pos rfl]
  rfl

theorem requestSuspendDelay_of_idle (idle : Idle next s) :
    s.step {} (quietEnv 1000, .requestSuspendDelay 200 8 (.of 2)) = requested s (idAt next) :=
  congrArg Prod.snd (requestSuspendDelay_eq_of_idle idle)

theorem removeRequest_cyclingPkg (requestId : Int) (timers : TimerManager) :
    PkgDelaySuspendInfo.removeRequest {} (quietEnv 1000).config (quietEnv 1000).now requestId
        timers { cyclingPkg with requestList := [cycleRequest requestId] } = (cyclingPkg, timers) := by
  unfold PkgDelaySuspendInfo.removeRequest PkgDelaySuspendInfo.stopAccounting
  have unaccounted : PkgDelaySuspendInfo.stopAccountingLoop (quietEnv 1000).now
      (fun info => info.requestId = requestId) timers [cycleRequest requestId] =
        (timers, [cycleRequest requestId]) := by
    unfold PkgDelaySuspendInfo.stopAccountingLoop
    have base : (cycleRequest requestId).baseTime = 0 := rfl
    rw [if_pos (Or.inr base)]
    rfl
  dsimp only
  rw [unaccounted, if_pos (by simp [cycleRequest])]
  have emptied : [cycleRequest requestId].eraseP (fun info => info.requestId = requestId) = [] := by
    simp [cycleRequest]
  rw [emptied]
  rfl

def afterCycle (decision : DecisionMaker) (requestId : Int) : DecisionMaker :=
  { afterRequest decision requestId with
    pkgDelaySuspendInfoMap := KeyedMap.adjust ("app", 200) (fun _ => cyclingPkg)
      (afterRequest decision requestId).pkgDelaySuspendInfoMap
    suscriberTasks := (afterRequest decision requestId).suscriberTasks ++
      [(.taskEnd, ⟨"app", 200, 8⟩)] ++ [(.appTaskEnd, { packageName := "app", uid := 200 })] }

theorem removeRequest_afterRequest (decision : DecisionMaker) (requestId : Int) :
    (afterRequest decision requestId).removeRequest {} (quietEnv 1000) (some ⟨"app", 200, 8⟩)
      requestId = afterCycle decision requestId := by
  have found : (afterRequest decision requestId).pkgDelaySuspendInfoMap.lookup ("app", 200) =
      some { cyclingPkg with requestList := [cycleRequest requestId] } := by
    unfold afterRequest
    rw [KeyedMap.lookup_insert, if_pos rfl]
  have removed : (afterRequest decision requestId).updatePkg ("app", 200) (fun timers pkgInfo =>
      pkgInfo.removeRequest {} (quietEnv 1000).config (quietEnv 1000).now requestId timers) =
        { afterRequest decision requestId with
          pkgDelaySuspendInfoMap := KeyedMap.adjust ("app", 200) (fun _ => cyclingPkg)
            (afterRequest decision requestId).pkgDelaySuspendInfoMap } := by
    unfold updatePkg
    rw [found]
    dsimp only
    rw [removeRequest_cyclingPkg]
  have emptied : (KeyedMap.adjust ("app", 200) (fun _ => cyclingPkg)
      (afterRequest decision requestId).pkgDelaySuspendInfoMap).lookup ("app", 200) =
        some cyclingPkg := by
    rw [KeyedMap.lookup_adjust, if_pos rfl, found, Option.map_some]
  unfold DecisionMaker.removeRequest
  dsimp only [KeyInfo.mapKey]
  rw [found]
  dsimp only
  rw [removed, emptied]
  rfl

def cycled (s : BgTransientTaskMgr) (requestId : Int) : BgTransientTaskMgr :=
  { (requested s requestId).removeWatchdog requestId with
    decisionMaker := afterCycle s.decisionMaker requestId
    keyInfoMap := (requested s requestId).keyInfoMap.erase requestId
    expiredCallbackMap := (requested s requestId).expiredCallbackMap.erase requestId }

theorem cancelSuspendDelay_requested (isReady : s.isReady = true) (requestId : Int) :
    (requested s requestId).step {} (quietEnv 1000, .cancelSuspendDelay 200 8 requestId) =
      cycled s requestId := by
  have held : (requested s requestId).keyInfoMap.lookup requestId = some ⟨"app", 200, 8⟩ := by
    unfold requested
    rw [KeyedMap.lookup_insert, if_pos rfl]
  have hasCallback :
      requestId ∈ ((requested s requestId).removeWatchdog requestId).expiredCallbackMap :=
    AList.mem_insert _ |>.mpr (Or.inl rfl)
  have isReady : (requested s requestId).isReady = true := isReady
  have verified : (requested s requestId).verifyRequestIdLocked "app" 200 requestId = true := by
    unfold verifyRequestIdLocked
    rw [held]
    rfl
  have bundle : (quietEnv 1000).bundleNameForUid 200 = some "app" := rfl
  change ((requested s requestId).cancelSuspendDelay {} (quietEnv 1000) 200 8 requestId).2 = _
  unfold BgTransientTaskMgr.cancelSuspendDelay
  rw [if_neg (by rw [isReady]; decide), if_neg (by decide), bundle]
  dsimp only
  rw [if_pos verified]
  unfold cancelSuspendDelayLocked
  have removed : ((requested s requestId).removeWatchdog requestId).decisionMaker.removeRequest {}
      (quietEnv 1000) (((requested s requestId).removeWatchdog requestId).keyInfoMap.lookup
        requestId) requestId = afterCycle s.decisionMaker requestId := by
    change (afterRequest s.decisionMaker requestId).removeRequest {} (quietEnv 1000)
      ((requested s requestId).keyInfoMap.lookup requestId) requestId = _
    rw [held]
    exact removeRequest_afterRequest s.decisionMaker requestId
  dsimp only
  rw [removed, if_pos hasCallback]
  rfl

theorem idle_cycled (idle : Idle next s) : Idle (idAt next + 1) (cycled s (idAt next)) where
  isReady := idle.isReady
  generator := rfl
  lastRequestTime := idle.lastRequestTime
  window := idle.window
  cycling := by
    unfold cycled afterCycle afterRequest
    dsimp only
    rw [KeyedMap.lookup_adjust, if_pos rfl, KeyedMap.lookup_insert, if_pos rfl, Option.map_some]
  staying := by
    unfold cycled afterCycle afterRequest
    dsimp only
    rw [KeyedMap.lookup_adjust, if_neg (by decide), KeyedMap.lookup_insert, if_neg (by decide)]
    exact idle.staying
  screen := idle.screen
  lowPower := idle.lowPower
  front := idle.front
  stayingFront := idle.stayingFront
  timers := idle.timers
  callbacks id remote found := by
    unfold cycled requested at found
    dsimp only at found
    rw [KeyedMap.lookup_erase] at found
    split at found
    · exact absurd found (by simp)
    · rename_i other
      rw [KeyedMap.lookup_insert, if_neg other] at found
      exact idle.callbacks id remote found

def cycleLabels (requestId : Int) : List (Env × Op) :=
  [(quietEnv 1000, .requestSuspendDelay 200 8 (.of 2)),
    (quietEnv 1000, .cancelSuspendDelay 200 8 requestId)]

theorem run_cycleLabels (idle : Idle next s) :
    StepSystem.run (BgTransientTaskMgr.step {}) s (cycleLabels (idAt next)) =
      cycled s (idAt next) := by
  have requests := requestSuspendDelay_of_idle idle
  have cancels := cancelSuspendDelay_requested idle.isReady (idAt next)
  calc StepSystem.run (BgTransientTaskMgr.step {}) s (cycleLabels (idAt next))
      = (s.step {} (quietEnv 1000, .requestSuspendDelay 200 8 (.of 2))).step {}
          (quietEnv 1000, .cancelSuspendDelay 200 8 (idAt next)) := rfl
    _ = cycled s (idAt next) := by rw [requests, cancels]

def cycles (first : Int) (count : Nat) : List (Env × Op) :=
  (List.range count).flatMap (fun i : Nat => cycleLabels (first + i))

theorem idle_cycles {first : Int} (idle : Idle first s) (count : Nat)
    (room : first + count ≤ intMax) :
    Idle (first + count) (StepSystem.run (BgTransientTaskMgr.step {}) s (cycles first count)) := by
  induction count with
  | zero => simpa [cycles, StepSystem.run] using idle
  | succ count ih =>
      have before := ih (by push_cast at room; omega)
      have isNext : idAt (first + count) = first + count := by
        unfold idAt
        rw [if_neg]
        push_cast at room
        omega
      have cycle := run_cycleLabels before
      have after := idle_cycled before
      rw [isNext] at cycle after
      unfold cycles
      rw [List.range_succ, List.flatMap_append, StepSystem.run_append, List.flatMap_singleton]
      change Idle _ (StepSystem.run _ (StepSystem.run _ s (cycles first count)) _)
      rw [cycle]
      have sum : first + ((count + 1 : Nat) : Int) = first + count + 1 := by
        push_cast
        omega
      rw [sum]
      exact after

/-- The app with the request goes to the background after its id was handed out again and
taken back. -/
theorem background_of_idle (idle : Idle next s) :
    (s.step {} (quietEnv 1000, .processStateChanged ⟨"app", 100, 7, .background⟩)).keyInfoMap =
        s.keyInfoMap ∧
      (s.step {} (quietEnv 1000,
        .processStateChanged ⟨"app", 100, 7, .background⟩)).decisionMaker.timerIds = [1] := by
  unfold BgTransientTaskMgr.step
  dsimp only
  rw [if_pos idle.isReady]
  refine ⟨rfl, ?_⟩
  have left : s.decisionMaker.updateForegroundUidPidMap 100 7 false = { s.decisionMaker with
      foregroundUidPidMap := s.decisionMaker.foregroundUidPidMap.erase 100 } := by
    unfold updateForegroundUidPidMap
    rw [idle.stayingFront]
    rfl
  have canStart : ({ s.decisionMaker with
      foregroundUidPidMap :=
        s.decisionMaker.foregroundUidPidMap.erase 100 }).canStartAccountingLocked
          stayingPkg = true := by
    unfold canStartAccountingLocked isUidForeground
    dsimp only
    rw [idle.screen]
    have gone : (s.decisionMaker.foregroundUidPidMap.erase 100).lookup stayingPkg.uid = none :=
      AList.lookup_erase _ _
    rw [gone]
    rfl
  unfold onProcessStateChanged
  dsimp only
  rw [if_pos (by decide)]
  have isBackground : (AppProcessState.background == .foreground ||
      AppProcessState.background == .focus) = false := rfl
  rw [isBackground, left]
  unfold handleStateChange
  dsimp only
  rw [if_neg (by decide), if_pos (by decide), idle.staying]
  dsimp only
  rw [if_pos canStart]
  unfold timerIds updatePkg
  dsimp only
  rw [idle.staying, idle.timers]
  rfl

end

def openingLabels : List (Env × Op) :=
  [(quietEnv 1000, .initNecessaryState true),
    (quietEnv 1000, .processStateChanged ⟨"app", 100, 7, .foreground⟩),
    (quietEnv 1000, .processStateChanged ⟨"app", 200, 8, .foreground⟩),
    (quietEnv 1000, .requestSuspendDelay 100 7 (.of 1)),
    (quietEnv 1000, .requestSuspendDelay 200 8 (.of 2)),
    (quietEnv 1000, .cancelSuspendDelay 200 8 2)]

theorem idle_opening : Idle 3 (StepSystem.run (BgTransientTaskMgr.step {}) {} openingLabels) where
  isReady := by decide
  generator := by decide
  lastRequestTime := by decide
  window := by decide
  cycling := by decide
  staying := by decide
  screen := by decide
  lowPower := by decide
  front := by decide
  stayingFront := by decide
  timers := by decide
  callbacks id remote found := by
    have only : (StepSystem.run (BgTransientTaskMgr.step {}) {}
        openingLabels).expiredCallbackMap.entries = [⟨1, 1⟩] := by decide
    have member := KeyedMap.mem_entries_iff.mpr found
    rw [only] at member
    cases List.mem_singleton.mp member
    decide

/-- The ids run through once, then the id of the staying request is handed out and taken
back. -/
def wrapLabels : List (Env × Op) :=
  openingLabels ++ cycles 3 (intMax - 3).toNat ++ cycleLabels 1 ++
    [(quietEnv 1000, .processStateChanged ⟨"app", 100, 7, .background⟩)]

theorem timer_without_live_request :
    (∀ label ∈ wrapLabels, 0 < label.1.now) ∧
      let s := StepSystem.run (BgTransientTaskMgr.step {}) {} wrapLabels
      1 ∈ s.decisionMaker.timerIds ∧ ¬ ∃ key info, s.LiveAt key info ∧ info.requestId = 1 := by
  refine ⟨?_, ?_⟩
  · intro label member
    have clock : label.1 = quietEnv 1000 := by
      unfold wrapLabels at member
      simp only [List.mem_append, openingLabels, cycles, cycleLabels, List.mem_flatMap,
        List.mem_cons, List.not_mem_nil, or_false] at member
      grind
    rw [clock]
    decide
  · have wrapped := idle_cycles idle_opening (intMax - 3).toNat (by decide)
    have atMax : (3 : Int) + (intMax - 3).toNat = intMax := by decide
    rw [atMax] at wrapped
    have again := run_cycleLabels wrapped
    have left := background_of_idle (idle_cycled wrapped)
    have isOne : idAt intMax = 1 := by decide
    rw [isOne] at again left
    have taken : (cycled (StepSystem.run (BgTransientTaskMgr.step {}) (StepSystem.run
        (BgTransientTaskMgr.step {}) {} openingLabels) (cycles 3 (intMax - 3).toNat))
          1).keyInfoMap.lookup 1 = none := AList.lookup_erase _ _
    unfold wrapLabels
    rw [StepSystem.run_append, StepSystem.run_append, StepSystem.run_append, again,
      StepSystem.run_cons, StepSystem.run_nil]
    refine ⟨by rw [left.2]; decide, ?_⟩
    rintro ⟨key, info, live, ofId⟩
    have holds := live.2
    unfold Holds at holds
    rw [left.1, ofId, taken] at holds
    exact absurd holds (by simp)

end BgTransientTaskMgr

end BgTaskMgr.Transient
