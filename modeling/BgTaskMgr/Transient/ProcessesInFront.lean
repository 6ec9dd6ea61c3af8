import BgTaskMgr.Transient.AccountingRules
import BgTaskMgr.Transient.Readiness
import BgTaskMgr.Lib.Histories

/-!
# The processes in front

Which processes are in front is told by the events of a run alone: a process comes to the
front with FOREGROUND and FOCUS, and leaves it with BACKGROUND and with its death.  The map
of the decision maker follows these events, so the accounting of a request does.
-/

set_option autoImplicit false

namespace BgTaskMgr.Transient

/-! ## What the events tell -/

/-- The processes in front by the events so far; they come in once the manager is ready. -/
structure FrontView where
  ready : Bool := false
  pids : Int → Finset Int := fun _ => ∅

namespace FrontView

def enter (processData : ProcessData) (view : FrontView) : FrontView :=
  { view with
    pids := Function.update view.pids processData.uid
      (insert processData.pid (view.pids processData.uid)) }

def leave (processData : ProcessData) (view : FrontView) : FrontView :=
  { view with
    pids := Function.update view.pids processData.uid
      ((view.pids processData.uid).erase processData.pid) }

def follow (view : FrontView) (label : Env × Op) : FrontView :=
  match label.2 with
  | .initNecessaryState servicesUp => { view with ready := view.ready || servicesUp }
  | .processStateChanged processData =>
      match view.ready, processData.state with
      | true, .foreground => view.enter processData
      | true, .focus => view.enter processData
      | true, .background => view.leave processData
      | _, _ => view
  | .processDied processData => if view.ready then view.leave processData else view
  | _ => view

end FrontView

/-- The processes of the uid that are in front after the events of a run. -/
def frontPids (labels : List (Env × Op)) (uid : Int) : Finset Int :=
  (StepSystem.run FrontView.follow {} labels).pids uid

/-! ## What the decision maker knows -/

open DecisionMaker

/-- The map holds the processes in front, and no uid without any. -/
def MapShows (decision : DecisionMaker) (pids : Int → Finset Int) : Prop :=
  ∀ uid, decision.foregroundUidPidMap.lookup uid = if pids uid = ∅ then none else some (pids uid)

theorem MapShows.isUidForeground {decision : DecisionMaker} {pids : Int → Finset Int}
    (shows : MapShows decision pids) (uid : Int) :
    decision.isUidForeground uid = false ↔ pids uid = ∅ := by
  unfold DecisionMaker.isUidForeground
  rw [shows uid]
  split
  · simp [*]
  · simp [*]

theorem MapShows.of_same {before after : DecisionMaker} {pids : Int → Finset Int}
    (shows : MapShows before pids) (same : SameDevice before after) : MapShows after pids := by
  unfold MapShows
  rw [same.foregroundUidPidMap]
  exact shows

theorem MapShows.update {decision : DecisionMaker} {pids : Int → Finset Int}
    (shows : MapShows decision pids) (uid pid : Int) (isForeground : Bool) :
    MapShows (decision.updateForegroundUidPidMap uid pid isForeground)
      (Function.update pids uid
        (if isForeground then insert pid (pids uid) else (pids uid).erase pid)) := by
  have held : (decision.foregroundUidPidMap.lookup uid).getD ∅ = pids uid := by
    rw [shows uid]
    split
    · rename_i empty
      exact empty.symm
    · rfl
  intro other
  unfold updateForegroundUidPidMap
  dsimp only
  rw [held]
  by_cases here : other = uid
  · rw [here, Function.update_self]
    cases isForeground with
    | true => simp
    | false =>
        by_cases empty : (pids uid).erase pid = ∅
        · simp [empty]
        · simp [empty]
  · rw [Function.update_of_ne here]
    cases isForeground with
    | true => simp [here, shows other]
    | false =>
        by_cases empty : (pids uid).erase pid = ∅
        · simp [empty, here, shows other]
        · simp [empty, here, shows other]

theorem MapShows.onProcessStateChanged {decision : DecisionMaker} {pids : Int → Finset Int}
    (shows : MapShows decision pids) (params : Params) (env : Env) (processData : ProcessData) :
    MapShows (decision.onProcessStateChanged params env processData)
      (Function.update pids processData.uid
        (if processData.state == .foreground || processData.state == .focus then
          insert processData.pid (pids processData.uid)
        else (pids processData.uid).erase processData.pid)) := by
  have moved := shows.update processData.uid processData.pid
    (processData.state == .foreground || processData.state == .focus)
  unfold DecisionMaker.onProcessStateChanged
  dsimp only
  split
  · exact moved.of_same (sameDevice_handleStateChange params env _ _ _ _ _)
  · exact moved

namespace BgTransientTaskMgr

section

variable {params : Params} {env : Env} {s after : BgTransientTaskMgr}

def MovesProcess : Op → Prop
  | .processStateChanged _ => True
  | .processDied _ => True
  | _ => False

theorem mapShows_of_effect {pids : Int → Finset Int} {op : Op} (still : ¬ MovesProcess op)
    (shows : MapShows s.decisionMaker pids) (effect : RequestEffect env s op after) :
    MapShows after.decisionMaker pids := by
  cases effect with
  | unmoved setting requests => exact shows.of_same setting.device
  | granted lookup id isNew keyInfoMap transientPauseUid device requests =>
      exact shows.of_same device
  | removed setting requests chain =>
      exact shows.of_same (setting.device.trans (sameSetting_of_removals chain).1)
  | paused lookup background keyInfoMap transientPauseUid device requests =>
      exact shows.of_same device
  | resumed lookup background keyInfoMap transientPauseUid device requests =>
      exact shows.of_same device
  | managerDied keyInfoMap transientPauseUid device requests => exact shows.of_same device
  | entered state keyInfoMap transientPauseUid device requests => exact absurd trivial still
  | left event keyInfoMap transientPauseUid device requests =>
      rcases event with ⟨rfl, -⟩ | rfl
      · exact absurd trivial still
      · exact absurd trivial still
  | drifted state keyInfoMap transientPauseUid device requests => exact absurd trivial still
  | input keyInfoMap transientPauseUid device requests =>
      unfold MapShows
      rw [device.foregroundUidPidMap]
      exact shows
  | dumpSet keyInfoMap transientPauseUid foreground screen requests =>
      unfold MapShows
      rw [foreground]
      exact shows

structure Sees (s : BgTransientTaskMgr) (view : FrontView) : Prop where
  uids : s.decisionMaker.UidsMatch
  ready : s.isReady = view.ready
  shows : MapShows s.decisionMaker view.pids

theorem Sees.processStateChanged {view : FrontView} (sees : Sees s view)
    (processData : ProcessData) (known : processData.state ≠ .other) :
    Sees (s.step params (env, .processStateChanged processData))
      (view.follow (env, .processStateChanged processData)) := by
  refine ⟨uidsMatch_step params env sees.uids _, ?_, ?_⟩
  · rw [isReady_step params env s _ (by simp), sees.ready]
    unfold FrontView.follow
    dsimp only
    split
    · rfl
    · rfl
    · rfl
    · rfl
  · unfold step
    dsimp only
    cases isReady : view.ready with
    | false =>
        rw [if_neg (by simp [sees.ready, isReady])]
        unfold FrontView.follow
        simp only [isReady]
        exact sees.shows
    | true =>
        rw [if_pos (sees.ready.trans isReady)]
        have moved := sees.shows.onProcessStateChanged params env processData
        unfold FrontView.follow
        simp only [isReady]
        cases state : processData.state with
        | foreground | focus | background =>
            rw [state] at moved
            exact moved
        | other => exact absurd state known

theorem Sees.processDied {view : FrontView} (sees : Sees s view) (processData : ProcessData) :
    Sees (s.step params (env, .processDied processData))
      (view.follow (env, .processDied processData)) := by
  refine ⟨uidsMatch_step params env sees.uids _, ?_, ?_⟩
  · rw [isReady_step params env s _ (by simp), sees.ready]
    unfold FrontView.follow
    dsimp only
    split
    · rfl
    · rfl
  · unfold step FrontView.follow
    dsimp only
    cases isReady : view.ready with
    | false =>
        rw [if_neg (by simp [sees.ready, isReady])]
        exact sees.shows
    | true =>
        rw [if_pos (sees.ready.trans isReady), if_pos rfl]
        exact (sees.shows.update processData.uid processData.pid false).of_same
          (sameDevice_tryStartAccounting params env _ _ _)

theorem Sees.step {view : FrontView} (sees : Sees s view) (label : Env × Op)
    {bundleOf : Int → String} (reported : Reported bundleOf label.2) :
    Sees (s.step params label) (view.follow label) := by
  obtain ⟨env, op⟩ := label
  have still : ¬ MovesProcess op → MapShows (s.step params (env, op)).decisionMaker view.pids :=
    fun still => mapShows_of_effect still sees.shows (requestEffect_step params env sees.uids op)
  have uids := uidsMatch_step params env sees.uids op
  cases op with
  | processStateChanged processData => exact sees.processStateChanged processData reported.2
  | processDied processData => exact sees.processDied processData
  | initNecessaryState servicesUp =>
      refine ⟨uids, ?_, still (by simp [MovesProcess])⟩
      unfold BgTransientTaskMgr.step FrontView.follow
      dsimp only
      rw [← sees.ready]
      cases servicesUp with
      | true => simp
      | false => simp
  | requestSuspendDelay _ _ _ | cancelSuspendDelay _ _ _ | watchdogEvent _
  | expiredCallbackDeath _ | timerEvent _ | appCacheStateChanged _ _ _ | appCacheLocked _
  | getAllTransientTasks _ _ | dumpAllRequestId | pause _ | start _ | suspendManagerDie
  | inputEvent _ _ | setDump _ =>
      exact ⟨uids, (isReady_step params env s _ (by simp)).trans sees.ready,
        still (by simp [MovesProcess])⟩

/-- The map of the decision maker has the processes that the events of the run tell. -/
theorem sees_run (params : Params) {bundleOf : Int → String} (labels : List (Env × Op))
    (reported : ∀ label ∈ labels, Reported bundleOf label.2) :
    Sees (StepSystem.run (BgTransientTaskMgr.step params) {} labels)
      (StepSystem.run FrontView.follow {} labels) := by
  induction labels using List.reverseRecOn with
  | nil =>
      refine ⟨fun _ _ found => absurd found (by simp), rfl, ?_⟩
      intro uid
      rfl
  | append_singleton labels label ih =>
      rw [StepSystem.run_append, StepSystem.run_append]
      exact (ih (fun other member => reported other (by simp [member]))).step label
        (reported label (by simp))

end

/-- With the screen on, a live request of a uid that is not paused is accounted exactly while
no process of the uid is in front by the process events of the run. -/
theorem accounted_iff_background (params : Params) (bundleOf : Int → String)
    (labels : List (Env × Op)) (promised : ∀ label ∈ labels, Promised bundleOf label)
    (agrees : StepSystem.Admissible (step params) (QueryAgrees bundleOf) {} labels)
    (screen : (StepSystem.run (step params) {} labels).isScreenOn = true)
    (uid : Int) (unpaused : uid ∉ (StepSystem.run (step params) {} labels).transientPauseUid)
    (name : String) (info : DelaySuspendInfoEx)
    (live : (StepSystem.run (step params) {} labels).LiveAt (name, uid) info) :
    info.Accounted ↔ frontPids labels uid = ∅ := by
  have ruled := ruled_run params bundleOf labels promised agrees
  have sees := sees_run params labels (fun label member => (promised label member).reported)
  unfold frontPids
  rw [← sees.shows.isUidForeground]
  constructor
  · intro accounted
    by_contra foreground
    exact ruled.stopped screen (name, uid) info live.1 (by simpa using foreground) accounted
  · intro background
    exact ruled.running (name, uid) info live background unpaused

/-- A request is made in the background; two processes come to the front, one leaves and the
other dies. -/
def twoProcessesLabels : List (Env × Op) :=
  [(quietEnv 1000, .initNecessaryState true),
    (quietEnv 2000, .requestSuspendDelay 100 7 (.of 1)),
    (quietEnv 3000, .processStateChanged ⟨"app", 100, 7, .foreground⟩),
    (quietEnv 4000, .processStateChanged ⟨"app", 100, 8, .focus⟩),
    (quietEnv 5000, .processStateChanged ⟨"app", 100, 7, .background⟩),
    (quietEnv 6000, .processDied ⟨"app", 100, 8, .other⟩)]

theorem promised_twoProcessesLabels :
    ∀ label ∈ twoProcessesLabels, Promised (fun _ => "app") label := by
  intro label member
  refine ⟨?_, ?_, ?_⟩
  · exact (by decide : ∀ label ∈ twoProcessesLabels, label.1.now ≠ 0) label member
  · intro uid
    simp only [twoProcessesLabels, List.mem_cons, List.not_mem_nil, or_false] at member
    rcases member with rfl | rfl | rfl | rfl | rfl | rfl <;> rfl
  · exact (by decide : ∀ label ∈ twoProcessesLabels, Reported (fun _ => "app") label.2) label
      member

/-- The request stands still while the second process is left in front, and runs on after its
death. -/
theorem accounted_iff_background_two_processes :
    let before := StepSystem.run (step {}) {} (twoProcessesLabels.take 5)
    let after := StepSystem.run (step {}) {} twoProcessesLabels
    (before.LiveAt ("app", 100) ⟨1, 180000, 7, 0, 1000⟩ ∧
      frontPids (twoProcessesLabels.take 5) 100 = {8} ∧
      ¬ (⟨1, 180000, 7, 0, 1000⟩ : DelaySuspendInfoEx).Accounted) ∧
    after.LiveAt ("app", 100) ⟨1, 180000, 7, 6000, 1000⟩ ∧
      frontPids twoProcessesLabels 100 = ∅ ∧
      (⟨1, 180000, 7, 6000, 1000⟩ : DelaySuspendInfoEx).Accounted := by
  have standing : (StepSystem.run (step {}) {} (twoProcessesLabels.take 5)).LiveAt ("app", 100)
      ⟨1, 180000, 7, 0, 1000⟩ := ⟨by decide, by decide⟩
  have running : (StepSystem.run (step {}) {} twoProcessesLabels).LiveAt ("app", 100)
      ⟨1, 180000, 7, 6000, 1000⟩ := ⟨by decide, by decide⟩
  have left : frontPids (twoProcessesLabels.take 5) 100 = {8} := by decide
  have none : frontPids twoProcessesLabels 100 = ∅ := by decide
  have early : ∀ label ∈ twoProcessesLabels.take 5, Promised (fun _ => "app") label :=
    fun label member => promised_twoProcessesLabels label (List.mem_of_mem_take member)
  have before := accounted_iff_background {} (fun _ => "app") (twoProcessesLabels.take 5) early
    ⟨trivial, trivial, trivial, trivial, trivial, trivial⟩ (by decide) 100 (by decide) "app" _
    standing
  have after := accounted_iff_background {} (fun _ => "app") twoProcessesLabels
    promised_twoProcessesLabels
    ⟨trivial, trivial, trivial, trivial, trivial, trivial, trivial⟩ (by decide) 100 (by decide)
    "app" _ running
  exact ⟨⟨standing, left, fun accounted => absurd (left.symm.trans (before.mp accounted))
    (by decide)⟩, running, none, after.mpr none⟩

end BgTransientTaskMgr

end BgTaskMgr.Transient
