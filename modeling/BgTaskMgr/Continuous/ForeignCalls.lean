import BgTaskMgr.Continuous.Isolation
import BgTaskMgr.Continuous.ContextStops
import BgTaskMgr.Continuous.UpdateAtomicity

/-!
# Calls that reach tasks of other apps

A stop and an update by task id search the map for the id alone.  Past the checks at its
entry a stop ends what it finds, and an update writes to it: the tasks of other apps are
left alone exactly when nothing of theirs is found, or nothing new is written to it.
-/

set_option autoImplicit false

namespace BgTaskMgr.Continuous

open BgContinuousTaskMgr

/-! ## What a call may find -/

/-- The ids in turn, up to the first cancellation that fails, find tasks of the uid first. -/
def OwnTurns (env : Env) (uid : Int) : List Int → TaskMap → Prop
  | [], _ => True
  | continuousTaskId :: rest, tasks =>
      ∀ entry ∈ tasks.entries.find? (fun entry => entry.2.continuousTaskId == continuousTaskId),
        entry.2.uid = uid ∧ (LastCancelOk env (tasks.erase entry.1).entries entry.2 →
          OwnTurns env uid rest (tasks.erase entry.1))

def StopFindsOwn (env : Env) (uid : Int) (abilityName : String) (abilityId continuousTaskId : Int)
    (s : BgContinuousTaskMgr) : Prop :=
  if continuousTaskId ≠ -1 then
    ∀ found ∈ s.findTask (fun _ task => task.continuousTaskId == continuousTaskId),
      found.2.uid = uid
  else OwnTurns env uid (((KeyedMap.vals s.continuousTaskInfosMap).filter
    (inContext uid abilityName abilityId)).map (fun record => record.continuousTaskId))
      s.continuousTaskInfosMap

/-- What the update of a task that takes no part in a merge writes is there already. -/
structure OwnUpdateSilent (env : Env) (updated record : ContinuousTaskRecord)
    (s : BgContinuousTaskMgr) : Prop where
  unshown : ¬ OwnUpdateShown env updated s → noted env updated s = record
  shown : OwnUpdateShown env updated s → record.suspendState = false ∧
    if (s.checkNotificationText env updated).text = "" ∨ updated.notificationId ≠ -1 then
      noted env updated s = record
    else SentUnchanged env (noted env updated s) record s

/-- What an update that has passed its checks writes is there already, and it does not
reactivate the task. -/
def UpdateSilent (env : Env) (taskParam : ContinuousTaskParam) (record : ContinuousTaskRecord)
    (s : BgContinuousTaskMgr) : Prop :=
  if record.isCombinedTaskNotification then
    updatedTask taskParam record = record ∧
      (checkModesSame record.bgModeIds taskParam.bgModeIds = true →
        CanRefresh env record.notificationLabel s → record.suspendState = false)
  else OwnUpdateSilent env (updatedTask taskParam record) record s

/-- An update by task id that gets past its checks with the task of another uid writes
nothing new to it. -/
def UpdateLeavesForeign (env : Env) (callingUid : Int) (taskParam : ContinuousTaskParam)
    (s : BgContinuousTaskMgr) : Prop :=
  ∀ found ∈ s.findTask (fun _ task => task.continuousTaskId == taskParam.updateTaskId &&
    task.isByRequestObject),
    found.2.uid ≠ callingUid → callingUid ∉ s.disableRequestUidList →
    0 ≤ taskParam.updateTaskId →
    checkBgmodeTypes env (s.getBackgroundModeInfo callingUid found.2.abilityName) true found.2
      taskParam.bgModeIds = .ok →
    (checkExistMode found.2.bgModeIds BackgroundMode.dataTransfer ||
      checkExistMode taskParam.bgModeIds BackgroundMode.dataTransfer) = false →
    taskParam.progressInfo.isSome = false →
    (checkExistMode found.2.bgModeIds BackgroundMode.specialScenarioProcessing &&
      taskParam.isCombinedTaskNotification) = false →
    env.mainAbilityLabel found.2.bundleName found.2.userId ≠ "" →
    UpdateSilent env taskParam found.2 s

/-- Past the checks at its entry, a call finds no task of another uid by id that it ends or
writes to. -/
def LeavesForeign (env : Env) (uid : Int) (s : BgContinuousTaskMgr) : ClientCall → Prop
  | .startBackgroundRunning _ => True
  | .updateBackgroundRunning taskParam =>
      s.checkIsSysReadyAndPermission env uid = .ok → taskParam.isByRequestObject = true →
        UpdateLeavesForeign env uid taskParam s
  | .stopBackgroundRunning abilityName abilityId continuousTaskId =>
      s.isSysReady = true → abilityName ≠ "" →
        StopFindsOwn env uid abilityName abilityId continuousTaskId s
  | .updateDataTransferProgress _ => True

/-! ## Stops -/

section Stops

variable {env : Env} {uid : Int} {s : BgContinuousTaskMgr} {key : String}
  {record : ContinuousTaskRecord}

theorem not_isolated_of_gone {after : BgContinuousTaskMgr} (found : s.taskAt key = some record)
    (foreign : record.uid ≠ uid) (gone : after.taskAt key = none) : ¬ Isolated uid s after := by
  intro isolated
  have kept := isolated key record found foreign
  exact absurd (gone.symm.trans kept) (by simp)

theorem stopBackgroundRunningByTask_gone {continuousTaskId : Int}
    (search : s.findTask (fun _ task => task.continuousTaskId == continuousTaskId) =
      some (key, record)) :
    (s.stopBackgroundRunningByTask env continuousTaskId).2.taskAt key = none := by
  unfold taskAt
  rw [stopBackgroundRunningByTask_map search, KeyedMap.lookup_erase, if_pos rfl]

theorem isolated_stopBackgroundRunningByTask_iff {continuousTaskId : Int}
    (search : s.findTask (fun _ task => task.continuousTaskId == continuousTaskId) =
      some (key, record)) :
    Isolated uid s (s.stopBackgroundRunningByTask env continuousTaskId).2 ↔ record.uid = uid := by
  have found := (taskAt_of_findTask s key record search).1
  constructor
  · intro isolated
    by_contra foreign
    exact not_isolated_of_gone found foreign (stopBackgroundRunningByTask_gone search) isolated
  · intro own other task stored foreign
    have elsewhere : other ≠ key := by
      rintro rfl
      obtain rfl := Option.some.inj (found.symm.trans stored)
      exact foreign own
    unfold taskAt at stored ⊢
    rw [stopBackgroundRunningByTask_map search, KeyedMap.lookup_erase, if_neg elsewhere]
    exact stored

theorem stopTasks_first_gone {continuousTaskId : Int} (rest : List Int)
    (search : s.findTask (fun _ task => task.continuousTaskId == continuousTaskId) =
      some (key, record)) :
    (stopTasks env (continuousTaskId :: rest) s).2.taskAt key = none := by
  have gone := @stopBackgroundRunningByTask_gone env s key record _ search
  refine Option.eq_none_iff_forall_ne_some.mpr ?_
  intro other left
  unfold stopTasks at left
  dsimp only at left
  split at left
  · exact absurd (gone.symm.trans left) (by simp)
  · exact absurd (gone.symm.trans (taskAt_stopTasks left)) (by simp)

theorem isolated_stopTasks_iff (ids : List Int) (s : BgContinuousTaskMgr) :
    Isolated uid s (stopTasks env ids s).2 ↔ OwnTurns env uid ids s.continuousTaskInfosMap := by
  induction ids generalizing s with
  | nil => exact ⟨fun _ => trivial, fun _ => Isolated.refl s uid⟩
  | cons continuousTaskId rest ih =>
      cases hit : s.continuousTaskInfosMap.entries.find?
          (fun entry => entry.2.continuousTaskId == continuousTaskId) with
      | none =>
          have search : s.findTask (fun _ task => task.continuousTaskId == continuousTaskId) =
              none := by
            unfold findTask
            rw [hit]
            rfl
          have failed : s.stopBackgroundRunningByTask env continuousTaskId =
              (.objectExists, s) := by
            unfold stopBackgroundRunningByTask
            rw [search]
          unfold stopTasks OwnTurns
          dsimp only
          rw [failed, if_pos (by simp), hit]
          exact ⟨fun _ entry member => absurd member (by simp), fun _ => Isolated.refl s uid⟩
      | some entry =>
          have search : s.findTask (fun _ task => task.continuousTaskId == continuousTaskId) =
              some (entry.1, entry.2) := by
            unfold findTask
            rw [hit]
            rfl
          have found := (taskAt_of_findTask s entry.1 entry.2 search).1
          simp only [OwnTurns, hit, Option.mem_some_iff, forall_eq']
          by_cases own : entry.2.uid = uid
          case neg =>
            exact ⟨fun isolated => absurd isolated
              (not_isolated_of_gone found own (stopTasks_first_gone rest search)),
              fun turn => absurd turn.1 own⟩
          have first : Isolated uid s (s.stopBackgroundRunningByTask env continuousTaskId).2 :=
            (isolated_stopBackgroundRunningByTask_iff search).mpr own
          simp only [own, true_and]
          unfold stopTasks
          dsimp only
          rw [← @stopBackgroundRunningByTask_ok s env entry.1 entry.2 _ _ search rfl,
            ← @stopBackgroundRunningByTask_map s env entry.1 entry.2 _ search, ← ih]
          split
          · rename_i failed
            exact ⟨fun _ ok => absurd ok failed, fun _ => first⟩
          · rename_i ok
            simp only [not_not.mp ok, true_implies]
            constructor
            · intro isolated key other stored foreign
              exact isolated key other (taskAt_stopBackgroundRunningByTask stored) foreign
            · intro isolated key other stored foreign
              exact isolated key other (first key other stored foreign) foreign

theorem isolated_stopBackgroundRunningInner_iff (abilityName : String)
    (abilityId continuousTaskId : Int) :
    Isolated uid s
        (s.stopBackgroundRunningInner env uid abilityName abilityId continuousTaskId).2 ↔
      StopFindsOwn env uid abilityName abilityId continuousTaskId s := by
  unfold stopBackgroundRunningInner StopFindsOwn
  by_cases given : continuousTaskId ≠ -1
  · rw [if_pos given, if_pos given]
    cases search : s.findTask (fun _ task => task.continuousTaskId == continuousTaskId) with
    | none => exact ⟨fun _ found member => absurd member (by simp), fun _ => Isolated.refl s uid⟩
    | some found =>
        simp only [Option.mem_some_iff, forall_eq']
        exact isolated_stopBackgroundRunningByTask_iff search
  · rw [if_neg given, if_neg given]
    split
    · rename_i missing
      -- without a task in the ability there is no turn
      have empty : (KeyedMap.vals s.continuousTaskInfosMap).filter
          (inContext uid abilityName abilityId) = [] := by
        rw [List.filter_eq_nil_iff]
        intro record member
        obtain ⟨key, found⟩ := KeyedMap.mem_vals.mp member
        simp [findTask_eq_none s key record (Option.isNone_iff_eq_none.mp missing) found]
      rw [empty]
      exact ⟨fun _ => trivial, fun _ => Isolated.refl s uid⟩
    · exact isolated_stopTasks_iff _ s

end Stops

/-! ## Updates by task id -/

section Updates

variable {env : Env} {uid : Int} {s : BgContinuousTaskMgr} {key : String}
  {record edited : ContinuousTaskRecord}

theorem isolated_edited_iff {stored : BgContinuousTaskMgr} (old : s.taskAt key = some record)
    (foreign : record.uid ≠ uid)
    (edits : ∀ other, stored.taskAt other = (s.setRecord key edited).taskAt other) :
    Isolated uid s stored ↔ edited = record := by
  have own := (edits key).trans (taskAt_setRecord_self s key edited old)
  have others : ∀ other, other ≠ key → stored.taskAt other = s.taskAt other :=
    fun other different => (edits other).trans (taskAt_setRecord_ne s key other edited different)
  rw [← taskAt_all_iff own old others]
  constructor
  · intro isolated
    have kept := isolated key record old foreign
    rw [own] at kept
    exact (taskAt_all_iff own old others).mpr (Option.some.inj kept)
  · intro same other task found _
    exact (same other).trans found

/-- The end of an update reactivates the tasks of the app when the task is suspended. -/
theorem isolated_notified_iff {notified : ErrCode × BgContinuousTaskMgr}
    (old : s.taskAt key = some record) (foreign : record.uid ≠ uid)
    (edits : ∀ other, notified.2.taskAt other = (s.setRecord key edited).taskAt other)
    (same : edited.suspendState = record.suspendState) :
    Isolated uid s
        (if notified.1 ≠ .ok then notified else notified.2.finishUpdate env key).2 ↔
      edited = record ∧ (notified.1 = .ok → record.suspendState = false) := by
  by_cases failed : notified.1 ≠ .ok
  · rw [if_pos failed, isolated_edited_iff old foreign edits]
    exact ⟨fun unchanged => ⟨unchanged, fun ok => absurd ok failed⟩, fun both => both.1⟩
  rw [if_neg failed]
  simp only [not_not.mp failed, true_implies]
  have own : notified.2.continuousTaskInfosMap.lookup key = some edited :=
    (edits key).trans (taskAt_setRecord_self s key edited old)
  unfold finishUpdate
  rw [own]
  dsimp only
  cases suspended : edited.suspendState with
  | false =>
      rw [if_neg Bool.false_ne_true, own]
      have saved : Isolated uid s
          (((notified.2.onContinuousTaskChanged edited .taskUpdate).refreshTaskRecord env).2) ↔
            edited = record := by
        refine isolated_edited_iff old foreign ?_
        intro other
        exact ((undisturbed_saveTasks _ env).taskAt other).trans (edits other)
      refine saved.trans ?_
      simp [same.symm.trans suspended]
  | true =>
      obtain ⟨task, active⟩ := @exists_handleActiveContinuousTask env notified.2 key
        ⟨edited, own⟩ edited.uid
      have awake := @active_handleActiveContinuousTask env notified.2 edited key own task active
      rw [if_pos rfl, show (notified.2.handleActiveContinuousTask env
        edited.uid).continuousTaskInfosMap.lookup key = some task from active]
      have asleep : record.suspendState = true := same.symm.trans suspended
      constructor
      · intro isolated
        have kept := isolated key record old foreign
        rw [show ((((notified.2.handleActiveContinuousTask env edited.uid).onContinuousTaskChanged
          task .taskUpdate).refreshTaskRecord env).2).taskAt key = _ from
            (undisturbed_saveTasks _ env).taskAt key] at kept
        obtain rfl := Option.some.inj (active.symm.trans kept)
        exact absurd (awake.symm.trans asleep) (by simp)
      · rintro ⟨-, quiet⟩
        exact absurd (quiet.symm.trans asleep) (by simp)

theorem isolated_updateTaskInfo_iff (old : s.taskAt key = some record)
    (foreign : record.uid ≠ uid) (taskParam : ContinuousTaskParam) :
    Isolated uid s (s.updateTaskInfo env taskParam key record).2 ↔
      (env.mainAbilityLabel record.bundleName record.userId ≠ "" →
        UpdateSilent env taskParam record s) := by
  unfold updateTaskInfo UpdateSilent
  dsimp only
  by_cases nameless : env.mainAbilityLabel record.bundleName record.userId = ""
  · rw [updateTaskNotification_of_nameless nameless, if_pos (by simp)]
    exact ⟨fun _ named => absurd nameless named, fun _ => Isolated.refl s uid⟩
  simp only [ne_eq, nameless, not_false_eq_true, true_implies]
  cases merged : record.isCombinedTaskNotification with
  | true =>
      obtain ⟨ret, edits⟩ := @updateTaskNotification_of_merged env s record key taskParam nameless
        merged
      rw [if_pos rfl, isolated_notified_iff old foreign edits
        (edited_updatedTask taskParam record).suspendState, ret, and_imp]
  | false =>
      obtain ⟨edited, own⟩ := @exists_ownEdited env s record (updatedTask taskParam record) key
        (mainPair_updatedTask taskParam record) (edited_updatedTask taskParam record).suspendState
      rw [updateTaskNotification_of_own nameless merged, if_neg Bool.false_ne_true,
        isolated_notified_iff old foreign own.edits own.suspendState, own.ret]
      constructor
      · rintro ⟨unchanged, quiet⟩
        exact ⟨fun unshown => (own.unshown unshown).mp unchanged,
          fun shown => ⟨quiet shown, (own.shown shown).mp unchanged⟩⟩
      · intro silent
        refine ⟨?_, fun shown => (silent.shown shown).1⟩
        by_cases shown : OwnUpdateShown env (updatedTask taskParam record) s
        · exact (own.shown shown).mpr (silent.shown shown).2
        · exact (own.unshown shown).mpr (silent.unshown shown)

theorem isolated_updateBackgroundRunningByTaskIdInner_iff (taskParam : ContinuousTaskParam) :
    Isolated uid s (s.updateBackgroundRunningByTaskIdInner env uid taskParam).2 ↔
      UpdateLeavesForeign env uid taskParam s := by
  by_cases own : ∀ key record, s.findTask (fun _ task =>
      task.continuousTaskId == taskParam.updateTaskId && task.isByRequestObject) =
        some (key, record) → record.uid = uid
  · have edits : Edits (fun owner => owner = uid) (fun _ => True) s
        (s.updateBackgroundRunningByTaskIdInner env uid taskParam).2 :=
      edits_updateBackgroundRunningByTaskIdInner env uid taskParam own
    refine ⟨fun _ found member foreign => absurd (own found.1 found.2 member) foreign, ?_⟩
    exact fun _ => isolated_of_edits edits
  simp only [not_forall] at own
  obtain ⟨key, record, search, foreign⟩ := own
  have old := (taskAt_of_findTask s key record search).1
  unfold updateBackgroundRunningByTaskIdInner UpdateLeavesForeign
  rw [search]
  simp only [Option.mem_some_iff, forall_eq', ne_eq, foreign, not_false_eq_true, true_implies]
  have unwritten : ∀ ret : ErrCode, Isolated uid s (ret, s).2 := fun _ => Isolated.refl s uid
  by_cases disabled : uid ∈ s.disableRequestUidList
  · rw [if_pos disabled]
    exact ⟨fun _ enabled => absurd disabled enabled, fun _ => unwritten _⟩
  by_cases negative : taskParam.updateTaskId < 0
  · rw [if_neg disabled, if_pos negative]
    exact ⟨fun _ _ valid => absurd valid (by omega), fun _ => unwritten _⟩
  have valid : 0 ≤ taskParam.updateTaskId := by omega
  rw [if_neg disabled, if_neg negative]
  simp only [disabled, not_false_eq_true, true_implies, valid]
  by_cases modes : checkBgmodeTypes env (s.getBackgroundModeInfo uid record.abilityName) true
      record taskParam.bgModeIds = .ok
  case neg =>
    rw [if_pos modes]
    exact ⟨fun _ ok => absurd ok modes, fun _ => unwritten _⟩
  rw [if_neg (not_not.mpr modes)]
  by_cases transfer : (checkExistMode record.bgModeIds BackgroundMode.dataTransfer ||
      checkExistMode taskParam.bgModeIds BackgroundMode.dataTransfer) = true
  · rw [if_pos transfer]
    exact ⟨fun _ _ none => absurd transfer (by simp [none]), fun _ => unwritten _⟩
  rw [if_neg transfer]
  by_cases progress : taskParam.progressInfo.isSome = true
  · rw [if_pos progress]
    exact ⟨fun _ _ _ none => absurd progress (by simp [none]), fun _ => unwritten _⟩
  rw [if_neg progress]
  by_cases special : (checkExistMode record.bgModeIds BackgroundMode.specialScenarioProcessing &&
      taskParam.isCombinedTaskNotification) = true
  · rw [if_pos special]
    exact ⟨fun _ _ _ _ none => absurd special (by simp [none]), fun _ => unwritten _⟩
  rw [if_neg special, isolated_updateTaskInfo_iff old foreign]
  exact ⟨fun silent _ _ _ _ named => silent named,
    fun silent named => silent modes (by simpa using transfer) (by simpa using progress)
      (by simpa using special) named⟩

end Updates

/-- In every state of every run of the service, a client call leaves the tasks of other apps
as they are exactly when, past the checks at its entry, a stop finds the caller's own tasks
and an update by id writes nothing new to the task of another app. -/
theorem clientCall_isolated_iff (hash : String → Nat) (labels : List (Env × ServiceOp))
    (env : Env) (uid : Int) (call : ClientCall) :
    Isolated uid (StepSystem.run serviceStep (installed hash) labels)
        ((StepSystem.run serviceStep (installed hash) labels).clientCall env uid call).2 ↔
      LeavesForeign env uid (StepSystem.run serviceStep (installed hash) labels) call := by
  have owned := keysOwned_run hash labels
  generalize StepSystem.run serviceStep (installed hash) labels = s at owned ⊢
  cases call with
  | startBackgroundRunning taskParam =>
      exact ⟨fun _ => trivial, fun _ => isolated_startBackgroundRunning env taskParam⟩
  | updateBackgroundRunning taskParam =>
      unfold LeavesForeign clientCall updateBackgroundRunning
      dsimp only
      by_cases allowed : s.checkIsSysReadyAndPermission env uid = .ok
      case neg =>
        rw [if_pos allowed]
        exact ⟨fun _ ok => absurd ok allowed, fun _ => Isolated.refl s uid⟩
      rw [if_neg (not_not.mpr allowed)]
      simp only [allowed, true_implies]
      by_cases byObject : taskParam.isByRequestObject = true
      · rw [if_pos byObject, isolated_updateBackgroundRunningByTaskIdInner_iff]
        simp [byObject]
      · rw [if_neg byObject]
        exact ⟨fun _ given => absurd given byObject,
          fun _ => isolated_updateBackgroundRunningInner env taskParam owned⟩
  | stopBackgroundRunning abilityName abilityId continuousTaskId =>
      unfold LeavesForeign clientCall stopBackgroundRunning
      dsimp only
      by_cases ready : s.isSysReady = true
      case neg =>
        rw [if_pos (by simpa using ready)]
        exact ⟨fun _ isReady => absurd isReady ready, fun _ => Isolated.refl s uid⟩
      rw [if_neg (by simp [ready])]
      by_cases empty : abilityName = ""
      · rw [if_pos empty]
        exact ⟨fun _ _ named => absurd empty named, fun _ => Isolated.refl s uid⟩
      · rw [if_neg empty, isolated_stopBackgroundRunningInner_iff]
        simp [ready, empty]
  | updateDataTransferProgress progress =>
      exact ⟨fun _ => trivial, fun _ => isolated_updateDataTransferProgress env progress⟩

def oneTaskRun : List (Env × ServiceOp) :=
  [(deviceEnv, .initRequiredResourceInfo),
    ((deviceStart 100 (requestOf [BackgroundMode.location] [2])).1,
      .task (deviceStart 100 (requestOf [BackgroundMode.location] [2])).2)]

/-- The app 200 ends the task of the app 100 by its id. -/
theorem foreign_stop_not_isolated :
    ¬ Isolated 200 (StepSystem.run serviceStep (installed (fun _ => 0)) oneTaskRun)
      ((StepSystem.run serviceStep (installed (fun _ => 0)) oneTaskRun).clientCall deviceEnv 200
        (.stopBackgroundRunning "EntryAbility" 1 1)).2 := by
  intro isolated
  have stored : ((StepSystem.run serviceStep (installed (fun _ => 0)) oneTaskRun).taskAt
      "100_EntryAbility_1_1").map (fun record => record.uid) = some 100 := by
    decide
  obtain ⟨record, found, owner⟩ := Option.map_eq_some_iff.mp stored
  have kept := isolated "100_EntryAbility_1_1" record found (by rw [owner]; decide)
  have gone : ((StepSystem.run serviceStep (installed (fun _ => 0)) oneTaskRun).clientCall
      deviceEnv 200 (.stopBackgroundRunning "EntryAbility" 1 1)).2.taskAt
        "100_EntryAbility_1_1" = none := by
    decide
  exact absurd (gone.symm.trans kept) (by simp)

end BgTaskMgr.Continuous
