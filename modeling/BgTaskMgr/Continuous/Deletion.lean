import BgTaskMgr.Continuous.Sweep

/-!
# Deleted notifications

When the user deletes a notification, the manager ends the tasks that share the main
notification of the task its label names.  That is every active task behind the deleted
notification exactly when the named task is still there and they share its notification.
-/

set_option autoImplicit false

namespace BgTaskMgr.Continuous

open BgContinuousTaskMgr

def RefersTo (pair : String × Int) (record : ContinuousTaskRecord) : Prop :=
  record.mainPair = pair ∨ record.subPair = pair

def ReferredByActive (pair : String × Int) (s : BgContinuousTaskMgr) : Prop :=
  ∃ key record, s.taskAt key = some record ∧ record.suspendState = false ∧ RefersTo pair record

def namedKey (pair : String × Int) (s : BgContinuousTaskMgr) : Option String :=
  (s.tools.published.find? (fun notification => notification.pair == pair)).bind
    (fun notification =>
      (keyOfLabel notification.label notification.abilityName).map (fun named => named.1))

/-- The named task is there, has a main notification, and every active task behind the
notification shares it. -/
def NamedTaskCovers (pair : String × Int) (s : BgContinuousTaskMgr) : Prop :=
  s.isSysReady = true ∧ ∃ key named, namedKey pair s = some key ∧ s.taskAt key = some named ∧
    named.notificationId ≠ -1 ∧ ∀ other record, s.taskAt other = some record →
      record.suspendState = false → RefersTo pair record → record.mainPair = named.mainPair

theorem isBannerLabel_of_keyOfLabel {label abilityName : String} {named : String × Bool}
    (decoded : keyOfLabel label abilityName = some named) : isBannerLabel label = false := by
  unfold keyOfLabel at decoded
  unfold isBannerLabel
  split at decoded
  · rename_i split
    simp [split]
  · rename_i split
    simp [split]
  · rename_i split
    simp [split]
  · exact absurd decoded (by simp)

section Deletion

variable {s : BgContinuousTaskMgr} {pair : String × Int}

theorem SameTasks.referredByActive {after : BgContinuousTaskMgr} (same : SameTasks s after) :
    ReferredByActive pair after ↔ ReferredByActive pair s := by
  constructor
  · rintro ⟨key, edited, found, active, refers⟩
    obtain ⟨record, stored, notices⟩ := same.backward key edited found
    refine ⟨key, record, stored, notices.suspendState.symm.trans active, ?_⟩
    unfold RefersTo at refers ⊢
    rwa [← notices.mainPair, ← notices.subPair]
  · rintro ⟨key, record, found, active, refers⟩
    obtain ⟨edited, stored, notices⟩ := same.forward key record found
    refine ⟨key, edited, stored, notices.suspendState.trans active, ?_⟩
    unfold RefersTo at refers ⊢
    rwa [notices.mainPair, notices.subPair]

/-- The loop ends exactly the tasks that share the main notification of the named one. -/
theorem referredByActive_stopContinuousTaskByUserInner (env : Env) (key : String)
    (isSubNotification : Bool) :
    ReferredByActive pair (s.stopContinuousTaskByUserInner env key isSubNotification) ↔
      ∃ other record, s.taskAt other = some record ∧ record.suspendState = false ∧
        RefersTo pair record ∧ ¬ ∃ named, s.taskAt key = some named ∧
          named.notificationId ≠ -1 ∧ record.mainPair = named.mainPair := by
  unfold stopContinuousTaskByUserInner
  split
  · rename_i missing
    have absent : s.taskAt key = none := missing
    simp [ReferredByActive, absent]
  · rename_i named found
    have stored : s.taskAt key = some named := found
    split
    · rename_i none
      simp [ReferredByActive, stored, none]
    · rename_i given
      have tasks : ∀ other, (s.endTasks (fun record => record.mainPair == named.mainPair)
          markRemoved (cancelOther env isSubNotification) (stopAndSave env)).taskAt other =
            (s.taskAt other).bind (ended (fun record => record.mainPair == named.mainPair) other) :=
        taskAt_endTasks (onlyTools_cancelOther env isSubNotification)
          (fun record current => (undisturbed_stopAndSave current env record).taskAt) s
      simp only [ReferredByActive, tasks, Option.bind_eq_some_iff, ended]
      constructor
      · rintro ⟨other, record, ⟨old, lookup, left⟩, active, refers⟩
        split at left
        · exact absurd left (by simp)
        · rename_i different
          obtain rfl := Option.some.inj left
          refine ⟨other, old, lookup, active, refers, ?_⟩
          rintro ⟨named', stored', -, same⟩
          obtain rfl := Option.some.inj (stored.symm.trans stored')
          exact different (by simpa using same)
      · rintro ⟨other, record, lookup, active, refers, uncovered⟩
        refine ⟨other, record, ⟨record, lookup, ?_⟩, active, refers⟩
        rw [if_neg]
        intro same
        exact uncovered ⟨named, stored, given, by simpa using same⟩

theorem referredByActive_stopContinuousTaskByUser (env : Env) (key : String)
    (isSubNotification : Bool) (deleteReason : DeleteReason) :
    ReferredByActive pair (s.stopContinuousTaskByUser env key isSubNotification deleteReason) ↔
      ∃ other record, s.taskAt other = some record ∧ record.suspendState = false ∧
        RefersTo pair record ∧ ¬ (s.isSysReady = true ∧ ∃ named, s.taskAt key = some named ∧
          named.notificationId ≠ -1 ∧ record.mainPair = named.mainPair) := by
  unfold stopContinuousTaskByUser
  split
  · rename_i notReady
    have unready : s.isSysReady = false := by simpa using notReady
    simp [ReferredByActive, unready]
  · rename_i isReady
    have ready : s.isSysReady = true := by simpa using isReady
    dsimp only
    generalize (if deleteReason = DeleteReason.notUpdated then
        ContinuousTaskCancelReason.systemCancelDataTransferNotUpdate
      else ContinuousTaskCancelReason.userCancelRemoveNotification) = detailed
    have same := sameTasks_setReason s key .removeNotificationCancel detailed
    rw [referredByActive_stopContinuousTaskByUserInner]
    constructor
    · rintro ⟨other, edited, lookup, active, refers, uncovered⟩
      obtain ⟨record, stored, notices⟩ := same.backward other edited lookup
      refine ⟨other, record, stored, notices.suspendState.symm.trans active, ?_, ?_⟩
      · unfold RefersTo at refers ⊢
        rwa [← notices.mainPair, ← notices.subPair]
      · rintro ⟨-, named, namedStored, given, equal⟩
        obtain ⟨named', stored', notices'⟩ := same.forward key named namedStored
        refine uncovered ⟨named', stored', ?_, ?_⟩
        · rw [show named'.notificationId = named.notificationId from
            congrArg Prod.snd notices'.mainPair]
          exact given
        · rw [notices.mainPair, notices'.mainPair, equal]
    · rintro ⟨other, record, lookup, active, refers, uncovered⟩
      obtain ⟨edited, stored, notices⟩ := same.forward other record lookup
      refine ⟨other, edited, stored, notices.suspendState.trans active, ?_, ?_⟩
      · unfold RefersTo at refers ⊢
        rwa [notices.mainPair, notices.subPair]
      · rintro ⟨named', stored', given, equal⟩
        obtain ⟨named, namedStored, notices'⟩ := same.backward key named' stored'
        refine uncovered ⟨ready, named, namedStored, ?_, ?_⟩
        · rw [show named.notificationId = named'.notificationId from
            congrArg Prod.snd notices'.mainPair.symm]
          exact given
        · rw [← notices.mainPair, ← notices'.mainPair, equal]

/-- Which active tasks are left behind a notification that goes, unless the manager
cancelled it itself. -/
theorem referredByActive_onCanceled (env : Env) (shown : s.tools.Shown pair)
    {deleteReason : DeleteReason} (outside : deleteReason ≠ .appCancel) :
    ReferredByActive pair (s.onCanceled env pair deleteReason) ↔
      ∃ other record, s.taskAt other = some record ∧ record.suspendState = false ∧
        RefersTo pair record ∧ ¬ (s.isSysReady = true ∧ ∃ key named, namedKey pair s = some key ∧
          s.taskAt key = some named ∧ named.notificationId ≠ -1 ∧
          record.mainPair = named.mainPair) := by
  unfold onCanceled
  split
  · rename_i none
    obtain ⟨notification, listed, same⟩ := List.mem_map.mp shown
    have missed := List.find?_eq_none.mp none notification listed
    exact absurd (by simpa using same) missed
  rename_i notification found
  rw [if_neg outside]
  have named : namedKey pair s =
      (keyOfLabel notification.label notification.abilityName).map (fun named => named.1) := by
    unfold namedKey
    rw [found]
    rfl
  rw [named]
  unfold cancelNotificationByBgTask
  split
  · -- a banner: no task ends, and the label names none
    rename_i banner
    have undecoded : keyOfLabel notification.label notification.abilityName = none := by
      refine Option.eq_none_iff_forall_ne_some.mpr ?_
      intro decoded isDecoded
      exact absurd (banner.symm.trans (isBannerLabel_of_keyOfLabel isDecoded)) (by simp)
    rw [undecoded, (SameTasks.of_taskAt
      (quiet_stopBannerContinuousTaskByUser _ env notification.label).taskAt).referredByActive]
    simp [ReferredByActive, BgContinuousTaskMgr.taskAt, setTools]
  split
  · rename_i undecoded
    rw [undecoded]
    simp [ReferredByActive, BgContinuousTaskMgr.taskAt, setTools]
  · rename_i key isSubNotification decoded
    rw [referredByActive_stopContinuousTaskByUser, decoded]
    simp only [Option.map_some, Option.some.injEq]
    constructor
    · rintro ⟨other, record, lookup, active, refers, uncovered⟩
      refine ⟨other, record, lookup, active, refers, ?_⟩
      rintro ⟨ready, key', task, rfl, stored, given, equal⟩
      exact uncovered ⟨ready, task, stored, given, equal⟩
    · rintro ⟨other, record, lookup, active, refers, uncovered⟩
      refine ⟨other, record, lookup, active, refers, ?_⟩
      rintro ⟨ready, task, stored, given, equal⟩
      exact uncovered ⟨ready, key, task, rfl, stored, given, equal⟩

end Deletion

/-- After the user deleted a notification no active task refers to it, if and only if none
did before or the task named by its label covers those that did. -/
theorem deletion_ends_tasks_iff (env : Env) (s : BgContinuousTaskMgr) (pair : String × Int)
    (shown : s.tools.Shown pair) :
    ¬ ReferredByActive pair (s.taskStep (env, .onCanceled pair .userDelete)) ↔
      ¬ ReferredByActive pair s ∨ NamedTaskCovers pair s := by
  show ¬ ReferredByActive pair (s.onCanceled env pair .userDelete) ↔ _
  rw [referredByActive_onCanceled env shown (by simp)]
  constructor
  · intro ended
    by_cases referred : ReferredByActive pair s
    · refine Or.inr ?_
      -- the active tasks behind the notification share that of one named task
      have covered : ∀ other record, s.taskAt other = some record →
          record.suspendState = false → RefersTo pair record →
          s.isSysReady = true ∧ ∃ key named, namedKey pair s = some key ∧
            s.taskAt key = some named ∧ named.notificationId ≠ -1 ∧
            record.mainPair = named.mainPair := by
        intro other record lookup active refers
        by_contra uncovered
        exact ended ⟨other, record, lookup, active, refers, uncovered⟩
      obtain ⟨other, record, lookup, active, refers⟩ := referred
      obtain ⟨ready, key, named, isNamed, stored, given, -⟩ :=
        covered other record lookup active refers
      refine ⟨ready, key, named, isNamed, stored, given, ?_⟩
      intro other' record' lookup' active' refers'
      obtain ⟨-, key', named', isNamed', stored', -, equal⟩ :=
        covered other' record' lookup' active' refers'
      obtain rfl := Option.some.inj (isNamed.symm.trans isNamed')
      obtain rfl := Option.some.inj (stored.symm.trans stored')
      exact equal
    · exact Or.inl referred
  · rintro holds ⟨other, record, lookup, active, refers, uncovered⟩
    rcases holds with unreferred | ⟨ready, key, named, isNamed, stored, given, covers⟩
    · exact unreferred ⟨other, record, lookup, active, refers⟩
    · exact uncovered ⟨ready, key, named, isNamed, stored, given,
        covers other record lookup active refers⟩

def combinedRequest (mergeWith : Int) : ContinuousTaskParam :=
  { requestOf [BackgroundMode.location] [2] with
    isCombinedTaskNotification := true
    combinedNotificationTaskId := mergeWith }

def mergedRun : List (Env × ServiceOp) :=
  [(deviceEnv, .initRequiredResourceInfo),
    ((deviceStart 100 (combinedRequest (-1))).1, .task (deviceStart 100 (combinedRequest (-1))).2),
    ((deviceStart 100 (combinedRequest 1)).1, .task (deviceStart 100 (combinedRequest 1)).2)]

def firstStopped : Env × ServiceOp :=
  (deviceEnv, .task (.client 100 (.stopBackgroundRunning "EntryAbility" 1 1)))

/-- While both tasks run, deleting the notification ends them. -/
theorem deletion_ends_tasks_iff_merged :
    ¬ ReferredByActive ("bgmode_100_0_1_1", 0)
        ((StepSystem.run serviceStep (installed (fun _ => 0)) mergedRun).taskStep
          (deviceEnv, .onCanceled ("bgmode_100_0_1_1", 0) .userDelete)) ↔
      ¬ ReferredByActive ("bgmode_100_0_1_1", 0)
          (StepSystem.run serviceStep (installed (fun _ => 0)) mergedRun) ∨
        NamedTaskCovers ("bgmode_100_0_1_1", 0)
          (StepSystem.run serviceStep (installed (fun _ => 0)) mergedRun) :=
  deletion_ends_tasks_iff deviceEnv _ _ (by decide)

/-- After the first task is stopped the label names no task, so the second one goes on
behind the deleted notification. -/
theorem deletion_leaves_merged_task :
    (StepSystem.run serviceStep (installed (fun _ => 0)) (mergedRun ++ [firstStopped])).tools.Shown
        ("bgmode_100_0_1_1", 0) ∧
      ReferredByActive ("bgmode_100_0_1_1", 0)
        ((StepSystem.run serviceStep (installed (fun _ => 0))
          (mergedRun ++ [firstStopped])).taskStep
            (deviceEnv, .onCanceled ("bgmode_100_0_1_1", 0) .userDelete)) := by
  have stored : (((StepSystem.run serviceStep (installed (fun _ => 0))
      (mergedRun ++ [firstStopped])).taskStep
        (deviceEnv, .onCanceled ("bgmode_100_0_1_1", 0) .userDelete)).taskAt
          "100_EntryAbility_1_2").map (fun record => (record.suspendState, record.mainPair)) =
      some (false, ("bgmode_100_0_1_1", 0)) := by
    decide
  obtain ⟨record, found, notices⟩ := Option.map_eq_some_iff.mp stored
  obtain ⟨active, refers⟩ := Prod.mk.inj notices
  exact ⟨by decide, "100_EntryAbility_1_2", record, found, active, Or.inl refers⟩

end BgTaskMgr.Continuous
