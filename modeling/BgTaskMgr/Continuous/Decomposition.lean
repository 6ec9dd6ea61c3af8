import BgTaskMgr.Continuous.Changes

/-!
# What an operation can do

Each operation on a running manager as a sequence of elementary changes, and
`taskStep_effect`, which says once what a step can do.
-/

set_option autoImplicit false

namespace BgTaskMgr.Continuous

open BgContinuousTaskMgr

/-! ## Sending keeps the task -/

section Sending

variable (env : Env) (s : BgContinuousTaskMgr) (record : ContinuousTaskRecord)

theorem edited_note (prompt : Prompt) : Edited record (prompt.note record) := by
  unfold Prompt.note
  split
  · exact ⟨⟨rfl, rfl, rfl, rfl, rfl, rfl⟩, rfl⟩
  · exact Edited.refl record

theorem edited_publishNotification (tools : NotificationTools) (appName prompt : String) :
    Edited record
      (tools.publishNotification env.toNotificationEnv record appName prompt).record := by
  unfold NotificationTools.publishNotification
  dsimp only
  split
  · exact ⟨⟨rfl, rfl, rfl, rfl, rfl, rfl⟩, rfl⟩
  · exact Edited.refl record

theorem edited_sendContinuousTaskNotification :
    Edited record (s.sendContinuousTaskNotification env record).record := by
  have noted := edited_note record (s.checkNotificationText env record)
  unfold sendContinuousTaskNotification
  dsimp only
  split
  · exact Edited.refl record
  split
  · exact Edited.refl record
  split
  · exact noted
  split
  · split
    · exact noted.trans ⟨⟨rfl, rfl, rfl, rfl, rfl, rfl⟩, rfl⟩
    · exact noted
  split
  · exact noted
  · exact noted.trans (edited_publishNotification env _ _ _ _)

theorem edited_sendNotification (subRecord : ContinuousTaskRecord) (appName : String)
    (isSubNotification : Bool) :
    Edited record (s.sendNotification env subRecord record appName isSubNotification).record := by
  unfold sendNotification NotificationTools.publishSubNotification
    NotificationTools.publishMainNotification
  dsimp only
  split
  · exact Edited.refl record
  split
  · exact Edited.refl record
  split
  · split
    · exact ⟨⟨rfl, rfl, rfl, rfl, rfl, rfl⟩, rfl⟩
    · exact Edited.refl record
  · split
    · exact ⟨⟨rfl, rfl, rfl, rfl, rfl, rfl⟩, rfl⟩
    · exact Edited.refl record

theorem edited_sendLiveViewAndOtherNotification :
    Edited record (s.sendLiveViewAndOtherNotification env record).record := by
  unfold sendLiveViewAndOtherNotification
  dsimp only
  split
  · exact Edited.refl record
  split
  · exact Edited.refl record
  have main := edited_sendNotification env s record (liveViewMainRecord record)
    (s.cachedAppName record.uid) false
  split
  · exact main
  have sub (tools : NotificationTools) := main.trans (edited_sendNotification env
    (s.setTools tools) _ (liveViewSubRecord record) (s.cachedAppName record.uid) true)
  split
  · exact sub _
  split
  · exact sub _
  · exact sub _

theorem edited_sendByModes : Edited record (s.sendByModes env record).record := by
  unfold sendByModes
  split
  · exact edited_sendLiveViewAndOtherNotification env s record
  · exact edited_sendContinuousTaskNotification env s record

theorem edited_handleActiveNotification :
    Edited record (s.handleActiveNotification env record).record := by
  unfold handleActiveNotification
  split
  · exact Edited.refl record
  · exact edited_sendByModes env s record

end Sending

/-! ## Single tasks -/

section Operations

variable {touch : Int → Prop} {unheard : ContinuousTaskRecord → Prop}
  {s : BgContinuousTaskMgr} {key : String} {record : ContinuousTaskRecord}

theorem edits_setTools_setRecord {tools : NotificationTools} {edited : ContinuousTaskRecord}
    (found : s.taskAt key = some record) (touched : touch record.uid)
    (keeps : Edited record edited) :
    Edits touch unheard s ((s.setTools tools).setRecord key edited) :=
  (Edits.of_quiet (quiet_setTools s tools)).trans (Edits.edit found touched keeps)

theorem edits_setSent {sent : Sent} (found : s.taskAt key = some record)
    (touched : touch record.uid) (keeps : Edited record sent.record) :
    Edits touch unheard s (s.setSent key sent) :=
  edits_setTools_setRecord found touched keeps

/-- The record of a task is replaced twice, the second time by a publication. -/
theorem edits_setRecord_setSent {edited : ContinuousTaskRecord} {sent : Sent}
    (found : s.taskAt key = some record) (touched : touch record.uid)
    (keeps : Edited record edited) (published : Edited edited sent.record) :
    Edits touch unheard s ((s.setRecord key edited).setSent key sent) := by
  have stored := taskAt_setRecord_self s key edited found
  refine (Edits.edit found touched keeps).trans (edits_setSent stored ?_ published)
  rw [keeps.uid]
  exact touched

def OnlyTools (change : BgContinuousTaskMgr → BgContinuousTaskMgr) : Prop :=
  ∀ current, ∃ tools, change current = current.setTools tools

theorem onlyTools_cancelSubPair (env : Env) (record : ContinuousTaskRecord) :
    OnlyTools (cancelSubPair env record) := by
  intro current
  unfold cancelSubPair
  split
  · exact ⟨_, rfl⟩
  · exact ⟨current.tools, rfl⟩

theorem onlyTools_cancelMain (env : Env) (record : ContinuousTaskRecord) :
    OnlyTools (cancelMain env record) :=
  fun _ => ⟨_, rfl⟩

theorem onlyTools_cancelMainAndSub (env : Env) (record : ContinuousTaskRecord) :
    OnlyTools (cancelMainAndSub env record) := by
  intro current
  obtain ⟨tools, eq⟩ := onlyTools_cancelSubPair env record (current.cancelPair env record.mainPair)
  exact ⟨tools, eq⟩

theorem onlyTools_cancelExisting (env : Env) (record : ContinuousTaskRecord) :
    OnlyTools (cancelExisting env record) := by
  intro current
  unfold cancelExisting
  split
  · exact onlyTools_cancelMainAndSub env record current
  · exact onlyTools_cancelSubPair env record current

theorem onlyTools_cancelOther (env : Env) (isSubNotification : Bool)
    (record : ContinuousTaskRecord) : OnlyTools (cancelOther env isSubNotification record) := by
  intro current
  unfold cancelOther
  split
  · exact ⟨_, rfl⟩
  · exact onlyTools_cancelSubPair env record current

theorem OnlyTools.quiet {change : BgContinuousTaskMgr → BgContinuousTaskMgr}
    (only : OnlyTools change) (current : BgContinuousTaskMgr) : Quiet current (change current) := by
  obtain ⟨tools, eq⟩ := only current
  rw [eq]
  exact quiet_setTools current tools

/-- A task ends; that its notifications are cancelled before its record goes does not
matter. -/
theorem edits_endTask {mark : ContinuousTaskRecord → ContinuousTaskRecord}
    {cancel : ContinuousTaskRecord → BgContinuousTaskMgr → BgContinuousTaskMgr}
    (found : s.taskAt key = some record) (touched : touch record.uid)
    (marked : ContinuousTaskRecord.SameTask record (mark record))
    (cancels : OnlyTools (cancel record)) :
    Edits touch unheard s (s.endTask mark cancel key record) := by
  obtain ⟨tools, eq⟩ := cancels (s.onContinuousTaskChanged (mark record) .taskCancel)
  have swap : s.endTask mark cancel key record =
      ((s.onContinuousTaskChanged (mark record) .taskCancel).eraseRecord key).setTools tools := by
    unfold endTask
    rw [eq]
    rfl
  rw [swap]
  exact (Relation.ReflTransGen.single (Change.finish (mark record) found touched marked)).tail
    (Change.quiet (quiet_setTools _ tools))

theorem edits_endTasks {chosen : ContinuousTaskRecord → Bool}
    {mark : ContinuousTaskRecord → ContinuousTaskRecord}
    {cancel finish : ContinuousTaskRecord → BgContinuousTaskMgr → BgContinuousTaskMgr}
    (touched : ∀ record, chosen record = true → touch record.uid)
    (marked : ∀ record, ContinuousTaskRecord.SameTask record (mark record))
    (cancels : ∀ record, OnlyTools (cancel record))
    (finishes : ∀ record current, Edits touch unheard current (finish record current)) :
    Edits touch unheard s (s.endTasks chosen mark cancel finish) := by
  refine Edits.forEachTask ?_
  intro key record current found
  split
  · rename_i hit
    exact (edits_endTask found (touched record hit) (marked record) (cancels record)).trans
      (finishes record _)
  · exact .refl

theorem sameTask_markFrozen (detailed : Int) (record : ContinuousTaskRecord) :
    ContinuousTaskRecord.SameTask record (markFrozen detailed record) :=
  ⟨rfl, rfl, rfl, rfl, rfl, rfl⟩

theorem sameTask_markSystemCancel (record : ContinuousTaskRecord) :
    ContinuousTaskRecord.SameTask record (markSystemCancel record) :=
  ⟨rfl, rfl, rfl, rfl, rfl, rfl⟩

theorem edits_stopAndSave (env : Env) (record : ContinuousTaskRecord)
    (current : BgContinuousTaskMgr) : Edits touch unheard current (current.stopAndSave env record) :=
  (Relation.ReflTransGen.single (Change.appStop current record.uid)).tail
    (Change.quiet (quiet_saveTasks _ env))

theorem edits_saveTasks (env : Env) (current : BgContinuousTaskMgr) :
    Edits touch unheard current (current.saveTasks env) :=
  Edits.of_quiet (quiet_saveTasks current env)

theorem edits_appStop (uid : Int) (current : BgContinuousTaskMgr) :
    Edits touch unheard current (current.handleAppContinuousTaskStop uid) :=
  Relation.ReflTransGen.single (Change.appStop current uid)

/-- A stop by task id, when the task it finds may be touched. -/
theorem edits_stopBackgroundRunningByTask (env : Env) (continuousTaskId : Int)
    (touched : ∀ key record,
      s.findTask (fun _ task => task.continuousTaskId == continuousTaskId) = some (key, record) →
        touch record.uid) :
    Edits touch unheard s (s.stopBackgroundRunningByTask env continuousTaskId).2 := by
  unfold stopBackgroundRunningByTask
  split
  · exact .refl
  · rename_i key record search
    have found := (taskAt_of_findTask s key record search).1
    have erased : Edits touch unheard s
        ((s.onContinuousTaskChanged record .taskCancel).eraseRecord key) :=
      Relation.ReflTransGen.single (Change.finish record found (touched key record search)
        (ContinuousTaskRecord.SameTask.refl record))
    exact (erased.tail (Change.quiet (quiet_cancelNotification _ env record))).trans
      (edits_stopAndSave env record _)

theorem taskAt_of_stopBackgroundRunningByTask (env : Env) (continuousTaskId : Int)
    (left : (s.stopBackgroundRunningByTask env continuousTaskId).2.taskAt key = some record) :
    s.taskAt key = some record := by
  unfold stopBackgroundRunningByTask at left
  split at left
  · exact left
  · rename_i erasedKey erased search
    dsimp only at left
    rw [(quiet_saveTasks _ env).taskAt] at left
    rw [taskAt_handleAppContinuousTaskStop, (quiet_cancelNotification _ env erased).taskAt,
      taskAt_eraseRecord] at left
    split at left
    · exact absurd left (by simp)
    · exact left

theorem edits_stopTasks (env : Env) (ids : List Int)
    (touched : ∀ key record, s.taskAt key = some record → record.continuousTaskId ∈ ids →
      touch record.uid) :
    Edits touch unheard s (stopTasks env ids s).2 := by
  induction ids generalizing s with
  | nil => exact .refl
  | cons continuousTaskId rest ih =>
      have first : Edits touch unheard s (s.stopBackgroundRunningByTask env continuousTaskId).2 :=
        edits_stopBackgroundRunningByTask env continuousTaskId (by
          intro key record search
          obtain ⟨found, matched⟩ := taskAt_of_findTask s key record search
          have same : record.continuousTaskId = continuousTaskId := by simpa using matched
          exact touched key record found (by simp [same]))
      unfold stopTasks
      dsimp only
      split
      · exact first
      · refine first.trans (ih ?_)
        intro key record found later
        exact touched key record (taskAt_of_stopBackgroundRunningByTask env continuousTaskId found)
          (List.mem_cons_of_mem _ later)

theorem edits_stopBackgroundRunningByContext (env : Env) (uid : Int) (abilityName : String)
    (abilityId : Int)
    (touched : ∀ key record key' record', s.taskAt key = some record →
      inContext uid abilityName abilityId record = true → s.taskAt key' = some record' →
      record'.continuousTaskId = record.continuousTaskId → touch record'.uid) :
    Edits touch unheard s (s.stopBackgroundRunningByContext env uid abilityName abilityId).2 := by
  refine edits_stopTasks env _ ?_
  intro key' record' found' listed
  obtain ⟨record, chosen, same⟩ := List.mem_map.mp listed
  obtain ⟨stored, context⟩ := List.mem_filter.mp chosen
  obtain ⟨key, found⟩ := KeyedMap.mem_vals.mp stored
  exact touched key record key' record' found context found' same.symm

theorem edits_setReason (reason : StopReason) (detailed : Int)
    (touched : ∀ record, s.taskAt key = some record → touch record.uid) :
    Edits touch unheard s (s.setReason key reason detailed) := by
  unfold setReason
  split
  · exact .refl
  · rename_i record found
    exact Edits.edit found (touched record found) ⟨⟨rfl, rfl, rfl, rfl, rfl, rfl⟩, rfl⟩

/-! ## Reactivation and updates -/

theorem edits_activateTask (env : Env) (uid : Int) (touched : touch uid) (loop : ActiveLoop)
    (found : loop.mgr.taskAt key = some record) :
    Edits touch unheard loop.mgr (activateTask env uid key record loop).mgr := by
  unfold activateTask
  split
  · exact .refl
  · rename_i chosen
    have owned : touch record.uid := by
      simp only [not_or, not_not] at chosen
      rw [chosen.1]
      exact touched
    dsimp only
    have active : Edits touch unheard loop.mgr
        ((loop.mgr.setRecord key (reactivated record)).onContinuousTaskChanged
          (reactivated record) .taskActive) :=
      Relation.ReflTransGen.single (Change.activate (reactivated record) found owned
        ⟨rfl, rfl, rfl, rfl, rfl, rfl⟩ rfl rfl)
    have stored := taskAt_setRecord_self loop.mgr key (reactivated record) found
    split
    · exact active.tail (Change.quiet (quiet_saveTasks _ env))
    · split
      · exact (active.trans (edits_setSent stored owned
          (edited_handleActiveNotification env _ _))).tail (Change.quiet (quiet_saveTasks _ env))
      · have relabelled : Edited (reactivated record)
            { reactivated record with
              notificationLabel := loop.notificationLabel
              notificationId := loop.notificationId } :=
          ⟨⟨rfl, rfl, rfl, rfl, rfl, rfl⟩, rfl⟩
        exact (active.trans (Edits.edit stored owned relabelled)).tail
          (Change.quiet (quiet_saveTasks _ env))

theorem edits_handleActiveContinuousTask (env : Env) (uid : Int) (touched : touch uid) :
    Edits touch unheard s (s.handleActiveContinuousTask env uid) := by
  have step : ∀ key record (loop : ActiveLoop), loop.mgr.taskAt key = some record →
      Edits touch unheard s loop.mgr →
      Edits touch unheard s (activateTask env uid key record loop).mgr := by
    intro key record loop found early
    exact early.trans (edits_activateTask env uid touched loop found)
  exact KeyedMap.forEach_invariant step { mgr := s } .refl

theorem edits_finishUpdate (env : Env) (found : s.taskAt key = some record)
    (touched : touch record.uid) : Edits touch unheard s (s.finishUpdate env key).2 := by
  have lookup : s.continuousTaskInfosMap.lookup key = some record := found
  have active : Edits touch unheard s
      (if record.suspendState then s.handleActiveContinuousTask env record.uid else s) :=
    Edits.of_ite (edits_handleActiveContinuousTask env record.uid touched) .refl
  unfold finishUpdate
  rw [lookup]
  dsimp only
  split
  · exact active
  · exact (active.tail (Change.tell _ _ .taskUpdate (Or.inl rfl))).tail
      (Change.quiet (quiet_saveTasks _ env))

theorem edited_updatedTask (taskParam : ContinuousTaskParam) (record : ContinuousTaskRecord) :
    Edited record (updatedTask taskParam record) := by
  unfold updatedTask
  dsimp only
  split
  · exact ⟨⟨rfl, rfl, rfl, rfl, rfl, rfl⟩, rfl⟩
  · exact ⟨⟨rfl, rfl, rfl, rfl, rfl, rfl⟩, rfl⟩

theorem edited_dropSubModes (taskParam : ContinuousTaskParam) (record : ContinuousTaskRecord) :
    Edited record (dropSubModes taskParam record) := by
  unfold dropSubModes
  split
  · exact ⟨⟨rfl, rfl, rfl, rfl, rfl, rfl⟩, rfl⟩
  · exact Edited.refl record

theorem edited_withModes (taskParam : ContinuousTaskParam) (record : ContinuousTaskRecord) :
    Edited record (withModes taskParam record) :=
  (edited_dropSubModes taskParam record).trans ⟨⟨rfl, rfl, rfl, rfl, rfl, rfl⟩, rfl⟩

theorem touched_of_edited {edited : ContinuousTaskRecord} (keeps : Edited record edited)
    (touched : touch record.uid) : touch edited.uid := by
  rw [keeps.uid]
  exact touched

theorem edits_updateOwnNotification (env : Env) (found : s.taskAt key = some record)
    (touched : touch record.uid) :
    Edits touch unheard s (s.updateOwnNotification env key record).2 ∧
      ∃ edited, (s.updateOwnNotification env key record).2.taskAt key = some edited ∧
        Edited record edited := by
  have noted := edited_note record (s.checkNotificationText env record)
  unfold updateOwnNotification
  dsimp only
  split
  · exact ⟨Edits.edit found touched noted, _, taskAt_setRecord_self s key _ found, noted⟩
  split
  · have sent := noted.trans (edited_sendContinuousTaskNotification env s _)
    exact ⟨edits_setSent found touched sent, _,
      taskAt_setRecord_self (s.setTools _) key _ found, sent⟩
  · exact ⟨edits_setTools_setRecord found touched noted, _,
      taskAt_setRecord_self (s.setTools _) key _ found, noted⟩

theorem edits_updateTaskNotification (env : Env) (taskParam : ContinuousTaskParam)
    (found : s.taskAt key = some record) (touched : touch record.uid) :
    Edits touch unheard s (s.updateTaskNotification env taskParam key record).2 ∧
      ∃ edited, (s.updateTaskNotification env taskParam key record).2.taskAt key = some edited ∧
        Edited record edited := by
  have keeps := edited_updatedTask taskParam record
  have stored := taskAt_setRecord_self s key (updatedTask taskParam record) found
  have edit : Edits touch unheard s (s.setRecord key (updatedTask taskParam record)) :=
    Edits.edit found touched keeps
  unfold updateTaskNotification
  dsimp only
  split
  · exact ⟨.refl, record, found, Edited.refl record⟩
  split
  · obtain ⟨own, edited, last, same⟩ := edits_updateOwnNotification env stored
      (touched_of_edited keeps touched)
    exact ⟨edit.trans own, edited, last, keeps.trans same⟩
  split
  · exact ⟨edit.tail (Change.quiet (quiet_setTools _ _)), _, stored, keeps⟩
  · exact ⟨edit, _, stored, keeps⟩

theorem edits_updateTaskInfo (env : Env) (taskParam : ContinuousTaskParam)
    (found : s.taskAt key = some record) (touched : touch record.uid) :
    Edits touch unheard s (s.updateTaskInfo env taskParam key record).2 := by
  obtain ⟨notified, edited, stored, keeps⟩ :=
    edits_updateTaskNotification env taskParam found touched
  unfold updateTaskInfo
  dsimp only
  split
  · exact notified
  · exact notified.trans (edits_finishUpdate env stored (touched_of_edited keeps touched))

theorem edits_updateBackgroundRunningByTaskIdInner (env : Env) (uid : Int)
    (taskParam : ContinuousTaskParam)
    (touched : ∀ key record, s.findTask (fun _ task =>
      task.continuousTaskId == taskParam.updateTaskId && task.isByRequestObject) =
        some (key, record) → touch record.uid) :
    Edits touch unheard s (s.updateBackgroundRunningByTaskIdInner env uid taskParam).2 := by
  unfold updateBackgroundRunningByTaskIdInner
  split
  · exact .refl
  split
  · exact .refl
  split
  · exact .refl
  · rename_i key record search
    have found := (taskAt_of_findTask s key record search).1
    dsimp only
    split
    · exact .refl
    split
    · exact .refl
    split
    · exact .refl
    split
    · exact .refl
    · exact edits_updateTaskInfo env taskParam found (touched key record search)

theorem edits_updateBackgroundRunningInner (env : Env) (taskParam : ContinuousTaskParam)
    (touched : ∀ record, s.taskAt key = some record → touch record.uid) :
    Edits touch unheard s (s.updateBackgroundRunningInner env key taskParam).2 := by
  unfold updateBackgroundRunningInner
  split
  · exact .refl
  · rename_i record lookup
    have found : s.taskAt key = some record := lookup
    have owned := touched record found
    have keeps := edited_withModes taskParam record
    have stored := taskAt_setRecord_self s key (withModes taskParam record) found
    have published := edited_sendContinuousTaskNotification env
      (s.setRecord key (withModes taskParam record)) (withModes taskParam record)
    dsimp only
    split
    · exact .refl
    split
    · exact .refl
    split
    · exact Edits.edit found owned (edited_dropSubModes taskParam record)
    split
    · exact (Edits.edit found owned keeps).trans
        (edits_finishUpdate env stored (touched_of_edited keeps owned))
    split
    · exact edits_setRecord_setSent found owned keeps published
    · refine (edits_setRecord_setSent found owned keeps published).trans
        (edits_finishUpdate env (taskAt_setRecord_self (setTools _ _) key _ stored) ?_)
      exact touched_of_edited (keeps.trans published) owned

theorem edits_updateDataTransferProgressInner (env : Env) (uid : Int)
    (progress : DataTransferProgress) (touched : touch uid) :
    Edits touch unheard s (s.updateDataTransferProgressInner env uid progress).2 := by
  unfold updateDataTransferProgressInner
  split
  · exact .refl
  split
  · exact .refl
  split
  · exact .refl
  · rename_i key record search
    obtain ⟨found, matched⟩ := taskAt_of_findTask s key record search
    have owned : touch record.uid := by
      simp only [Bool.and_eq_true, beq_iff_eq] at matched
      rw [matched.2]
      exact touched
    have keeps : Edited record (withProgress progress record) :=
      ⟨⟨rfl, rfl, rfl, rfl, rfl, rfl⟩, rfl⟩
    have published := edited_sendContinuousTaskNotification env
      (s.setRecord key (withProgress progress record)) (withProgress progress record)
    dsimp only
    split
    · exact .refl
    split
    · exact edits_setRecord_setSent found owned keeps published
    · exact (edits_setRecord_setSent found owned keeps published).tail
        (Change.quiet (quiet_saveTasks _ env))

/-! ## Suspension -/

theorem edits_handleStopContinuousTask (env : Env) (uid : Int) (taskType : Nat)
    (all : ∀ uid, touch uid) :
    Edits touch unheard s (s.handleStopContinuousTask env uid taskType key) := by
  unfold handleStopContinuousTask
  split
  · exact (edits_endTasks (fun record _ => all record.uid) (sameTask_markFrozen _)
      (onlyTools_cancelMainAndSub env) (fun _ => edits_saveTasks env)).trans (edits_appStop uid _)
  split
  · exact (edits_endTasks (fun record _ => all record.uid) (sameTask_markFrozen _)
      (onlyTools_cancelMainAndSub env) (fun _ => edits_saveTasks env)).trans (edits_appStop uid _)
  split
  · exact .refl
  · exact (edits_setReason _ _ (fun record _ => all record.uid)).trans
      (edits_stopBackgroundRunningByTask env _ (fun _ record _ => all record.uid))

theorem edits_handleSuspendContinuousTask (env : Env) (uid mode : Int) (touched : touch uid) :
    Edits touch unheard s (s.handleSuspendContinuousTask env uid mode key) := by
  unfold handleSuspendContinuousTask
  split
  · exact .refl
  · rename_i record lookup
    have found : s.taskAt key = some record := lookup
    dsimp only
    refine Relation.ReflTransGen.trans ?_ (edits_appStop uid _)
    refine Relation.ReflTransGen.tail ?_
      (Change.quiet ((onlyTools_cancelMainAndSub env record).quiet _))
    split
    · rename_i owner
      have owned : touch record.uid := by
        rw [owner]
        exact touched
      exact (Relation.ReflTransGen.single (Change.suspend (suspended mode record) found owned
        ⟨rfl, rfl, rfl, rfl, rfl, rfl⟩ rfl (Or.inl rfl))).tail
          (Change.quiet (quiet_saveTasks _ env))
    · exact .refl

theorem edits_standby (env : Env) {edited : ContinuousTaskRecord}
    {type : ContinuousTaskEventTriggerType} (found : s.taskAt key = some record)
    (touched : touch record.uid) (keeps : Edited record edited)
    (kind : type = .taskSuspend ∨ type = .taskActive) (standby : edited.isStandby = true) :
    Edits touch unheard s
      (((s.setRecord key edited).onContinuousTaskChanged edited type).saveTasks env) :=
  ((Edits.edit found touched keeps).tail
    (Change.tell _ edited type (Or.inr ⟨kind, standby⟩))).tail (Change.quiet (quiet_saveTasks _ env))

theorem edits_handleSuspendContinuousTaskByStandby (env : Env) (uid mode : Int)
    (touched : touch uid) :
    Edits touch unheard s (s.handleSuspendContinuousTaskByStandby env uid mode key) := by
  unfold handleSuspendContinuousTaskByStandby
  split
  · exact .refl
  · rename_i record found
    split
    · exact .refl
    · rename_i chosen
      simp only [not_or, not_not] at chosen
      have owned : touch record.uid := by
        rw [chosen.1]
        exact touched
      exact edits_standby env found owned ⟨⟨rfl, rfl, rfl, rfl, rfl, rfl⟩, rfl⟩ (Or.inl rfl) rfl

theorem edits_handleActiveContinuousTaskByStandby (env : Env) (uid : Int) (touched : touch uid) :
    Edits touch unheard s (s.handleActiveContinuousTaskByStandby env uid) := by
  refine Edits.forEachTask ?_
  intro key record current found
  unfold activateStandby
  split
  · exact .refl
  · rename_i chosen
    simp only [not_or, not_not] at chosen
    have owned : touch record.uid := by
      rw [chosen.1]
      exact touched
    have keeps : Edited record { record with isStandby := true, isStandbySuspend := false } :=
      ⟨⟨rfl, rfl, rfl, rfl, rfl, rfl⟩, rfl⟩
    exact edits_standby env found owned keeps (Or.inr rfl) rfl

/-! ## Audio detection -/

theorem local_suspendAudio (env : Env) (uid : Int) :
    KeyedMap.Local continuousTaskInfosMap (suspendAudio env uid) := by
  intro key record current _ other different
  show (suspendAudio env uid key record current).taskAt other = current.taskAt other
  have untouched := taskAt_setRecord_ne current key other (undetected record) different
  unfold suspendAudio
  dsimp only
  split
  · split
    · exact untouched
    split
    · rw [(quiet_saveTasks _ env).taskAt]
      exact (taskAt_setRecord_ne _ key other _ different).trans untouched
    · rw [(quiet_saveTasks _ env).taskAt]
      exact (taskAt_eraseRecord_ne _ key other different).trans untouched
  · rfl

theorem edits_suspendAudio (env : Env) (uid : Int) (touched : touch uid)
    (found : s.taskAt key = some record)
    (standby : s.isExistCallback uid continuousTaskSuspend = true → record.uid = uid →
      checkExistMode record.bgModeIds BackgroundMode.audioPlayback = true →
      record.suspendAudioTaskTimes = 0 → record.isStandby = true →
      unheard (undetected record)) :
    Edits touch unheard s (suspendAudio env uid key record s) := by
  unfold suspendAudio
  split
  · rename_i chosen
    have owned : touch record.uid := by
      rw [chosen.1]
      exact touched
    have keeps : Edited record (undetected record) :=
      ⟨⟨rfl, rfl, rfl, rfl, rfl, rfl⟩, rfl⟩
    have stored := taskAt_setRecord_self s key (undetected record) found
    have cancelled : Edits touch unheard s
        ((s.setRecord key (undetected record)).cancelPair env
          record.mainPair) :=
      (Edits.edit found owned keeps).tail (Change.quiet (quiet_cancelPair _ env _))
    dsimp only
    split
    · exact cancelled.tail (Change.audioCallback _ _)
    split
    · rename_i callback first
      have heard : record.isStandby = false ∨ unheard (undetected record) := by
        rcases Bool.eq_false_or_eq_true record.isStandby with known | known
        · exact Or.inr (standby (by simpa using callback) chosen.1 chosen.2 first known)
        · exact Or.inl known
      exact (cancelled.tail (Change.suspend (audioSuspended (undetected record)) stored owned
        ⟨rfl, rfl, rfl, rfl, rfl, rfl⟩ rfl heard)).tail (Change.quiet (quiet_saveTasks _ env))
    · exact (cancelled.tail (Change.finish _ stored owned
        (sameTask_markFrozen _ _))).tail (Change.quiet (quiet_saveTasks _ env))
  · exact .refl

theorem edits_handleSuspendContinuousAudioTask (env : Env) (uid : Int) (touched : touch uid)
    (standby : ∀ key record, s.taskAt key = some record →
      s.isExistCallback uid continuousTaskSuspend = true → record.uid = uid →
      checkExistMode record.bgModeIds BackgroundMode.audioPlayback = true →
      record.suspendAudioTaskTimes = 0 → record.isStandby = true →
      unheard (undetected record)) :
    Edits touch unheard s (s.handleSuspendContinuousAudioTask env uid) := by
  have step : ∀ key record current, s.taskAt key = some record →
      current.taskAt key = some record → Edits touch unheard s current →
      Edits touch unheard s (suspendAudio env uid key record current) := by
    intro key record current start found early
    refine early.trans (edits_suspendAudio env uid touched found ?_)
    intro callback
    refine standby key record start ?_
    unfold isExistCallback at callback ⊢
    rw [early.bgTaskSubscribers] at callback
    exact callback
  exact (KeyedMap.forEach_untouched (local_suspendAudio env uid) s step .refl).trans
    (edits_appStop uid _)

/-! ## AVSession, live views and texts -/

theorem edits_refreshForAvsession (env : Env) (found : s.taskAt key = some record)
    (touched : touch record.uid) :
    Edits touch unheard s (s.refreshForAvsession env key record).2 := by
  have noted := edited_note record (s.checkNotificationText env record)
  unfold refreshForAvsession
  dsimp only
  split
  · refine Relation.ReflTransGen.tail ?_ (Change.quiet (quiet_saveTasks _ env))
    exact edits_setTools_setRecord found touched
      (noted.trans ⟨⟨rfl, rfl, rfl, rfl, rfl, rfl⟩, rfl⟩)
  · refine Relation.ReflTransGen.tail ?_ (Change.quiet (quiet_saveTasks _ env))
    exact edits_setTools_setRecord found touched noted

theorem edits_avSessionNotifyTask (env : Env) (isPublish : Bool)
    (found : s.taskAt key = some record) (touched : touch record.uid) :
    Edits touch unheard s (s.avSessionNotifyTask env isPublish key record).2 := by
  unfold avSessionNotifyTask
  split
  · exact Edits.edit found touched ⟨⟨rfl, rfl, rfl, rfl, rfl, rfl⟩, rfl⟩
  split
  · exact .refl
  split
  · exact (edits_setSent found touched (edited_sendContinuousTaskNotification env s record)).tail
      (Change.quiet (quiet_saveTasks _ env))
  split
  · exact edits_refreshForAvsession env found touched
  · exact .refl

theorem edits_avSessionNotifyUpdateNotificationInner (env : Env) (uid : Int) (isPublish : Bool)
    (all : ∀ uid, touch uid) :
    Edits touch unheard s (s.avSessionNotifyUpdateNotificationInner env uid isPublish).2 := by
  have noted : Edits touch unheard s { s with
      avSessionNotification := s.avSessionNotification.insert uid isPublish } :=
    Edits.of_quiet (Quiet.of_eq rfl rfl rfl rfl rfl rfl)
  have ready : Edits touch unheard s (if isPublish then
      { s with
        avSessionNotification := s.avSessionNotification.insert uid isPublish
        }.removeAudioPlaybackDelayTask uid
      else { s with avSessionNotification := s.avSessionNotification.insert uid isPublish }) :=
    Edits.of_ite (noted.tail (Change.quiet (quiet_removeAudioPlaybackDelayTask _ uid))) noted
  unfold avSessionNotifyUpdateNotificationInner
  dsimp only
  split
  · exact ready.tail (Change.quiet (quiet_removeAudioPlaybackDelayTask _ uid))
  · rename_i key record search
    have found := (taskAt_of_findTask _ key record search).1
    exact (ready.trans (edits_avSessionNotifyTask env isPublish found (all record.uid))).tail
      (Change.quiet (quiet_removeAudioPlaybackDelayTask _ uid))

theorem edits_cancelForLiveView (env : Env) (uid : Int) (found : s.taskAt key = some record)
    (touched : touch record.uid) :
    Edits touch unheard s (cancelForLiveView env uid key record s) := by
  unfold cancelForLiveView
  split
  · exact .refl
  · refine Relation.ReflTransGen.tail ?_ (Change.quiet (quiet_saveTasks _ env))
    exact edits_setTools_setRecord found touched ⟨⟨rfl, rfl, rfl, rfl, rfl, rfl⟩, rfl⟩

theorem edits_sendAfterLiveView (env : Env) (uid : Int) (found : s.taskAt key = some record)
    (touched : touch record.uid) :
    Edits touch unheard s (sendAfterLiveView env uid key record s) := by
  unfold sendAfterLiveView
  split
  · exact .refl
  · exact (edits_setSent found touched (edited_sendContinuousTaskNotification env s record)).tail
      (Change.quiet (quiet_saveTasks _ env))

theorem edits_onConsumed (env : Env) (uid : Int) (all : ∀ uid, touch uid) :
    Edits touch unheard s (s.onConsumed env uid) := by
  have noted : Edits touch unheard s (s.setLiveViewInfo uid true navigation) :=
    Edits.of_quiet (quiet_setLiveViewInfo s uid true navigation)
  refine Edits.of_ite (noted.trans (Edits.forEachTask ?_)) noted
  intro key record current found
  exact edits_cancelForLiveView env uid found (all record.uid)

theorem edits_onLiveViewCanceled (env : Env) (uid : Int) (all : ∀ uid, touch uid) :
    Edits touch unheard s (s.onLiveViewCanceled env uid) := by
  have noted : Edits touch unheard s (s.setLiveViewInfo uid false navigation) :=
    Edits.of_quiet (quiet_setLiveViewInfo s uid false navigation)
  refine Edits.of_ite (noted.trans (Edits.forEachTask ?_)) noted
  intro key record current found
  exact edits_sendAfterLiveView env uid found (all record.uid)

theorem edits_stopContinuousTaskByUserInner (env : Env) (isSubNotification : Bool)
    (all : ∀ uid, touch uid) :
    Edits touch unheard s (s.stopContinuousTaskByUserInner env key isSubNotification) := by
  unfold stopContinuousTaskByUserInner
  split
  · exact .refl
  split
  · exact .refl
  · exact edits_endTasks (fun record _ => all record.uid)
      (fun _ => ⟨rfl, rfl, rfl, rfl, rfl, rfl⟩) (onlyTools_cancelOther env _)
      (edits_stopAndSave env)

theorem edits_cancelNotificationByBgTask (env : Env) (label abilityName : String)
    (deleteReason : DeleteReason) (all : ∀ uid, touch uid) :
    Edits touch unheard s (s.cancelNotificationByBgTask env label abilityName deleteReason) := by
  unfold cancelNotificationByBgTask
  split
  · exact Edits.of_quiet (quiet_stopBannerContinuousTaskByUser s env label)
  split
  · exact .refl
  split
  · exact .refl
  · unfold stopContinuousTaskByUser
    split
    · exact .refl
    · refine Relation.ReflTransGen.trans ?_ (edits_stopContinuousTaskByUserInner env _ all)
      exact edits_setReason _ _ (fun record _ => all record.uid)

theorem edits_onCanceled (env : Env) (pair : String × Int) (deleteReason : DeleteReason)
    (all : ∀ uid, touch uid) : Edits touch unheard s (s.onCanceled env pair deleteReason) := by
  unfold onCanceled
  split
  · exact .refl
  split
  · exact .refl
  · exact (Edits.of_quiet (quiet_setTools s _)).trans
      (edits_cancelNotificationByBgTask env _ _ deleteReason all)

theorem edits_sendForDete (env : Env) (all : ∀ uid, touch uid) :
    Edits touch unheard s (sendForDete env s key) := by
  unfold sendForDete
  split
  · exact .refl
  · rename_i record lookup
    have noted : Quiet s { s with
        avSessionNotification := s.avSessionNotification.insert record.uid false } :=
      Quiet.of_eq rfl rfl rfl rfl rfl rfl
    have found : s.taskAt key = some record := lookup
    exact (Edits.of_quiet noted).trans (edits_setSent ((noted.taskAt key).trans found)
      (all record.uid) (edited_handleActiveNotification env _ record))

theorem edits_foldl_sendForDete (env : Env) (taskKeys : List String) (all : ∀ uid, touch uid) :
    Edits touch unheard s (taskKeys.foldl (sendForDete env) s) := by
  induction taskKeys generalizing s with
  | nil => exact .refl
  | cons key rest ih => exact (edits_sendForDete env all).trans ih

theorem edits_notifyAudioStartInner (env : Env) (uid : Int) (all : ∀ uid, touch uid) :
    Edits touch unheard s (s.notifyAudioStartInner env uid) := by
  apply notifyAudioStartInner_keeps env uid .refl
  · intro key record mgr found early
    exact early.trans (Edits.edit found (all record.uid)
      ⟨⟨rfl, rfl, rfl, rfl, rfl, rfl⟩, rfl⟩)
  · intro mgr newPromptInfos early
    exact (early.tail (Change.quiet (quiet_setTools _ _))).tail
      (Change.quiet (quiet_saveTasks _ env))

theorem edits_onBundleResourcesChanged (env : Env) (all : ∀ uid, touch uid) :
    Edits touch unheard s (s.onBundleResourcesChanged env) := by
  let renewed := { s with
    texts := getNotificationPrompt env.resourceString s.texts
    cachedBundleInfos := ∅ }
  have noted (record : ContinuousTaskRecord) : Edited record (renewed.notedByTexts env record) := by
    unfold notedByTexts
    split
    · exact edited_note record _
    · exact Edited.refl record
  exact (Relation.ReflTransGen.single (Change.editAll s (renewed.notedByTexts env) all noted)).tail
    (Change.quiet (Quiet.of_eq rfl rfl rfl rfl rfl rfl))

/-! ## Start -/

/-- What a start does once the task has its id: the task is stored under its key, which was
free, or it is not. -/
inductive Started (touch : Int → Prop) (unheard : ContinuousTaskRecord → Prop)
    (record : ContinuousTaskRecord) (s : BgContinuousTaskMgr) : BgContinuousTaskMgr → Prop where
  | refused {after : BgContinuousTaskMgr} (edits : Edits touch unheard s after) :
      Started touch unheard record s after
  | added {middle after : BgContinuousTaskMgr} (stored : ContinuousTaskRecord)
      (edits : Edits touch unheard s middle) (keeps : Edited record stored)
      (free : middle.taskAt (taskInfoMapKey record) = none)
      (saved : Quiet (middle.addTask (taskInfoMapKey record) stored) after) :
      Started touch unheard record s after

theorem Started.after {early after : BgContinuousTaskMgr} (edits : Edits touch unheard early s)
    (start : Started touch unheard record s after) : Started touch unheard record early after := by
  cases start with
  | refused later => exact .refused (edits.trans later)
  | added stored later keeps free saved => exact .added stored (edits.trans later) keeps free saved

theorem edits_determineMatchCombinedTaskNotifacation (touched : touch record.uid) :
    Edits touch unheard s (s.determineMatchCombinedTaskNotifacation record).mgr ∧
      Edited record (s.determineMatchCombinedTaskNotifacation record).record := by
  unfold determineMatchCombinedTaskNotifacation
  dsimp only
  split
  · exact ⟨.refl, Edited.refl record⟩
  rename_i key task search
  obtain ⟨found, matched⟩ := taskAt_of_findTask s key task search
  split
  · exact ⟨.refl, Edited.refl record⟩
  split
  · exact ⟨.refl, Edited.refl record⟩
  split
  · exact ⟨.refl, Edited.refl record⟩
  split
  · exact ⟨.refl, Edited.refl record⟩
  · have owned : touch task.uid := by
      simp only [Bool.and_eq_true, beq_iff_eq] at matched
      rw [matched.1]
      exact touched
    exact ⟨Edits.edit found owned ⟨⟨rfl, rfl, rfl, rfl, rfl, rfl⟩, rfl⟩,
      ⟨⟨rfl, rfl, rfl, rfl, rfl, rfl⟩, rfl⟩⟩

theorem edits_checkCombinedTaskNotification (touched : touch record.uid) :
    Edits touch unheard s (s.checkCombinedTaskNotification record).mgr ∧
      Edited record (s.checkCombinedTaskNotification record).record := by
  unfold checkCombinedTaskNotification
  dsimp only
  split
  · exact ⟨.refl, Edited.refl record⟩
  split
  · exact ⟨.refl, Edited.refl record⟩
  split
  · exact ⟨.refl, Edited.refl record⟩
  split
  · exact ⟨.refl, Edited.refl record⟩
  split
  · exact ⟨.refl, Edited.refl record⟩
  · exact edits_determineMatchCombinedTaskNotifacation touched

theorem edited_sendStartNotification (env : Env) (combined : Combined) :
    Edited combined.record (sendStartNotification env combined).record := by
  unfold sendStartNotification
  split
  · exact edited_sendByModes env combined.mgr combined.record
  · exact Edited.refl combined.record

theorem started_startBackgroundRunningSubmit (env : Env) (touched : touch record.uid)
    (free : s.taskAt (taskInfoMapKey record) = none) :
    Started touch unheard record s
      (s.startBackgroundRunningSubmit env record (taskInfoMapKey record)).2 := by
  obtain ⟨combined, keeps⟩ : Edits touch unheard s (s.checkCombinedTaskNotification record).mgr ∧ _ :=
    edits_checkCombinedTaskNotification touched
  have sent := combined.tail
    (Change.quiet (quiet_setTools _ (sendStartNotification env
      (s.checkCombinedTaskNotification record)).tools))
  have published := keeps.trans
    (edited_sendStartNotification env (s.checkCombinedTaskNotification record))
  unfold startBackgroundRunningSubmit
  dsimp only
  split
  · exact .refused .refl
  split
  · exact .refused combined
  split
  · exact .refused sent
  · exact .added _ sent published (Edits.taskAt_none sent free) (quiet_saveTasks _ env)

theorem started_startNumbered (env : Env) (touched : touch record.uid) :
    Started touch unheard record s (s.startNumbered env record).2 := by
  unfold startNumbered
  dsimp only
  split
  · exact .refused .refl
  split
  · split
    · exact .refused (edits_handleActiveContinuousTask env record.uid touched)
    · exact .refused .refl
  rename_i absent
  have free : s.taskAt (taskInfoMapKey record) = none := by
    simpa [BgContinuousTaskMgr.taskAt] using absent
  split
  · have cached : Edits touch unheard s (s.setCachedBundleInfo env record) :=
      Edits.of_quiet (quiet_setCachedBundleInfo s env record)
    exact (started_startBackgroundRunningSubmit env touched (cached.taskAt_none free)).after cached
  · exact started_startBackgroundRunningSubmit env touched free

end Operations

/-! ## One step -/

structure Fresh (record : ContinuousTaskRecord) : Prop where
  suspendState : record.suspendState = false
  notificationId : record.notificationId = -1
  subNotificationId : record.subNotificationId = -1

theorem fresh_startRecord {env : Env} {callingUid : Int} {taskParam : ContinuousTaskParam}
    {record : ContinuousTaskRecord} (built : startRecord env callingUid taskParam = some record) :
    Fresh record ∧ record.uid = callingUid := by
  unfold startRecord checkSubMode at built
  dsimp only at built
  split at built
  · obtain rfl := Option.some.inj built
    exact ⟨⟨rfl, rfl, rfl⟩, rfl⟩
  · split at built
    · obtain rfl := Option.some.inj built
      exact ⟨⟨rfl, rfl, rfl⟩, rfl⟩
    · split at built
      · obtain rfl := Option.some.inj built
        exact ⟨⟨rfl, rfl, rfl⟩, rfl⟩
      · exact absurd built (by simp)

theorem fresh_innerRecord (env : Env) (taskParam : ContinuousTaskParamForInner) (callingUid : Int) :
    Fresh (innerRecord env taskParam callingUid) :=
  ⟨rfl, rfl, rfl⟩

/-- What one operation does to the tasks.  Only a system ability that is told nothing of a
suspension, in `unheard`, is left to the modules about subscribers. -/
inductive Effect (unheard : ContinuousTaskRecord → Prop) (s : BgContinuousTaskMgr) :
    TaskOp → BgContinuousTaskMgr → Prop where
  | edits {op : TaskOp} {after : BgContinuousTaskMgr}
      (edits : Edits (fun _ => True) unheard s after) : Effect unheard s op after
  | started {op : TaskOp} {after : BgContinuousTaskMgr} (record : ContinuousTaskRecord)
      (fresh : Fresh record) (ready : s.isSysReady = true)
      (start : Started (fun _ => True) unheard
        { record with continuousTaskId := s.continuousTaskIdIndex + 1 } s.nextTaskId after) :
      Effect unheard s op after
  | cleared (env : Env) : Effect unheard s (.shellDumpCancel none) (s.dumpCancelAll env)
  | addSubscriber (info : SubscriberInfo) :
      Effect unheard s (.addSubscriber info) (s.addSubscriber info)
  | removeSubscriber (remote : Nat) (flag : BitVec 32) :
      Effect unheard s (.removeSubscriber remote flag) (s.removeSubscriber remote flag)
  | subscriberDied (remote : Nat) :
      Effect unheard s (.onRemoteSubscriberDied remote) (s.onRemoteSubscriberDied remote)

inductive StepEffect (unheard : ContinuousTaskRecord → Prop) (s : BgContinuousTaskMgr) :
    TaskOp → BgContinuousTaskMgr → Prop where
  | edits {op : TaskOp} {after : BgContinuousTaskMgr}
      (edits : Edits (fun _ => True) unheard s after) : StepEffect unheard s op after
  | start {op : TaskOp} (env : Env) (record : ContinuousTaskRecord) (fresh : Fresh record)
      (ready : s.isSysReady = true) :
      StepEffect unheard s op (s.startBackgroundRunningInner env record).2
  | cleared (env : Env) : StepEffect unheard s (.shellDumpCancel none) (s.dumpCancelAll env)
  | addSubscriber (info : SubscriberInfo) :
      StepEffect unheard s (.addSubscriber info) (s.addSubscriber info)
  | removeSubscriber (remote : Nat) (flag : BitVec 32) :
      StepEffect unheard s (.removeSubscriber remote flag) (s.removeSubscriber remote flag)
  | subscriberDied (remote : Nat) :
      StepEffect unheard s (.onRemoteSubscriberDied remote) (s.onRemoteSubscriberDied remote)

section Effects

variable {unheard : ContinuousTaskRecord → Prop} {s : BgContinuousTaskMgr}

theorem StepEffect.of_quiet {op : TaskOp} {after : BgContinuousTaskMgr} (same : Quiet s after) :
    StepEffect unheard s op after :=
  .edits (Edits.of_quiet same)

theorem StepEffect.effect {op : TaskOp} {after : BgContinuousTaskMgr}
    (step : StepEffect unheard s op after) : Effect unheard s op after := by
  cases step with
  | edits edits => exact .edits edits
  | start env record fresh ready =>
      unfold startBackgroundRunningInner
      split
      · exact .edits .refl
      split
      · exact .edits .refl
      · exact .started record fresh ready (started_startNumbered env trivial)
  | cleared env => exact .cleared env
  | addSubscriber info => exact .addSubscriber info
  | removeSubscriber remote flag => exact .removeSubscriber remote flag
  | subscriberDied remote => exact .subscriberDied remote

theorem edits_stopBackgroundRunningInner {touch : Int → Prop} (env : Env) (uid : Int)
    (abilityName : String) (abilityId continuousTaskId : Int)
    (byId : continuousTaskId ≠ -1 → ∀ key record,
      s.findTask (fun _ task => task.continuousTaskId == continuousTaskId) = some (key, record) →
        touch record.uid)
    (byContext : continuousTaskId = -1 → ∀ key record key' record', s.taskAt key = some record →
      inContext uid abilityName abilityId record = true → s.taskAt key' = some record' →
      record'.continuousTaskId = record.continuousTaskId → touch record'.uid) :
    Edits touch unheard s
      (s.stopBackgroundRunningInner env uid abilityName abilityId continuousTaskId).2 := by
  unfold stopBackgroundRunningInner
  split
  · rename_i given
    split
    · exact .refl
    · exact edits_stopBackgroundRunningByTask env continuousTaskId (byId given)
  · rename_i absent
    split
    · exact .refl
    · exact edits_stopBackgroundRunningByContext env uid abilityName abilityId
        (byContext (not_not.mp absent))

theorem stepEffect_stopBackgroundRunningInner {op : TaskOp} (env : Env) (uid : Int)
    (abilityName : String) (abilityId continuousTaskId : Int) :
    StepEffect unheard s op
      (s.stopBackgroundRunningInner env uid abilityName abilityId continuousTaskId).2 :=
  .edits (edits_stopBackgroundRunningInner env uid abilityName abilityId continuousTaskId
    (fun _ _ _ _ => trivial) (fun _ _ _ _ _ _ _ _ _ => trivial))

theorem stepEffect_clientCall {op : TaskOp} (env : Env) (callingUid : Int) (call : ClientCall) :
    StepEffect unheard s op (s.clientCall env callingUid call).2 := by
  cases call with
  | startBackgroundRunning taskParam =>
      show StepEffect unheard s op (s.startBackgroundRunning env callingUid taskParam).2
      unfold startBackgroundRunning
      split
      · exact .edits .refl
      rename_i ready
      split
      · exact .edits .refl
      split
      · exact .edits .refl
      split
      · exact .edits .refl
      · rename_i built
        exact .start env _ (fresh_startRecord built).1 (by simpa using ready)
  | updateBackgroundRunning taskParam =>
      show StepEffect unheard s op (s.updateBackgroundRunning env callingUid taskParam).2
      unfold updateBackgroundRunning
      split
      · exact .edits .refl
      split
      · exact .edits (edits_updateBackgroundRunningByTaskIdInner env callingUid taskParam
          (fun _ _ _ => trivial))
      · exact .edits (edits_updateBackgroundRunningInner env taskParam (fun _ _ => trivial))
  | stopBackgroundRunning abilityName abilityId continuousTaskId =>
      show StepEffect unheard s op
        (s.stopBackgroundRunning env callingUid abilityName abilityId continuousTaskId).2
      unfold stopBackgroundRunning
      split
      · exact .edits .refl
      split
      · exact .edits .refl
      · exact stepEffect_stopBackgroundRunningInner env callingUid abilityName abilityId
          continuousTaskId
  | updateDataTransferProgress progress =>
      show StepEffect unheard s op (s.updateDataTransferProgress env callingUid progress).2
      unfold updateDataTransferProgress
      split
      · exact .edits .refl
      · exact .edits (edits_updateDataTransferProgressInner env callingUid progress trivial)

theorem stepEffect_forInner {op : TaskOp} (env : Env) (taskParam : ContinuousTaskParamForInner)
    (callingUid : Int) (ready : s.isSysReady = true) :
    StepEffect unheard s op (if taskParam.isStart then
      s.startBackgroundRunningForInner env taskParam callingUid
      else s.stopBackgroundRunningForInner env taskParam callingUid).2 := by
  split
  · exact .start env _ (fresh_innerRecord env taskParam callingUid) ready
  · exact stepEffect_stopBackgroundRunningInner env _ _ _ _

theorem stepEffect_suspendContinuousTask {op : TaskOp} (env : Env) (uid mode : Int) (key : String)
    (isStandby : Bool) :
    StepEffect unheard s op (s.suspendContinuousTask env uid mode key isStandby) := by
  unfold suspendContinuousTask
  split
  · exact .edits .refl
  dsimp only
  split
  · split
    · exact .edits (edits_handleSuspendContinuousTaskByStandby env uid mode trivial)
    · exact .edits .refl
  split
  · exact .edits (edits_handleSuspendContinuousTask env uid mode trivial)
  · exact .edits (edits_handleStopContinuousTask env uid 0 (fun _ => trivial))

theorem stepEffect_onAppStopped {op : TaskOp} (env : Env) (uid : Int) :
    StepEffect unheard s op (s.onAppStopped env uid) := by
  unfold onAppStopped
  split
  · exact .edits .refl
  have ended : Edits (fun _ => True) unheard s (s.endTasks (fun record => record.uid == uid)
      markSystemCancel (cancelExisting env) (stopAndSave env)) :=
    edits_endTasks (fun _ _ => trivial) sameTask_markSystemCancel (onlyTools_cancelExisting env)
      (edits_stopAndSave env)
  dsimp only
  split
  · exact .edits ended
  · exact .edits (ended.tail (Change.quiet (quiet_removeBanners _ env _)))

theorem stepEffect_onBundleInfoChanged {op : TaskOp} (env : Env) (action : PackageAction)
    (bundleName : String) (uid userId appIndex : Int) :
    StepEffect unheard s op (s.onBundleInfoChanged env action bundleName uid userId appIndex) := by
  have uncached : Edits (fun _ => True) unheard s
      { s with cachedBundleInfos := s.cachedBundleInfos.erase uid } :=
    Edits.of_quiet (Quiet.of_eq rfl rfl rfl rfl rfl rfl)
  unfold onBundleInfoChanged
  dsimp only
  split
  · exact .edits .refl
  split
  · exact .edits uncached
  · exact .edits (uncached.tail (Change.quiet (quiet_removeBanners _ env _)))
  · exact .edits (uncached.trans (edits_endTasks (fun _ _ => trivial) sameTask_markSystemCancel
      (onlyTools_cancelMain env) (edits_stopAndSave env)))

theorem edits_handleRemoveTaskByMode {touch : Int → Prop} (env : Env) (mode : Nat)
    (all : ∀ uid, touch uid) : Edits touch unheard s (s.handleRemoveTaskByMode env mode) :=
  edits_endTasks (fun record _ => all record.uid) sameTask_markSystemCancel
    (fun _ current => ⟨current.tools, rfl⟩)
    (fun record current => (edits_stopAndSave env record current).tail
      (Change.quiet (quiet_cancelNotification _ env record)))

theorem stepEffect_avSessionNotifyUpdateNotification {op : TaskOp} (env : Env)
    (callingUid uid pid : Int) (isPublish : Bool) :
    StepEffect unheard s op
      (s.avSessionNotifyUpdateNotification env callingUid uid pid isPublish).2 := by
  unfold avSessionNotifyUpdateNotification
  split
  · exact .edits .refl
  split
  · exact .edits .refl
  split
  · exact .edits (edits_avSessionNotifyUpdateNotificationInner env uid isPublish
      (fun _ => trivial))
  · exact .of_quiet (Quiet.of_eq rfl rfl rfl rfl rfl rfl)

theorem stepEffect_runDelayedNotify {op : TaskOp} (env : Env) :
    StepEffect unheard s op (s.runDelayedNotify env) := by
  unfold runDelayedNotify
  split
  · exact .edits .refl
  · rename_i rest _
    have taken : Quiet s { s with delayedNotify := rest } := Quiet.of_eq rfl rfl rfl rfl rfl rfl
    exact .edits ((Edits.of_quiet taken).trans
      (edits_avSessionNotifyUpdateNotificationInner env _ false (fun _ => trivial)))

theorem stepEffect_shellDumpCancel (env : Env) (taskKey : Option String) :
    StepEffect unheard s (.shellDumpCancel taskKey) (s.shellDumpCancel env taskKey) := by
  unfold shellDumpCancel
  split
  · exact .edits .refl
  cases taskKey with
  | none => exact .cleared env
  | some key =>
      dsimp only
      split
      · exact .edits .refl
      · exact .edits (edits_stopBackgroundRunningByTask env _ (fun _ _ _ => trivial))

/-- The state in which `DumpCancelTask` has cancelled and announced every task and cleared
the map. -/
def dumpCleared (env : Env) (s : BgContinuousTaskMgr) : BgContinuousTaskMgr :=
  { s.forEachTask (dumpCancel env) with continuousTaskInfosMap := ∅ }

theorem edits_foldl_appStop {touch : Int → Prop} (uids : List Int) :
    Edits touch unheard s
      (uids.foldl (fun current uid => current.handleAppContinuousTaskStop uid) s) := by
  induction uids generalizing s with
  | nil => exact .refl
  | cons uid rest ih => exact (edits_appStop uid s).trans ih

theorem edits_dumpCancelAll {touch : Int → Prop} (env : Env) :
    Edits touch unheard (dumpCleared env s) (s.dumpCancelAll env) :=
  (edits_saveTasks env (dumpCleared env s)).trans (edits_foldl_appStop _)

theorem forEachTask_dumpCancel (env : Env) :
    ∃ tools calls, s.forEachTask (dumpCancel env) = { s with tools := tools, calls := calls } := by
  have step : ∀ key record current, current.taskAt key = some record →
      (∃ tools calls, current = { s with tools := tools, calls := calls }) →
      ∃ tools calls, dumpCancel env key record current = { s with tools := tools, calls := calls } := by
    rintro key record current - ⟨tools, calls, rfl⟩
    exact ⟨_, _, rfl⟩
  exact KeyedMap.forEach_invariant step s ⟨s.tools, s.calls, rfl⟩

theorem taskAt_dumpCleared (env : Env) (key : String) : (dumpCleared env s).taskAt key = none :=
  AList.lookup_empty key

theorem dumpCancelAll_keeps (env : Env) :
    (s.dumpCancelAll env).continuousTaskIdIndex = s.continuousTaskIdIndex ∧
      (s.dumpCancelAll env).isSysReady = s.isSysReady ∧
      (s.dumpCancelAll env).bgTaskSubscribers = s.bgTaskSubscribers := by
  obtain ⟨tools, calls, dumped⟩ := forEachTask_dumpCancel (s := s) env
  have edits : Edits (fun _ => True) (fun _ => True) (dumpCleared env s) (s.dumpCancelAll env) :=
    edits_dumpCancelAll env
  rw [Edits.continuousTaskIdIndex edits, Edits.isSysReady edits, Edits.bgTaskSubscribers edits]
  unfold dumpCleared
  rw [dumped]
  exact ⟨rfl, rfl, rfl⟩

theorem traces_dumpCancelAll (env : Env) : Traces s (s.dumpCancelAll env) := by
  obtain ⟨tools, calls, dumped⟩ := forEachTask_dumpCancel (s := s) env
  have cleared : Traces s (dumpCleared env s) := by
    constructor
    · intro key record found
      exact absurd ((taskAt_dumpCleared env key).symm.trans found) (by simp)
    · refine Or.inl ?_
      unfold dumpCleared
      rw [dumped]
  have edits : Edits (fun _ => True) (fun _ => True) (dumpCleared env s) (s.dumpCancelAll env) :=
    edits_dumpCancelAll env
  exact cleared.trans (Edits.traces edits)

/-- The records an audio suspension changes in standby, for which system abilities hear
nothing. -/
def SuspendedInStandby (uid : Int) (s : BgContinuousTaskMgr) (record : ContinuousTaskRecord) :
    Prop :=
  s.isExistCallback uid continuousTaskSuspend = true ∧ record.uid = uid ∧
    checkExistMode record.bgModeIds BackgroundMode.audioPlayback = true ∧
    record.suspendAudioTaskTimes = 0 ∧ record.isStandby = true

theorem taskStep_stepEffect (label : Env × TaskOp)
    (heard : ∀ uid, label.2 = .suspendContinuousAudioTask uid → ∀ key record,
      s.taskAt key = some record → SuspendedInStandby uid s record → unheard (undetected record)) :
    StepEffect unheard s label.2 (s.taskStep label) := by
  obtain ⟨env, op⟩ := label
  cases op with
  | client callingUid call => exact stepEffect_clientCall env callingUid call
  | requestBackgroundRunningForInner callingUid taskParam =>
      show StepEffect unheard s _ (s.requestBackgroundRunningForInner env callingUid taskParam).2
      unfold requestBackgroundRunningForInner
      split
      · exact .edits .refl
      rename_i ready
      split
      · exact .edits .refl
      · exact stepEffect_forInner env taskParam callingUid (by simpa using ready)
  | debugContinuousTask taskParam =>
      show StepEffect unheard s _ (s.debugContinuousTaskInner env taskParam).2
      unfold debugContinuousTaskInner
      split
      · exact .edits .refl
      · rename_i ready
        exact stepEffect_forInner env taskParam 0 (by simpa using ready)
  | stopContinuousTask uid taskType key =>
      exact .edits (Edits.of_ite (edits_handleStopContinuousTask env uid taskType
        (fun _ => trivial)) .refl)
  | suspendContinuousTask uid mode key isStandby =>
      exact stepEffect_suspendContinuousTask env uid mode key isStandby
  | activeContinuousTask uid isStandby =>
      exact .edits (Edits.of_ite .refl (Edits.of_ite
        (Edits.of_ite (edits_handleActiveContinuousTaskByStandby env uid trivial) .refl)
        (edits_handleActiveContinuousTask env uid trivial)))
  | suspendContinuousAudioTask uid =>
      refine .edits (Edits.of_ite (edits_handleSuspendContinuousAudioTask env uid trivial ?_) .refl)
      intro key record found callback owner audio times standby
      exact heard uid rfl key record found ⟨callback, owner, audio, times, standby⟩
  | avSessionNotifyUpdateNotification callingUid uid pid isPublish =>
      exact stepEffect_avSessionNotifyUpdateNotification env callingUid uid pid isPublish
  | runDelayedNotify => exact stepEffect_runDelayedNotify env
  | onAbilityStateChanged uid abilityName abilityId =>
      exact .edits (Edits.of_ite .refl (edits_stopBackgroundRunningByContext env uid abilityName
        abilityId (fun _ _ _ _ _ _ _ _ => trivial)))
  | onAppStopped uid => exact stepEffect_onAppStopped env uid
  | onAppStateChanged uid foreground => exact .of_quiet (quiet_onAppStateChanged s uid foreground)
  | onBundleInfoChanged action bundleName uid userId appIndex =>
      exact stepEffect_onBundleInfoChanged env action bundleName uid userId appIndex
  | onAccountsStateChanged =>
      show StepEffect unheard s _ (s.onAccountsStateChanged env)
      unfold onAccountsStateChanged
      split
      · exact .edits .refl
      · exact .edits (edits_endTasks (fun _ _ => trivial) sameTask_markSystemCancel
          (onlyTools_cancelMain env) (edits_stopAndSave env))
  | onRemoveSystemAbility mode =>
      exact .edits (Edits.of_ite (edits_handleRemoveTaskByMode env mode (fun _ => trivial)) .refl)
  | onConsumed uid => exact .edits (edits_onConsumed env uid (fun _ => trivial))
  | onLiveViewCanceled uid => exact .edits (edits_onLiveViewCanceled env uid (fun _ => trivial))
  | onCanceled pair deleteReason =>
      exact .edits (edits_onCanceled env pair deleteReason (fun _ => trivial))
  | stopBannerContinuousTaskByUser label =>
      exact .of_quiet (quiet_stopBannerContinuousTaskByUser s env label)
  | shellDumpCancel taskKey => exact stepEffect_shellDumpCancel env taskKey
  | onBundleResourcesChanged => exact .edits (edits_onBundleResourcesChanged env (fun _ => trivial))
  | sendNotificationByDeteTask taskKeys =>
      exact .edits (Edits.of_ite (edits_foldl_sendForDete env taskKeys (fun _ => trivial)) .refl)
  | notifyAudioStart uid =>
      exact .edits (Edits.of_ite (edits_notifyAudioStartInner env uid (fun _ => trivial)) .refl)
  | addSubscriber info => exact .addSubscriber info
  | removeSubscriber remote flag => exact .removeSubscriber remote flag
  | onRemoteSubscriberDied remote => exact .subscriberDied remote
  | enableContinuousTaskRequest uid isEnable =>
      exact .of_quiet (quiet_enableContinuousTaskRequest s uid isEnable)
  | publishBannerNotification => exact .of_quiet (quiet_setTools s _)
  | rehash rank => exact .of_quiet (quiet_rehash s rank)

/-- Every step is made of elementary changes, the start of a task, the end of all tasks and
changes of the subscribers. -/
theorem taskStep_effect (label : Env × TaskOp)
    (heard : ∀ uid, label.2 = .suspendContinuousAudioTask uid → ∀ key record,
      s.taskAt key = some record → SuspendedInStandby uid s record → unheard (undetected record)) :
    Effect unheard s label.2 (s.taskStep label) :=
  (taskStep_stepEffect label heard).effect

end Effects

/-! ## Restoration -/

theorem traces_checkRestored (env : Env) (allProcesses : List Int) {s : BgContinuousTaskMgr}
    {key : String} {record : ContinuousTaskRecord} (found : s.taskAt key = some record) :
    Traces s (checkRestored env allProcesses key record s) ∧
      (checkRestored env allProcesses key record s).continuousTaskIdIndex =
        s.continuousTaskIdIndex := by
  unfold checkRestored
  split
  · have cancelled := quiet_cancelNotification (s.eraseRecord key) env record
    exact ⟨traces_eraseRecord.trans cancelled.traces, cancelled.continuousTaskIdIndex⟩
  split
  · exact ⟨Traces.refl s, rfl⟩
  · have cached := quiet_setCachedBundleInfo s env record
    have sent : Edits (fun _ => True) (fun _ => True) (s.setCachedBundleInfo env record)
        ((s.setCachedBundleInfo env record).setSent key
          ((s.setCachedBundleInfo env record).handleActiveNotification env record)) :=
      edits_setSent ((cached.taskAt key).trans found) trivial
        (edited_handleActiveNotification env _ record)
    exact ⟨cached.traces.trans (Edits.traces sent),
      (Edits.continuousTaskIdIndex sent).trans cached.continuousTaskIdIndex⟩

theorem traces_forEachTask_checkRestored (env : Env) (allProcesses : List Int)
    (s : BgContinuousTaskMgr) :
    Traces s (s.forEachTask (checkRestored env allProcesses)) ∧
      (s.forEachTask (checkRestored env allProcesses)).continuousTaskIdIndex =
        s.continuousTaskIdIndex := by
  have step : ∀ key record current, current.taskAt key = some record →
      (Traces s current ∧ current.continuousTaskIdIndex = s.continuousTaskIdIndex) →
      Traces s (checkRestored env allProcesses key record current) ∧
        (checkRestored env allProcesses key record current).continuousTaskIdIndex =
          s.continuousTaskIdIndex := by
    intro key record current found early
    obtain ⟨traces, counter⟩ := traces_checkRestored env allProcesses found
    exact ⟨early.1.trans traces, counter.trans early.2⟩
  exact KeyedMap.forEach_invariant step s ⟨Traces.refl s, rfl⟩

theorem quiet_restoreApplyRecord (s : BgContinuousTaskMgr) (env : Env) :
    Quiet s (s.restoreApplyRecord env) := by
  unfold restoreApplyRecord
  split
  · exact Quiet.of_eq rfl rfl rfl rfl rfl rfl
  · exact Quiet.of_eq rfl rfl rfl rfl rfl rfl

theorem quiet_restoreAuthRecord (s : BgContinuousTaskMgr) (env : Env) :
    Quiet s (s.restoreAuthRecord env) :=
  Quiet.of_ite (Quiet.refl s) (Quiet.of_eq rfl rfl rfl rfl rfl rfl)

theorem traces_afterCheck (s : BgContinuousTaskMgr) (env : Env) :
    Traces s ((((s.saveTasks env).restoreApplyRecord env).restoreAuthRecord env).refreshAuthRecord
      env) ∧
      ((((s.saveTasks env).restoreApplyRecord env).restoreAuthRecord env).refreshAuthRecord
        env).continuousTaskIdIndex = s.continuousTaskIdIndex := by
  have saved := quiet_saveTasks s env
  have applied := quiet_restoreApplyRecord (s.saveTasks env) env
  have authorised := quiet_restoreAuthRecord ((s.saveTasks env).restoreApplyRecord env) env
  have refreshed := quiet_refreshAuthRecord
    (((s.saveTasks env).restoreApplyRecord env).restoreAuthRecord env) env
  exact ⟨((saved.traces.trans applied.traces).trans authorised.traces).trans refreshed.traces,
    refreshed.continuousTaskIdIndex.trans (authorised.continuousTaskIdIndex.trans
      (applied.continuousTaskIdIndex.trans saved.continuousTaskIdIndex))⟩

/-- The tasks after an initialisation are those that the restoration yields, or fewer. -/
theorem traces_initRequiredResourceInfo (s : BgContinuousTaskMgr) (env : Env) :
    Traces (s.restoreTaskRecord env) (s.initRequiredResourceInfo env) := by
  let prompted := { s with
    texts := getNotificationPrompt env.resourceString
      { s.texts with modeForNotificationText := initNotificationText } }
  have restored : Traces (s.restoreTaskRecord env) (prompted.restoreTaskRecord env) := by
    unfold restoreTaskRecord
    split
    · exact Traces.of_eq rfl rfl
    · exact Traces.of_eq rfl rfl
  have persisted : Traces (prompted.restoreTaskRecord env)
      (prompted.handlePersistenceData env) := by
    unfold handlePersistenceData
    dsimp only
    split
    · exact Traces.refl _
    · rename_i allProcesses _
      have looped := (traces_forEachTask_checkRestored env allProcesses
        (prompted.restoreTaskRecord env)).1
      have checked : Traces (prompted.restoreTaskRecord env)
          ((prompted.restoreTaskRecord env).checkPersistenceData env allProcesses) :=
        ⟨looped.origin, looped.file⟩
      exact checked.trans (traces_afterCheck
        ((prompted.restoreTaskRecord env).checkPersistenceData env allProcesses) env).1
  exact restored.trans (persisted.trans (Traces.of_eq rfl rfl))

end BgTaskMgr.Continuous
