import BgTaskMgr.Continuous.Sending
import BgTaskMgr.Continuous.Stopping

/-!
# Operations that publish

The starts, the updates, AVSession, the end of a live view, detection and reactivation,
each by the publications it makes.
-/

set_option autoImplicit false

namespace BgTaskMgr.Continuous

open BgContinuousTaskMgr

/-! ## Start -/

section Start

variable {s after : BgContinuousTaskMgr} {env : Env} {record : ContinuousTaskRecord}

def mergeTarget (s : BgContinuousTaskMgr) (record : ContinuousTaskRecord) :
    Option (String × ContinuousTaskRecord) :=
  s.findTask (fun _ task => task.uid == record.uid &&
    task.continuousTaskId == record.combinedNotificationTaskId)

def agreeToShare (record task : ContinuousTaskRecord) : Bool :=
  record.isByRequestObject && record.isCombinedTaskNotification &&
    !checkExistMode record.bgModeIds BackgroundMode.dataTransfer &&
    !checkExistMode record.bgModeIds BackgroundMode.specialScenarioProcessing &&
    record.combinedNotificationTaskId != -1 && task.isCombinedTaskNotification &&
    task.notificationId != -1 && checkModesSame task.bgModeIds record.bgModeIds &&
    checkModesSame task.bgSubModeIds record.bgSubModeIds

/-- A new task either stays as it is, or shares the notification of another one. -/
theorem checkCombinedTaskNotification_cases (s : BgContinuousTaskMgr)
    (record : ContinuousTaskRecord) :
    ((s.checkCombinedTaskNotification record).mgr = s ∧
        (s.checkCombinedTaskNotification record).record = record ∧
        (s.checkCombinedTaskNotification record).sendNotification = true) ∨
      ∃ key task, mergeTarget s record = some (key, task) ∧ agreeToShare record task = true ∧
        (s.checkCombinedTaskNotification record).sendNotification = false ∧
        (s.checkCombinedTaskNotification record).record =
          { record with
            notificationId := task.notificationId
            notificationLabel := task.notificationLabel } ∧
        Unnoticed s (s.checkCombinedTaskNotification record).mgr := by
  unfold checkCombinedTaskNotification
  dsimp only
  split
  · exact Or.inl ⟨rfl, rfl, rfl⟩
  rename_i request
  split
  · exact Or.inl ⟨rfl, rfl, rfl⟩
  rename_i noTransfer
  split
  · exact Or.inl ⟨rfl, rfl, rfl⟩
  rename_i noSpecial
  split
  · exact Or.inl ⟨rfl, rfl, rfl⟩
  rename_i targeted
  split
  · exact Or.inl ⟨rfl, rfl, rfl⟩
  rename_i combined
  unfold determineMatchCombinedTaskNotifacation
  dsimp only
  split
  · exact Or.inl ⟨rfl, rfl, rfl⟩
  rename_i key task search
  obtain ⟨found, matched⟩ := taskAt_of_findTask s key task search
  split
  · exact Or.inl ⟨rfl, rfl, rfl⟩
  rename_i taskCombined
  split
  · exact Or.inl ⟨rfl, rfl, rfl⟩
  rename_i given
  split
  · exact Or.inl ⟨rfl, rfl, rfl⟩
  rename_i sameModes
  split
  · exact Or.inl ⟨rfl, rfl, rfl⟩
  · rename_i sameSubModes
    have agreed : agreeToShare record task = true := by
      simp_all [agreeToShare]
    refine Or.inr ⟨key, task, search, agreed, rfl, rfl, ?_⟩
    exact unnoticed_setRecord found ⟨⟨⟨rfl, rfl, rfl, rfl, rfl, rfl⟩, rfl⟩, rfl, rfl⟩

inductive StartOutcome (s : BgContinuousTaskMgr) (record : ContinuousTaskRecord)
    (after : BgContinuousTaskMgr) : Prop where
  | refused (same : Unnoticed s after)
  | unsent {ready : BgContinuousTaskMgr} {sent : Sent} {kind : SendKind}
      (same : Unnoticed s ready) (outcome : SendOutcome ready.tools record sent kind)
      (failed : sent.ret ≠ .ok) (eq : after = ready.setTools sent.tools)
  | started {ready : BgContinuousTaskMgr} {key : String} {sent : Sent} {kind : SendKind}
      (same : Unnoticed s ready) (free : ready.taskAt key = none)
      (outcome : SendOutcome ready.tools record sent kind)
      (saved : Undisturbed ((ready.setTools sent.tools).addTask key sent.record) after)
      (ret : sent.ret = .ok)
  | merged {ready : BgContinuousTaskMgr} {key taskKey : String} {task : ContinuousTaskRecord}
      (same : Unnoticed s ready) (free : ready.taskAt key = none)
      (target : mergeTarget s record = some (taskKey, task))
      (agreed : agreeToShare record task = true)
      (saved : Undisturbed (ready.addTask key
        { record with
          notificationId := task.notificationId
          notificationLabel := task.notificationLabel }) after)

/-- Only the cache of bundles changes before a start, so the target is the same. -/
theorem mergeTarget_congr (map : after.continuousTaskInfosMap = s.continuousTaskInfosMap)
    (record : ContinuousTaskRecord) : mergeTarget after record = mergeTarget s record := by
  unfold mergeTarget findTask
  rw [map]

theorem outcome_startBackgroundRunningSubmit (succeed : env.NotificationsSucceed)
    (numbered : Numbered s) (fresh : Fresh record) {key : String} (free : s.taskAt key = none) :
    StartOutcome s record (s.startBackgroundRunningSubmit env record key).2 := by
  have valid : s.tools.chosenId record.notificationId ≠ -1 := by
    have counter := numbered.counter
    unfold NotificationTools.chosenId
    rw [if_pos fresh.notificationId]
    omega
  unfold startBackgroundRunningSubmit
  dsimp only
  split
  · exact .refused (Unnoticed.refl s)
  rcases checkCombinedTaskNotification_cases s record with
    ⟨sameMgr, sameRecord, sends⟩ | ⟨taskKey, task, target, agreed, shares, sameRecord, same⟩
  · split
    · rw [sameMgr]
      exact .refused (Unnoticed.refl s)
    have outcome : ∃ kind, SendOutcome s.tools record
        (sendStartNotification env (s.checkCombinedTaskNotification record)) kind := by
      unfold sendStartNotification
      rw [sameMgr, sameRecord, sends]
      split
      · exact ⟨_, outcome_sendByModes succeed s record valid⟩
      · exact ⟨.keeps, .of_tools (SameNotices.refl record) rfl⟩
    obtain ⟨kind, outcome⟩ := outcome
    rw [sameMgr]
    split
    · rename_i failed
      exact .unsent (Unnoticed.refl s) outcome failed rfl
    · rename_i sends
      exact .started (Unnoticed.refl s) free outcome (undisturbed_saveTasks _ env)
        (not_not.mp sends)
  · have sent : sendStartNotification env (s.checkCombinedTaskNotification record) =
        ⟨.ok, (s.checkCombinedTaskNotification record).record,
          (s.checkCombinedTaskNotification record).mgr.tools⟩ := by
      unfold sendStartNotification
      rw [shares, Bool.and_false]
      rfl
    split
    · exact .refused same
    rw [sent, if_neg (by simp), sameRecord]
    refine .merged same ?_ target agreed (undisturbed_saveTasks _ env)
    refine Option.eq_none_iff_forall_ne_some.mpr ?_
    intro old found
    obtain ⟨older, stored, -⟩ := same.backward key old found
    exact absurd (free.symm.trans stored) (by simp)

theorem StartOutcome.of_same {ready : BgContinuousTaskMgr} (same : Unnoticed s ready)
    (map : ready.continuousTaskInfosMap = s.continuousTaskInfosMap)
    (outcome : StartOutcome ready record after) : StartOutcome s record after := by
  cases outcome with
  | refused later => exact .refused (same.trans later)
  | unsent later outcome failed eq => exact .unsent (same.trans later) outcome failed eq
  | started later free outcome saved ret =>
      exact .started (same.trans later) free outcome saved ret
  | merged later free target agreed saved =>
      exact .merged (same.trans later) free ((mergeTarget_congr map record).symm.trans target)
        agreed saved

theorem outcome_startBackgroundRunningInner (succeed : env.NotificationsSucceed)
    (numbered : Numbered s) (fresh : Fresh record) :
    StartOutcome s { record with continuousTaskId := s.continuousTaskIdIndex + 1 }
      (s.startBackgroundRunningInner env record).2 := by
  have counted : Unnoticed s s.nextTaskId := unnoticed_of_fields rfl rfl
  have cached : ∀ task, (s.nextTaskId.setCachedBundleInfo env task).continuousTaskInfosMap =
      s.continuousTaskInfosMap ∧
        (s.nextTaskId.setCachedBundleInfo env task).tools = s.tools := by
    intro task
    unfold setCachedBundleInfo
    split
    · exact ⟨rfl, rfl⟩
    · split
      · exact ⟨rfl, rfl⟩
      · exact ⟨rfl, rfl⟩
  have numberedFresh : Fresh { record with continuousTaskId := s.continuousTaskIdIndex + 1 } :=
    ⟨fresh.suspendState, fresh.notificationId, fresh.subNotificationId⟩
  unfold startBackgroundRunningInner
  split
  · exact .refused (Unnoticed.refl s)
  split
  · exact .refused (Unnoticed.refl s)
  unfold startNumbered
  dsimp only
  split
  · exact .refused counted
  split
  · rw [if_neg (by simp [fresh.suspendState])]
    exact .refused counted
  rename_i absent
  have free : s.taskAt (taskInfoMapKey { record with
      continuousTaskId := s.continuousTaskIdIndex + 1 }) = none :=
    Option.not_isSome_iff_eq_none.mp absent
  split
  · obtain ⟨map, tools⟩ := cached { record with continuousTaskId := s.continuousTaskIdIndex + 1 }
    have same := unnoticed_of_fields map tools
    refine StartOutcome.of_same same map (outcome_startBackgroundRunningSubmit succeed
      (numbered.unnoticed same) numberedFresh ?_)
    rw [BgContinuousTaskMgr.taskAt, map]
    exact free
  · exact StartOutcome.of_same counted rfl (outcome_startBackgroundRunningSubmit succeed
      (numbered.unnoticed counted) numberedFresh free)

theorem numbered_of_startOutcome (numbered : Numbered s) (fresh : Fresh record)
    (outcome : StartOutcome s record after) : Numbered after := by
  have labelled : ∀ {tools : NotificationTools}, -1 ≤ tools.notificationIdIndex →
      Labelled tools record :=
    fun counter => labelled_fresh counter fresh.notificationId fresh.subNotificationId
  cases outcome with
  | refused same => exact numbered.unnoticed same
  | unsent same outcome failed eq =>
      have ready := numbered.unnoticed same
      rw [eq]
      exact ready.setTools (labelled ready.counter) outcome
  | started same free outcome saved =>
      have ready := numbered.unnoticed same
      have sent := ready.setTools (labelled ready.counter) outcome
      exact (sent.addTask (outcome.labelled (labelled ready.counter) ready.counter)).unnoticed
        saved.unnoticed
  | @merged ready key taskKey task same free target agreed saved =>
      -- the notification is that of a task of the same app
      obtain ⟨found, matched⟩ := taskAt_of_findTask s taskKey task target
      have owner : task.uid = record.uid := by
        simp only [Bool.and_eq_true, beq_iff_eq] at matched
        exact matched.1
      have main := (numbered.labelled taskKey task found).toMainLabelled.mono
        same.notificationIdIndex
      have later := numbered.unnoticed same
      have fields : Labelled ready.tools
          { record with
            notificationId := task.notificationId
            notificationLabel := task.notificationLabel } :=
        ⟨⟨fun given => owner ▸ main.ownMain given, main.mainForm, main.mainId⟩,
          ⟨fun given => absurd fresh.subNotificationId given, (labelled later.counter).subId⟩⟩
      exact (later.addTask fields).unnoticed saved.unnoticed

end Start

end BgTaskMgr.Continuous
