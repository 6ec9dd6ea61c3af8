import BgTaskMgr.Continuous.FileChanges
import BgTaskMgr.Continuous.Deletion

/-!
# Exits that leave a change unsaved

An update changes the record first, and returns without saving when its notification cannot be
shown; one that is refused may have dropped the sub-modes by then.  The deletion of a
notification gives the named task its reason first, and returns when that task has no main
notification.  Each condition here says that its operation does not take such an exit with a
change of a written field.
-/

set_option autoImplicit false

namespace BgTaskMgr.Continuous

open BgContinuousTaskMgr

/-! ## Notifications that can be shown -/

/-- The notification of a task can be sent: the texts and the name of the app are there, and
what is published is accepted. -/
def CanSend (env : Env) (record : ContinuousTaskRecord) (s : BgContinuousTaskMgr) : Prop :=
  s.texts.continuousTaskText ≠ [] ∧ s.cachedAppName record.uid ≠ "" ∧
    (s.checkNotificationText env record).ret = .ok ∧
    (sendKind env s record = .publishes →
      env.publishOk (createNotificationLabel s.tools.hash record)
        (s.tools.chosenId record.notificationId) = true)

instance CanSend.decidable (env : Env) (record : ContinuousTaskRecord) (s : BgContinuousTaskMgr) :
    Decidable (CanSend env record s) :=
  inferInstanceAs (Decidable (_ ∧ _))

def CanRefresh (env : Env) (label : String) (s : BgContinuousTaskMgr) : Prop :=
  env.getActiveOk = true ∧ ∀ notification ∈ s.tools.published, notification.label = label →
    env.republishOk notification.label notification.id = true

instance CanRefresh.decidable (env : Env) (label : String) (s : BgContinuousTaskMgr) :
    Decidable (CanRefresh env label s) :=
  inferInstanceAs (Decidable (_ ∧ _))

def noted (env : Env) (record : ContinuousTaskRecord) (s : BgContinuousTaskMgr) :
    ContinuousTaskRecord :=
  (s.checkNotificationText env record).note record

section Showing

variable {env : Env} {s : BgContinuousTaskMgr} {record : ContinuousTaskRecord}

theorem checkNotificationText_note (prompt : Prompt) :
    s.checkNotificationText env (prompt.note record) = s.checkNotificationText env record := by
  unfold Prompt.note
  split
  · rfl
  · rfl

theorem noted_noted : noted env (noted env record s) s = noted env record s := by
  unfold noted
  rw [checkNotificationText_note]
  unfold Prompt.note
  split
  · rfl
  · rfl

theorem persisted_of_noted {updated : ContinuousTaskRecord}
    (same : (noted env updated s).persisted = record.persisted)
    (play : updated.audioPlayState = record.audioPlayState) :
    updated.persisted = record.persisted := by
  unfold noted Prompt.note at same
  split at same
  · have silent : record.audioPlayState = false :=
      (congrArg ContinuousTaskRecord.audioPlayState same).symm
    have unchanged : { updated with audioPlayState := false } = updated := by
      rw [← silent, ← play]
    rwa [unchanged] at same
  · exact same

theorem createNotificationLabel_note (hash : String → Nat) (prompt : Prompt) :
    createNotificationLabel hash (prompt.note record) = createNotificationLabel hash record := by
  unfold Prompt.note
  split
  · rfl
  · rfl

theorem notificationId_note (prompt : Prompt) :
    (prompt.note record).notificationId = record.notificationId := by
  unfold Prompt.note
  split
  · rfl
  · rfl

theorem mainPair_note (prompt : Prompt) : (prompt.note record).mainPair = record.mainPair := by
  unfold Prompt.note
  split
  · rfl
  · rfl

theorem sendContinuousTaskNotification_ret (can : CanSend env record s) :
    (s.sendContinuousTaskNotification env record).ret = .ok := by
  obtain ⟨texts, appName, prompt, accepted⟩ := can
  unfold sendContinuousTaskNotification
  dsimp only
  rw [if_neg texts, if_neg appName, if_neg (by simp [prompt])]
  split
  · split
    · rfl
    · rfl
  rename_i filled
  split
  · rfl
  rename_i plain
  have publishes : sendKind env s record = .publishes := by
    unfold sendKind
    dsimp only
    rw [if_neg (by simp [texts, appName, prompt]), if_neg filled, if_neg plain]
  have published := accepted publishes
  unfold NotificationTools.publishNotification
  dsimp only
  rw [createNotificationLabel_note, notificationId_note, if_pos published]

theorem canSend_iff : CanSend env record s ↔
    (s.sendContinuousTaskNotification env record).ret = .ok := by
  refine ⟨sendContinuousTaskNotification_ret, ?_⟩
  intro sent
  unfold sendContinuousTaskNotification at sent
  dsimp only at sent
  split at sent
  · exact absurd sent (by simp)
  rename_i texts
  split at sent
  · exact absurd sent (by simp)
  rename_i appName
  split at sent
  · rename_i refused
    exact absurd sent refused
  rename_i prompt
  refine ⟨texts, appName, not_not.mp prompt, ?_⟩
  intro publishes
  have filled : ¬ (s.checkNotificationText env record).text = "" := by
    intro empty
    unfold sendKind at publishes
    dsimp only at publishes
    rw [if_neg (by simp_all), if_pos empty] at publishes
    split at publishes
    · exact absurd publishes (by simp)
    · exact absurd publishes (by simp)
  have plain : ¬ s.shownByAvsession record = true := by
    intro shown
    unfold sendKind at publishes
    dsimp only at publishes
    rw [if_neg (by simp_all), if_neg filled, if_pos shown] at publishes
    exact absurd publishes (by simp)
  rw [if_neg filled, if_neg plain] at sent
  unfold NotificationTools.publishNotification at sent
  dsimp only at sent
  rw [createNotificationLabel_note, notificationId_note] at sent
  split at sent
  · rename_i accepted
    exact accepted
  · exact absurd sent (by simp)

/-- A notification that could not be sent leaves the record, or the record with its play
state. -/
theorem sendContinuousTaskNotification_failed :
    (s.sendContinuousTaskNotification env record).ret = .ok ∨
      (s.sendContinuousTaskNotification env record).record = record ∨
      (s.sendContinuousTaskNotification env record).record = noted env record s := by
  unfold sendContinuousTaskNotification
  dsimp only
  split
  · exact Or.inr (Or.inl rfl)
  split
  · exact Or.inr (Or.inl rfl)
  split
  · exact Or.inr (Or.inr rfl)
  split
  · split
    · exact Or.inl rfl
    · exact Or.inl rfl
  split
  · exact Or.inl rfl
  · unfold NotificationTools.publishNotification
    dsimp only
    split
    · exact Or.inl rfl
    · exact Or.inr (Or.inr rfl)

theorem refreshWantAndContext_ret (label title text : String) (wantAgent : Option WantAgent)
    (updateContent : Bool) {published : List Notification}
    (accepted : ∀ notification ∈ published, notification.label = label →
      env.republishOk notification.label notification.id = true) :
    (NotificationTools.refreshWantAndContext env.toNotificationEnv [(label, title, text)] wantAgent
      updateContent published).1 = .ok := by
  induction published with
  | nil => rfl
  | cons notification rest ih =>
      have later := ih (fun other member => accepted other (List.mem_cons_of_mem _ member))
      unfold NotificationTools.refreshWantAndContext
      split
      · exact later
      · rename_i named
        have same : notification.label = label := by
          by_contra different
          have absent : List.lookup notification.label [(label, title, text)] = none := by
            have unequal : (notification.label == label) = false := by simpa using different
            simp [List.lookup, unequal]
          exact absurd (absent.symm.trans named) (by simp)
        rw [if_pos (accepted notification List.mem_cons_self same)]
        exact later

theorem refreshWantAndContext_accepted {label title text : String} {wantAgent : Option WantAgent}
    {updateContent : Bool} {published : List Notification}
    (renewed : (NotificationTools.refreshWantAndContext env.toNotificationEnv
      [(label, title, text)] wantAgent updateContent published).1 = .ok) :
    ∀ notification ∈ published, notification.label = label →
      env.republishOk notification.label notification.id = true := by
  induction published with
  | nil => simp
  | cons notification rest ih =>
      unfold NotificationTools.refreshWantAndContext at renewed
      intro other member same
      split at renewed
      · rename_i unnamed
        have different : notification.label ≠ label := by
          intro here
          simp [List.lookup, here] at unnamed
        rcases List.mem_cons.mp member with rfl | later
        · exact absurd same different
        · exact ih renewed other later same
      · split at renewed
        · rename_i accepted
          rcases List.mem_cons.mp member with rfl | later
          · exact accepted
          · exact ih renewed other later same
        · exact absurd renewed (by simp)

theorem refreshContinuousNotificationWantAndContext_ret {label : String}
    (can : CanRefresh env label s) (title text : String) (updateContent : Bool) :
    (s.tools.refreshContinuousNotificationWantAndContext env.toNotificationEnv
      [(label, title, text)] record updateContent).1 = .ok := by
  obtain ⟨active, accepted⟩ := can
  unfold NotificationTools.refreshContinuousNotificationWantAndContext
  rw [if_neg (by simp [active])]
  exact refreshWantAndContext_ret label title text record.wantAgent updateContent accepted

theorem canRefresh_iff {label title text : String} {updateContent : Bool} :
    CanRefresh env label s ↔
      (s.tools.refreshContinuousNotificationWantAndContext env.toNotificationEnv
        [(label, title, text)] record updateContent).1 = .ok := by
  refine ⟨fun can => refreshContinuousNotificationWantAndContext_ret can title text updateContent,
    ?_⟩
  intro renewed
  unfold NotificationTools.refreshContinuousNotificationWantAndContext at renewed
  split at renewed
  · exact absurd renewed (by simp)
  · rename_i active
    exact ⟨by simpa using active, refreshWantAndContext_accepted renewed⟩

end Showing

/-! ## Updates -/

def OwnUpdateShown (env : Env) (updated : ContinuousTaskRecord) (s : BgContinuousTaskMgr) : Prop :=
  (s.checkNotificationText env updated).text = "" ∨
    (updated.notificationId = -1 ∧ CanSend env (noted env updated s) s) ∨
    (updated.notificationId ≠ -1 ∧ CanRefresh env updated.notificationLabel s)

def UpdateShown (env : Env) (taskParam : ContinuousTaskParam) (record : ContinuousTaskRecord)
    (s : BgContinuousTaskMgr) : Prop :=
  (record.isCombinedTaskNotification = true →
    (checkModesSame record.bgModeIds taskParam.bgModeIds = true ∧
      CanRefresh env record.notificationLabel s) ∨
    (updatedTask taskParam record).persisted = record.persisted) ∧
  (record.isCombinedTaskNotification = false →
    OwnUpdateShown env (updatedTask taskParam record) s ∨
    (noted env (updatedTask taskParam record) s).persisted = record.persisted)

instance UpdateShown.decidable (env : Env) (taskParam : ContinuousTaskParam)
    (record : ContinuousTaskRecord) (s : BgContinuousTaskMgr) :
    Decidable (UpdateShown env taskParam record s) :=
  have : Decidable (OwnUpdateShown env (updatedTask taskParam record) s) :=
    inferInstanceAs (Decidable (_ ∨ _))
  inferInstanceAs (Decidable (_ ∧ _))

def TaskIdUpdateSaved (env : Env) (callingUid : Int) (taskParam : ContinuousTaskParam)
    (s : BgContinuousTaskMgr) : Prop :=
  ∀ found ∈ s.findTask (fun _ task => task.continuousTaskId == taskParam.updateTaskId &&
    task.isByRequestObject),
    callingUid ∉ s.disableRequestUidList → 0 ≤ taskParam.updateTaskId →
    checkBgmodeTypes env (s.getBackgroundModeInfo callingUid found.2.abilityName) true found.2
      taskParam.bgModeIds = .ok →
    (checkExistMode found.2.bgModeIds BackgroundMode.dataTransfer ||
      checkExistMode taskParam.bgModeIds BackgroundMode.dataTransfer) = false →
    taskParam.progressInfo.isSome = false →
    (checkExistMode found.2.bgModeIds BackgroundMode.specialScenarioProcessing &&
      taskParam.isCombinedTaskNotification) = false →
    env.mainAbilityLabel found.2.bundleName found.2.userId ≠ "" →
    UpdateShown env taskParam found.2 s

instance TaskIdUpdateSaved.decidable (env : Env) (callingUid : Int)
    (taskParam : ContinuousTaskParam) (s : BgContinuousTaskMgr) :
    Decidable (TaskIdUpdateSaved env callingUid taskParam s) :=
  inferInstanceAs (Decidable (∀ found ∈ s.findTask _, _))

/-- An update by ability that names other modes passes and is shown, unless it stays with a
data transfer; one that is refused found no sub-modes to drop. -/
def AbilityUpdateSaved (env : Env) (key : String) (taskParam : ContinuousTaskParam)
    (s : BgContinuousTaskMgr) : Prop :=
  ∀ record ∈ s.taskAt key, record.uid ∉ s.disableRequestUidList →
    checkModesSame record.bgModeIds taskParam.bgModeIds = false →
    (checkBgmodeTypes env (s.getBackgroundModeInfo record.uid record.abilityName) true
      (dropSubModes taskParam record) taskParam.bgModeIds ≠ .ok →
        (dropSubModes taskParam record).persisted = record.persisted) ∧
    (checkBgmodeTypes env (s.getBackgroundModeInfo record.uid record.abilityName) true
      (dropSubModes taskParam record) taskParam.bgModeIds = .ok →
        (checkExistMode record.bgModeIds BackgroundMode.dataTransfer &&
          checkExistMode taskParam.bgModeIds BackgroundMode.dataTransfer) = true ∨
        CanSend env (withModes taskParam record) s)

instance AbilityUpdateSaved.decidable (env : Env) (key : String)
    (taskParam : ContinuousTaskParam) (s : BgContinuousTaskMgr) :
    Decidable (AbilityUpdateSaved env key taskParam s) :=
  inferInstanceAs (Decidable (∀ record ∈ s.taskAt key, _))

def ProgressSaved (env : Env) (callingUid : Int) (progress : DataTransferProgress)
    (s : BgContinuousTaskMgr) : Prop :=
  ∀ found ∈ s.findTask (fun _ task =>
    task.continuousTaskId == progress.continuousTaskId && task.uid == callingUid),
    0 ≤ progress.continuousTaskId → progress.progressInfo.isNone = false →
    checkExistMode found.2.bgModeIds BackgroundMode.dataTransfer = true →
    CanSend env (withProgress progress found.2) s ∨
      (noted env (withProgress progress found.2) s).persisted = found.2.persisted

instance ProgressSaved.decidable (env : Env) (callingUid : Int)
    (progress : DataTransferProgress) (s : BgContinuousTaskMgr) :
    Decidable (ProgressSaved env callingUid progress s) :=
  inferInstanceAs (Decidable (∀ found ∈ s.findTask _, _))

section Updates

variable {env : Env} (saves : env.saveOk = true) {s : BgContinuousTaskMgr} {key : String}
  {record : ContinuousTaskRecord}

theorem exists_setRecord {other : String} (present : ∃ stored, s.taskAt key = some stored)
    (edited : ContinuousTaskRecord) :
    ∃ stored, (s.setRecord other edited).taskAt key = some stored := by
  obtain ⟨stored, found⟩ := present
  rw [taskAt_setRecord, found]
  split
  · exact ⟨edited, rfl⟩
  · exact ⟨stored, rfl⟩

theorem exists_saveTasks (present : ∃ stored, s.taskAt key = some stored) :
    ∃ stored, (s.saveTasks env).taskAt key = some stored := by
  rw [(quiet_saveTasks s env).taskAt]
  exact present

theorem exists_handleActiveContinuousTask (present : ∃ stored, s.taskAt key = some stored)
    (uid : Int) : ∃ stored, (s.handleActiveContinuousTask env uid).taskAt key = some stored := by
  have step : ∀ other record (loop : ActiveLoop), loop.mgr.taskAt other = some record →
      (∃ stored, loop.mgr.taskAt key = some stored) →
      ∃ stored, (activateTask env uid other record loop).mgr.taskAt key = some stored := by
    intro other record loop _ early
    have told : ∃ stored, ((loop.mgr.setRecord other (reactivated record)).onContinuousTaskChanged
        (reactivated record) .taskActive).taskAt key = some stored :=
      exists_setRecord early (reactivated record)
    unfold activateTask
    dsimp only
    split
    · exact early
    split
    · exact exists_saveTasks told
    split
    · refine exists_saveTasks ?_
      unfold setSent
      exact exists_setRecord told _
    · exact exists_saveTasks (exists_setRecord told _)
  exact KeyedMap.forEach_invariant step { mgr := s } present

include saves

theorem fileFollows_finishUpdate (present : ∃ stored, s.taskAt key = some stored) :
    (s.finishUpdate env key).2.FileFollows := by
  unfold finishUpdate
  split
  · rename_i missing
    obtain ⟨stored, found⟩ := present
    have absent : s.taskAt key = none := missing
    exact absurd (absent.symm.trans found) (by simp)
  rename_i record _
  have active : ∃ stored, (if record.suspendState then
      s.handleActiveContinuousTask env record.uid else s).taskAt key = some stored := by
    split
    · exact exists_handleActiveContinuousTask present record.uid
    · exact present
  dsimp only
  split
  · rename_i missing
    obtain ⟨stored, found⟩ := active
    have absent : (if record.suspendState then
      s.handleActiveContinuousTask env record.uid else s).taskAt key = none := missing
    exact absurd (absent.symm.trans found) (by simp)
  · exact BgContinuousTaskMgr.FileFollows.save saves _

omit saves in
/-- The notification of an updated task is shown, or no written field differs from those of
the record that the file has. -/
theorem updateOwnNotification_saved (follows : s.FileFollows) {updated : ContinuousTaskRecord}
    (found : s.taskAt key = some record)
    (shown : OwnUpdateShown env updated s ∨
      (noted env updated s).persisted = record.persisted) :
    (∃ stored, ((s.setRecord key updated).updateOwnNotification env key updated).2.taskAt key =
      some stored) ∧
    (((s.setRecord key updated).updateOwnNotification env key updated).1 = .ok ∨
      ((s.setRecord key updated).updateOwnNotification env key updated).2.FileFollows) := by
  have present : ∃ stored, (s.setRecord key updated).taskAt key = some stored :=
    ⟨updated, taskAt_setRecord_self s key updated found⟩
  have text : (s.setRecord key updated).checkNotificationText env updated =
      s.checkNotificationText env updated := rfl
  have notes : (s.checkNotificationText env updated).note updated = noted env updated s := rfl
  unfold updateOwnNotification
  dsimp only
  rw [text, notes]
  split
  · exact ⟨exists_setRecord present _, Or.inl rfl⟩
  rename_i filled
  split
  · rename_i none
    refine ⟨exists_setRecord present _, ?_⟩
    rcases shown with (empty | ⟨-, can⟩ | ⟨some, -⟩) | same
    · exact absurd empty filled
    · have can' : CanSend env (noted env updated s) (s.setRecord key updated) := can
      exact Or.inl (sendContinuousTaskNotification_ret can')
    · exact absurd none some
    · have again : noted env (noted env updated s) (s.setRecord key updated) =
          noted env updated s := noted_noted (s := s)
      rcases @sendContinuousTaskNotification_failed env (s.setRecord key updated)
        (noted env updated s) with sent | left | left
      · exact Or.inl sent
      · refine Or.inr (follows.editTwice found ?_ _)
        rw [left, same]
      · refine Or.inr (follows.editTwice found ?_ _)
        rw [left, again, same]
  · rename_i some
    refine ⟨exists_setRecord present _, ?_⟩
    rcases shown with (empty | ⟨none, -⟩ | ⟨-, can⟩) | same
    · exact absurd empty filled
    · exact absurd none some
    · have can' : CanRefresh env updated.notificationLabel (s.setRecord key updated) := can
      exact Or.inl (refreshContinuousNotificationWantAndContext_ret can' _ _ true)
    · exact Or.inr (follows.editTwice found same _)

omit saves in
theorem updateTaskNotification_saved (follows : s.FileFollows) (taskParam : ContinuousTaskParam)
    (found : s.taskAt key = some record)
    (shown : env.mainAbilityLabel record.bundleName record.userId ≠ "" →
      UpdateShown env taskParam record s) :
    (∃ stored, (s.updateTaskNotification env taskParam key record).2.taskAt key = some stored) ∧
    ((s.updateTaskNotification env taskParam key record).1 = .ok ∨
      (s.updateTaskNotification env taskParam key record).2.FileFollows) := by
  have present : ∃ stored, (s.setRecord key (updatedTask taskParam record)).taskAt key =
      some stored := ⟨_, taskAt_setRecord_self s key _ found⟩
  unfold updateTaskNotification
  dsimp only
  split
  · exact ⟨⟨record, found⟩, Or.inr follows⟩
  rename_i labelled
  obtain ⟨merged, own⟩ := shown labelled
  split
  · rename_i single
    exact updateOwnNotification_saved follows found (own (by simpa using single))
  rename_i combined
  have offered := merged (by simpa using combined)
  split
  · refine ⟨present, ?_⟩
    rcases offered with ⟨-, can⟩ | same
    · exact Or.inl (refreshContinuousNotificationWantAndContext_ret can _ _ false)
    · exact Or.inr ((follows.edit found same).of_eq rfl rfl)
  · rename_i different
    refine ⟨present, ?_⟩
    rcases offered with ⟨modes, -⟩ | same
    · exact absurd modes different
    · exact Or.inr (follows.edit found same)

theorem fileFollows_updateBackgroundRunningByTaskIdInner (follows : s.FileFollows)
    (callingUid : Int) (taskParam : ContinuousTaskParam)
    (saved : TaskIdUpdateSaved env callingUid taskParam s) :
    (s.updateBackgroundRunningByTaskIdInner env callingUid taskParam).2.FileFollows := by
  unfold updateBackgroundRunningByTaskIdInner
  split
  · exact follows
  rename_i enabled
  split
  · exact follows
  rename_i valid
  split
  · exact follows
  rename_i key record search
  have found := (taskAt_of_findTask s key record search).1
  dsimp only
  split
  · exact follows
  rename_i modes
  split
  · exact follows
  rename_i plain
  split
  · exact follows
  rename_i progress
  split
  · exact follows
  rename_i special
  have shown := saved (key, record) search enabled (by omega) (by simpa using modes)
    (by simpa using plain) (by simpa using progress) (by simpa using special)
  obtain ⟨present, outcome⟩ := updateTaskNotification_saved follows taskParam found shown
  unfold updateTaskInfo
  dsimp only
  split
  · rename_i failed
    exact outcome.resolve_left failed
  · exact fileFollows_finishUpdate saves present

theorem fileFollows_updateBackgroundRunningInner (follows : s.FileFollows)
    (taskParam : ContinuousTaskParam) (saved : AbilityUpdateSaved env key taskParam s) :
    (s.updateBackgroundRunningInner env key taskParam).2.FileFollows := by
  unfold updateBackgroundRunningInner
  split
  · exact follows
  rename_i record lookup
  have found : s.taskAt key = some record := lookup
  have present : ∃ stored, (s.setRecord key (withModes taskParam record)).taskAt key =
      some stored := ⟨_, taskAt_setRecord_self s key _ found⟩
  dsimp only
  split
  · exact follows
  rename_i enabled
  split
  · exact follows
  rename_i other
  obtain ⟨refused, accepted⟩ := saved record found enabled (by simpa using other)
  split
  · rename_i modes
    exact follows.edit found (refused modes)
  rename_i modes
  split
  · exact fileFollows_finishUpdate saves present
  rename_i plain
  split
  · rename_i failed
    rcases accepted (by simpa using modes) with transfer | can
    · exact absurd transfer plain
    · have can' : CanSend env (withModes taskParam record)
          (s.setRecord key (withModes taskParam record)) := can
      exact absurd (sendContinuousTaskNotification_ret can') failed
  · exact fileFollows_finishUpdate saves (exists_setRecord present _)

theorem fileFollows_updateDataTransferProgressInner (follows : s.FileFollows) (callingUid : Int)
    (progress : DataTransferProgress) (saved : ProgressSaved env callingUid progress s) :
    (s.updateDataTransferProgressInner env callingUid progress).2.FileFollows := by
  unfold updateDataTransferProgressInner
  split
  · exact follows
  rename_i valid
  split
  · exact follows
  rename_i given
  split
  · exact follows
  rename_i key record search
  have found := (taskAt_of_findTask s key record search).1
  let updated := withProgress progress record
  dsimp only
  split
  · exact follows
  rename_i transfer
  split
  · rename_i failed
    have offered := saved (key, record) search (by omega)
      (Bool.eq_false_iff.mpr given) (by simpa using transfer)
    rcases offered with can | same
    · have can' : CanSend env updated (s.setRecord key updated) := can
      exact absurd (sendContinuousTaskNotification_ret can') failed
    · rcases @sendContinuousTaskNotification_failed env (s.setRecord key updated)
        updated with sent | left | left
      · exact absurd sent failed
      · refine follows.editTwice found ?_ _
        rw [left]
        exact persisted_of_noted same rfl
      · refine follows.editTwice found ?_ _
        rw [left]
        exact same
  · exact BgContinuousTaskMgr.FileFollows.save saves _

end Updates

/-! ## Deleted notifications -/

def deletionDetail (deleteReason : DeleteReason) : Int :=
  if deleteReason = .notUpdated then ContinuousTaskCancelReason.systemCancelDataTransferNotUpdate
  else ContinuousTaskCancelReason.userCancelRemoveNotification

/-- The task that the label of a deleted notification names has a main notification, so that
it ends, or it has the reason already. -/
def DeletionSaved (pair : String × Int) (deleteReason : DeleteReason) (s : BgContinuousTaskMgr) :
    Prop :=
  deleteReason ≠ .appCancel → s.isSysReady = true → ∀ key ∈ namedKey pair s,
    ∀ named ∈ s.taskAt key, named.notificationId ≠ -1 ∨
      named.detailedCancelReason = deletionDetail deleteReason

instance DeletionSaved.decidable (pair : String × Int) (deleteReason : DeleteReason)
    (s : BgContinuousTaskMgr) : Decidable (DeletionSaved pair deleteReason s) :=
  have (key : String) : Decidable (∀ named ∈ s.taskAt key, named.notificationId ≠ -1 ∨
      named.detailedCancelReason = deletionDetail deleteReason) :=
    inferInstanceAs (Decidable (∀ named ∈ s.taskAt key, _))
  have : Decidable (∀ key ∈ namedKey pair s, ∀ named ∈ s.taskAt key, named.notificationId ≠ -1 ∨
      named.detailedCancelReason = deletionDetail deleteReason) :=
    inferInstanceAs (Decidable (∀ key ∈ namedKey pair s, _))
  inferInstanceAs (Decidable (_ → _))

section Deletion

variable {env : Env} (saves : env.saveOk = true) {s : BgContinuousTaskMgr} {key : String}
  {record : ContinuousTaskRecord}

include saves

theorem fileFollows_endTasks_of_chosen {chosen : ContinuousTaskRecord → Bool}
    {mark : ContinuousTaskRecord → ContinuousTaskRecord}
    {cancel : ContinuousTaskRecord → BgContinuousTaskMgr → BgContinuousTaskMgr}
    (cancels : ∀ record, OnlyTools (cancel record)) (found : s.taskAt key = some record)
    (picked : chosen record = true) :
    (s.endTasks chosen mark cancel (stopAndSave env)).FileFollows := by
  have gone : (s.endTasks chosen mark cancel (stopAndSave env)).taskAt key = none := by
    rw [taskAt_endTasks cancels
      (fun record current => (undisturbed_stopAndSave current env record).taskAt), found]
    exact if_pos picked
  -- until the first task ends, the chosen one is still there
  have step : ∀ other stored current, current.taskAt other = some stored →
      (current.FileFollows ∨ current.taskAt key = some record) →
      ((if chosen stored then stopAndSave env stored (current.endTask mark cancel other stored)
        else current).FileFollows ∨
      (if chosen stored then stopAndSave env stored (current.endTask mark cancel other stored)
        else current).taskAt key = some record) := by
    intro other stored current _ early
    split
    · exact Or.inl (BgContinuousTaskMgr.FileFollows.stopAndSave saves _ _)
    · exact early
  have outcome : (s.endTasks chosen mark cancel (stopAndSave env)).FileFollows ∨
      (s.endTasks chosen mark cancel (stopAndSave env)).taskAt key = some record :=
    KeyedMap.forEach_invariant step s (Or.inr found)
  refine outcome.resolve_right ?_
  simp [gone]

theorem fileFollows_stopContinuousTaskByUser (follows : s.FileFollows) (key : String)
    (isSubNotification : Bool) (deleteReason : DeleteReason)
    (saved : s.isSysReady = true → ∀ named ∈ s.taskAt key, named.notificationId ≠ -1 ∨
      named.detailedCancelReason = deletionDetail deleteReason) :
    (s.stopContinuousTaskByUser env key isSubNotification deleteReason).FileFollows := by
  unfold stopContinuousTaskByUser
  dsimp only
  split
  · exact follows
  rename_i ready
  change ((s.setReason key .removeNotificationCancel
    (deletionDetail deleteReason)).stopContinuousTaskByUserInner env key
      isSubNotification).FileFollows
  cases lookup : s.continuousTaskInfosMap.lookup key with
  | none =>
      have unset : s.setReason key .removeNotificationCancel (deletionDetail deleteReason) = s := by
        unfold setReason
        rw [lookup]
      rw [unset]
      unfold stopContinuousTaskByUserInner
      rw [lookup]
      exact follows
  | some named =>
      have found : s.taskAt key = some named := lookup
      have detailed : deletionDetail deleteReason ≠ ContinuousTaskCancelReason.invalidReason := by
        unfold deletionDetail
        split
        · decide
        · decide
      have set : s.setReason key .removeNotificationCancel (deletionDetail deleteReason) =
          s.setRecord key { named with
            reason := .removeNotificationCancel
            detailedCancelReason := deletionDetail deleteReason } := by
        unfold setReason
        rw [lookup]
        dsimp only
        rw [if_pos detailed]
      rw [set]
      have stored := taskAt_setRecord_self s key { named with
        reason := .removeNotificationCancel
        detailedCancelReason := deletionDetail deleteReason } found
      unfold stopContinuousTaskByUserInner
      split
      · rename_i missing
        exact absurd (stored.symm.trans missing) (by simp)
      rename_i removeTask present
      obtain rfl := Option.some.inj (stored.symm.trans present)
      split
      · rename_i none
        rcases saved (by simpa using ready) named found with given | same
        · exact absurd none given
        · refine follows.edit found ?_
          unfold ContinuousTaskRecord.persisted
          rw [← same]
      · exact fileFollows_endTasks_of_chosen saves (onlyTools_cancelOther env isSubNotification)
          stored (by simp)

theorem fileFollows_onCanceled (follows : s.FileFollows) (pair : String × Int)
    (deleteReason : DeleteReason) (saved : DeletionSaved pair deleteReason s) :
    (s.onCanceled env pair deleteReason).FileFollows := by
  unfold onCanceled
  split
  · exact follows
  rename_i notification shown
  split
  · exact follows
  rename_i deleted
  have withdrawn : (s.setTools (s.tools.withdraw pair)).FileFollows :=
    follows.of_quiet (quiet_setTools s _)
  unfold cancelNotificationByBgTask
  split
  · exact withdrawn.of_quiet (quiet_stopBannerContinuousTaskByUser _ env _)
  split
  · exact withdrawn
  · rename_i key isSub decoded
    have named : namedKey pair s = some key := by
      unfold namedKey
      rw [shown, Option.bind_some, decoded]
      rfl
    exact fileFollows_stopContinuousTaskByUser saves withdrawn key isSub deleteReason
      (fun ready => saved deleted ready key named)

end Deletion

end BgTaskMgr.Continuous
