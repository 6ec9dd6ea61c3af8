import BgTaskMgr.Continuous.UpdateExits
import BgTaskMgr.Continuous.Reactivation

/-!
# Updates that fail late

An update overwrites fields of a record before the mode check, the refresh of the
notification, the publication and the save that can each still fail.  What was written by
then stays, so a failing update leaves the records alone only where it had nothing to write.
-/

set_option autoImplicit false

namespace BgTaskMgr.Continuous

open BgContinuousTaskMgr

/-- An error leaves every field of every record as it was. -/
def Unaltered (before : BgContinuousTaskMgr) (updated : ErrCode × BgContinuousTaskMgr) : Prop :=
  updated.1 ≠ .ok → ∀ key, updated.2.taskAt key = before.taskAt key

/-- Sending leaves the record as it was: neither is its text a new one, nor its
notification. -/
structure SentUnchanged (env : Env) (updated record : ContinuousTaskRecord)
    (s : BgContinuousTaskMgr) : Prop where
  noted : noted env updated s = record
  keeps : sendKind env s updated ≠ .clears
  pair : sendKind env s updated = .publishes → ownPair s.tools updated = record.mainPair

/-- What a failed sending leaves of a record: its text is not asked for without texts and a
name of the app. -/
def failedSend (env : Env) (updated : ContinuousTaskRecord) (s : BgContinuousTaskMgr) :
    ContinuousTaskRecord :=
  if s.texts.continuousTaskText = [] ∨ s.cachedAppName updated.uid = "" then updated
  else noted env updated s

section Sent

variable {env : Env} {s : BgContinuousTaskMgr} {record updated : ContinuousTaskRecord}
  {key : String}

theorem sendContinuousTaskNotification_of_failed (failed : ¬ CanSend env updated s) :
    (s.sendContinuousTaskNotification env updated).record = failedSend env updated s := by
  have refused : (s.sendContinuousTaskNotification env updated).ret ≠ .ok :=
    fun sent => failed (canSend_iff.mpr sent)
  unfold sendContinuousTaskNotification at refused ⊢
  unfold failedSend
  dsimp only at refused ⊢
  split
  · rename_i missing
    rw [if_pos (Or.inl missing)]
  rename_i texts
  rw [if_neg texts] at refused
  split
  · rename_i nameless
    rw [if_pos (Or.inr nameless)]
  rename_i named
  rw [if_neg named] at refused
  rw [if_neg (not_or.mpr ⟨texts, named⟩)]
  split
  · rfl
  rename_i text
  rw [if_neg text] at refused
  split
  · rename_i empty
    rw [if_pos empty] at refused
    split at refused
    · exact absurd rfl refused
    · exact absurd rfl refused
  rename_i filled
  rw [if_neg filled] at refused
  split
  · rfl
  rename_i plain
  rw [if_neg plain] at refused
  unfold NotificationTools.publishNotification at refused ⊢
  dsimp only at refused ⊢
  split
  · rename_i accepted
    rw [if_pos accepted] at refused
    exact absurd rfl refused
  · rfl

theorem withPair_eq_iff {label : String} {id : Int} (same : updated.mainPair = record.mainPair) :
    { updated with notificationLabel := label, notificationId := id } = record ↔
      updated = record ∧ (label, id) = record.mainPair := by
  constructor
  · intro equal
    have pair : (label, id) = record.mainPair :=
      congrArg ContinuousTaskRecord.mainPair equal
    obtain ⟨labelSame, idSame⟩ := Prod.mk.inj (pair.trans same.symm)
    refine ⟨?_, pair⟩
    rw [← equal, labelSame, idSame]
  · rintro ⟨rfl, pair⟩
    obtain ⟨labelSame, idSame⟩ := Prod.mk.inj pair
    rw [labelSame, idSame]

theorem sendContinuousTaskNotification_eq_iff (can : CanSend env updated s)
    (same : updated.mainPair = record.mainPair) :
    (s.sendContinuousTaskNotification env updated).record = record ↔
      SentUnchanged env updated record s := by
  obtain ⟨texts, named, text, accepted⟩ := can
  have notedPair : ((s.checkNotificationText env updated).note updated).mainPair =
      record.mainPair := (mainPair_note _).trans same
  have ready : ¬ (s.texts.continuousTaskText = [] ∨ s.cachedAppName updated.uid = "" ∨
      (s.checkNotificationText env updated).ret ≠ .ok) := by
    simp [texts, named, text]
  have kept : ∀ kind, sendKind env s updated = kind → kind ≠ .clears → kind ≠ .publishes →
      ((s.checkNotificationText env updated).note updated = record ↔
        SentUnchanged env updated record s) := by
    intro kind named keeps silent
    constructor
    · intro equal
      exact ⟨equal, named ▸ keeps, fun publishes => absurd (named.symm.trans publishes) silent⟩
    · intro unchanged
      exact unchanged.noted
  unfold sendContinuousTaskNotification
  dsimp only
  rw [if_neg texts, if_neg named, if_neg (not_not.mpr text)]
  split
  · rename_i empty
    split
    · rename_i given
      have kind : sendKind env s updated = .clears := by
        unfold sendKind
        rw [if_neg ready, if_pos empty, if_pos given]
      constructor
      · intro equal
        have cleared : record.notificationId = -1 := by
          rw [← equal]
        exact absurd ((congrArg Prod.snd same).trans cleared) given
      · intro unchanged
        exact absurd kind unchanged.keeps
    · rename_i none
      have kind : sendKind env s updated = .keeps := by
        unfold sendKind
        rw [if_neg ready, if_pos empty, if_neg none]
      exact kept .keeps kind (by simp) (by simp)
  rename_i filled
  split
  · rename_i shown
    have kind : sendKind env s updated = .keeps := by
      unfold sendKind
      rw [if_neg ready, if_neg filled, if_pos shown]
    exact kept .keeps kind (by simp) (by simp)
  · rename_i plain
    have kind : sendKind env s updated = .publishes := by
      unfold sendKind
      rw [if_neg ready, if_neg filled, if_neg plain]
    unfold NotificationTools.publishNotification
    dsimp only
    rw [createNotificationLabel_note, notificationId_note, if_pos (accepted kind)]
    refine (withPair_eq_iff notedPair).trans ?_
    constructor
    · rintro ⟨equal, pair⟩
      exact ⟨equal, by simp [kind], fun _ => pair⟩
    · intro unchanged
      exact ⟨unchanged.noted, unchanged.pair kind⟩

end Sent

/-! ## The end of an update -/

section Finish

variable {env : Env} {s stored : BgContinuousTaskMgr} {record updated : ContinuousTaskRecord}
  {key : String}

theorem activateTask_own (uid : Int) {loop : ActiveLoop} (owner : record.uid = uid)
    (found : loop.mgr.taskAt key = some record) :
    ∀ task, (activateTask env uid key record loop).mgr.taskAt key = some task →
      task.suspendState = false := by
  intro task after
  unfold activateTask at after
  split at after
  · rename_i skipped
    obtain rfl := Option.some.inj (found.symm.trans after)
    rcases skipped with other | active
    · exact absurd owner other
    · simpa using active
  dsimp only at after
  split at after
  · rw [(undisturbed_saveTasks _ env).taskAt] at after
    obtain rfl := Option.some.inj ((taskAt_setRecord_self loop.mgr key _ found).symm.trans after)
    rfl
  split at after
  · rw [(undisturbed_saveTasks _ env).taskAt] at after
    have own := taskAt_setRecord_self loop.mgr key (reactivated record) found
    obtain rfl := Option.some.inj ((taskAt_setRecord_self _ key _ own).symm.trans after)
    exact (edited_handleActiveNotification env _ (reactivated record)).suspendState
  · rw [(undisturbed_saveTasks _ env).taskAt] at after
    have own := taskAt_setRecord_self loop.mgr key (reactivated record) found
    obtain rfl := Option.some.inj ((taskAt_setRecord_self _ key _ own).symm.trans after)
    rfl

theorem active_handleActiveContinuousTask (found : s.taskAt key = some record)
    {task : ContinuousTaskRecord}
    (after : (s.handleActiveContinuousTask env record.uid).taskAt key = some task) :
    task.suspendState = false := by
  have keep : ∀ other stored (loop : ActiveLoop), other ≠ key →
      loop.mgr.continuousTaskInfosMap.lookup other = some stored → True →
      (∀ task, loop.mgr.taskAt key = some task → task.suspendState = false) →
      ∀ task, (activateTask env record.uid other stored loop).mgr.taskAt key = some task →
        task.suspendState = false := by
    intro other stored loop different present _ held task later
    refine held task ?_
    exact (local_activateTask env record.uid other stored loop present key
      (Ne.symm different)).symm.trans later
  have settled := KeyedMap.forEach_settles
    (fun loop : ActiveLoop => ∀ task, loop.mgr.taskAt key = some task → task.suspendState = false)
    (local_activateTask env record.uid) (fun _ _ _ _ _ => trivial) key record
    (fun _ present _ => activateTask_own record.uid rfl present) keep { mgr := s } trivial found
  exact settled task after

/-- What ends in the save leaves the records alone when it is written, or had not changed
them. -/
theorem unaltered_refreshTaskRecord_iff :
    Unaltered s (stored.refreshTaskRecord env) ↔
      env.saveOk = true ∨ ∀ key, stored.taskAt key = s.taskAt key := by
  unfold Unaltered refreshTaskRecord
  by_cases saves : env.saveOk = true
  · simp [saves]
  · rw [if_neg saves]
    simp [saves]

theorem taskAt_all_iff (found : stored.taskAt key = some updated)
    (old : s.taskAt key = some record)
    (others : ∀ other, other ≠ key → stored.taskAt other = s.taskAt other) :
    (∀ other, stored.taskAt other = s.taskAt other) ↔ updated = record := by
  constructor
  · intro same
    exact Option.some.inj ((found.symm.trans (same key)).trans old)
  · rintro rfl other
    by_cases here : other = key
    · rw [here]
      exact found.trans old.symm
    · exact others other here

theorem unaltered_finishUpdate_iff (found : stored.taskAt key = some updated)
    (old : s.taskAt key = some record)
    (others : ∀ other, other ≠ key → stored.taskAt other = s.taskAt other)
    (same : updated.suspendState = record.suspendState) :
    Unaltered s (stored.finishUpdate env key) ↔
      env.saveOk = true ∨ (record.suspendState = false ∧ updated = record) := by
  have lookup : stored.continuousTaskInfosMap.lookup key = some updated := found
  unfold finishUpdate
  rw [lookup]
  dsimp only
  cases suspended : updated.suspendState with
  | false =>
      rw [if_neg (by simp), lookup]
      dsimp only
      rw [unaltered_refreshTaskRecord_iff]
      refine or_congr_right ?_
      rw [show (∀ other, (stored.onContinuousTaskChanged updated .taskUpdate).taskAt other =
        s.taskAt other) ↔ updated = record from taskAt_all_iff found old others]
      simp [same.symm.trans suspended]
  | true =>
      obtain ⟨task, active⟩ := @exists_handleActiveContinuousTask env stored key
        ⟨updated, found⟩ updated.uid
      rw [if_pos rfl, show (stored.handleActiveContinuousTask env
        updated.uid).continuousTaskInfosMap.lookup key = some task from active]
      dsimp only
      rw [unaltered_refreshTaskRecord_iff]
      refine or_congr_right ?_
      constructor
      · intro kept
        -- the task is active now, and was not before
        obtain rfl := Option.some.inj ((active.symm.trans (kept key)).trans old)
        exact absurd ((active_handleActiveContinuousTask found active).symm.trans
          (same.symm.trans suspended)) (by simp)
      · rintro ⟨quiet, -⟩
        exact absurd ((same.trans quiet).symm.trans suspended) (by simp)

theorem unaltered_edited_iff {ret : ErrCode} (failed : ret ≠ .ok)
    (old : s.taskAt key = some record)
    (edits : ∀ other, stored.taskAt other = (s.setRecord key updated).taskAt other) :
    Unaltered s (ret, stored) ↔ updated = record := by
  have own := (edits key).trans (taskAt_setRecord_self s key updated old)
  have others : ∀ other, other ≠ key → stored.taskAt other = s.taskAt other :=
    fun other different => (edits other).trans (taskAt_setRecord_ne s key other updated different)
  rw [← taskAt_all_iff own old others]
  exact ⟨fun unaltered => unaltered failed, fun same _ => same⟩

end Finish

/-! ## Updates of tasks -/

/-- The update of a task that takes no part in a merge writes nothing new before it fails: not
when its notification cannot be shown, and not when the save fails after that. -/
structure OwnUpdateSafe (env : Env) (updated record : ContinuousTaskRecord)
    (s : BgContinuousTaskMgr) : Prop where
  unshown : ¬ OwnUpdateShown env updated s → noted env updated s = record
  unsaved : OwnUpdateShown env updated s → env.saveOk = true ∨ (record.suspendState = false ∧
    if (s.checkNotificationText env updated).text = "" ∨ updated.notificationId ≠ -1 then
      noted env updated s = record
    else SentUnchanged env (noted env updated s) record s)

structure MergedUpdateSafe (env : Env) (taskParam : ContinuousTaskParam)
    (record : ContinuousTaskRecord) (s : BgContinuousTaskMgr) : Prop where
  unshown : ¬ (checkModesSame record.bgModeIds taskParam.bgModeIds = true ∧
    CanRefresh env record.notificationLabel s) → updatedTask taskParam record = record
  unsaved : checkModesSame record.bgModeIds taskParam.bgModeIds = true →
    CanRefresh env record.notificationLabel s →
    env.saveOk = true ∨ (record.suspendState = false ∧ updatedTask taskParam record = record)

def UpdateSafe (env : Env) (taskParam : ContinuousTaskParam) (record : ContinuousTaskRecord)
    (s : BgContinuousTaskMgr) : Prop :=
  if record.isCombinedTaskNotification then MergedUpdateSafe env taskParam record s
  else OwnUpdateSafe env (updatedTask taskParam record) record s

section Updates

variable {env : Env} {s : BgContinuousTaskMgr} {record updated : ContinuousTaskRecord}
  {key : String}

theorem taskAt_setRecord_twice (first second : ContinuousTaskRecord) (other : String) :
    ((s.setRecord key first).setRecord key second).taskAt other =
      (s.setRecord key second).taskAt other := by
  simp only [taskAt_setRecord]
  split
  · rw [Option.map_map]
    rfl
  · rfl

theorem noted_suspendState : (noted env updated s).suspendState = updated.suspendState := by
  unfold noted Prompt.note
  split
  · rfl
  · rfl

theorem failedSend_noted : failedSend env (noted env updated s) s = noted env updated s := by
  unfold failedSend
  rw [noted_noted]
  split
  · rfl
  · rfl

theorem unaltered_notified_iff {notified : ErrCode × BgContinuousTaskMgr}
    {edited : ContinuousTaskRecord} (old : s.taskAt key = some record)
    (edits : ∀ other, notified.2.taskAt other = (s.setRecord key edited).taskAt other)
    (same : edited.suspendState = record.suspendState) :
    Unaltered s (if notified.1 ≠ .ok then notified else notified.2.finishUpdate env key) ↔
      (notified.1 ≠ .ok → edited = record) ∧
        (notified.1 = .ok →
          env.saveOk = true ∨ (record.suspendState = false ∧ edited = record)) := by
  by_cases failed : notified.1 ≠ .ok
  · rw [if_pos failed]
    refine (unaltered_edited_iff failed old edits).trans ?_
    exact ⟨fun unchanged => ⟨fun _ => unchanged, fun ok => absurd ok failed⟩,
      fun both => both.1 failed⟩
  · rw [if_neg failed]
    have own := (edits key).trans (taskAt_setRecord_self s key edited old)
    refine (unaltered_finishUpdate_iff own old ?_ same).trans ?_
    · intro other different
      exact (edits other).trans (taskAt_setRecord_ne s key other edited different)
    · exact ⟨fun done => ⟨fun refused => absurd refused failed, fun _ => done⟩,
        fun both => both.2 (not_not.mp failed)⟩

inductive OwnNotified (env : Env) (updated : ContinuousTaskRecord) (key : String)
    (s : BgContinuousTaskMgr) (notified : ErrCode × BgContinuousTaskMgr) : Prop where
  | silent (text : (s.checkNotificationText env updated).text = "") (ret : notified.1 = .ok)
      (edits : ∀ other, notified.2.taskAt other =
        (s.setRecord key (noted env updated s)).taskAt other)
  | sent (text : (s.checkNotificationText env updated).text ≠ "")
      (absent : updated.notificationId = -1)
      (ret : notified.1 = .ok ↔ CanSend env (noted env updated s) s)
      (edits : ∀ other, notified.2.taskAt other = (s.setRecord key
        (s.sendContinuousTaskNotification env (noted env updated s)).record).taskAt other)
  | refreshed (text : (s.checkNotificationText env updated).text ≠ "")
      (given : updated.notificationId ≠ -1)
      (ret : notified.1 = .ok ↔ CanRefresh env updated.notificationLabel s)
      (edits : ∀ other, notified.2.taskAt other =
        (s.setRecord key (noted env updated s)).taskAt other)

theorem ownNotified_updateOwnNotification :
    OwnNotified env updated key s
      ((s.setRecord key updated).updateOwnNotification env key updated) := by
  have text : (s.setRecord key updated).checkNotificationText env updated =
      s.checkNotificationText env updated := rfl
  unfold updateOwnNotification
  dsimp only
  rw [text]
  split
  · rename_i silent
    exact .silent silent rfl (taskAt_setRecord_twice updated _)
  rename_i filled
  split
  · rename_i absent
    exact .sent filled absent canSend_iff.symm (taskAt_setRecord_twice updated _)
  · rename_i given
    exact .refreshed filled given canRefresh_iff.symm (taskAt_setRecord_twice updated _)

structure OwnEdited (env : Env) (updated record : ContinuousTaskRecord) (key : String)
    (s : BgContinuousTaskMgr) (notified : ErrCode × BgContinuousTaskMgr)
    (edited : ContinuousTaskRecord) : Prop where
  edits : ∀ other, notified.2.taskAt other = (s.setRecord key edited).taskAt other
  suspendState : edited.suspendState = record.suspendState
  ret : notified.1 = .ok ↔ OwnUpdateShown env updated s
  unshown : ¬ OwnUpdateShown env updated s → (edited = record ↔ noted env updated s = record)
  shown : OwnUpdateShown env updated s → (edited = record ↔
    if (s.checkNotificationText env updated).text = "" ∨ updated.notificationId ≠ -1 then
      noted env updated s = record
    else SentUnchanged env (noted env updated s) record s)

theorem exists_ownEdited (pair : updated.mainPair = record.mainPair)
    (suspended : updated.suspendState = record.suspendState) :
    ∃ edited, OwnEdited env updated record key s
      ((s.setRecord key updated).updateOwnNotification env key updated) edited := by
  have notedSame : (noted env updated s).suspendState = record.suspendState :=
    noted_suspendState.trans suspended
  cases @ownNotified_updateOwnNotification env s updated key with
  | silent text ret edits =>
      have shown : OwnUpdateShown env updated s := Or.inl text
      exact ⟨noted env updated s, edits, notedSame, by simp [ret, shown],
        fun unshown => absurd shown unshown, fun _ => by rw [if_pos (Or.inl text)]⟩
  | sent text absent ret edits =>
      have shown : OwnUpdateShown env updated s ↔ CanSend env (noted env updated s) s := by
        simp [OwnUpdateShown, text, absent]
      have unset : ¬ ((s.checkNotificationText env updated).text = "" ∨
          updated.notificationId ≠ -1) := by
        simp [text, absent]
      refine ⟨_, edits, (edited_sendContinuousTaskNotification env s
        (noted env updated s)).suspendState.trans notedSame, ret.trans shown.symm, ?_, ?_⟩
      · intro unshown
        rw [sendContinuousTaskNotification_of_failed (fun can => unshown (shown.mpr can)),
          failedSend_noted]
      · intro isShown
        rw [if_neg unset]
        exact sendContinuousTaskNotification_eq_iff (shown.mp isShown)
          ((mainPair_note _).trans pair)
  | refreshed text given ret edits =>
      have shown : OwnUpdateShown env updated s ↔
          CanRefresh env updated.notificationLabel s := by
        simp [OwnUpdateShown, text, given]
      exact ⟨noted env updated s, edits, notedSame, ret.trans shown.symm, fun _ => Iff.rfl,
        fun _ => by rw [if_pos (Or.inr given)]⟩

theorem unaltered_updateOwnNotification_iff (old : s.taskAt key = some record)
    (pair : updated.mainPair = record.mainPair)
    (suspended : updated.suspendState = record.suspendState) :
    Unaltered s
        (if ((s.setRecord key updated).updateOwnNotification env key updated).1 ≠ .ok then
          (s.setRecord key updated).updateOwnNotification env key updated
        else ((s.setRecord key updated).updateOwnNotification env key updated).2.finishUpdate env
          key) ↔
      OwnUpdateSafe env updated record s := by
  obtain ⟨edited, own⟩ := @exists_ownEdited env s record updated key pair suspended
  rw [unaltered_notified_iff old own.edits own.suspendState, ne_eq, own.ret]
  constructor
  · rintro ⟨failed, done⟩
    refine ⟨fun unshown => (own.unshown unshown).mp (failed unshown), ?_⟩
    intro shown
    rw [← own.shown shown]
    exact done shown
  · intro safe
    refine ⟨fun unshown => (own.unshown unshown).mpr (safe.unshown unshown), ?_⟩
    intro shown
    rw [own.shown shown]
    exact safe.unsaved shown

theorem mainPair_updatedTask (taskParam : ContinuousTaskParam) (record : ContinuousTaskRecord) :
    (updatedTask taskParam record).mainPair = record.mainPair := by
  unfold updatedTask
  dsimp only
  split
  · rfl
  · rfl

theorem updateTaskNotification_of_nameless {taskParam : ContinuousTaskParam}
    (nameless : env.mainAbilityLabel record.bundleName record.userId = "") :
    s.updateTaskNotification env taskParam key record = (.notificationVerifyFailed, s) := by
  unfold updateTaskNotification
  dsimp only
  rw [if_pos nameless]

theorem updateTaskNotification_of_own {taskParam : ContinuousTaskParam}
    (named : env.mainAbilityLabel record.bundleName record.userId ≠ "")
    (own : record.isCombinedTaskNotification = false) :
    s.updateTaskNotification env taskParam key record =
      (s.setRecord key (updatedTask taskParam record)).updateOwnNotification env key
        (updatedTask taskParam record) := by
  unfold updateTaskNotification
  dsimp only
  rw [if_neg named, if_pos (by simpa using own)]

/-- A task that takes part in a merge is refreshed when it keeps its modes. -/
theorem updateTaskNotification_of_merged {taskParam : ContinuousTaskParam}
    (named : env.mainAbilityLabel record.bundleName record.userId ≠ "")
    (merged : record.isCombinedTaskNotification = true) :
    ((s.updateTaskNotification env taskParam key record).1 = .ok ↔
      checkModesSame record.bgModeIds taskParam.bgModeIds = true ∧
        CanRefresh env record.notificationLabel s) ∧
    ∀ other, (s.updateTaskNotification env taskParam key record).2.taskAt other =
      (s.setRecord key (updatedTask taskParam record)).taskAt other := by
  unfold updateTaskNotification
  dsimp only
  rw [if_neg named, if_neg (by simp [merged])]
  by_cases modes : checkModesSame record.bgModeIds taskParam.bgModeIds = true
  · rw [if_pos modes]
    simp only [modes, true_and]
    exact ⟨canRefresh_iff.symm, fun _ => rfl⟩
  · rw [if_neg modes]
    exact ⟨by simp [modes], fun _ => rfl⟩

theorem unaltered_updateTaskInfo_iff (old : s.taskAt key = some record)
    (taskParam : ContinuousTaskParam) :
    Unaltered s (s.updateTaskInfo env taskParam key record) ↔
      (env.mainAbilityLabel record.bundleName record.userId ≠ "" →
        UpdateSafe env taskParam record s) := by
  unfold updateTaskInfo UpdateSafe
  dsimp only
  by_cases nameless : env.mainAbilityLabel record.bundleName record.userId = ""
  · rw [updateTaskNotification_of_nameless nameless, if_pos (by simp)]
    exact ⟨fun _ named => absurd nameless named, fun _ _ _ => rfl⟩
  simp only [ne_eq, nameless, not_false_eq_true, true_implies]
  cases merged : record.isCombinedTaskNotification with
  | true =>
      obtain ⟨ret, edits⟩ := @updateTaskNotification_of_merged env s record key taskParam nameless
        merged
      rw [if_pos rfl, unaltered_notified_iff old edits
        (edited_updatedTask taskParam record).suspendState, ne_eq, ret]
      constructor
      · rintro ⟨failed, done⟩
        exact ⟨failed, fun modes can => done ⟨modes, can⟩⟩
      · intro safe
        exact ⟨safe.unshown, fun shown => safe.unsaved shown.1 shown.2⟩
  | false =>
      rw [updateTaskNotification_of_own nameless merged, if_neg Bool.false_ne_true]
      exact unaltered_updateOwnNotification_iff old (mainPair_updatedTask taskParam record)
        (edited_updatedTask taskParam record).suspendState

end Updates

/-! ## The three operations -/

def TaskIdUpdateSafe (env : Env) (callingUid : Int) (taskParam : ContinuousTaskParam)
    (s : BgContinuousTaskMgr) : Prop :=
  ∀ found ∈ s.findTask (fun _ task => task.continuousTaskId == taskParam.updateTaskId &&
    task.isByRequestObject),
    callingUid ∉ s.disableRequestUidList → 0 ≤ taskParam.updateTaskId →
    checkBgmodeTypes env (s.getBackgroundModeInfo callingUid found.2.abilityName) true found.2
      taskParam.bgModeIds = .ok →
    (checkExistMode found.2.bgModeIds BackgroundMode.dataTransfer ||
      checkExistMode taskParam.bgModeIds BackgroundMode.dataTransfer) = false →
    taskParam.progressInfo.isSome = false →
    (checkExistMode found.2.bgModeIds BackgroundMode.specialScenarioProcessing &&
      taskParam.isCombinedTaskNotification) = false →
    env.mainAbilityLabel found.2.bundleName found.2.userId ≠ "" →
    UpdateSafe env taskParam found.2 s

/-- An update by ability that names other modes is shown and saved, or refused without
sub-modes to drop. -/
def AbilityUpdateSafe (env : Env) (key : String) (taskParam : ContinuousTaskParam)
    (s : BgContinuousTaskMgr) : Prop :=
  ∀ record ∈ s.taskAt key, record.uid ∉ s.disableRequestUidList →
    checkModesSame record.bgModeIds taskParam.bgModeIds = false →
    (checkBgmodeTypes env (s.getBackgroundModeInfo record.uid record.abilityName) true
      (dropSubModes taskParam record) taskParam.bgModeIds ≠ .ok →
        dropSubModes taskParam record = record) ∧
    (checkBgmodeTypes env (s.getBackgroundModeInfo record.uid record.abilityName) true
      (dropSubModes taskParam record) taskParam.bgModeIds = .ok →
        env.saveOk = true ∧
        ((checkExistMode record.bgModeIds BackgroundMode.dataTransfer &&
          checkExistMode taskParam.bgModeIds BackgroundMode.dataTransfer) = true ∨
        CanSend env (withModes taskParam record) s))

def ProgressSafe (env : Env) (callingUid : Int) (progress : DataTransferProgress)
    (s : BgContinuousTaskMgr) : Prop :=
  ∀ found ∈ s.findTask (fun _ task =>
    task.continuousTaskId == progress.continuousTaskId && task.uid == callingUid),
    0 ≤ progress.continuousTaskId → progress.progressInfo.isNone = false →
    checkExistMode found.2.bgModeIds BackgroundMode.dataTransfer = true →
    (¬ CanSend env (withProgress progress found.2) s →
      failedSend env (withProgress progress found.2) s = found.2) ∧
    (CanSend env (withProgress progress found.2) s →
      env.saveOk = true ∨ SentUnchanged env (withProgress progress found.2) found.2 s)

section Operations

variable {env : Env} {s : BgContinuousTaskMgr}

theorem unaltered_refl {ret : ErrCode} : Unaltered s (ret, s) := fun _ _ => rfl

theorem unaltered_updateBackgroundRunningByTaskIdInner_iff (callingUid : Int)
    (taskParam : ContinuousTaskParam) :
    Unaltered s (s.updateBackgroundRunningByTaskIdInner env callingUid taskParam) ↔
      TaskIdUpdateSafe env callingUid taskParam s := by
  unfold updateBackgroundRunningByTaskIdInner TaskIdUpdateSafe
  by_cases disabled : callingUid ∈ s.disableRequestUidList
  · rw [if_pos disabled]
    exact ⟨fun _ _ _ enabled => absurd disabled enabled, fun _ => unaltered_refl⟩
  rw [if_neg disabled]
  by_cases negative : taskParam.updateTaskId < 0
  · rw [if_pos negative]
    exact ⟨fun _ _ _ _ valid => absurd valid (by omega), fun _ => unaltered_refl⟩
  rw [if_neg negative]
  cases search : s.findTask (fun _ task => task.continuousTaskId == taskParam.updateTaskId &&
      task.isByRequestObject) with
  | none =>
      refine ⟨fun _ found member => ?_, fun _ => unaltered_refl⟩
      exact absurd member (by simp)
  | some found =>
      obtain ⟨key, record⟩ := found
      have old := (taskAt_of_findTask s key record search).1
      simp only [Option.mem_some_iff, forall_eq']
      have valid : 0 ≤ taskParam.updateTaskId := by omega
      simp only [disabled, not_false_eq_true, true_implies, valid]
      by_cases modes : checkBgmodeTypes env (s.getBackgroundModeInfo callingUid
          record.abilityName) true record taskParam.bgModeIds = .ok
      case neg =>
        rw [if_pos modes]
        exact ⟨fun _ ok => absurd ok modes, fun _ => unaltered_refl⟩
      rw [if_neg (not_not.mpr modes)]
      by_cases transfer : (checkExistMode record.bgModeIds BackgroundMode.dataTransfer ||
          checkExistMode taskParam.bgModeIds BackgroundMode.dataTransfer) = true
      · rw [if_pos transfer]
        exact ⟨fun _ _ none => absurd transfer (by simp [none]), fun _ => unaltered_refl⟩
      rw [if_neg transfer]
      by_cases progress : taskParam.progressInfo.isSome = true
      · rw [if_pos progress]
        exact ⟨fun _ _ _ none => absurd progress (by simp [none]), fun _ => unaltered_refl⟩
      rw [if_neg progress]
      by_cases special : (checkExistMode record.bgModeIds
          BackgroundMode.specialScenarioProcessing && taskParam.isCombinedTaskNotification) = true
      · rw [if_pos special]
        exact ⟨fun _ _ _ _ none => absurd special (by simp [none]), fun _ => unaltered_refl⟩
      rw [if_neg special, unaltered_updateTaskInfo_iff old]
      exact ⟨fun safe _ _ _ _ named => safe named,
        fun safe named => safe modes (by simpa using transfer) (by simpa using progress)
          (by simpa using special) named⟩

theorem checkModesSame_self (modes : List Nat) : checkModesSame modes modes = true := by
  simp [checkModesSame]

theorem ne_of_modes {edited record : ContinuousTaskRecord} {taskParam : ContinuousTaskParam}
    (modes : edited.bgModeIds = taskParam.bgModeIds)
    (differ : checkModesSame record.bgModeIds taskParam.bgModeIds = false) : edited ≠ record := by
  rintro rfl
  rw [modes, checkModesSame_self] at differ
  exact absurd differ (by simp)

theorem suspendState_withModes (taskParam : ContinuousTaskParam) (record : ContinuousTaskRecord) :
    (withModes taskParam record).suspendState = record.suspendState :=
  (edited_withModes taskParam record).suspendState

theorem unaltered_updateBackgroundRunningInner_iff (key : String)
    (taskParam : ContinuousTaskParam) :
    Unaltered s (s.updateBackgroundRunningInner env key taskParam) ↔
      AbilityUpdateSafe env key taskParam s := by
  unfold updateBackgroundRunningInner AbilityUpdateSafe
  cases old : s.taskAt key with
  | none =>
      rw [show s.continuousTaskInfosMap.lookup key = none from old]
      exact ⟨fun _ record member => absurd member (by simp), fun _ => unaltered_refl⟩
  | some record =>
      rw [show s.continuousTaskInfosMap.lookup key = some record from old]
      simp only [Option.mem_some_iff, forall_eq']
      by_cases disabled : record.uid ∈ s.disableRequestUidList
      · rw [if_pos disabled]
        exact ⟨fun _ enabled => absurd disabled enabled, fun _ => unaltered_refl⟩
      rw [if_neg disabled]
      by_cases equal : checkModesSame record.bgModeIds taskParam.bgModeIds = true
      · rw [if_pos equal]
        exact ⟨fun _ _ differ => absurd equal (by simp [differ]), fun _ => unaltered_refl⟩
      have differ : checkModesSame record.bgModeIds taskParam.bgModeIds = false := by
        simpa using equal
      rw [if_neg equal]
      simp only [disabled, not_false_eq_true, differ, true_implies]
      by_cases modes : checkBgmodeTypes env (s.getBackgroundModeInfo record.uid
          record.abilityName) true (dropSubModes taskParam record) taskParam.bgModeIds = .ok
      case neg =>
        rw [if_pos modes]
        refine (unaltered_edited_iff modes old (fun _ => rfl)).trans ?_
        exact ⟨fun unchanged => ⟨fun _ => unchanged, fun ok => absurd ok modes⟩,
          fun both => both.1 modes⟩
      rw [if_neg (not_not.mpr modes)]
      simp only [modes, ne_eq, not_true_eq_false, false_implies, true_implies, true_and]
      by_cases transfer : (checkExistMode record.bgModeIds BackgroundMode.dataTransfer &&
          checkExistMode taskParam.bgModeIds BackgroundMode.dataTransfer) = true
      · have other : withModes taskParam record ≠ record := ne_of_modes rfl differ
        rw [if_pos transfer, unaltered_finishUpdate_iff
          (taskAt_setRecord_self s key (withModes taskParam record) old) old
          (fun other different => taskAt_setRecord_ne s key other _ different)
          (suspendState_withModes taskParam record)]
        simp [transfer, other]
      rw [if_neg transfer]
      have contents := contents_sendContinuousTaskNotification env s (withModes taskParam record)
      have other : (s.sendContinuousTaskNotification env (withModes taskParam record)).record ≠
          record :=
        ne_of_modes (congrArg ContinuousTaskRecord.bgModeIds contents) differ
      have same : (s.sendContinuousTaskNotification env
          (withModes taskParam record)).record.suspendState = record.suspendState :=
        (congrArg ContinuousTaskRecord.suspendState contents).trans
          (suspendState_withModes taskParam record)
      have sent : ((s.setRecord key (withModes taskParam record)).sendContinuousTaskNotification env
          (withModes taskParam record)) =
          s.sendContinuousTaskNotification env (withModes taskParam record) := rfl
      rw [sent]
      refine (@unaltered_notified_iff env s record key
        ((s.sendContinuousTaskNotification env (withModes taskParam record)).ret,
          (s.setRecord key (withModes taskParam record)).setSent key
            (s.sendContinuousTaskNotification env (withModes taskParam record))) _ old
        (taskAt_setRecord_twice (withModes taskParam record) _) same).trans ?_
      simp only [other, and_false, or_false, ne_eq, transfer, Bool.false_eq_true, false_or]
      rw [← canSend_iff]
      exact ⟨fun both => ⟨both.2 (not_not.mp both.1), not_not.mp both.1⟩,
        fun both => ⟨fun cannot => cannot both.2, fun _ => both.1⟩⟩

theorem mainPair_withProgress (progress : DataTransferProgress) (record : ContinuousTaskRecord) :
    (withProgress progress record).mainPair = record.mainPair := rfl

theorem unaltered_updateDataTransferProgressInner_iff (callingUid : Int)
    (progress : DataTransferProgress) :
    Unaltered s (s.updateDataTransferProgressInner env callingUid progress) ↔
      ProgressSafe env callingUid progress s := by
  unfold updateDataTransferProgressInner ProgressSafe
  by_cases negative : progress.continuousTaskId < 0
  · rw [if_pos negative]
    exact ⟨fun _ _ _ valid => absurd valid (by omega), fun _ => unaltered_refl⟩
  have valid : 0 ≤ progress.continuousTaskId := by omega
  rw [if_neg negative]
  by_cases empty : progress.progressInfo.isNone = true
  · rw [if_pos empty]
    exact ⟨fun _ _ _ _ some => absurd empty (by simp [some]), fun _ => unaltered_refl⟩
  have given : progress.progressInfo.isNone = false := Bool.eq_false_of_not_eq_true empty
  rw [if_neg empty]
  cases search : s.findTask (fun _ task => task.continuousTaskId == progress.continuousTaskId &&
      task.uid == callingUid) with
  | none => exact ⟨fun _ found member => absurd member (by simp), fun _ => unaltered_refl⟩
  | some found =>
      obtain ⟨key, record⟩ := found
      have old := (taskAt_of_findTask s key record search).1
      simp only [Option.mem_some_iff, forall_eq', valid, given, true_implies]
      by_cases transfer : checkExistMode record.bgModeIds BackgroundMode.dataTransfer = true
      case neg =>
        rw [if_pos (by simpa using transfer)]
        exact ⟨fun _ some => absurd some transfer, fun _ => unaltered_refl⟩
      rw [if_neg (by simp [transfer])]
      simp only [transfer, true_implies]
      have sent : ((s.setRecord key (withProgress progress record)).sendContinuousTaskNotification
          env (withProgress progress record)) =
          s.sendContinuousTaskNotification env (withProgress progress record) := rfl
      rw [sent]
      have edits := fun other => @taskAt_setRecord_twice s key (withProgress progress record)
        (s.sendContinuousTaskNotification env (withProgress progress record)).record other
      by_cases can : CanSend env (withProgress progress record) s
      · rw [if_neg (not_not.mpr (canSend_iff.mp can)), unaltered_refreshTaskRecord_iff]
        have own := (edits key).trans (taskAt_setRecord_self s key _ old)
        have others : ∀ other, other ≠ key → _ = s.taskAt other :=
          fun other different => (edits other).trans (taskAt_setRecord_ne s key other _ different)
        refine (or_congr_right (taskAt_all_iff own old others)).trans ?_
        rw [sendContinuousTaskNotification_eq_iff can (mainPair_withProgress progress record)]
        simp [can]
      · rw [if_pos (fun ok => can (canSend_iff.mpr ok))]
        refine (unaltered_edited_iff (fun ok => can (canSend_iff.mpr ok)) old edits).trans ?_
        rw [sendContinuousTaskNotification_of_failed can]
        simp [can]

/-- The condition on an update by a client that passes the checks at the entry. -/
def ClientUpdateSafe (env : Env) (callingUid : Int) (taskParam : ContinuousTaskParam)
    (s : BgContinuousTaskMgr) : Prop :=
  if taskParam.isByRequestObject then TaskIdUpdateSafe env callingUid taskParam s
  else AbilityUpdateSafe env
    (abilityKey callingUid taskParam.abilityName taskParam.abilityId) taskParam s

/-- An update or a progress update that returns an error leaves every record as it was
exactly when, past its checks, it writes nothing new before it fails. -/
theorem updates_unaltered_iff (env : Env) (s : BgContinuousTaskMgr) (callingUid : Int) :
    (∀ taskParam, Unaltered s (s.updateBackgroundRunning env callingUid taskParam) ↔
      (s.checkIsSysReadyAndPermission env callingUid = .ok →
        ClientUpdateSafe env callingUid taskParam s)) ∧
    ∀ progress, Unaltered s (s.updateDataTransferProgress env callingUid progress) ↔
      (s.checkIsSysReadyAndPermission env callingUid = .ok →
        ProgressSafe env callingUid progress s) := by
  unfold updateBackgroundRunning updateDataTransferProgress ClientUpdateSafe
  by_cases allowed : s.checkIsSysReadyAndPermission env callingUid = .ok
  · simp only [allowed, ne_eq, not_true_eq_false, if_false, true_implies]
    refine ⟨?_, unaltered_updateDataTransferProgressInner_iff callingUid⟩
    intro taskParam
    split
    · exact unaltered_updateBackgroundRunningByTaskIdInner_iff callingUid taskParam
    · exact unaltered_updateBackgroundRunningInner_iff _ taskParam
  · simp only [allowed, ne_eq, not_false_eq_true, if_true, false_implies, iff_true]
    exact ⟨fun _ => unaltered_refl, fun _ => unaltered_refl⟩

end Operations

def locatedRun : List (Env × ServiceOp) :=
  [(deviceEnv, .initRequiredResourceInfo),
    ((deviceStart 100 (requestOf [BackgroundMode.location] [2])).1,
      .task (deviceStart 100 (requestOf [BackgroundMode.location] [2])).2)]

def refusedUpdate : ContinuousTaskParam :=
  { requestOf [BackgroundMode.audioRecording] [3] with updateTaskId := 1 }

/-- The update is refused with the new modes stored. -/
theorem refused_update_alters :
    ¬ Unaltered (StepSystem.run serviceStep (installed (fun _ => 0)) locatedRun)
      ((StepSystem.run serviceStep (installed (fun _ => 0)) locatedRun).updateBackgroundRunning
        { deviceEnv with republishOk := fun _ _ => false } 100 refusedUpdate) := by
  intro unaltered
  have same := congrArg (Option.map (fun task : ContinuousTaskRecord => task.bgModeIds))
    (unaltered (by decide) "100_EntryAbility_1_1")
  exact absurd same (by decide)

end BgTaskMgr.Continuous
