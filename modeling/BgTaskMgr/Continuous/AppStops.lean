import BgTaskMgr.Continuous.Deletion
import BgTaskMgr.Continuous.TaskIds
import Mathlib.Data.List.Dedup
import Mathlib.Data.List.Find

/-!
# When system abilities learn that an app has no task

`HandleAppContinuousTaskStop` tells the system abilities that an app has no task left.  It
looks for any record of the app, so it is silent while a suspended one is in the map: what a
system ability takes for a cancelled task keeps the news from it.  An operation that ends all
the tasks of an app, the suspended ones too, tells every system ability.
-/

set_option autoImplicit false

namespace BgTaskMgr.Continuous

open BgContinuousTaskMgr

/-! ## What an operation tells -/

def HasTask (uid : Int) (s : BgContinuousTaskMgr) : Prop :=
  ∃ key record, s.taskAt key = some record ∧ record.uid = uid

def HasActiveTask (uid : Int) (s : BgContinuousTaskMgr) : Prop :=
  ∃ key record, s.taskAt key = some record ∧ record.uid = uid ∧ record.suspendState = false

/-- Every system ability hears in one of the calls that the app has no task left. -/
def AppStopTold (uid : Int) (calls : List (Nat × SubscriberCall)) (s : BgContinuousTaskMgr) :
    Prop :=
  ∀ subscriber ∈ s.bgTaskSubscribers, subscriber.isHap = false →
    (subscriber.remote, SubscriberCall.onAppContinuousTaskStop uid) ∈ calls

def callsSince (before after : BgContinuousTaskMgr) : List (Nat × SubscriberCall) :=
  after.calls.drop before.calls.length

/-- No task starts, and system abilities hear of each app, besides those in `except`, that its
last task went. -/
structure Announces (except : Int → Prop) (before after : BgContinuousTaskMgr) : Prop where
  subscribers : after.bgTaskSubscribers = before.bgTaskSubscribers
  origin : ∀ key record, after.taskAt key = some record →
    ∃ old, before.taskAt key = some old ∧ old.uid = record.uid
  told : ∃ calls, after.calls = before.calls ++ calls ∧ ∀ uid, ¬ except uid → HasTask uid before →
    ¬ HasTask uid after → AppStopTold uid calls before

namespace Announces

variable {except : Int → Prop} {before after s : BgContinuousTaskMgr} {key : String}
  {record : ContinuousTaskRecord}

theorem of_kept (subscribers : after.bgTaskSubscribers = before.bgTaskSubscribers)
    (origin : ∀ key record, after.taskAt key = some record →
      ∃ old, before.taskAt key = some old ∧ old.uid = record.uid)
    (appended : ∃ calls, after.calls = before.calls ++ calls)
    (kept : ∀ uid, ¬ except uid → HasTask uid before → HasTask uid after) :
    Announces except before after := by
  obtain ⟨calls, eq⟩ := appended
  refine ⟨subscribers, origin, calls, eq, ?_⟩
  intro uid other has gone
  exact absurd (kept uid other has) gone

theorem of_same (subscribers : after.bgTaskSubscribers = before.bgTaskSubscribers)
    (same : ∀ key, after.taskAt key = before.taskAt key)
    (appended : ∃ calls, after.calls = before.calls ++ calls) : Announces except before after := by
  refine of_kept subscribers ?_ appended ?_
  · intro key record found
    exact ⟨record, (same key).symm.trans found, rfl⟩
  · rintro uid - ⟨key, record, found, own⟩
    exact ⟨key, record, (same key).trans found, own⟩

theorem of_quiet (same : Quiet before after) : Announces except before after :=
  of_same same.bgTaskSubscribers same.taskAt ⟨[], by rw [same.calls, List.append_nil]⟩

theorem refl (s : BgContinuousTaskMgr) : Announces except s s := of_quiet (Quiet.refl s)

theorem trans {first second third : BgContinuousTaskMgr} (early : Announces except first second)
    (late : Announces except second third) : Announces except first third := by
  obtain ⟨earlyCalls, earlyEq, earlyTold⟩ := early.told
  obtain ⟨lateCalls, lateEq, lateTold⟩ := late.told
  refine ⟨late.subscribers.trans early.subscribers, ?_, earlyCalls ++ lateCalls, ?_, ?_⟩
  · intro key record found
    obtain ⟨middle, between, same⟩ := late.origin key record found
    obtain ⟨old, stored, own⟩ := early.origin key middle between
    exact ⟨old, stored, own.trans same⟩
  · rw [lateEq, earlyEq, List.append_assoc]
  · intro uid other has gone subscriber member system
    by_cases middle : HasTask uid second
    · have present : subscriber ∈ second.bgTaskSubscribers := early.subscribers ▸ member
      exact List.mem_append_right _ (lateTold uid other middle gone subscriber present system)
    · exact List.mem_append_left _ (earlyTold uid other has middle subscriber member system)

theorem told_since (announces : Announces except before after) {uid : Int} (other : ¬ except uid)
    (has : HasTask uid before) (gone : ¬ HasTask uid after) :
    AppStopTold uid (callsSince before after) before := by
  obtain ⟨calls, eq, told⟩ := announces.told
  unfold callsSince
  rw [eq, List.drop_left]
  exact told uid other has gone

theorem changed (record : ContinuousTaskRecord) (type : ContinuousTaskEventTriggerType) :
    Announces except s (s.onContinuousTaskChanged record type) :=
  of_same rfl (fun _ => rfl) ⟨_, rfl⟩

theorem edit {edited : ContinuousTaskRecord} (found : s.taskAt key = some record)
    (same : edited.uid = record.uid) : Announces except s (s.setRecord key edited) := by
  have self := taskAt_setRecord_self s key edited found
  refine of_kept rfl ?_ ⟨[], (List.append_nil _).symm⟩ ?_
  · intro other stored lookup
    by_cases here : other = key
    · subst here
      obtain rfl := Option.some.inj (self.symm.trans lookup)
      exact ⟨record, found, same.symm⟩
    · exact ⟨stored, (taskAt_setRecord_ne s key other edited here).symm.trans lookup, rfl⟩
  · rintro uid - ⟨other, stored, lookup, own⟩
    by_cases here : other = key
    · subst here
      obtain rfl := Option.some.inj (found.symm.trans lookup)
      exact ⟨other, edited, self, same.trans own⟩
    · exact ⟨other, stored, (taskAt_setRecord_ne s key other edited here).trans lookup, own⟩

theorem erase (found : s.taskAt key = some record) (named : except record.uid) :
    Announces except s (s.eraseRecord key) := by
  refine of_kept rfl ?_ ⟨[], (List.append_nil _).symm⟩ ?_
  · intro other stored lookup
    rw [taskAt_eraseRecord] at lookup
    split at lookup
    · exact absurd lookup (by simp)
    · exact ⟨stored, lookup, rfl⟩
  · rintro uid unnamed ⟨other, stored, lookup, own⟩
    have away : other ≠ key := by
      rintro rfl
      obtain rfl := Option.some.inj (found.symm.trans lookup)
      exact unnamed (own ▸ named)
    exact ⟨other, stored, (taskAt_eraseRecord_ne s key other away).trans lookup, own⟩

theorem only {change : BgContinuousTaskMgr → BgContinuousTaskMgr} (only : OnlyTools change) :
    Announces except s (change s) :=
  of_quiet (only.quiet s)

theorem appStop (uid : Int) : Announces except s (s.handleAppContinuousTaskStop uid) := by
  unfold handleAppContinuousTaskStop
  split
  · exact refl s
  · exact of_same rfl (fun _ => rfl) ⟨_, rfl⟩

/-- The app in question has no task, so the system abilities are told. -/
theorem handleAppContinuousTaskStop_tells {uid : Int} (gone : ¬ HasTask uid s) :
    ∃ calls, (s.handleAppContinuousTaskStop uid).calls = s.calls ++ calls ∧
      AppStopTold uid calls s := by
  unfold handleAppContinuousTaskStop
  split
  · rename_i present
    obtain ⟨record, member, own⟩ := List.any_eq_true.mp present
    obtain ⟨key, found⟩ := KeyedMap.mem_vals.mp member
    exact absurd ⟨key, record, found, by simpa using own⟩ gone
  · refine ⟨_, rfl, ?_⟩
    intro subscriber member system
    exact List.mem_map.mpr ⟨subscriber, List.mem_filter.mpr ⟨member, by simp [system]⟩, rfl⟩

theorem hasTask_handleAppContinuousTaskStop {uid other : Int} :
    HasTask other (s.handleAppContinuousTaskStop uid) ↔ HasTask other s := by
  unfold HasTask
  simp only [taskAt_handleAppContinuousTaskStop]

theorem mono {wider : Int → Prop} (announces : Announces except before after)
    (wide : ∀ uid, except uid → wider uid) : Announces wider before after := by
  obtain ⟨calls, eq, told⟩ := announces.told
  exact ⟨announces.subscribers, announces.origin, calls, eq, fun uid other => told uid
    (fun named => other (wide uid named))⟩

theorem tell {uid : Int}
    (announces : Announces (fun other => other = uid ∨ except other) before after) :
    Announces except before (after.handleAppContinuousTaskStop uid) := by
  obtain ⟨calls, eq, told⟩ := announces.told
  have step : Announces except after (after.handleAppContinuousTaskStop uid) := appStop uid
  refine ⟨step.subscribers.trans announces.subscribers, ?_, ?_⟩
  · intro key record found
    rw [taskAt_handleAppContinuousTaskStop] at found
    exact announces.origin key record found
  by_cases has : HasTask uid after
  · obtain ⟨later, later_eq, -⟩ := step.told
    refine ⟨calls ++ later, by rw [later_eq, eq, List.append_assoc], ?_⟩
    intro other unnamed had gone subscriber member system
    rw [hasTask_handleAppContinuousTaskStop] at gone
    have away : other ≠ uid := by
      rintro rfl
      exact gone has
    exact List.mem_append_left _
      (told other (by simp [away, unnamed]) had gone subscriber member system)
  · obtain ⟨later, later_eq, tells⟩ := handleAppContinuousTaskStop_tells has
    refine ⟨calls ++ later, by rw [later_eq, eq, List.append_assoc], ?_⟩
    intro other unnamed had gone subscriber member system
    rw [hasTask_handleAppContinuousTaskStop] at gone
    by_cases same : other = uid
    · subst same
      have present : subscriber ∈ after.bgTaskSubscribers := announces.subscribers ▸ member
      exact List.mem_append_right _ (tells subscriber present system)
    · exact List.mem_append_left _
        (told other (by simp [same, unnamed]) had gone subscriber member system)

theorem told_at_end {uid : Int} (announces : Announces (fun other => other = uid) before after) :
    Announces (fun _ => False) before (after.handleAppContinuousTaskStop uid) :=
  (announces.mono (fun _ => Or.inl)).tell

/-- Nothing is held back about the app of a task that ended before the news. -/
theorem stopAndSave (env : Env)
    (announces : Announces (fun other => other = record.uid) before after) :
    Announces (fun _ => False) before (after.stopAndSave env record) :=
  announces.told_at_end.trans (of_quiet (quiet_saveTasks _ env))

/-! ## Operations that end tasks -/

theorem stopByTask (env : Env) (continuousTaskId : Int) :
    Announces (fun _ => False) s (s.stopBackgroundRunningByTask env continuousTaskId).2 := by
  unfold stopBackgroundRunningByTask
  split
  · exact refl s
  · rename_i key record search
    have found := (taskAt_of_findTask s key record search).1
    have told : Announces (fun other => other = record.uid) s
        (s.onContinuousTaskChanged record .taskCancel) := changed record .taskCancel
    have erased : Announces (fun other => other = record.uid)
        (s.onContinuousTaskChanged record .taskCancel)
        ((s.onContinuousTaskChanged record .taskCancel).eraseRecord key) := erase found rfl
    exact ((told.trans erased).trans (of_quiet (quiet_cancelNotification _ env record))).stopAndSave
      env

theorem stopTasks (env : Env) (ids : List Int) :
    Announces (fun _ => False) s (BgContinuousTaskMgr.stopTasks env ids s).2 := by
  induction ids generalizing s with
  | nil => exact refl s
  | cons continuousTaskId rest ih =>
      have first : Announces (fun _ => False) s
          (s.stopBackgroundRunningByTask env continuousTaskId).2 := stopByTask env continuousTaskId
      unfold BgContinuousTaskMgr.stopTasks
      dsimp only
      split
      · exact first
      · exact first.trans ih

theorem stopInner (env : Env) (uid : Int) (abilityName : String)
    (abilityId continuousTaskId : Int) : Announces (fun _ => False) s
      (s.stopBackgroundRunningInner env uid abilityName abilityId continuousTaskId).2 := by
  unfold stopBackgroundRunningInner
  split
  · split
    · exact refl s
    · exact stopByTask env continuousTaskId
  · split
    · exact refl s
    · exact stopTasks env _

theorem endTask {mark : ContinuousTaskRecord → ContinuousTaskRecord}
    {cancel : ContinuousTaskRecord → BgContinuousTaskMgr → BgContinuousTaskMgr}
    (cancels : ∀ record, OnlyTools (cancel record)) (found : s.taskAt key = some record)
    (named : except record.uid) : Announces except s (s.endTask mark cancel key record) := by
  have told : Announces except s (s.onContinuousTaskChanged (mark record) .taskCancel) :=
    changed (mark record) .taskCancel
  have cancelled : Announces except s
      (cancel record (s.onContinuousTaskChanged (mark record) .taskCancel)) :=
    told.trans (only (cancels record))
  have stored : (cancel record (s.onContinuousTaskChanged (mark record) .taskCancel)).taskAt key =
      some record := by
    rw [((cancels record).quiet _).taskAt]
    exact found
  exact cancelled.trans (erase stored named)

theorem endTasks {chosen : ContinuousTaskRecord → Bool}
    {mark : ContinuousTaskRecord → ContinuousTaskRecord}
    {cancel finish : ContinuousTaskRecord → BgContinuousTaskMgr → BgContinuousTaskMgr}
    (cancels : ∀ record, OnlyTools (cancel record))
    (finishes : ∀ record before after, Announces (fun other => other = record.uid) before after →
      Announces (fun _ => False) before (finish record after)) :
    Announces (fun _ => False) s (s.endTasks chosen mark cancel finish) := by
  have step : ∀ key record current, current.taskAt key = some record →
      Announces (fun _ => False) s current → Announces (fun _ => False) s
        (if chosen record then finish record (current.endTask mark cancel key record)
          else current) := by
    intro key record current found early
    split
    · exact early.trans (finishes record current _ (endTask cancels found rfl))
    · exact early
  exact KeyedMap.forEach_invariant step s (refl s)

theorem endTasks_stopAndSave (env : Env) {chosen : ContinuousTaskRecord → Bool}
    {mark : ContinuousTaskRecord → ContinuousTaskRecord}
    {cancel : ContinuousTaskRecord → BgContinuousTaskMgr → BgContinuousTaskMgr}
    (cancels : ∀ record, OnlyTools (cancel record)) :
    Announces (fun _ => False) s
      (s.endTasks chosen mark cancel (BgContinuousTaskMgr.stopAndSave env)) :=
  endTasks cancels (fun _ _ _ held => held.stopAndSave env)

/-- A loop over tasks of one app, which is told of at the end. -/
theorem endTasks_of_uid (env : Env) {uid : Int} {chosen : ContinuousTaskRecord → Bool}
    {mark : ContinuousTaskRecord → ContinuousTaskRecord}
    {cancel : ContinuousTaskRecord → BgContinuousTaskMgr → BgContinuousTaskMgr}
    (cancels : ∀ record, OnlyTools (cancel record))
    (own : ∀ record, chosen record = true → record.uid = uid) :
    Announces (fun _ => False) s ((s.endTasks chosen mark cancel
      (fun _ => saveTasks env)).handleAppContinuousTaskStop uid) := by
  have step : ∀ key record current, current.taskAt key = some record →
      Announces (fun other => other = uid) s current → Announces (fun other => other = uid) s
        (if chosen record then (current.endTask mark cancel key record).saveTasks env
          else current) := by
    intro key record current found early
    split
    · rename_i picked
      exact (early.trans (endTask cancels found (own record picked))).trans
        (of_quiet (quiet_saveTasks _ env))
    · exact early
  have looped : Announces (fun other => other = uid) s
      (s.endTasks chosen mark cancel (fun _ => saveTasks env)) :=
    KeyedMap.forEach_invariant step s (refl s)
  exact looped.told_at_end

theorem reason (key : String) (reason : StopReason) (detailed : Int) :
    Announces except s (s.setReason key reason detailed) := by
  unfold setReason
  split
  · exact refl s
  · rename_i record found
    exact edit found rfl

theorem handleStop (env : Env) (uid : Int) (taskType : Nat) (key : String) :
    Announces (fun _ => False) s (s.handleStopContinuousTask env uid taskType key) := by
  unfold handleStopContinuousTask
  split
  · refine endTasks_of_uid env (onlyTools_cancelMainAndSub env) ?_
    intro record picked
    simp only [Bool.and_eq_true, beq_iff_eq] at picked
    exact picked.1
  split
  · refine endTasks_of_uid env (onlyTools_cancelMainAndSub env) ?_
    intro record picked
    simpa using picked
  split
  · exact refl s
  · exact (reason _ _ _).trans (stopByTask env _)

theorem removeByMode (env : Env) (mode : Nat) :
    Announces (fun _ => False) s (s.handleRemoveTaskByMode env mode) := by
  refine endTasks (fun _ current => ⟨current.tools, rfl⟩) ?_
  intro record before after held
  exact (held.stopAndSave env).trans (of_quiet (quiet_cancelNotification _ env record))

theorem suspendAudio (env : Env) (uid : Int) (found : s.taskAt key = some record) :
    Announces (fun other => other = uid) s
      (BgContinuousTaskMgr.suspendAudio env uid key record s) := by
  unfold BgContinuousTaskMgr.suspendAudio
  dsimp only
  split
  · rename_i concerned
    have stored := taskAt_setRecord_self s key (undetected record) found
    have undetects : Announces (fun other => other = uid) s
        (s.setRecord key (undetected record)) := edit found rfl
    have cancelled : Announces (fun other => other = uid) s
        ((s.setRecord key (undetected record)).cancelPair env record.mainPair) :=
      undetects.trans (of_quiet (quiet_cancelPair _ env record.mainPair))
    split
    · exact cancelled.trans (of_same rfl (fun _ => rfl) ⟨_, rfl⟩)
    split
    · have suspends : Announces (fun other => other = uid)
          ((s.setRecord key (undetected record)).cancelPair env record.mainPair)
          (((s.setRecord key (undetected record)).cancelPair env record.mainPair).setRecord key
            (audioSuspended (undetected record))) := edit stored rfl
      exact ((cancelled.trans suspends).trans (changed _ .taskSuspend)).trans
        (of_quiet (quiet_saveTasks _ env))
    · have ends : Announces (fun other => other = uid)
          (((s.setRecord key (undetected record)).cancelPair env
            record.mainPair).onContinuousTaskChanged
              (markFrozen ContinuousTaskCancelReason.systemCancelAudioPlaybackNotRunning
                (undetected record)) .taskCancel)
          ((((s.setRecord key (undetected record)).cancelPair env
            record.mainPair).onContinuousTaskChanged
              (markFrozen ContinuousTaskCancelReason.systemCancelAudioPlaybackNotRunning
                (undetected record)) .taskCancel).eraseRecord key) := erase stored concerned.1
      exact ((cancelled.trans (changed _ .taskCancel)).trans ends).trans
        (of_quiet (quiet_saveTasks _ env))
  · exact refl s

theorem handleSuspendAudio (env : Env) (uid : Int) :
    Announces (fun _ => False) s (s.handleSuspendContinuousAudioTask env uid) := by
  have step : ∀ key record current, current.taskAt key = some record →
      Announces (fun other => other = uid) s current → Announces (fun other => other = uid) s
        (BgContinuousTaskMgr.suspendAudio env uid key record current) :=
    fun _ _ _ found early => early.trans (suspendAudio env uid found)
  have looped : Announces (fun other => other = uid) s
      (s.forEachTask (BgContinuousTaskMgr.suspendAudio env uid)) :=
    KeyedMap.forEach_invariant step s (refl s)
  exact looped.told_at_end

theorem appStopped (env : Env) (uid : Int) :
    Announces (fun _ => False) s (s.onAppStopped env uid) := by
  unfold onAppStopped
  split
  · exact refl s
  have ended : Announces (fun _ => False) s
      (s.endTasks (fun record => record.uid == uid) markSystemCancel (cancelExisting env)
        (BgContinuousTaskMgr.stopAndSave env)) :=
    endTasks_stopAndSave env (onlyTools_cancelExisting env)
  dsimp only
  split
  · exact ended
  · exact ended.trans (of_quiet (quiet_removeBanners _ env _))

theorem canceled (env : Env) (pair : String × Int) (deleteReason : DeleteReason) :
    Announces (fun _ => False) s (s.onCanceled env pair deleteReason) := by
  unfold onCanceled
  split
  · exact refl s
  split
  · exact refl s
  have withdrawn : Announces (fun _ => False) s (s.setTools (s.tools.withdraw pair)) :=
    of_quiet (quiet_setTools s _)
  refine withdrawn.trans ?_
  unfold cancelNotificationByBgTask
  split
  · exact of_quiet (quiet_stopBannerContinuousTaskByUser _ env _)
  split
  · exact refl _
  unfold stopContinuousTaskByUser stopContinuousTaskByUserInner
  dsimp only
  split
  · exact refl _
  split
  · exact reason _ _ _
  split
  · exact reason _ _ _
  · exact (reason _ _ _).trans (endTasks_stopAndSave env (onlyTools_cancelOther env _))

/-- What was held back about the apps in a list is told one after the other. -/
theorem tellAll {uids : List Int} (announces : Announces (fun uid => uid ∈ uids) before after) :
    Announces (fun _ => False) before
      (uids.foldl (fun current uid => current.handleAppContinuousTaskStop uid) after) := by
  induction uids generalizing after with
  | nil => exact announces.mono (fun uid listed => absurd listed (by simp))
  | cons uid rest ih =>
      refine ih (Announces.tell (announces.mono ?_))
      intro other listed
      exact List.mem_cons.mp listed

theorem dumpCancelAll (env : Env) : Announces (fun _ => False) s (s.dumpCancelAll env) := by
  unfold BgContinuousTaskMgr.dumpCancelAll
  dsimp only
  refine tellAll (trans ?_ (of_quiet (quiet_saveTasks _ env)))
  have step : ∀ key record current, current.taskAt key = some record →
      Announces (fun _ => False) s current →
      Announces (fun _ => False) s (dumpCancel env key record current) := by
    intro key record current _ early
    have cancelled : Announces (fun _ => False) current (current.cancelPair env record.mainPair) :=
      of_quiet (quiet_cancelPair current env record.mainPair)
    exact (early.trans cancelled).trans (changed record .taskCancel)
  have looped : Announces (fun _ => False) s (s.forEachTask (dumpCancel env)) :=
    KeyedMap.forEach_invariant step s (refl s)
  obtain ⟨calls, appended, -⟩ := looped.told
  refine of_kept looped.subscribers ?_ ⟨calls, appended⟩ ?_
  · intro key record found
    exact absurd ((AList.lookup_empty key).symm.trans found) (by simp)
  · intro uid unlisted ⟨key, record, found, own⟩
    refine absurd ?_ unlisted
    rw [List.mem_insertionSort, List.mem_dedup]
    exact List.mem_map.mpr ⟨record, KeyedMap.mem_vals.mpr ⟨key, found⟩, own⟩

end Announces

/-! ## Tasks that an operation ends -/

def taskWithId (id : Int) (s : BgContinuousTaskMgr) : Option (String × ContinuousTaskRecord) :=
  s.findTask (fun _ task => task.continuousTaskId == id)

def CancelSucceeds (env : Env) (record : ContinuousTaskRecord) : Prop :=
  record.notificationId = -1 ∨ (env.cancelOk record.mainPair.1 record.mainPair.2 = true ∧
    env.cancelOk record.subPair.1 record.subPair.2 = true)

/-- A stop by ability ends the task: ids tell tasks apart, and no cancellation fails for a task
of the ability that comes before it. -/
def EndedByContext (env : Env) (uid : Int) (abilityName : String) (abilityId : Int)
    (record : ContinuousTaskRecord) (s : BgContinuousTaskMgr) : Prop :=
  IdDetermines s.taskAt ∧ ∃ front back, (KeyedMap.vals s.continuousTaskInfosMap).filter
    (inContext uid abilityName abilityId) = front ++ record :: back ∧
      ∀ task ∈ front, CancelSucceeds env task

def EndedByStop (env : Env) (uid : Int) (abilityName : String) (abilityId continuousTaskId : Int)
    (key : String) (record : ContinuousTaskRecord) (s : BgContinuousTaskMgr) : Prop :=
  if continuousTaskId ≠ -1 then taskWithId continuousTaskId s = some (key, record)
  else EndedByContext env uid abilityName abilityId record s

def EndedByKey (named key : String) (record : ContinuousTaskRecord) (s : BgContinuousTaskMgr) :
    Prop :=
  ∃ task, s.taskAt named = some task ∧
    taskWithId task.continuousTaskId s = some (key, record)

def EndedByType (uid : Int) (taskType : Nat) (named key : String) (record : ContinuousTaskRecord)
    (s : BgContinuousTaskMgr) : Prop :=
  if taskType = BackgroundMode.dataTransfer then
    record.uid = uid ∧ checkExistMode record.bgModeIds taskType = true
  else if taskType = allModes then record.uid = uid
  else EndedByKey named key record s

def EndsTask (env : Env) (op : TaskOp) (key : String) (record : ContinuousTaskRecord)
    (s : BgContinuousTaskMgr) : Prop :=
  match op with
  | .client callingUid (.stopBackgroundRunning abilityName abilityId continuousTaskId) =>
      s.isSysReady = true ∧ abilityName ≠ "" ∧
        EndedByStop env callingUid abilityName abilityId continuousTaskId key record s
  | .requestBackgroundRunningForInner callingUid taskParam =>
      s.isSysReady = true ∧ checkPermissionForInner taskParam callingUid = true ∧
        taskParam.isStart = false ∧ EndedByContext env taskParam.uid
          (getAbilityNamePid env taskParam (innerPid env taskParam) callingUid)
          taskParam.abilityId record s
  | .debugContinuousTask taskParam =>
      s.isSysReady = true ∧ taskParam.isStart = false ∧ EndedByContext env taskParam.uid
        (getAbilityNamePid env taskParam (innerPid env taskParam) 0) taskParam.abilityId record s
  | .stopContinuousTask uid taskType named =>
      s.isSysReady = true ∧ EndedByType uid taskType named key record s
  | .suspendContinuousTask uid _ named isStandby =>
      s.isSysReady = true ∧ isStandby = false ∧
        s.isExistCallback uid continuousTaskSuspend = false ∧ EndedByKey named key record s
  | .suspendContinuousAudioTask uid =>
      s.isSysReady = true ∧ s.isExistCallback uid continuousTaskSuspend = true ∧
        audioChosen uid record = true ∧ record.suspendAudioTaskTimes ≠ 0
  | .onAbilityStateChanged uid abilityName abilityId =>
      s.isSysReady = true ∧ abilityName ≠ "" ∧
        EndedByContext env uid abilityName abilityId record s
  | .onAppStopped uid => s.isSysReady = true ∧ record.uid = uid
  | .onBundleInfoChanged action _ uid _ _ =>
      s.isSysReady = true ∧ action = .dataCleared ∧ record.uid = uid
  | .onAccountsStateChanged =>
      ∃ ids, env.activatedOsAccountIds = some ids ∧ record.userId ∉ ids
  | .onRemoveSystemAbility mode =>
      s.isSysReady = true ∧ (mode = BackgroundMode.voip ∨ mode = BackgroundMode.workout ∨
        mode = BackgroundMode.audioPlayback) ∧ record.isFromWebview = true ∧
        checkExistMode record.bgModeIds mode = true
  | .onCanceled pair deleteReason =>
      s.isSysReady = true ∧ deleteReason ≠ .appCancel ∧ ∃ named task,
        namedKey pair s = some named ∧ s.taskAt named = some task ∧
          task.notificationId ≠ -1 ∧ record.mainPair = task.mainPair
  | .shellDumpCancel none => s.isSysReady = true
  | .shellDumpCancel (some named) => s.isSysReady = true ∧ EndedByKey named key record s
  | _ => False

section Ends

variable {env : Env} {s : BgContinuousTaskMgr} {key other : String}
  {record : ContinuousTaskRecord}

theorem taskAt_stopByTask {id : Int} (search : taskWithId id s = some (key, record)) :
    (s.stopBackgroundRunningByTask env id).2.taskAt other =
      if other = key then none else s.taskAt other := by
  have found : s.findTask (fun _ task => task.continuousTaskId == id) = some (key, record) := search
  unfold stopBackgroundRunningByTask
  rw [found]
  dsimp only
  rw [(quiet_saveTasks _ env).taskAt, taskAt_handleAppContinuousTaskStop,
    (quiet_cancelNotification _ env record).taskAt, taskAt_eraseRecord]
  rfl

theorem stopByTask_ret {id : Int} (search : taskWithId id s = some (key, record))
    (succeeds : CancelSucceeds env record) : (s.stopBackgroundRunningByTask env id).1 = .ok := by
  have found : s.findTask (fun _ task => task.continuousTaskId == id) = some (key, record) := search
  unfold stopBackgroundRunningByTask
  rw [found]
  dsimp only
  unfold cancelNotification
  dsimp only
  split
  · rfl
  · rename_i shown
    obtain ⟨main, sub⟩ := succeeds.resolve_left (by
      intro none
      exact shown (by simp [none]))
    unfold NotificationTools.cancelNotification
    rw [if_pos main, if_pos sub]
    split
    · rfl
    · rfl

theorem taskWithId_of_found (determines : IdDetermines s.taskAt)
    (found : s.taskAt key = some record) :
    taskWithId record.continuousTaskId s = some (key, record) := by
  unfold taskWithId
  cases search : s.findTask (fun _ task => task.continuousTaskId == record.continuousTaskId) with
  | none =>
      have missed := findTask_eq_none s key record search found
      simp at missed
  | some hit =>
      obtain ⟨hitKey, hitRecord⟩ := hit
      obtain ⟨stored, same⟩ := taskAt_of_findTask s hitKey hitRecord search
      obtain rfl := determines hitKey hitRecord key record stored found (by simpa using same)
      obtain rfl := Option.some.inj (stored.symm.trans found)
      rfl

theorem IdDetermines.stopByTask (determines : IdDetermines s.taskAt) (id : Int) :
    IdDetermines (s.stopBackgroundRunningByTask env id).2.taskAt :=
  determines.of_origin (fun _ record left =>
    ⟨record, taskAt_of_stopBackgroundRunningByTask env id left,
      ContinuousTaskRecord.SameTask.refl record⟩)

theorem stopTasks_gone {ids : List Int} (gone : s.taskAt key = none) :
    (stopTasks env ids s).2.taskAt key = none := by
  refine Option.eq_none_iff_forall_ne_some.mpr ?_
  intro record left
  have edits : Edits (fun _ => True) (fun _ => True) s (stopTasks env ids s).2 :=
    edits_stopTasks env ids (fun _ _ _ _ => trivial)
  obtain ⟨old, stored, -⟩ := (Edits.traces edits).origin key record left
  exact absurd (gone.symm.trans stored) (by simp)

theorem stopTasks_ends_first {id : Int} {rest : List Int}
    (search : taskWithId id s = some (key, record)) :
    (stopTasks env (id :: rest) s).2.taskAt key = none := by
  have gone : (s.stopBackgroundRunningByTask env id).2.taskAt key = none := by
    rw [taskAt_stopByTask search, if_pos rfl]
  unfold stopTasks
  dsimp only
  split
  · exact gone
  · exact stopTasks_gone gone

/-- A task ends in the loop when the cancellations before it do not fail. -/
theorem stopTasks_ends {front back : List ContinuousTaskRecord}
    (determines : IdDetermines s.taskAt)
    (distinct : ((front ++ record :: back).map
      (fun record => record.continuousTaskId)).Nodup)
    (present : ∀ task ∈ front, ∃ key, s.taskAt key = some task)
    (succeed : ∀ task ∈ front, CancelSucceeds env task) (found : s.taskAt key = some record) :
    (stopTasks env ((front ++ record :: back).map
      (fun record => record.continuousTaskId)) s).2.taskAt key = none := by
  induction front generalizing s with
  | nil => exact stopTasks_ends_first (taskWithId_of_found determines found)
  | cons head rest ih =>
      obtain ⟨headKey, headFound⟩ := present head List.mem_cons_self
      have search := taskWithId_of_found determines headFound
      obtain ⟨fresh, distinctRest⟩ := List.nodup_cons.mp distinct
      have left : ∀ other, (s.stopBackgroundRunningByTask env head.continuousTaskId).2.taskAt other =
          if other = headKey then none else s.taskAt other :=
        fun other => taskAt_stopByTask search
      have away : ∀ other task, s.taskAt other = some task → task ∈ rest ++ record :: back →
          other ≠ headKey := by
        rintro other task stored member rfl
        obtain rfl := Option.some.inj (headFound.symm.trans stored)
        exact fresh (List.mem_map.mpr ⟨head, member, rfl⟩)
      rw [List.cons_append, List.map_cons]
      unfold stopTasks
      dsimp only
      rw [if_neg (by simp [stopByTask_ret search (succeed head List.mem_cons_self)])]
      refine ih (determines.stopByTask _) distinctRest ?_
        (fun task member => succeed task (List.mem_cons_of_mem _ member)) ?_
      · intro task member
        obtain ⟨other, stored⟩ := present task (List.mem_cons_of_mem _ member)
        have apart := away other task stored (List.mem_append_left _ member)
        exact ⟨other, by rw [left, if_neg apart, stored]⟩
      · have apart := away key record found (by simp)
        rw [left, if_neg apart, found]

theorem stopByContext_ends {uid : Int} {abilityName : String} {abilityId : Int}
    (found : s.taskAt key = some record)
    (ends : EndedByContext env uid abilityName abilityId record s) :
    (s.stopBackgroundRunningByContext env uid abilityName abilityId).2.taskAt key = none := by
  obtain ⟨determines, front, back, listed, succeed⟩ := ends
  unfold stopBackgroundRunningByContext
  rw [listed]
  refine stopTasks_ends determines ?_ ?_ succeed found
  · have distinct : ((KeyedMap.vals s.continuousTaskInfosMap).map
        (fun record => record.continuousTaskId)).Nodup := distinctIds_of_idDetermines determines
    rw [← listed]
    exact distinct.sublist (List.filter_sublist.map _)
  · intro task member
    have kept : task ∈ (KeyedMap.vals s.continuousTaskInfosMap).filter
        (inContext uid abilityName abilityId) := by
      rw [listed]
      exact List.mem_append_left _ member
    exact KeyedMap.mem_vals.mp (List.mem_filter.mp kept).1

/-- The task that a stop by id finds is the same after its record was edited. -/
theorem taskWithId_setRecord {id : Int} {named : String} {task edited : ContinuousTaskRecord}
    (stored : s.taskAt named = some task) (same : edited.continuousTaskId = task.continuousTaskId) :
    (taskWithId id (s.setRecord named edited)).map Prod.fst = (taskWithId id s).map Prod.fst := by
  unfold taskWithId findTask setRecord KeyedMap.adjust KeyedMap.mapVal
  dsimp only
  rw [List.find?_map, Option.map_map, Option.map_map, Option.map_map]
  have test : ∀ entry ∈ s.continuousTaskInfosMap.entries,
      ((if entry.1 = named then edited else entry.2).continuousTaskId == id) =
        (entry.2.continuousTaskId == id) := by
    rintro ⟨entryKey, entryTask⟩ listed
    dsimp only
    split
    · rename_i here
      subst here
      have found : s.taskAt entryKey = some entryTask := KeyedMap.mem_entries_iff.mp listed
      obtain rfl := Option.some.inj (stored.symm.trans found)
      rw [same]
    · rfl
  have found : s.continuousTaskInfosMap.entries.find? (fun entry =>
      (if entry.1 = named then edited else entry.2).continuousTaskId == id) =
        s.continuousTaskInfosMap.entries.find? (fun entry => entry.2.continuousTaskId == id) :=
    List.find?_congr test
  exact congrArg (Option.map fun entry : (_ : String) × ContinuousTaskRecord => entry.1) found

theorem taskWithId_setReason {id : Int} {named : String} {reason : StopReason} {detailed : Int}
    (search : taskWithId id s = some (key, record)) :
    ∃ edited, taskWithId id (s.setReason named reason detailed) = some (key, edited) := by
  unfold setReason
  split
  · exact ⟨record, search⟩
  · rename_i task stored
    let edited := { task with
      reason := reason
      detailedCancelReason :=
        if detailed ≠ ContinuousTaskCancelReason.invalidReason then detailed
        else task.detailedCancelReason }
    have same : (taskWithId id (s.setRecord named edited)).map Prod.fst =
        (taskWithId id s).map Prod.fst := taskWithId_setRecord stored rfl
    rw [search] at same
    obtain ⟨⟨hitKey, hit⟩, found, rfl⟩ := Option.map_eq_some_iff.mp same
    exact ⟨hit, found⟩

theorem endTasks_ends {chosen : ContinuousTaskRecord → Bool}
    {mark : ContinuousTaskRecord → ContinuousTaskRecord}
    {cancel finish : ContinuousTaskRecord → BgContinuousTaskMgr → BgContinuousTaskMgr}
    (cancels : ∀ record, OnlyTools (cancel record))
    (finishes : ∀ record current key, (finish record current).taskAt key = current.taskAt key)
    (found : s.taskAt key = some record) (picked : chosen record = true) :
    (s.endTasks chosen mark cancel finish).taskAt key = none := by
  rw [taskAt_endTasks cancels finishes, found]
  exact if_pos picked

theorem stopByKey_ends {named : String} {task : ContinuousTaskRecord}
    (stored : s.taskAt named = some task) (ends : EndedByKey named key record s) :
    (s.stopBackgroundRunningByTask env task.continuousTaskId).2.taskAt key = none := by
  obtain ⟨other, stored', search⟩ := ends
  obtain rfl := Option.some.inj (stored.symm.trans stored')
  rw [taskAt_stopByTask search, if_pos rfl]

theorem handleStop_ends {uid : Int} {taskType : Nat} {named : String}
    (found : s.taskAt key = some record) (ends : EndedByType uid taskType named key record s) :
    (s.handleStopContinuousTask env uid taskType named).taskAt key = none := by
  unfold EndedByType at ends
  unfold handleStopContinuousTask
  have saved : ∀ (record : ContinuousTaskRecord) (current : BgContinuousTaskMgr) (key : String),
      (current.saveTasks env).taskAt key = current.taskAt key :=
    fun _ current => (quiet_saveTasks current env).taskAt
  split
  · rename_i transfer
    rw [if_pos transfer] at ends
    unfold removeContinuousTaskRecordByUidAndMode
    rw [taskAt_handleAppContinuousTaskStop]
    exact endTasks_ends (onlyTools_cancelMainAndSub env) saved found (by simp [ends])
  rename_i other
  rw [if_neg other] at ends
  split
  · rename_i all
    rw [if_pos all] at ends
    unfold removeContinuousTaskRecordByUid
    rw [taskAt_handleAppContinuousTaskStop]
    exact endTasks_ends (onlyTools_cancelMainAndSub env) saved found (by simp [ends])
  rename_i single
  rw [if_neg single] at ends
  obtain ⟨task, stored, search⟩ := ends
  have lookup : s.continuousTaskInfosMap.lookup named = some task := stored
  rw [lookup]
  dsimp only
  generalize (task.bgModeIds.head?.map getDetailedCancelReasonFromMode).getD
    ContinuousTaskCancelReason.invalidReason = detailed
  obtain ⟨edited, searched⟩ := @taskWithId_setReason s key record task.continuousTaskId named
    .freezeCancel detailed search
  rw [taskAt_stopByTask searched, if_pos rfl]

theorem taskAt_handleSuspendAudio (uid : Int) (key : String) :
    (s.handleSuspendContinuousAudioTask env uid).taskAt key = (s.taskAt key).bind
      (audioChange uid (s.isExistCallback uid continuousTaskSuspend) key) := by
  unfold handleSuspendContinuousAudioTask
  rw [taskAt_handleAppContinuousTaskStop]
  refine KeyedMap.lookup_forEach (fun current => current.bgTaskSubscribers = s.bgTaskSubscribers)
    ?_ ?_ ?_ s rfl key
  · intro key record current found other different
    show (suspendAudio env uid key record current).taskAt other = current.taskAt other
    cases chosen : audioChosen uid record with
    | true => rw [(suspendAudio_of_chosen current chosen found).2.2, if_neg different]
    | false => rw [suspendAudio_of_not_chosen current chosen]
  · intro key record current found same
    cases chosen : audioChosen uid record with
    | true => rw [(suspendAudio_of_chosen current chosen found).1, same]
    | false => rw [suspendAudio_of_not_chosen current chosen, same]
  · intro key record current found same
    show (suspendAudio env uid key record current).taskAt key = _
    unfold audioChange
    cases chosen : audioChosen uid record with
    | true =>
        have callback : current.isExistCallback uid continuousTaskSuspend =
            s.isExistCallback uid continuousTaskSuspend := by
          unfold isExistCallback
          rw [same]
        rw [(suspendAudio_of_chosen current chosen found).2.2, if_pos rfl, callback]
        rfl
    | false =>
        rw [suspendAudio_of_not_chosen current chosen]
        exact found

theorem canceled_ends {pair : String × Int} {deleteReason : DeleteReason} {named : String}
    {task : ContinuousTaskRecord} (ready : s.isSysReady = true)
    (outside : deleteReason ≠ .appCancel) (label : namedKey pair s = some named)
    (stored : s.taskAt named = some task) (given : task.notificationId ≠ -1)
    (found : s.taskAt key = some record) (shared : record.mainPair = task.mainPair) :
    (s.onCanceled env pair deleteReason).taskAt key = none := by
  unfold namedKey at label
  obtain ⟨notification, listed, decodes⟩ := Option.bind_eq_some_iff.mp label
  obtain ⟨⟨decodedKey, isSubNotification⟩, decoded, rfl⟩ := Option.map_eq_some_iff.mp decodes
  unfold onCanceled
  rw [listed]
  dsimp only
  rw [if_neg outside]
  unfold cancelNotificationByBgTask
  rw [isBannerLabel_of_keyOfLabel decoded, decoded]
  dsimp only
  rw [if_neg (by simp), if_neg outside]
  unfold stopContinuousTaskByUser
  rw [if_neg (show ¬ (!(s.setTools (s.tools.withdraw pair)).isSysReady) = true by
    simp [setTools, ready])]
  dsimp only
  generalize (if deleteReason = DeleteReason.notUpdated then
      ContinuousTaskCancelReason.systemCancelDataTransferNotUpdate
    else ContinuousTaskCancelReason.userCancelRemoveNotification) = detailed
  have same := sameTasks_setReason (s.setTools (s.tools.withdraw pair)) decodedKey
    .removeNotificationCancel detailed
  obtain ⟨task', stored', taskNotices⟩ := same.forward decodedKey task stored
  obtain ⟨record', found', recordNotices⟩ := same.forward key record found
  have lookup : ((s.setTools (s.tools.withdraw pair)).setReason decodedKey
      .removeNotificationCancel detailed).continuousTaskInfosMap.lookup decodedKey = some task' :=
    stored'
  unfold stopContinuousTaskByUserInner
  rw [lookup]
  dsimp only
  have shown : task'.notificationId ≠ -1 := by
    rw [show task'.notificationId = task.notificationId from congrArg Prod.snd taskNotices.mainPair]
    exact given
  rw [if_neg shown]
  refine endTasks_ends (onlyTools_cancelOther env _)
    (fun record current => (undisturbed_stopAndSave current env record).taskAt) found' ?_
  rw [recordNotices.mainPair, taskNotices.mainPair, shared]
  exact beq_self_eq_true _

theorem taskAt_dumpCancelAll : (s.dumpCancelAll env).taskAt key = none := by
  refine Option.eq_none_iff_forall_ne_some.mpr ?_
  intro record left
  have edits : Edits (fun _ => True) (fun _ => True) (dumpCleared env s) (s.dumpCancelAll env) :=
    edits_dumpCancelAll env
  obtain ⟨old, stored, -⟩ := (Edits.traces edits).origin key record left
  exact absurd ((taskAt_dumpCleared env key).symm.trans stored) (by simp)

theorem stopInner_ends {uid : Int} {abilityName : String} {abilityId : Int}
    (found : s.taskAt key = some record)
    (ends : EndedByContext env uid abilityName abilityId record s) :
    (s.stopBackgroundRunningInner env uid abilityName abilityId (-1)).2.taskAt key = none := by
  unfold stopBackgroundRunningInner
  rw [if_neg (by simp)]
  split
  · rename_i missing
    obtain ⟨-, front, back, listed, -⟩ := ends
    have kept : record ∈ (KeyedMap.vals s.continuousTaskInfosMap).filter
        (inContext uid abilityName abilityId) := by simp [listed]
    have none : s.findTask (fun _ task => inContext uid abilityName abilityId task) = none := by
      simpa using missing
    have outside := findTask_eq_none s key record none found
    exact absurd ((List.mem_filter.mp kept).2.symm.trans outside) (by simp)
  · exact stopByContext_ends found ends

theorem stop_ends {uid : Int} {abilityName : String} {abilityId continuousTaskId : Int}
    (found : s.taskAt key = some record)
    (ends : EndedByStop env uid abilityName abilityId continuousTaskId key record s) :
    (s.stopBackgroundRunningInner env uid abilityName abilityId
      continuousTaskId).2.taskAt key = none := by
  unfold EndedByStop at ends
  by_cases given : continuousTaskId = -1
  · rw [if_neg (by simp [given])] at ends
    rw [given]
    exact stopInner_ends found ends
  · rw [if_pos given] at ends
    have present : s.findTask (fun _ task => task.continuousTaskId == continuousTaskId) =
        some (key, record) := ends
    unfold stopBackgroundRunningInner
    rw [if_pos given, present, if_neg (by simp), taskAt_stopByTask ends, if_pos rfl]

/-- What ends a task takes it out of the map. -/
theorem taskStep_ends {op : TaskOp} (found : s.taskAt key = some record)
    (ends : EndsTask env op key record s) : (s.taskStep (env, op)).taskAt key = none := by
  have saved : ∀ (record : ContinuousTaskRecord) (current : BgContinuousTaskMgr) (key : String),
      (current.stopAndSave env record).taskAt key = current.taskAt key :=
    fun record current => (undisturbed_stopAndSave current env record).taskAt
  cases op with
  | client callingUid call =>
      cases call with
      | stopBackgroundRunning abilityName abilityId continuousTaskId =>
          obtain ⟨ready, named, ends⟩ := ends
          show (s.stopBackgroundRunning env callingUid abilityName abilityId
            continuousTaskId).2.taskAt key = none
          unfold stopBackgroundRunning
          rw [if_neg (by simp [ready]), if_neg named]
          exact stop_ends found ends
      | startBackgroundRunning taskParam => exact ends.elim
      | updateBackgroundRunning taskParam => exact ends.elim
      | updateDataTransferProgress progress => exact ends.elim
  | requestBackgroundRunningForInner callingUid taskParam =>
      obtain ⟨ready, permitted, isStop, ends⟩ := ends
      show (s.requestBackgroundRunningForInner env callingUid taskParam).2.taskAt key = none
      unfold requestBackgroundRunningForInner
      rw [if_neg (by simp [ready]), if_neg (by simp [permitted]), if_neg (by simp [isStop])]
      exact stopInner_ends found ends
  | debugContinuousTask taskParam =>
      obtain ⟨ready, isStop, ends⟩ := ends
      show (s.debugContinuousTaskInner env taskParam).2.taskAt key = none
      unfold debugContinuousTaskInner
      rw [if_neg (by simp [ready]), if_neg (by simp [isStop])]
      exact stopInner_ends found ends
  | stopContinuousTask uid taskType named =>
      obtain ⟨ready, ends⟩ := ends
      show (s.stopContinuousTask env uid taskType named).taskAt key = none
      unfold stopContinuousTask
      rw [if_pos ready]
      exact handleStop_ends found ends
  | suspendContinuousTask uid mode named isStandby =>
      obtain ⟨ready, awake, deaf, ends⟩ := ends
      show (s.suspendContinuousTask env uid mode named isStandby).taskAt key = none
      unfold suspendContinuousTask
      rw [if_neg (by simp [ready])]
      dsimp only
      rw [awake, deaf]
      have single : EndedByType uid 0 named key record s := ends
      exact handleStop_ends found single
  | suspendContinuousAudioTask uid =>
      obtain ⟨ready, hears, chosen, again⟩ := ends
      show (s.suspendContinuousAudioTask env uid).taskAt key = none
      unfold suspendContinuousAudioTask
      rw [if_pos ready, taskAt_handleSuspendAudio, found, hears]
      simp [audioChange, chosen, audioOutcome, again]
  | onAbilityStateChanged uid abilityName abilityId =>
      obtain ⟨ready, named, ends⟩ := ends
      show (s.onAbilityStateChanged env uid abilityName abilityId).taskAt key = none
      unfold onAbilityStateChanged
      rw [if_neg (by simp [ready, named])]
      exact stopByContext_ends found ends
  | onAppStopped uid =>
      obtain ⟨ready, own⟩ := ends
      have gone : (s.endTasks (fun record => record.uid == uid) markSystemCancel
          (cancelExisting env) (stopAndSave env)).taskAt key = none :=
        endTasks_ends (onlyTools_cancelExisting env) saved found (by simp [own])
      show (s.onAppStopped env uid).taskAt key = none
      unfold onAppStopped
      rw [if_neg (by simp [ready])]
      dsimp only
      split
      · exact gone
      · rw [(quiet_removeBanners _ env _).taskAt]
        exact gone
  | onBundleInfoChanged action bundleName uid userId appIndex =>
      obtain ⟨ready, rfl, own⟩ := ends
      show (s.onBundleInfoChanged env .dataCleared bundleName uid userId appIndex).taskAt key = none
      unfold onBundleInfoChanged
      dsimp only
      rw [if_neg (by simp [ready])]
      exact endTasks_ends (s := { s with cachedBundleInfos := s.cachedBundleInfos.erase uid })
        (onlyTools_cancelMain env) saved found (by simp [own])
  | onAccountsStateChanged =>
      obtain ⟨ids, answered, away⟩ := ends
      show (s.onAccountsStateChanged env).taskAt key = none
      unfold onAccountsStateChanged
      rw [answered]
      exact endTasks_ends (onlyTools_cancelMain env) saved found (by simp [away])
  | onRemoveSystemAbility mode =>
      obtain ⟨ready, served, webview, hasMode⟩ := ends
      show (s.onRemoveSystemAbility env mode).taskAt key = none
      unfold onRemoveSystemAbility
      rw [if_pos (by
        rcases served with rfl | rfl | rfl
        · simp [ready]
        · simp [ready]
        · simp [ready])]
      refine endTasks_ends (fun _ current => ⟨current.tools, rfl⟩) ?_ found (by
        simp [webview, hasMode])
      intro record current key
      rw [(quiet_cancelNotification _ env record).taskAt]
      exact saved record current key
  | onCanceled pair deleteReason =>
      obtain ⟨ready, outside, named, task, label, stored, given, shared⟩ := ends
      exact canceled_ends ready outside label stored given found shared
  | shellDumpCancel taskKey =>
      show (s.shellDumpCancel env taskKey).taskAt key = none
      unfold shellDumpCancel
      cases taskKey with
      | none =>
          have ready : s.isSysReady = true := ends
          rw [if_neg (by simp [ready])]
          exact taskAt_dumpCancelAll
      | some named =>
          obtain ⟨ready, ends⟩ := ends
          obtain ⟨task, stored, -⟩ := id ends
          have lookup : s.continuousTaskInfosMap.lookup named = some task := stored
          rw [if_neg (by simp [ready])]
          dsimp only
          rw [lookup]
          exact stopByKey_ends stored ends
  | _ => exact ends.elim

/-- What ends a task tells of every app that it leaves without one. -/
theorem taskStep_announces {op : TaskOp} (ends : EndsTask env op key record s) :
    Announces (fun _ => False) s (s.taskStep (env, op)) := by
  cases op with
  | client callingUid call =>
      cases call with
      | stopBackgroundRunning abilityName abilityId continuousTaskId =>
          show Announces _ s (s.stopBackgroundRunning env callingUid abilityName abilityId
            continuousTaskId).2
          unfold stopBackgroundRunning
          rw [if_neg (by simp [ends.1]), if_neg ends.2.1]
          exact Announces.stopInner env callingUid abilityName abilityId continuousTaskId
      | startBackgroundRunning taskParam => exact ends.elim
      | updateBackgroundRunning taskParam => exact ends.elim
      | updateDataTransferProgress progress => exact ends.elim
  | requestBackgroundRunningForInner callingUid taskParam =>
      obtain ⟨ready, permitted, isStop, -⟩ := ends
      show Announces _ s (s.requestBackgroundRunningForInner env callingUid taskParam).2
      unfold requestBackgroundRunningForInner
      rw [if_neg (by simp [ready]), if_neg (by simp [permitted]), if_neg (by simp [isStop])]
      exact Announces.stopInner env _ _ _ _
  | debugContinuousTask taskParam =>
      obtain ⟨ready, isStop, -⟩ := ends
      show Announces _ s (s.debugContinuousTaskInner env taskParam).2
      unfold debugContinuousTaskInner
      rw [if_neg (by simp [ready]), if_neg (by simp [isStop])]
      exact Announces.stopInner env _ _ _ _
  | stopContinuousTask uid taskType named =>
      show Announces _ s (s.stopContinuousTask env uid taskType named)
      unfold stopContinuousTask
      rw [if_pos ends.1]
      exact Announces.handleStop env uid taskType named
  | suspendContinuousTask uid mode named isStandby =>
      obtain ⟨ready, awake, deaf, -⟩ := ends
      show Announces _ s (s.suspendContinuousTask env uid mode named isStandby)
      unfold suspendContinuousTask
      rw [if_neg (by simp [ready])]
      dsimp only
      rw [awake, deaf]
      exact Announces.handleStop env uid 0 named
  | suspendContinuousAudioTask uid =>
      show Announces _ s (s.suspendContinuousAudioTask env uid)
      unfold suspendContinuousAudioTask
      rw [if_pos ends.1]
      exact Announces.handleSuspendAudio env uid
  | onAbilityStateChanged uid abilityName abilityId =>
      show Announces _ s (s.onAbilityStateChanged env uid abilityName abilityId)
      unfold onAbilityStateChanged
      rw [if_neg (by simp [ends.1, ends.2.1])]
      exact Announces.stopTasks env _
  | onAppStopped uid => exact Announces.appStopped env uid
  | onBundleInfoChanged action bundleName uid userId appIndex =>
      obtain ⟨ready, rfl, -⟩ := ends
      show Announces _ s (s.onBundleInfoChanged env .dataCleared bundleName uid userId appIndex)
      unfold onBundleInfoChanged
      dsimp only
      rw [if_neg (by simp [ready])]
      have uncached : Announces (fun _ => False) s
          { s with cachedBundleInfos := s.cachedBundleInfos.erase uid } :=
        Announces.of_same rfl (fun _ => rfl) ⟨[], (List.append_nil _).symm⟩
      exact uncached.trans (Announces.endTasks_stopAndSave env (onlyTools_cancelMain env))
  | onAccountsStateChanged =>
      obtain ⟨ids, answered, -⟩ := ends
      show Announces _ s (s.onAccountsStateChanged env)
      unfold onAccountsStateChanged
      rw [answered]
      exact Announces.endTasks_stopAndSave env (onlyTools_cancelMain env)
  | onRemoveSystemAbility mode =>
      show Announces _ s (s.onRemoveSystemAbility env mode)
      unfold onRemoveSystemAbility
      split
      · exact Announces.removeByMode env mode
      · exact Announces.refl s
  | onCanceled pair deleteReason => exact Announces.canceled env pair deleteReason
  | shellDumpCancel taskKey =>
      show Announces _ s (s.shellDumpCancel env taskKey)
      unfold shellDumpCancel
      split
      · exact Announces.refl s
      split
      · exact Announces.dumpCancelAll env
      split
      · exact Announces.refl s
      · exact Announces.stopByTask env _
  | _ => exact ends.elim

end Ends

/-! ## Runs -/

/-- In every run of the service, an operation that ends every task of an app, those already
suspended too, tells each system ability that the app has no task left. -/
theorem run_app_stop_told (hash : String → Nat) (labels : List (Env × ServiceOp)) (env : Env)
    (op : TaskOp) (uid : Int)
    (active : HasActiveTask uid (StepSystem.run serviceStep (installed hash) labels))
    (whole : ∀ key record,
      (StepSystem.run serviceStep (installed hash) labels).taskAt key = some record →
      record.uid = uid →
      EndsTask env op key record (StepSystem.run serviceStep (installed hash) labels)) :
    ¬ HasActiveTask uid
        ((StepSystem.run serviceStep (installed hash) labels).taskStep (env, op)) ∧
      AppStopTold uid (callsSince (StepSystem.run serviceStep (installed hash) labels)
        ((StepSystem.run serviceStep (installed hash) labels).taskStep (env, op)))
        (StepSystem.run serviceStep (installed hash) labels) := by
  generalize StepSystem.run serviceStep (installed hash) labels = before at active whole ⊢
  obtain ⟨key, record, found, own, awake⟩ := active
  have announces : Announces (fun _ => False) before (before.taskStep (env, op)) :=
    taskStep_announces (whole key record found own)
  -- an operation that ends a task starts none, so what it left of the app was there before
  have gone : ¬ HasTask uid (before.taskStep (env, op)) := by
    rintro ⟨other, left, lookup, mine⟩
    obtain ⟨old, stored, same⟩ := announces.origin other left lookup
    have ended := taskStep_ends stored (whole other old stored (same.trans mine))
    exact absurd (ended.symm.trans lookup) (by simp)
  refine ⟨?_, announces.told_since id ⟨key, record, found, own⟩ gone⟩
  rintro ⟨other, left, lookup, mine, -⟩
  exact gone ⟨other, left, lookup, mine⟩

def listenedRun : List (Env × ServiceOp) :=
  [(deviceEnv, .initRequiredResourceInfo),
    (deviceEnv, .task (.addSubscriber
      { remote := 1, uid := 1096, pid := 50, isHap := false, flag := 0#32 })),
    (deviceEnv, .task (.addSubscriber
      { remote := 2, uid := 100, pid := 7, isHap := true, flag := 2#32 })),
    ((deviceStart 100 (requestOf [BackgroundMode.location] [2])).1,
      .task (deviceStart 100 (requestOf [BackgroundMode.location] [2])).2)]

theorem hasActiveTask_listenedRun :
    HasActiveTask 100 (StepSystem.run serviceStep (installed (fun _ => 0)) listenedRun) := by
  have active : ((StepSystem.run serviceStep (installed (fun _ => 0)) listenedRun).taskAt
      "100_EntryAbility_1_1").map (fun record => (record.uid, record.suspendState)) =
        some (100, false) := by decide
  obtain ⟨record, found, fields⟩ := Option.map_eq_some_iff.mp active
  exact ⟨_, record, found, congrArg Prod.fst fields, congrArg Prod.snd fields⟩

theorem run_app_stop_told_listened :
    ¬ HasActiveTask 100 ((StepSystem.run serviceStep (installed (fun _ => 0))
        listenedRun).taskStep (deviceEnv, .onAppStopped 100)) ∧
      AppStopTold 100 (callsSince (StepSystem.run serviceStep (installed (fun _ => 0)) listenedRun)
        ((StepSystem.run serviceStep (installed (fun _ => 0)) listenedRun).taskStep
          (deviceEnv, .onAppStopped 100)))
        (StepSystem.run serviceStep (installed (fun _ => 0)) listenedRun) := by
  refine run_app_stop_told (fun _ => 0) listenedRun deviceEnv (.onAppStopped 100) 100
    hasActiveTask_listenedRun ?_
  intro key record found own
  exact ⟨by decide, own⟩

/-- The only task of the app is suspended, and the system ability does not hear that the app
has none that runs. -/
theorem suspension_not_told :
    HasActiveTask 100 (StepSystem.run serviceStep (installed (fun _ => 0)) listenedRun) ∧
      ¬ HasActiveTask 100 ((StepSystem.run serviceStep (installed (fun _ => 0))
        listenedRun).taskStep
          (deviceEnv, .suspendContinuousTask 100 4 "100_EntryAbility_1_1" false)) ∧
      ¬ AppStopTold 100
        (callsSince (StepSystem.run serviceStep (installed (fun _ => 0)) listenedRun)
          ((StepSystem.run serviceStep (installed (fun _ => 0)) listenedRun).taskStep
            (deviceEnv, .suspendContinuousTask 100 4 "100_EntryAbility_1_1" false)))
        (StepSystem.run serviceStep (installed (fun _ => 0)) listenedRun) := by
  refine ⟨hasActiveTask_listenedRun, ?_, ?_⟩
  · have asleep : ∀ record ∈ KeyedMap.vals ((StepSystem.run serviceStep (installed (fun _ => 0))
        listenedRun).taskStep (deviceEnv,
          .suspendContinuousTask 100 4 "100_EntryAbility_1_1" false)).continuousTaskInfosMap,
        record.suspendState = true := by decide
    rintro ⟨key, record, found, -, awake⟩
    have listed := asleep record (KeyedMap.mem_vals.mpr ⟨key, found⟩)
    exact absurd (awake.symm.trans listed) (by simp)
  · intro told
    have listed := told { remote := 1, uid := 1096, pid := 50, isHap := false, flag := 0#32 }
      (by decide) rfl
    have silent : (1, SubscriberCall.onAppContinuousTaskStop 100) ∉
        callsSince (StepSystem.run serviceStep (installed (fun _ => 0)) listenedRun)
          ((StepSystem.run serviceStep (installed (fun _ => 0)) listenedRun).taskStep
            (deviceEnv, .suspendContinuousTask 100 4 "100_EntryAbility_1_1" false)) := by decide
    exact silent listed

end BgTaskMgr.Continuous
