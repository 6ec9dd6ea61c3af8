import BgTaskMgr.Continuous.Sending

/-!
# Operations that write the record file

The file follows the map when every task in the map is in the file with the fields that are
written, and no other task is.  An operation that ends with `saveTasks` makes it so, one that
changes no written field keeps it so; here are the operations that do the one or the other on
every path.
-/

set_option autoImplicit false

namespace BgTaskMgr.Continuous

open BgContinuousTaskMgr

/-- The file decodes to the map, up to the fields that are not written. -/
def BgContinuousTaskMgr.FileFollows (self : BgContinuousTaskMgr) : Prop :=
  ∀ key, self.file.lookup key = (self.taskAt key).map ContinuousTaskRecord.persisted

namespace BgContinuousTaskMgr.FileFollows

variable {before after s : BgContinuousTaskMgr} {key : String} {record : ContinuousTaskRecord}

/-! ## Changes of single parts of the state -/

theorem of_quiet (follows : before.FileFollows) (same : Quiet before after) :
    after.FileFollows := by
  intro key
  rw [same.taskAt key]
  rcases same.file with kept | written
  · rw [kept]
    exact follows key
  · exact written key

theorem of_eq (follows : before.FileFollows)
    (map : after.continuousTaskInfosMap = before.continuousTaskInfosMap)
    (file : after.file = before.file) : after.FileFollows := by
  intro key
  unfold BgContinuousTaskMgr.taskAt
  rw [map, file]
  exact follows key

theorem save {env : Env} (saves : env.saveOk = true) (s : BgContinuousTaskMgr) :
    (s.saveTasks env).FileFollows := by
  intro key
  unfold saveTasks refreshTaskRecord
  rw [if_pos saves]
  exact KeyedMap.lookup_mapVal _ _ key

theorem of_images (follows : before.FileFollows) (file : after.file = before.file)
    (images : ∀ key, (after.taskAt key).map ContinuousTaskRecord.persisted =
      (before.taskAt key).map ContinuousTaskRecord.persisted) : after.FileFollows := by
  intro key
  rw [file, images key]
  exact follows key

theorem edit (follows : s.FileFollows) {edited : ContinuousTaskRecord}
    (found : s.taskAt key = some record) (same : edited.persisted = record.persisted) :
    (s.setRecord key edited).FileFollows := by
  refine follows.of_images rfl ?_
  intro other
  rw [taskAt_setRecord]
  split
  · rename_i here
    rw [here, found]
    exact congrArg some same
  · rfl

theorem editTwice (follows : s.FileFollows) {early late : ContinuousTaskRecord}
    (found : s.taskAt key = some record) (same : late.persisted = record.persisted)
    (tools : NotificationTools) :
    (((s.setRecord key early).setTools tools).setRecord key late).FileFollows := by
  refine follows.of_images rfl ?_
  intro other
  have stored : ((s.setRecord key early).setTools tools).taskAt key = some early :=
    taskAt_setRecord_self s key early found
  by_cases here : other = key
  · rw [here, taskAt_setRecord_self _ key late stored, found]
    exact congrArg some same
  · have kept : ((s.setRecord key early).setTools tools).taskAt other = s.taskAt other :=
      taskAt_setRecord_ne s key other early here
    rw [taskAt_setRecord_ne _ key other late here, kept]

theorem appStop (follows : s.FileFollows) (uid : Int) :
    (s.handleAppContinuousTaskStop uid).FileFollows := by
  unfold handleAppContinuousTaskStop
  split
  · exact follows
  · exact follows.of_eq rfl rfl

theorem forEachTask (follows : s.FileFollows)
    {body : String → ContinuousTaskRecord → BgContinuousTaskMgr → BgContinuousTaskMgr}
    (each : ∀ key record current, current.taskAt key = some record → current.FileFollows →
      (body key record current).FileFollows) : (s.forEachTask body).FileFollows :=
  KeyedMap.forEach_invariant each s follows

/-- Only a merge that succeeds, and then sends nothing, marks the other task. -/
theorem determineMatch_marks :
    (s.determineMatchCombinedTaskNotifacation record).mgr = s ∨
      (s.determineMatchCombinedTaskNotifacation record).ret = .ok ∧
        (s.determineMatchCombinedTaskNotifacation record).sendNotification = false := by
  unfold determineMatchCombinedTaskNotifacation
  dsimp only
  split
  · exact Or.inl rfl
  split
  · exact Or.inl rfl
  split
  · exact Or.inl rfl
  split
  · exact Or.inl rfl
  split
  · exact Or.inl rfl
  · exact Or.inr ⟨rfl, rfl⟩

theorem checkCombined_marks :
    (s.checkCombinedTaskNotification record).mgr = s ∨
      (s.checkCombinedTaskNotification record).ret = .ok ∧
        (s.checkCombinedTaskNotification record).sendNotification = false := by
  unfold checkCombinedTaskNotification
  dsimp only
  split
  · exact Or.inl rfl
  split
  · exact Or.inl rfl
  split
  · exact Or.inl rfl
  split
  · exact Or.inl rfl
  split
  · exact Or.inl rfl
  · exact determineMatch_marks

/-! ## Ends of tasks -/

theorem endTasks (follows : s.FileFollows) {chosen : ContinuousTaskRecord → Bool}
    {mark : ContinuousTaskRecord → ContinuousTaskRecord}
    {cancel finish : ContinuousTaskRecord → BgContinuousTaskMgr → BgContinuousTaskMgr}
    (finishes : ∀ record current, (finish record current).FileFollows) :
    (s.endTasks chosen mark cancel finish).FileFollows := by
  refine follows.forEachTask ?_
  intro key record current _ early
  split
  · exact finishes record _
  · exact early

section Saved

variable {env : Env} (saves : env.saveOk = true)

include saves

theorem stopAndSave (record : ContinuousTaskRecord) (s : BgContinuousTaskMgr) :
    (s.stopAndSave env record).FileFollows :=
  save saves _

theorem stopByTask (follows : s.FileFollows) (continuousTaskId : Int) :
    (s.stopBackgroundRunningByTask env continuousTaskId).2.FileFollows := by
  unfold stopBackgroundRunningByTask
  split
  · exact follows
  · exact save saves _

/-- The stop of a task that is there saves whatever was changed before. -/
theorem stopByTask_of_found {continuousTaskId : Int} (found : s.taskAt key = some record)
    (named : record.continuousTaskId = continuousTaskId) :
    (s.stopBackgroundRunningByTask env continuousTaskId).2.FileFollows := by
  unfold stopBackgroundRunningByTask
  split
  · rename_i missing
    have other := findTask_eq_none s key record missing found
    simp [named] at other
  · exact save saves _

theorem stopTasks (follows : s.FileFollows) (ids : List Int) :
    (BgContinuousTaskMgr.stopTasks env ids s).2.FileFollows := by
  induction ids generalizing s with
  | nil => exact follows
  | cons continuousTaskId rest ih =>
      have first := stopByTask saves follows continuousTaskId
      unfold BgContinuousTaskMgr.stopTasks
      dsimp only
      split
      · exact first
      · exact ih first

theorem stopInner (follows : s.FileFollows) (uid : Int) (abilityName : String)
    (abilityId continuousTaskId : Int) :
    (s.stopBackgroundRunningInner env uid abilityName abilityId
      continuousTaskId).2.FileFollows := by
  unfold stopBackgroundRunningInner
  split
  · split
    · exact follows
    · exact stopByTask saves follows continuousTaskId
  · split
    · exact follows
    · exact stopTasks saves follows _

theorem handleStop (follows : s.FileFollows) (uid : Int) (taskType : Nat) (key : String) :
    (s.handleStopContinuousTask env uid taskType key).FileFollows := by
  unfold handleStopContinuousTask
  split
  · exact (follows.endTasks (fun _ => save saves)).appStop uid
  split
  · exact (follows.endTasks (fun _ => save saves)).appStop uid
  split
  · exact follows
  · rename_i record lookup
    have found : s.taskAt key = some record := lookup
    -- the reason is written together with the end of the task
    unfold setReason
    rw [lookup]
    exact stopByTask_of_found saves (taskAt_setRecord_self s key _ found) rfl

theorem removeByMode (follows : s.FileFollows) (mode : Nat) :
    (s.handleRemoveTaskByMode env mode).FileFollows :=
  follows.endTasks (fun record current => (stopAndSave saves record current).of_quiet
    (quiet_cancelNotification _ env record))

theorem appStopped (follows : s.FileFollows) (uid : Int) :
    (s.onAppStopped env uid).FileFollows := by
  unfold onAppStopped
  split
  · exact follows
  have ended : (s.endTasks (fun record => record.uid == uid) markSystemCancel
      (cancelExisting env) (BgContinuousTaskMgr.stopAndSave env)).FileFollows :=
    follows.endTasks (stopAndSave saves)
  dsimp only
  split
  · exact ended
  · exact ended.of_quiet (quiet_removeBanners _ env _)

theorem bundleInfo (follows : s.FileFollows) (action : PackageAction) (bundleName : String)
    (uid userId appIndex : Int) :
    (s.onBundleInfoChanged env action bundleName uid userId appIndex).FileFollows := by
  have uncached : ({ s with
      cachedBundleInfos := s.cachedBundleInfos.erase uid } : BgContinuousTaskMgr).FileFollows :=
    follows.of_eq rfl rfl
  unfold onBundleInfoChanged
  dsimp only
  split
  · exact follows
  split
  · exact uncached
  · exact uncached.of_quiet (quiet_removeBanners _ env _)
  · exact uncached.endTasks (stopAndSave saves)

theorem dumpCancelAll (s : BgContinuousTaskMgr) : (s.dumpCancelAll env).FileFollows := by
  have stops : ∀ (uids : List Int) (current : BgContinuousTaskMgr), current.FileFollows →
      (uids.foldl (fun current uid =>
        current.handleAppContinuousTaskStop uid) current).FileFollows := by
    intro uids
    induction uids with
    | nil => exact fun _ follows => follows
    | cons uid rest ih => exact fun _ follows => ih _ (follows.appStop uid)
  exact stops _ _ (save saves _)

/-! ## Suspension and reactivation -/

theorem activateTask (uid : Int) (loop : ActiveLoop) (follows : loop.mgr.FileFollows) :
    (BgContinuousTaskMgr.activateTask env uid key record loop).mgr.FileFollows := by
  unfold BgContinuousTaskMgr.activateTask
  dsimp only
  split
  · exact follows
  split
  · exact save saves _
  split
  · exact save saves _
  · exact save saves _

theorem active (follows : s.FileFollows) (uid : Int) :
    (s.handleActiveContinuousTask env uid).FileFollows := by
  have step : ∀ key record (loop : ActiveLoop), loop.mgr.taskAt key = some record →
      loop.mgr.FileFollows →
      (BgContinuousTaskMgr.activateTask env uid key record loop).mgr.FileFollows :=
    fun _ _ loop _ early => activateTask saves uid loop early
  exact KeyedMap.forEach_invariant step { mgr := s } follows

theorem suspend (follows : s.FileFollows) (uid mode : Int) (key : String) (isStandby : Bool) :
    (s.suspendContinuousTask env uid mode key isStandby).FileFollows := by
  unfold suspendContinuousTask
  dsimp only
  split
  · exact follows
  split
  · split
    · unfold handleSuspendContinuousTaskByStandby
      split
      · exact follows
      split
      · exact follows
      · exact save saves _
    · exact follows
  split
  · unfold handleSuspendContinuousTask
    split
    · exact follows
    · rename_i record _
      dsimp only
      obtain ⟨tools, cancelled⟩ := onlyTools_cancelMainAndSub env record
        (if record.uid = uid then ((s.setRecord key (suspended mode record)).onContinuousTaskChanged
          (suspended mode record) .taskSuspend).saveTasks env else s)
      rw [cancelled]
      refine FileFollows.appStop ?_ uid
      refine of_quiet ?_ (quiet_setTools _ tools)
      split
      · exact save saves _
      · exact follows
  · exact handleStop saves follows uid 0 key

theorem activate (follows : s.FileFollows) (uid : Int) (isStandby : Bool) :
    (s.activeContinuousTask env uid isStandby).FileFollows := by
  unfold activeContinuousTask
  split
  · exact follows
  split
  · split
    · refine follows.forEachTask ?_
      intro key record current _ early
      unfold activateStandby
      split
      · exact early
      · exact save saves _
    · exact follows
  · exact active saves follows uid

theorem suspendAudio (follows : s.FileFollows) (uid : Int) (found : s.taskAt key = some record) :
    (BgContinuousTaskMgr.suspendAudio env uid key record s).FileFollows := by
  have unheard : (s.setRecord key (undetected record)).FileFollows := follows.edit found rfl
  unfold BgContinuousTaskMgr.suspendAudio
  dsimp only
  split
  · split
    · exact unheard.of_eq rfl rfl
    split
    · exact save saves _
    · exact save saves _
  · exact follows

theorem handleSuspendAudio (follows : s.FileFollows) (uid : Int) :
    (s.handleSuspendContinuousAudioTask env uid).FileFollows :=
  (follows.forEachTask (fun _ _ _ found early => suspendAudio saves early uid found)).appStop uid

/-! ## Notifications -/

theorem avSessionNotifyTask (follows : s.FileFollows) (isPublish : Bool)
    (found : s.taskAt key = some record) :
    (s.avSessionNotifyTask env isPublish key record).2.FileFollows := by
  unfold BgContinuousTaskMgr.avSessionNotifyTask
  dsimp only
  split
  · exact follows.edit found rfl
  split
  · exact follows
  split
  · exact save saves _
  split
  · unfold refreshForAvsession
    dsimp only
    split
    · exact save saves _
    · exact save saves _
  · exact follows

theorem avSessionInner (follows : s.FileFollows) (uid : Int) (isPublish : Bool) :
    (s.avSessionNotifyUpdateNotificationInner env uid isPublish).2.FileFollows := by
  let noted : BgContinuousTaskMgr :=
    { s with avSessionNotification := s.avSessionNotification.insert uid isPublish }
  have early : noted.FileFollows := follows.of_eq rfl rfl
  have ready : (if isPublish then noted.removeAudioPlaybackDelayTask uid else noted).FileFollows := by
    split
    · exact early.of_quiet (quiet_removeAudioPlaybackDelayTask _ uid)
    · exact early
  unfold avSessionNotifyUpdateNotificationInner
  dsimp only
  split
  · exact ready.of_quiet (quiet_removeAudioPlaybackDelayTask _ uid)
  · rename_i key record search
    have found := (taskAt_of_findTask _ key record search).1
    exact (avSessionNotifyTask saves ready isPublish found).of_quiet
      (quiet_removeAudioPlaybackDelayTask _ uid)

theorem avSession (follows : s.FileFollows) (callingUid uid pid : Int) (isPublish : Bool) :
    (s.avSessionNotifyUpdateNotification env callingUid uid pid isPublish).2.FileFollows := by
  unfold avSessionNotifyUpdateNotification
  split
  · exact follows
  split
  · exact follows
  split
  · exact avSessionInner saves follows uid isPublish
  · exact follows.of_eq rfl rfl

theorem delayedNotify (follows : s.FileFollows) : (s.runDelayedNotify env).FileFollows := by
  unfold runDelayedNotify
  split
  · exact follows
  · rename_i uid _ rest _
    have taken : ({ s with delayedNotify := rest } : BgContinuousTaskMgr).FileFollows :=
      follows.of_eq rfl rfl
    exact avSessionInner saves taken uid false

theorem consumed (follows : s.FileFollows) (uid : Int) : (s.onConsumed env uid).FileFollows := by
  have noted : (s.setLiveViewInfo uid true navigation).FileFollows :=
    follows.of_quiet (quiet_setLiveViewInfo s uid true navigation)
  unfold onConsumed
  dsimp only
  split
  · refine noted.forEachTask ?_
    intro key record current _ early
    unfold cancelForLiveView
    split
    · exact early
    · exact save saves _
  · exact noted

theorem liveViewCanceled (follows : s.FileFollows) (uid : Int) :
    (s.onLiveViewCanceled env uid).FileFollows := by
  have noted : (s.setLiveViewInfo uid false navigation).FileFollows :=
    follows.of_quiet (quiet_setLiveViewInfo s uid false navigation)
  unfold onLiveViewCanceled
  dsimp only
  split
  · refine noted.forEachTask ?_
    intro key record current _ early
    unfold sendAfterLiveView
    split
    · exact early
    · exact save saves _
  · exact noted

/-! ## Starts -/

theorem startSubmit (follows : s.FileFollows) (key : String) :
    (s.startBackgroundRunningSubmit env record key).2.FileFollows := by
  unfold startBackgroundRunningSubmit
  dsimp only
  have marks : (s.checkCombinedTaskNotification record).mgr = s ∨
      (s.checkCombinedTaskNotification record).ret = .ok ∧
        (s.checkCombinedTaskNotification record).sendNotification = false := checkCombined_marks
  rcases marks with unmarked | ⟨granted, silent⟩
  · rw [unmarked]
    split
    · exact follows
    split
    · exact follows
    split
    · exact follows.of_eq rfl rfl
    · exact save saves _
  · have unsent : (sendStartNotification env (s.checkCombinedTaskNotification record)).ret = .ok := by
      unfold sendStartNotification
      simp [silent]
    split
    · exact follows
    · rw [if_neg (by simp [granted]), if_neg (by simp [unsent])]
      exact save saves _

theorem startInner (follows : s.FileFollows) (record : ContinuousTaskRecord) :
    (s.startBackgroundRunningInner env record).2.FileFollows := by
  have numbered : s.nextTaskId.FileFollows := follows.of_eq rfl rfl
  unfold startBackgroundRunningInner
  split
  · exact follows
  split
  · exact follows
  unfold startNumbered
  dsimp only
  split
  · exact numbered
  split
  · split
    · exact active saves numbered record.uid
    · exact numbered
  split
  · exact startSubmit saves (numbered.of_quiet (quiet_setCachedBundleInfo _ env _)) _
  · exact startSubmit saves numbered _

theorem forInner (follows : s.FileFollows) (taskParam : ContinuousTaskParamForInner)
    (callingUid : Int) :
    (s.startBackgroundRunningForInner env taskParam callingUid).2.FileFollows ∧
      (s.stopBackgroundRunningForInner env taskParam callingUid).2.FileFollows :=
  ⟨startInner saves follows _, stopInner saves follows _ _ _ _⟩

end Saved

end BgContinuousTaskMgr.FileFollows

end BgTaskMgr.Continuous
