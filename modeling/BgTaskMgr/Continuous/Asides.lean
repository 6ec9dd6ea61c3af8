import BgTaskMgr.Continuous.Changes

/-!
# What stands beside the tasks

The delayed AVSession checks and the authorisation records: operations on tasks leave both
alone, apart from the few that are about them.
-/

set_option autoImplicit false

namespace BgTaskMgr.Continuous

namespace BgContinuousTaskMgr

structure Asides where
  delayTasks : List Int
  delayedNotify : List (Int × Int)
  bannerNotificationRecord : KeyedMap String BannerNotificationRecord
  authFile : KeyedMap String BannerNotificationRecord

def asides (self : BgContinuousTaskMgr) : Asides :=
  ⟨self.delayTasks, self.delayedNotify, self.bannerNotificationRecord, self.authFile⟩

/-! ## What leaves them alone -/

section

variable (s : BgContinuousTaskMgr) (env : Env)

@[grind =]
theorem asides_setRecord (key : String) (record : ContinuousTaskRecord) :
    (s.setRecord key record).asides = s.asides := rfl

@[grind =]
theorem asides_eraseRecord (key : String) : (s.eraseRecord key).asides = s.asides := rfl

@[grind =]
theorem asides_setTools (tools : NotificationTools) : (s.setTools tools).asides = s.asides := rfl

@[grind =]
theorem asides_addTask (key : String) (record : ContinuousTaskRecord) :
    (s.addTask key record).asides = s.asides := rfl

@[grind =]
theorem asides_cancelPair (pair : String × Int) : (s.cancelPair env pair).asides = s.asides := rfl

@[grind =]
theorem asides_onContinuousTaskChanged (record : ContinuousTaskRecord)
    (type : ContinuousTaskEventTriggerType) :
    (s.onContinuousTaskChanged record type).asides = s.asides := rfl

@[grind =]
theorem asides_cancelSubPair (record : ContinuousTaskRecord) :
    (s.cancelSubPair env record).asides = s.asides := by
  unfold cancelSubPair
  split
  · rfl
  · rfl

@[grind =]
theorem asides_cancelMainAndSub (record : ContinuousTaskRecord) :
    (s.cancelMainAndSub env record).asides = s.asides := by
  unfold cancelMainAndSub
  rw [asides_cancelSubPair, asides_cancelPair]

@[grind =]
theorem asides_handleAppContinuousTaskStop (uid : Int) :
    (s.handleAppContinuousTaskStop uid).asides = s.asides := by
  unfold handleAppContinuousTaskStop
  split
  · rfl
  · rfl

@[grind =]
theorem asides_refreshTaskRecord : (s.refreshTaskRecord env).2.asides = s.asides := by
  unfold refreshTaskRecord
  split
  · rfl
  · rfl

@[grind =]
theorem asides_saveTasks : (s.saveTasks env).asides = s.asides := asides_refreshTaskRecord s env

@[grind =]
theorem asides_setSent (key : String) (sent : Sent) : (s.setSent key sent).asides = s.asides := rfl

@[grind =]
theorem asides_cancelNotification (record : ContinuousTaskRecord) :
    (s.cancelNotification env record).2.asides = s.asides := by
  unfold cancelNotification
  split
  · rfl
  · dsimp only
    split
    · rfl
    · rfl

@[grind =]
theorem asides_setCachedBundleInfo (record : ContinuousTaskRecord) :
    (s.setCachedBundleInfo env record).asides = s.asides := by
  unfold setCachedBundleInfo
  grind [asides]

theorem asides_forEachTask
    {body : String → ContinuousTaskRecord → BgContinuousTaskMgr → BgContinuousTaskMgr}
    (keeps : ∀ key record s, (body key record s).asides = s.asides) :
    (s.forEachTask body).asides = s.asides := by
  have step : ∀ key record (after : BgContinuousTaskMgr),
      after.continuousTaskInfosMap.lookup key = some record → after.asides = s.asides →
        (body key record after).asides = s.asides :=
    fun key record after _ same => (keeps key record after).trans same
  exact KeyedMap.forEach_invariant step s rfl

theorem asides_foldl {α : Type} {body : BgContinuousTaskMgr → α → BgContinuousTaskMgr}
    (keeps : ∀ s item, (body s item).asides = s.asides) (items : List α) :
    (items.foldl body s).asides = s.asides := by
  induction items generalizing s with
  | nil => rfl
  | cons item rest ih => exact (ih (body s item)).trans (keeps s item)

theorem asides_endTasks {chosen : ContinuousTaskRecord → Bool}
    {mark : ContinuousTaskRecord → ContinuousTaskRecord}
    {cancel finish : ContinuousTaskRecord → BgContinuousTaskMgr → BgContinuousTaskMgr}
    (cancels : ∀ record s, (cancel record s).asides = s.asides)
    (finishes : ∀ record s, (finish record s).asides = s.asides) :
    (s.endTasks chosen mark cancel finish).asides = s.asides := by
  refine asides_forEachTask s (fun key record current => ?_)
  unfold endTask
  grind

theorem asides_stopAndSave (record : ContinuousTaskRecord) :
    (s.stopAndSave env record).asides = s.asides := by
  unfold stopAndSave
  rw [asides_saveTasks, asides_handleAppContinuousTaskStop]

/-! ### Client calls -/

@[grind =]
theorem asides_checkCombinedTaskNotification (record : ContinuousTaskRecord) :
    (s.checkCombinedTaskNotification record).mgr.asides = s.asides := by
  have matched : (s.determineMatchCombinedTaskNotifacation record).mgr.asides = s.asides := by
    unfold determineMatchCombinedTaskNotifacation
    grind
  unfold checkCombinedTaskNotification
  grind

@[grind =]
theorem asides_handleActiveContinuousTask (uid : Int) :
    (s.handleActiveContinuousTask env uid).asides = s.asides := by
  have body : ∀ key record (loop : ActiveLoop),
      (activateTask env uid key record loop).mgr.asides = loop.mgr.asides := by
    intro key record loop
    unfold activateTask
    grind
  have step : ∀ key record (loop : ActiveLoop),
      loop.mgr.continuousTaskInfosMap.lookup key = some record → loop.mgr.asides = s.asides →
        (activateTask env uid key record loop).mgr.asides = s.asides :=
    fun key record loop _ same => (body key record loop).trans same
  exact KeyedMap.forEach_invariant step { mgr := s } rfl

@[grind =]
theorem asides_startBackgroundRunningInner (record : ContinuousTaskRecord) :
    (s.startBackgroundRunningInner env record).2.asides = s.asides := by
  have submits : ∀ (s : BgContinuousTaskMgr) record key,
      (s.startBackgroundRunningSubmit env record key).2.asides = s.asides := by
    intro s record key
    unfold startBackgroundRunningSubmit
    grind
  have next : s.nextTaskId.asides = s.asides := rfl
  unfold startBackgroundRunningInner startNumbered
  grind

@[grind =]
theorem asides_stopBackgroundRunningByTask (continuousTaskId : Int) :
    (s.stopBackgroundRunningByTask env continuousTaskId).2.asides = s.asides := by
  unfold stopBackgroundRunningByTask
  split
  · rfl
  · grind

@[grind =]
theorem asides_stopTasks (ids : List Int) : (stopTasks env ids s).2.asides = s.asides := by
  induction ids generalizing s with
  | nil => rfl
  | cons id rest ih =>
      unfold stopTasks
      grind

@[grind =]
theorem asides_stopBackgroundRunningInner (uid : Int) (abilityName : String)
    (abilityId continuousTaskId : Int) :
    (s.stopBackgroundRunningInner env uid abilityName abilityId continuousTaskId).2.asides =
      s.asides := by
  unfold stopBackgroundRunningInner stopBackgroundRunningByContext
  grind

@[grind =]
theorem asides_finishUpdate (key : String) : (s.finishUpdate env key).2.asides = s.asides := by
  unfold finishUpdate
  grind

@[grind =]
theorem asides_updateBackgroundRunningByTaskIdInner (uid : Int) (taskParam : ContinuousTaskParam) :
    (s.updateBackgroundRunningByTaskIdInner env uid taskParam).2.asides = s.asides := by
  have own : ∀ (s : BgContinuousTaskMgr) key record,
      (s.updateOwnNotification env key record).2.asides = s.asides := by
    intro s key record
    unfold updateOwnNotification
    grind
  have notified : ∀ (s : BgContinuousTaskMgr) taskParam key record,
      (s.updateTaskNotification env taskParam key record).2.asides = s.asides := by
    intro s taskParam key record
    unfold updateTaskNotification
    grind
  have updated : ∀ (s : BgContinuousTaskMgr) taskParam key record,
      (s.updateTaskInfo env taskParam key record).2.asides = s.asides := by
    intro s taskParam key record
    unfold updateTaskInfo
    grind
  unfold updateBackgroundRunningByTaskIdInner
  grind

@[grind =]
theorem asides_updateBackgroundRunningInner (key : String) (taskParam : ContinuousTaskParam) :
    (s.updateBackgroundRunningInner env key taskParam).2.asides = s.asides := by
  unfold updateBackgroundRunningInner
  grind

theorem asides_clientCall (callingUid : Int) (call : ClientCall) :
    (s.clientCall env callingUid call).2.asides = s.asides := by
  cases call with
  | startBackgroundRunning taskParam =>
      unfold clientCall startBackgroundRunning
      grind
  | updateBackgroundRunning taskParam =>
      unfold clientCall updateBackgroundRunning
      grind
  | stopBackgroundRunning abilityName abilityId continuousTaskId =>
      unfold clientCall stopBackgroundRunning
      grind
  | updateDataTransferProgress progress =>
      unfold clientCall updateDataTransferProgress updateDataTransferProgressInner
      grind

/-! ### Events -/

theorem asides_requestBackgroundRunningForInner (callingUid : Int)
    (taskParam : ContinuousTaskParamForInner) :
    (s.requestBackgroundRunningForInner env callingUid taskParam).2.asides = s.asides := by
  unfold requestBackgroundRunningForInner startBackgroundRunningForInner
    stopBackgroundRunningForInner
  grind

theorem asides_debugContinuousTaskInner (taskParam : ContinuousTaskParamForInner) :
    (s.debugContinuousTaskInner env taskParam).2.asides = s.asides := by
  unfold debugContinuousTaskInner startBackgroundRunningForInner stopBackgroundRunningForInner
  grind

theorem asides_setReason (key : String) (reason : StopReason) (detailedCancelReason : Int) :
    (s.setReason key reason detailedCancelReason).asides = s.asides := by
  unfold setReason
  grind

@[grind =]
theorem asides_handleStopContinuousTask (uid : Int) (taskType : Nat) (key : String) :
    (s.handleStopContinuousTask env uid taskType key).asides = s.asides := by
  have byUid : ∀ (s : BgContinuousTaskMgr) uid,
      (s.removeContinuousTaskRecordByUid env uid).asides = s.asides := by
    intro s uid
    unfold removeContinuousTaskRecordByUid
    rw [asides_handleAppContinuousTaskStop]
    exact asides_endTasks s (fun record s => asides_cancelMainAndSub s env record)
      (fun _ s => asides_saveTasks s env)
  have byMode : ∀ (s : BgContinuousTaskMgr) uid mode,
      (s.removeContinuousTaskRecordByUidAndMode env uid mode).asides = s.asides := by
    intro s uid mode
    unfold removeContinuousTaskRecordByUidAndMode
    rw [asides_handleAppContinuousTaskStop]
    exact asides_endTasks s (fun record s => asides_cancelMainAndSub s env record)
      (fun _ s => asides_saveTasks s env)
  have noted := asides_setReason
  unfold handleStopContinuousTask
  grind

theorem asides_stopContinuousTask (uid : Int) (taskType : Nat) (key : String) :
    (s.stopContinuousTask env uid taskType key).asides = s.asides := by
  unfold stopContinuousTask
  grind

theorem asides_suspendContinuousTask (uid mode : Int) (key : String) (isStandby : Bool) :
    (s.suspendContinuousTask env uid mode key isStandby).asides = s.asides := by
  have standby : (s.handleSuspendContinuousTaskByStandby env uid mode key).asides = s.asides := by
    unfold handleSuspendContinuousTaskByStandby
    grind
  have suspends : (s.handleSuspendContinuousTask env uid mode key).asides = s.asides := by
    unfold handleSuspendContinuousTask
    grind
  unfold suspendContinuousTask
  grind

theorem asides_activeContinuousTask (uid : Int) (isStandby : Bool) :
    (s.activeContinuousTask env uid isStandby).asides = s.asides := by
  have standby : (s.handleActiveContinuousTaskByStandby env uid).asides = s.asides := by
    refine asides_forEachTask s (fun key record current => ?_)
    unfold activateStandby
    grind
  unfold activeContinuousTask
  grind

theorem asides_suspendContinuousAudioTask (uid : Int) :
    (s.suspendContinuousAudioTask env uid).asides = s.asides := by
  have swept : (s.forEachTask (suspendAudio env uid)).asides = s.asides := by
    refine asides_forEachTask s (fun key record current => ?_)
    have told : ∀ (s : BgContinuousTaskMgr) record,
        (s.sendAudioCallBackTaskState record).asides = s.asides := fun _ _ => rfl
    unfold suspendAudio
    grind
  unfold suspendContinuousAudioTask handleSuspendContinuousAudioTask
  grind

@[grind =]
theorem asides_avSessionNotifyTask (isPublish : Bool) (key : String)
    (record : ContinuousTaskRecord) :
    (s.avSessionNotifyTask env isPublish key record).2.asides = s.asides := by
  have refreshed : (s.refreshForAvsession env key record).2.asides = s.asides := by
    unfold refreshForAvsession
    grind
  unfold avSessionNotifyTask
  grind

theorem asides_onAccountsStateChanged : (s.onAccountsStateChanged env).asides = s.asides := by
  have cleared : ∀ accounts, (s.clearBgOsAccountTask env accounts).asides = s.asides :=
    fun accounts => asides_endTasks s (fun record s => asides_cancelPair s env record.mainPair)
      (fun record s => asides_stopAndSave s env record)
  unfold onAccountsStateChanged
  grind

theorem asides_onRemoveSystemAbility (mode : Nat) :
    (s.onRemoveSystemAbility env mode).asides = s.asides := by
  have removed : ∀ s : BgContinuousTaskMgr, (s.handleRemoveTaskByMode env mode).asides =
      s.asides := by
    intro s
    refine asides_endTasks s (fun _ s => rfl) (fun record s => ?_)
    rw [asides_cancelNotification, asides_stopAndSave]
  unfold onRemoveSystemAbility
  grind

theorem asides_setLiveViewInfo (uid : Int) (isPublish : Bool) (event : String) :
    (s.setLiveViewInfo uid isPublish event).asides = s.asides := by
  unfold setLiveViewInfo
  grind [asides]

theorem asides_onConsumed (uid : Int) : (s.onConsumed env uid).asides = s.asides := by
  have swept : ∀ s : BgContinuousTaskMgr,
      (s.forEachTask (cancelForLiveView env uid)).asides = s.asides := by
    intro s
    refine asides_forEachTask s (fun key record current => ?_)
    unfold cancelForLiveView
    grind
  have noted := asides_setLiveViewInfo s uid true navigation
  unfold onConsumed
  grind

theorem asides_onLiveViewCanceled (uid : Int) :
    (s.onLiveViewCanceled env uid).asides = s.asides := by
  have swept : ∀ s : BgContinuousTaskMgr,
      (s.forEachTask (sendAfterLiveView env uid)).asides = s.asides := by
    intro s
    refine asides_forEachTask s (fun key record current => ?_)
    unfold sendAfterLiveView
    grind
  have noted := asides_setLiveViewInfo s uid false navigation
  unfold onLiveViewCanceled
  grind

theorem asides_stopContinuousTaskByUser (key : String) (isSubNotification : Bool)
    (deleteReason : DeleteReason) :
    (s.stopContinuousTaskByUser env key isSubNotification deleteReason).asides = s.asides := by
  have inner : ∀ s : BgContinuousTaskMgr,
      (s.stopContinuousTaskByUserInner env key isSubNotification).asides = s.asides := by
    intro s
    unfold stopContinuousTaskByUserInner
    split
    · rfl
    split
    · rfl
    · refine asides_endTasks s (fun record s => ?_)
        (fun record s => asides_stopAndSave s env record)
      unfold cancelOther
      grind
  have noted := asides_setReason
  unfold stopContinuousTaskByUser
  grind

theorem asides_endStopped (uid : Int) :
    (s.endTasks (fun record => record.uid == uid) markSystemCancel (cancelExisting env)
      (stopAndSave env)).asides = s.asides := by
  refine asides_endTasks s (fun record s => ?_) (fun record s => asides_stopAndSave s env record)
  unfold cancelExisting
  grind

theorem asides_endCleared (uid : Int) :
    (s.endTasks (fun record => record.uid == uid) markSystemCancel (cancelMain env)
      (stopAndSave env)).asides = s.asides :=
  asides_endTasks s (fun record s => asides_cancelPair s env record.mainPair)
    (fun record s => asides_stopAndSave s env record)

theorem asides_shellDumpCancel (taskKey : Option String) :
    (s.shellDumpCancel env taskKey).asides = s.asides := by
  have all : (s.dumpCancelAll env).asides = s.asides := by
    have swept : (s.forEachTask (dumpCancel env)).asides = s.asides :=
      asides_forEachTask s (fun key record current => rfl)
    unfold dumpCancelAll
    rw [asides_foldl _ asides_handleAppContinuousTaskStop, asides_saveTasks]
    exact swept
  unfold shellDumpCancel
  grind

theorem asides_sendNotificationByDeteTask (taskKeys : List String) :
    (s.sendNotificationByDeteTask env taskKeys).asides = s.asides := by
  have sends : ∀ (s : BgContinuousTaskMgr) key, (s.sendForDete env key).asides = s.asides := by
    intro s key
    unfold sendForDete
    grind [asides]
  have all := asides_foldl s sends taskKeys
  unfold sendNotificationByDeteTask
  grind

theorem asides_notifyAudioStart (uid : Int) : (s.notifyAudioStart env uid).asides = s.asides := by
  have inner : (s.notifyAudioStartInner env uid).asides = s.asides := by
    refine @notifyAudioStartInner_keeps s (fun mgr => mgr.asides = s.asides) env uid rfl ?_ ?_
    · intro key record mgr _ same
      rw [asides_setRecord, same]
    · intro mgr newPromptInfos same
      rw [asides_saveTasks, asides_setTools, same]
  unfold notifyAudioStart
  split
  · exact inner
  · rfl

def concernsAsides : TaskOp → Bool
  | .avSessionNotifyUpdateNotification _ _ _ _ => true
  | .runDelayedNotify => true
  | .onAppStopped _ => true
  | .onBundleInfoChanged _ _ _ _ _ => true
  | .onCanceled _ _ => true
  | .stopBannerContinuousTaskByUser _ => true
  | .onBundleResourcesChanged => true
  | _ => false

theorem asides_taskStep (op : TaskOp) (apart : concernsAsides op = false) :
    (s.taskStep (env, op)).asides = s.asides := by
  cases op with
  | avSessionNotifyUpdateNotification callingUid uid pid isPublish =>
      exact absurd apart (by simp [concernsAsides])
  | runDelayedNotify => exact absurd apart (by simp [concernsAsides])
  | onAppStopped uid => exact absurd apart (by simp [concernsAsides])
  | onBundleInfoChanged action bundleName uid userId appIndex =>
      exact absurd apart (by simp [concernsAsides])
  | onCanceled pair deleteReason => exact absurd apart (by simp [concernsAsides])
  | stopBannerContinuousTaskByUser label => exact absurd apart (by simp [concernsAsides])
  | onBundleResourcesChanged => exact absurd apart (by simp [concernsAsides])
  | client callingUid call => exact asides_clientCall s env callingUid call
  | requestBackgroundRunningForInner callingUid taskParam =>
      exact asides_requestBackgroundRunningForInner s env callingUid taskParam
  | debugContinuousTask taskParam => exact asides_debugContinuousTaskInner s env taskParam
  | stopContinuousTask uid taskType key => exact asides_stopContinuousTask s env uid taskType key
  | suspendContinuousTask uid mode key isStandby =>
      exact asides_suspendContinuousTask s env uid mode key isStandby
  | activeContinuousTask uid isStandby => exact asides_activeContinuousTask s env uid isStandby
  | suspendContinuousAudioTask uid => exact asides_suspendContinuousAudioTask s env uid
  | onAbilityStateChanged uid abilityName abilityId =>
      change (s.onAbilityStateChanged env uid abilityName abilityId).asides = s.asides
      unfold onAbilityStateChanged stopBackgroundRunningByContext
      grind
  | onAppStateChanged uid foreground =>
      change (s.onAppStateChanged uid foreground).asides = s.asides
      unfold onAppStateChanged
      grind [asides]
  | onAccountsStateChanged => exact asides_onAccountsStateChanged s env
  | onRemoveSystemAbility mode => exact asides_onRemoveSystemAbility s env mode
  | onConsumed uid => exact asides_onConsumed s env uid
  | onLiveViewCanceled uid => exact asides_onLiveViewCanceled s env uid
  | shellDumpCancel taskKey => exact asides_shellDumpCancel s env taskKey
  | sendNotificationByDeteTask taskKeys =>
      exact asides_sendNotificationByDeteTask s env taskKeys
  | notifyAudioStart uid => exact asides_notifyAudioStart s env uid
  | addSubscriber info =>
      change (s.addSubscriber info).asides = s.asides
      unfold addSubscriber
      grind [asides]
  | removeSubscriber remote flag =>
      change (s.removeSubscriber remote flag).asides = s.asides
      unfold removeSubscriber
      grind [asides]
  | onRemoteSubscriberDied remote =>
      change (s.onRemoteSubscriberDied remote).asides = s.asides
      unfold onRemoteSubscriberDied
      grind [asides]
  | enableContinuousTaskRequest uid isEnable =>
      change (s.enableContinuousTaskRequest uid isEnable).asides = s.asides
      unfold enableContinuousTaskRequest
      grind [asides]
  | publishBannerNotification => rfl
  | rehash rank => rfl

end

end BgContinuousTaskMgr

end BgTaskMgr.Continuous
