import BgTaskMgr.Continuous.Sending

/-!
# Where the modes of a task come from

The modes of a record change when the task starts and when it is updated, and nowhere else;
every other operation keeps them, with the fields by which a request is judged.  The two
caches behind the check of a background start change only with the state of an app.
-/

set_option autoImplicit false

namespace BgTaskMgr.Continuous

open BgContinuousTaskMgr

/-! ## Records with the same modes -/

/-- The fields by which the modes of a task are judged, and its id. -/
structure Requested where
  uid : Int
  abilityName : String
  bundleName : String
  userId : Int
  isByRequestObject : Bool
  isNewApi : Bool
  isFromWebview : Bool
  needNotificationForInnerApi : Bool
  isFromComponent : Bool
  continuousTaskId : Int

def ContinuousTaskRecord.requested (record : ContinuousTaskRecord) : Requested where
  uid := record.uid
  abilityName := record.abilityName
  bundleName := record.bundleName
  userId := record.userId
  isByRequestObject := record.isByRequestObject
  isNewApi := record.isNewApi
  isFromWebview := record.isFromWebview
  needNotificationForInnerApi := record.needNotificationForInnerApi
  isFromComponent := record.isFromComponent
  continuousTaskId := record.continuousTaskId

structure SameModes (before after : ContinuousTaskRecord) : Prop where
  requested : after.requested = before.requested
  bgModeIds : after.bgModeIds = before.bgModeIds

theorem SameModes.refl (record : ContinuousTaskRecord) : SameModes record record := ⟨rfl, rfl⟩

theorem SameModes.trans {first second third : ContinuousTaskRecord}
    (early : SameModes first second) (late : SameModes second third) : SameModes first third :=
  ⟨late.requested.trans early.requested, late.bgModeIds.trans early.bgModeIds⟩

theorem sameModes_persisted (record : ContinuousTaskRecord) :
    SameModes record record.persisted := ⟨rfl, rfl⟩

theorem SameModes.of_contents {before after : ContinuousTaskRecord}
    (same : contents after = contents before) : SameModes before after := by
  have requested : (contents after).requested = (contents before).requested := by rw [same]
  have modes : (contents after).bgModeIds = (contents before).bgModeIds := by rw [same]
  exact ⟨requested, modes⟩

section Sending

variable (env : Env) (s : BgContinuousTaskMgr) (record : ContinuousTaskRecord)

theorem sameModes_note (prompt : Prompt) : SameModes record (prompt.note record) :=
  SameModes.of_contents (contents_note record prompt)

theorem sameModes_sendContinuousTaskNotification :
    SameModes record (s.sendContinuousTaskNotification env record).record :=
  SameModes.of_contents (contents_sendContinuousTaskNotification env s record)

theorem sameModes_sendByModes : SameModes record (s.sendByModes env record).record :=
  SameModes.of_contents (contents_sendByModes env s record)

theorem sameModes_handleActiveNotification :
    SameModes record (s.handleActiveNotification env record).record :=
  SameModes.of_contents (contents_handleActiveNotification env s record)

end Sending

/-! ## Operations that keep the modes -/

/-- Every task after had its modes before, in the map and in a file written since, and the
caches behind the check of a background start are left alone. -/
structure KeepsModes (before after : BgContinuousTaskMgr) : Prop where
  origin : ∀ key record, after.taskAt key = some record →
    ∃ old, before.taskAt key = some old ∧ SameModes old record
  file : after.file = before.file ∨ ∀ key record, after.file.lookup key = some record →
    ∃ old, before.taskAt key = some old ∧ SameModes old record
  appOnForeground : after.appOnForeground = before.appOnForeground
  applyTaskOnForeground : after.applyTaskOnForeground = before.applyTaskOnForeground
  isSysReady : after.isSysReady = before.isSysReady

namespace KeepsModes

variable {before after s : BgContinuousTaskMgr} {key : String} {record : ContinuousTaskRecord}

theorem of_eq (map : after.continuousTaskInfosMap = before.continuousTaskInfosMap)
    (file : after.file = before.file) (front : after.appOnForeground = before.appOnForeground)
    (applied : after.applyTaskOnForeground = before.applyTaskOnForeground)
    (ready : after.isSysReady = before.isSysReady) : KeepsModes before after := by
  refine ⟨?_, Or.inl file, front, applied, ready⟩
  intro key record found
  rw [BgContinuousTaskMgr.taskAt, map] at found
  exact ⟨record, found, SameModes.refl record⟩

theorem refl (s : BgContinuousTaskMgr) : KeepsModes s s := of_eq rfl rfl rfl rfl rfl

theorem trans {first second third : BgContinuousTaskMgr} (early : KeepsModes first second)
    (late : KeepsModes second third) : KeepsModes first third := by
  have back : ∀ key record old, second.taskAt key = some old → SameModes old record →
      ∃ oldest, first.taskAt key = some oldest ∧ SameModes oldest record := by
    intro key record old found same
    obtain ⟨oldest, stored, kept⟩ := early.origin key old found
    exact ⟨oldest, stored, kept.trans same⟩
  refine ⟨?_, ?_, late.appOnForeground.trans early.appOnForeground,
    late.applyTaskOnForeground.trans early.applyTaskOnForeground,
    late.isSysReady.trans early.isSysReady⟩
  · intro key record found
    obtain ⟨old, stored, same⟩ := late.origin key record found
    exact back key record old stored same
  · rcases late.file with kept | written
    · rw [kept]
      exact early.file
    · refine Or.inr ?_
      intro key record found
      obtain ⟨old, stored, same⟩ := written key record found
      exact back key record old stored same

theorem of_ite {condition : Prop} [Decidable condition] {first second : BgContinuousTaskMgr}
    (yes : KeepsModes s first) (no : KeepsModes s second) :
    KeepsModes s (if condition then first else second) := by
  split
  · exact yes
  · exact no

theorem of_iteSnd {condition : Prop} [Decidable condition]
    {first second : ErrCode × BgContinuousTaskMgr} (yes : KeepsModes s first.2)
    (no : KeepsModes s second.2) : KeepsModes s (if condition then first else second).2 := by
  split
  · exact yes
  · exact no

theorem tools (tools : NotificationTools) : KeepsModes s (s.setTools tools) :=
  of_eq rfl rfl rfl rfl rfl

theorem told (record : ContinuousTaskRecord) (type : ContinuousTaskEventTriggerType) :
    KeepsModes s (s.onContinuousTaskChanged record type) := of_eq rfl rfl rfl rfl rfl

theorem edit {edited : ContinuousTaskRecord} (found : s.taskAt key = some record)
    (same : SameModes record edited) : KeepsModes s (s.setRecord key edited) := by
  refine ⟨?_, Or.inl rfl, rfl, rfl, rfl⟩
  intro other stored lookup
  rw [taskAt_setRecord] at lookup
  split at lookup
  · rename_i here
    rw [here, found] at lookup
    obtain rfl := Option.some.inj lookup
    exact ⟨record, here ▸ found, same⟩
  · exact ⟨stored, lookup, SameModes.refl stored⟩

theorem erase : KeepsModes s (s.eraseRecord key) := by
  refine ⟨?_, Or.inl rfl, rfl, rfl, rfl⟩
  intro other stored lookup
  rw [taskAt_eraseRecord] at lookup
  split at lookup
  · exact absurd lookup (by simp)
  · exact ⟨stored, lookup, SameModes.refl stored⟩

theorem save (env : Env) : KeepsModes s (s.saveTasks env) := by
  unfold saveTasks refreshTaskRecord
  split
  · refine ⟨?_, Or.inr ?_, rfl, rfl, rfl⟩
    · intro key record found
      exact ⟨record, found, SameModes.refl record⟩
    · intro key record found
      obtain ⟨old, stored, rfl⟩ := Option.map_eq_some_iff.mp
        ((KeyedMap.lookup_mapVal _ _ key).symm.trans found)
      exact ⟨old, stored, sameModes_persisted old⟩
  · exact refl s

theorem appStop (uid : Int) : KeepsModes s (s.handleAppContinuousTaskStop uid) := by
  unfold handleAppContinuousTaskStop
  split
  · exact refl s
  · exact of_eq rfl rfl rfl rfl rfl

theorem only {change : BgContinuousTaskMgr → BgContinuousTaskMgr} (only : OnlyTools change) :
    KeepsModes s (change s) := by
  obtain ⟨tools, eq⟩ := only s
  rw [eq]
  exact KeepsModes.tools tools

theorem editTools {tools : NotificationTools} {edited : ContinuousTaskRecord}
    (found : s.taskAt key = some record) (same : SameModes record edited) :
    KeepsModes s ((s.setTools tools).setRecord key edited) :=
  (KeepsModes.tools tools).trans (edit found same)

theorem editSaved (env : Env) {tools : NotificationTools} {edited : ContinuousTaskRecord}
    (found : s.taskAt key = some record) (same : SameModes record edited) :
    KeepsModes s (((s.setTools tools).setRecord key edited).saveTasks env) :=
  (editTools found same).trans (save env)

theorem forEachTask
    {body : String → ContinuousTaskRecord → BgContinuousTaskMgr → BgContinuousTaskMgr}
    (each : ∀ key record current, current.taskAt key = some record →
      KeepsModes current (body key record current)) : KeepsModes s (s.forEachTask body) := by
  have step : ∀ key record current, current.taskAt key = some record →
      KeepsModes s current → KeepsModes s (body key record current) := by
    intro key record current found early
    exact early.trans (each key record current found)
  exact KeyedMap.forEach_invariant step s (refl s)

theorem stopAndSave (env : Env) (record : ContinuousTaskRecord) :
    KeepsModes s (s.stopAndSave env record) :=
  (appStop record.uid).trans (save env)

theorem cancelNotification (env : Env) (record : ContinuousTaskRecord) :
    KeepsModes s (s.cancelNotification env record).2 := by
  unfold BgContinuousTaskMgr.cancelNotification
  dsimp only
  split
  · exact refl s
  split
  · exact tools _
  · exact tools _

theorem endTasks {chosen : ContinuousTaskRecord → Bool}
    {mark : ContinuousTaskRecord → ContinuousTaskRecord}
    {cancel finish : ContinuousTaskRecord → BgContinuousTaskMgr → BgContinuousTaskMgr}
    (cancels : ∀ record, OnlyTools (cancel record))
    (finishes : ∀ record current, KeepsModes current (finish record current)) :
    KeepsModes s (s.endTasks chosen mark cancel finish) := by
  refine forEachTask ?_
  intro key record current found
  split
  · exact (((told (mark record) .taskCancel).trans (only (cancels record))).trans erase).trans
      (finishes record _)
  · exact refl current

theorem cached (env : Env) (record : ContinuousTaskRecord) :
    KeepsModes s (s.setCachedBundleInfo env record) := by
  unfold setCachedBundleInfo
  split
  · exact refl s
  split
  · exact refl s
  · exact of_eq rfl rfl rfl rfl rfl

theorem removeBanners (env : Env) (chosen : BannerNotificationRecord → Bool) :
    KeepsModes s (s.removeBanners env chosen) := by
  unfold BgContinuousTaskMgr.removeBanners refreshAuthRecord
  split
  · split
    · exact of_eq rfl rfl rfl rfl rfl
    · exact of_eq rfl rfl rfl rfl rfl
  · exact refl s

theorem stopBanner (env : Env) (label : String) :
    KeepsModes s (s.stopBannerContinuousTaskByUser env label) := by
  unfold stopBannerContinuousTaskByUser refreshAuthRecord
  split
  · exact refl s
  · split
    · split
      · exact of_eq rfl rfl rfl rfl rfl
      · exact of_eq rfl rfl rfl rfl rfl
    · exact refl s

theorem removeDelay (uid : Int) : KeepsModes s (s.removeAudioPlaybackDelayTask uid) :=
  of_ite (of_eq rfl rfl rfl rfl rfl) (refl s)

theorem liveView (uid : Int) (publish : Bool) (event : String) :
    KeepsModes s (s.setLiveViewInfo uid publish event) := by
  unfold setLiveViewInfo
  dsimp only
  split
  · exact of_eq rfl rfl rfl rfl rfl
  split
  · exact of_eq rfl rfl rfl rfl rfl
  · exact of_eq rfl rfl rfl rfl rfl

/-! ### Stops -/

theorem stopByTask (env : Env) (continuousTaskId : Int) :
    KeepsModes s (s.stopBackgroundRunningByTask env continuousTaskId).2 := by
  unfold stopBackgroundRunningByTask
  split
  · exact refl s
  · rename_i key record search
    exact (((told record .taskCancel).trans erase).trans
      (cancelNotification env record)).trans ((appStop record.uid).trans (save env))

theorem stopTasks (env : Env) (ids : List Int) :
    KeepsModes s (BgContinuousTaskMgr.stopTasks env ids s).2 := by
  induction ids generalizing s with
  | nil => exact refl s
  | cons continuousTaskId rest ih =>
      have first : KeepsModes s (s.stopBackgroundRunningByTask env continuousTaskId).2 :=
        stopByTask env continuousTaskId
      unfold BgContinuousTaskMgr.stopTasks
      dsimp only
      split
      · exact first
      · exact first.trans ih

theorem stopInner (env : Env) (uid : Int) (abilityName : String)
    (abilityId continuousTaskId : Int) : KeepsModes s
      (s.stopBackgroundRunningInner env uid abilityName abilityId continuousTaskId).2 := by
  unfold stopBackgroundRunningInner
  split
  · split
    · exact refl s
    · exact stopByTask env continuousTaskId
  · split
    · exact refl s
    · exact stopTasks env _

theorem reason (key : String) (reason : StopReason) (detailed : Int) :
    KeepsModes s (s.setReason key reason detailed) := by
  unfold setReason
  split
  · exact refl s
  · rename_i record found
    exact edit found (⟨rfl, rfl⟩)

theorem handleStop (env : Env) (uid : Int) (taskType : Nat) (key : String) :
    KeepsModes s (s.handleStopContinuousTask env uid taskType key) := by
  unfold handleStopContinuousTask
  split
  · exact (endTasks (onlyTools_cancelMainAndSub env) (fun _ _ => save env)).trans (appStop uid)
  split
  · exact (endTasks (onlyTools_cancelMainAndSub env) (fun _ _ => save env)).trans (appStop uid)
  split
  · exact refl s
  · exact (reason _ _ _).trans (stopByTask env _)

/-! ### Suspension and reactivation -/

theorem retoldUnsaved {edited : ContinuousTaskRecord} (type : ContinuousTaskEventTriggerType)
    (found : s.taskAt key = some record) (same : SameModes record edited) :
    KeepsModes s ((s.setRecord key edited).onContinuousTaskChanged edited type) :=
  (edit found same).trans (told edited type)

theorem activateTask (env : Env) (uid : Int) (loop : ActiveLoop)
    (found : loop.mgr.taskAt key = some record) :
    KeepsModes loop.mgr (BgContinuousTaskMgr.activateTask env uid key record loop).mgr := by
  unfold BgContinuousTaskMgr.activateTask
  dsimp only
  split
  · exact refl loop.mgr
  have active : KeepsModes loop.mgr ((loop.mgr.setRecord key
      (reactivated record)).onContinuousTaskChanged (reactivated record) .taskActive) :=
    retoldUnsaved _ found (⟨rfl, rfl⟩)
  have stored := taskAt_setRecord_self loop.mgr key (reactivated record) found
  split
  · exact active.trans (save env)
  split
  · exact active.trans (editSaved env stored (sameModes_handleActiveNotification env _ _))
  · have relabelled : SameModes (reactivated record)
        { reactivated record with
          notificationLabel := loop.notificationLabel
          notificationId := loop.notificationId } := ⟨rfl, rfl⟩
    exact (active.trans (edit stored relabelled)).trans (save env)

theorem active (env : Env) (uid : Int) : KeepsModes s (s.handleActiveContinuousTask env uid) := by
  have step : ∀ key record (loop : ActiveLoop), loop.mgr.taskAt key = some record →
      KeepsModes s loop.mgr →
      KeepsModes s (BgContinuousTaskMgr.activateTask env uid key record loop).mgr := by
    intro key record loop found early
    exact early.trans (activateTask env uid loop found)
  exact KeyedMap.forEach_invariant step { mgr := s } (refl s)

theorem retold (env : Env) {edited : ContinuousTaskRecord}
    (type : ContinuousTaskEventTriggerType) (found : s.taskAt key = some record)
    (same : SameModes record edited) : KeepsModes s
      (((s.setRecord key edited).onContinuousTaskChanged edited type).saveTasks env) :=
  (retoldUnsaved type found same).trans (save env)

theorem suspend (env : Env) (uid mode : Int) (key : String) (isStandby : Bool) :
    KeepsModes s (s.suspendContinuousTask env uid mode key isStandby) := by
  unfold suspendContinuousTask
  dsimp only
  split
  · exact refl s
  split
  · split
    · unfold handleSuspendContinuousTaskByStandby
      split
      · exact refl s
      · rename_i record found
        exact of_ite (refl s) (retold env _ found (⟨rfl, rfl⟩))
    · exact refl s
  split
  · unfold handleSuspendContinuousTask
    split
    · exact refl s
    · rename_i record found
      dsimp only
      refine trans ?_ (appStop uid)
      refine trans ?_ (only (onlyTools_cancelMainAndSub env record))
      exact of_ite (retold env _ found (⟨rfl, rfl⟩)) (refl s)
  · exact handleStop env uid 0 key

theorem activate (env : Env) (uid : Int) (isStandby : Bool) :
    KeepsModes s (s.activeContinuousTask env uid isStandby) := by
  refine of_ite (refl s) (of_ite (of_ite (forEachTask ?_) (refl s)) (active env uid))
  intro key record current found
  exact of_ite (refl current) (retold env _ found (⟨rfl, rfl⟩))

theorem suspendAudio (env : Env) (uid : Int) (found : s.taskAt key = some record) :
    KeepsModes s (BgContinuousTaskMgr.suspendAudio env uid key record s) := by
  unfold BgContinuousTaskMgr.suspendAudio
  dsimp only
  split
  · have stored := taskAt_setRecord_self s key (undetected record) found
    have unheard : KeepsModes s (s.setRecord key (undetected record)) :=
      edit found (⟨rfl, rfl⟩)
    have cancelled : KeepsModes s
        ((s.setRecord key (undetected record)).cancelPair env record.mainPair) :=
      unheard.trans (tools _)
    split
    · exact cancelled.trans (of_eq rfl rfl rfl rfl rfl)
    split
    · exact cancelled.trans (retold env _ stored (⟨rfl, rfl⟩))
    · exact ((cancelled.trans (told _ _)).trans erase).trans (save env)
  · exact refl s

theorem handleSuspendAudio (env : Env) (uid : Int) :
    KeepsModes s (s.handleSuspendContinuousAudioTask env uid) :=
  (forEachTask (fun _ _ _ found => suspendAudio env uid found)).trans (appStop uid)

/-! ### Notifications -/

theorem avSessionNotifyTask (env : Env) (isPublish : Bool) (found : s.taskAt key = some record) :
    KeepsModes s (s.avSessionNotifyTask env isPublish key record).2 := by
  have noted := sameModes_note record (s.checkNotificationText env record)
  unfold BgContinuousTaskMgr.avSessionNotifyTask
  dsimp only
  split
  · exact edit found (⟨rfl, rfl⟩)
  split
  · exact refl s
  split
  · exact editSaved env found (sameModes_sendContinuousTaskNotification env s record)
  split
  · unfold refreshForAvsession
    dsimp only
    split
    · exact editSaved env found (noted.trans (⟨rfl, rfl⟩))
    · exact editSaved env found noted
  · exact refl s

theorem avSessionInner (env : Env) (uid : Int) (isPublish : Bool) :
    KeepsModes s (s.avSessionNotifyUpdateNotificationInner env uid isPublish).2 := by
  have noted : KeepsModes s
      { s with avSessionNotification := s.avSessionNotification.insert uid isPublish } :=
    of_eq rfl rfl rfl rfl rfl
  unfold avSessionNotifyUpdateNotificationInner
  dsimp only
  have ready := @of_ite _ (isPublish = true) _ _ _ (noted.trans (removeDelay uid)) noted
  split
  · exact ready.trans (removeDelay uid)
  · rename_i key record search
    have found := (taskAt_of_findTask _ key record search).1
    exact (ready.trans (avSessionNotifyTask env isPublish found)).trans (removeDelay uid)

theorem avSession (env : Env) (callingUid uid pid : Int) (isPublish : Bool) :
    KeepsModes s (s.avSessionNotifyUpdateNotification env callingUid uid pid isPublish).2 := by
  unfold avSessionNotifyUpdateNotification
  split
  · exact refl s
  split
  · exact refl s
  split
  · exact avSessionInner env uid isPublish
  · exact of_eq rfl rfl rfl rfl rfl

theorem delayedNotify (env : Env) : KeepsModes s (s.runDelayedNotify env) := by
  unfold runDelayedNotify
  split
  · exact refl s
  · rename_i uid _ rest _
    have taken : KeepsModes s { s with delayedNotify := rest } := of_eq rfl rfl rfl rfl rfl
    exact taken.trans (avSessionInner env uid false)

theorem consumed (env : Env) (uid : Int) : KeepsModes s (s.onConsumed env uid) := by
  have noted : KeepsModes s (s.setLiveViewInfo uid true navigation) := liveView _ _ _
  refine of_ite (noted.trans (forEachTask ?_)) noted
  intro key record current found
  exact of_ite (refl current) (editSaved env found (⟨rfl, rfl⟩))

theorem liveViewCanceled (env : Env) (uid : Int) : KeepsModes s (s.onLiveViewCanceled env uid) := by
  have noted : KeepsModes s (s.setLiveViewInfo uid false navigation) := liveView _ _ _
  refine of_ite (noted.trans (forEachTask ?_)) noted
  intro key record current found
  exact of_ite (refl current)
    (editSaved env found (sameModes_sendContinuousTaskNotification env current record))

theorem stopByUser (env : Env) (key : String) (isSubNotification : Bool)
    (deleteReason : DeleteReason) :
    KeepsModes s (s.stopContinuousTaskByUser env key isSubNotification deleteReason) := by
  unfold stopContinuousTaskByUser stopContinuousTaskByUserInner
  dsimp only
  split
  · exact refl s
  split
  · exact reason _ _ _
  split
  · exact reason _ _ _
  · exact (reason _ _ _).trans
      (endTasks (onlyTools_cancelOther env _) (fun record _ => stopAndSave env record))

theorem canceled (env : Env) (pair : String × Int) (deleteReason : DeleteReason) :
    KeepsModes s (s.onCanceled env pair deleteReason) := by
  unfold onCanceled
  split
  · exact refl s
  split
  · exact refl s
  have withdrawn : KeepsModes s (s.setTools (s.tools.withdraw pair)) := tools _
  refine withdrawn.trans ?_
  unfold cancelNotificationByBgTask
  split
  · exact stopBanner env _
  split
  · exact refl _
  · exact stopByUser env _ _ deleteReason

theorem bundleResources (env : Env) : KeepsModes s (s.onBundleResourcesChanged env) := by
  let renewed := { s with
    texts := getNotificationPrompt env.resourceString s.texts
    cachedBundleInfos := ∅ }
  refine ⟨?_, Or.inl rfl, rfl, rfl, rfl⟩
  intro key record found
  obtain ⟨old, stored, rfl⟩ := Option.map_eq_some_iff.mp
    ((KeyedMap.lookup_mapVal (fun _ record => renewed.notedByTexts env record)
      s.continuousTaskInfosMap key).symm.trans found)
  refine ⟨old, stored, ?_⟩
  unfold notedByTexts
  split
  · exact sameModes_note old _
  · exact SameModes.refl old

theorem dete (env : Env) (taskKeys : List String) :
    KeepsModes s (taskKeys.foldl (sendForDete env) s) := by
  induction taskKeys generalizing s with
  | nil => exact refl s
  | cons key rest ih =>
      refine trans ?_ ih
      unfold sendForDete
      split
      · exact refl s
      · rename_i record found
        have noted : KeepsModes s { s with
            avSessionNotification := s.avSessionNotification.insert record.uid false } :=
          of_eq rfl rfl rfl rfl rfl
        exact noted.trans (editTools found (sameModes_handleActiveNotification env _ record))

theorem audioStart (env : Env) (uid : Int) : KeepsModes s (s.notifyAudioStartInner env uid) := by
  apply notifyAudioStartInner_keeps env uid (refl s)
  · intro key record mgr found early
    exact early.trans (edit found ⟨rfl, rfl⟩)
  · intro mgr newPromptInfos early
    exact (early.trans (tools _)).trans (save env)

/-! ### Other events -/

theorem appStopped (env : Env) (uid : Int) : KeepsModes s (s.onAppStopped env uid) := by
  unfold onAppStopped
  split
  · exact refl s
  have ended : KeepsModes s (s.endTasks (fun record => record.uid == uid) markSystemCancel
      (cancelExisting env) (BgContinuousTaskMgr.stopAndSave env)) :=
    endTasks (onlyTools_cancelExisting env) (fun record _ => stopAndSave env record)
  dsimp only
  split
  · exact ended
  · exact ended.trans (removeBanners env _)

theorem bundleInfo (env : Env) (action : PackageAction) (bundleName : String)
    (uid userId appIndex : Int) :
    KeepsModes s (s.onBundleInfoChanged env action bundleName uid userId appIndex) := by
  have uncached : KeepsModes s { s with cachedBundleInfos := s.cachedBundleInfos.erase uid } :=
    of_eq rfl rfl rfl rfl rfl
  unfold onBundleInfoChanged
  dsimp only
  split
  · exact refl s
  split
  · exact uncached
  · exact uncached.trans (removeBanners env _)
  · exact uncached.trans
      (endTasks (onlyTools_cancelMain env) (fun record _ => stopAndSave env record))

theorem removeByMode (env : Env) (mode : Nat) : KeepsModes s (s.handleRemoveTaskByMode env mode) :=
  endTasks (fun _ current => ⟨current.tools, rfl⟩)
    (fun record _ => (stopAndSave env record).trans (cancelNotification env record))

theorem dumpCancelAll (env : Env) : KeepsModes s (s.dumpCancelAll env) := by
  have stops : ∀ (uids : List Int) (current : BgContinuousTaskMgr), KeepsModes current
      (uids.foldl (fun current uid => current.handleAppContinuousTaskStop uid) current) := by
    intro uids
    induction uids with
    | nil => exact refl
    | cons uid rest ih => exact fun current => (appStop uid).trans (ih _)
  have cleared : KeepsModes s (dumpCleared env s) := by
    obtain ⟨tools, calls, dumped⟩ := forEachTask_dumpCancel (s := s) env
    unfold dumpCleared
    rw [dumped]
    refine ⟨?_, Or.inl rfl, rfl, rfl, rfl⟩
    intro key record found
    exact absurd ((AList.lookup_empty key).symm.trans found) (by simp)
  exact (cleared.trans (save env)).trans (stops _ _)

theorem addSubscriber (info : SubscriberInfo) : KeepsModes s (s.addSubscriber info) :=
  of_ite (of_eq rfl rfl rfl rfl rfl) (of_eq rfl rfl rfl rfl rfl)

theorem rehash (rank : String → Nat) : KeepsModes s (s.rehash rank) := by
  refine ⟨?_, Or.inl rfl, rfl, rfl, rfl⟩
  intro key record found
  exact ⟨record, (KeyedMap.lookup_reorder _ _ _).symm.trans found, SameModes.refl record⟩

theorem determineMatch :
    KeepsModes s (s.determineMatchCombinedTaskNotifacation record).mgr ∧
      SameModes record (s.determineMatchCombinedTaskNotifacation record).record := by
  unfold determineMatchCombinedTaskNotifacation
  dsimp only
  split
  · exact ⟨refl s, SameModes.refl record⟩
  rename_i key task search
  have found := (taskAt_of_findTask s key task search).1
  split
  · exact ⟨refl s, SameModes.refl record⟩
  split
  · exact ⟨refl s, SameModes.refl record⟩
  split
  · exact ⟨refl s, SameModes.refl record⟩
  split
  · exact ⟨refl s, SameModes.refl record⟩
  · have marked : SameModes task
        { task with combinedNotificationTaskId := record.combinedNotificationTaskId } :=
      ⟨rfl, rfl⟩
    exact ⟨edit found marked, ⟨rfl, rfl⟩⟩

theorem checkCombined :
    KeepsModes s (s.checkCombinedTaskNotification record).mgr ∧
      SameModes record (s.checkCombinedTaskNotification record).record := by
  unfold checkCombinedTaskNotification
  dsimp only
  split
  · exact ⟨refl s, SameModes.refl record⟩
  split
  · exact ⟨refl s, SameModes.refl record⟩
  split
  · exact ⟨refl s, SameModes.refl record⟩
  split
  · exact ⟨refl s, SameModes.refl record⟩
  split
  · exact ⟨refl s, SameModes.refl record⟩
  · exact determineMatch

theorem finishUpdate (env : Env) (key : String) : KeepsModes s (s.finishUpdate env key).2 := by
  unfold BgContinuousTaskMgr.finishUpdate
  split
  · exact refl s
  · rename_i record _
    have activated := @of_ite s (record.suspendState = true) _ _ _ (active env record.uid) (refl s)
    dsimp only
    split
    · exact activated
    · exact (activated.trans (told _ .taskUpdate)).trans (save env)

theorem progress (env : Env) (uid : Int) (progress : DataTransferProgress) :
    KeepsModes s (s.updateDataTransferProgressInner env uid progress).2 := by
  unfold updateDataTransferProgressInner
  split
  · exact refl s
  split
  · exact refl s
  split
  · exact refl s
  · rename_i key record search
    have found := (taskAt_of_findTask s key record search).1
    have same : SameModes record (withProgress progress record) := ⟨rfl, rfl⟩
    have stored := taskAt_setRecord_self s key (withProgress progress record) found
    have published := sameModes_sendContinuousTaskNotification env
      (s.setRecord key (withProgress progress record)) (withProgress progress record)
    dsimp only
    split
    · exact refl s
    split
    · exact (edit found same).trans (editTools stored published)
    · exact ((edit found same).trans (editTools stored published)).trans (save env)

/-! ### Restoration -/

theorem restored (env : Env) (allProcesses : List Int) :
    KeepsModes s (s.forEachTask (checkRestored env allProcesses)) := by
  refine forEachTask ?_
  intro key record current found
  unfold checkRestored
  split
  · exact erase.trans (cancelNotification env record)
  split
  · exact refl current
  · have known : (current.setCachedBundleInfo env record).taskAt key = some record :=
      ((quiet_setCachedBundleInfo current env record).taskAt key).trans found
    exact (cached env record).trans
      (editTools known (sameModes_handleActiveNotification env _ record))

end KeepsModes

end BgTaskMgr.Continuous
