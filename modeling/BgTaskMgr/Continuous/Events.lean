import BgTaskMgr.Continuous.Requests
import Mathlib.Data.List.Sort

/-!
# Events of the system

What the manager does when the system suspends, reactivates or ends tasks, when an app, an
ability or an account goes, when AVSession or a live view takes over a notification, when
the user deletes one, and when texts change.
-/

set_option autoImplicit false

namespace BgTaskMgr.Continuous

namespace BgContinuousTaskMgr

/-! ## Loops that end tasks -/

/-- A task ends: it is announced as `mark` leaves it, `cancel` cancels notifications, and
its record goes. -/
def endTask (mark : ContinuousTaskRecord → ContinuousTaskRecord)
    (cancel : ContinuousTaskRecord → BgContinuousTaskMgr → BgContinuousTaskMgr) (key : String)
    (record : ContinuousTaskRecord) (self : BgContinuousTaskMgr) : BgContinuousTaskMgr :=
  (cancel record (self.onContinuousTaskChanged (mark record) .taskCancel)).eraseRecord key

/-- The loop over the tasks to end; `finish` is what follows each of them. -/
def endTasks (chosen : ContinuousTaskRecord → Bool)
    (mark : ContinuousTaskRecord → ContinuousTaskRecord)
    (cancel finish : ContinuousTaskRecord → BgContinuousTaskMgr → BgContinuousTaskMgr)
    (self : BgContinuousTaskMgr) : BgContinuousTaskMgr :=
  self.forEachTask (fun key record current =>
    if chosen record then finish record (current.endTask mark cancel key record) else current)

def cancelMainAndSub (env : Env) (record : ContinuousTaskRecord) (self : BgContinuousTaskMgr) :
    BgContinuousTaskMgr :=
  (self.cancelPair env record.mainPair).cancelSubPair env record

def cancelMain (env : Env) (record : ContinuousTaskRecord) (self : BgContinuousTaskMgr) :
    BgContinuousTaskMgr :=
  self.cancelPair env record.mainPair

/-- As `cancelMainAndSub`, the main notification only where there is one. -/
def cancelExisting (env : Env) (record : ContinuousTaskRecord) (self : BgContinuousTaskMgr) :
    BgContinuousTaskMgr :=
  if record.notificationId ≠ -1 then self.cancelMainAndSub env record
  else self.cancelSubPair env record

def cancelOther (env : Env) (isSubNotification : Bool) (record : ContinuousTaskRecord)
    (self : BgContinuousTaskMgr) : BgContinuousTaskMgr :=
  if isSubNotification then self.cancelPair env record.mainPair else self.cancelSubPair env record

def stopAndSave (env : Env) (record : ContinuousTaskRecord) (self : BgContinuousTaskMgr) :
    BgContinuousTaskMgr :=
  (self.handleAppContinuousTaskStop record.uid).saveTasks env

def markFrozen (detailedCancelReason : Int) (record : ContinuousTaskRecord) :
    ContinuousTaskRecord :=
  { record with reason := .freezeCancel, detailedCancelReason := detailedCancelReason }

def markSystemCancel (record : ContinuousTaskRecord) : ContinuousTaskRecord :=
  { record with reason := .systemCancel }

def removeContinuousTaskRecordByUid (env : Env) (uid : Int) (self : BgContinuousTaskMgr) :
    BgContinuousTaskMgr :=
  (self.endTasks (fun record => record.uid == uid)
    (markFrozen ContinuousTaskCancelReason.systemCancelUseIllegally) (cancelMainAndSub env)
    (fun _ => saveTasks env)).handleAppContinuousTaskStop uid

def removeContinuousTaskRecordByUidAndMode (env : Env) (uid : Int) (mode : Nat)
    (self : BgContinuousTaskMgr) : BgContinuousTaskMgr :=
  (self.endTasks (fun record => record.uid == uid && checkExistMode record.bgModeIds mode)
    (markFrozen (getDetailedCancelReasonFromMode mode)) (cancelMainAndSub env)
    (fun _ => saveTasks env)).handleAppContinuousTaskStop uid

def handleRemoveTaskByMode (env : Env) (mode : Nat) (self : BgContinuousTaskMgr) :
    BgContinuousTaskMgr :=
  self.endTasks (fun record => record.isFromWebview && checkExistMode record.bgModeIds mode)
    markSystemCancel (fun _ current => current)
    (fun record current => ((current.stopAndSave env record).cancelNotification env record).2)

/-- `ClearBgOsAccountTask`, in a car with the accounts in the foreground. -/
def clearBgOsAccountTask (env : Env) (activatedOsAccountIds : List Int)
    (self : BgContinuousTaskMgr) : BgContinuousTaskMgr :=
  self.endTasks (fun record => !(activatedOsAccountIds.contains record.userId)) markSystemCancel
    (cancelMain env) (stopAndSave env)

def onAccountsStateChanged (env : Env) (self : BgContinuousTaskMgr) : BgContinuousTaskMgr :=
  match env.activatedOsAccountIds with
  | none => self
  | some activatedOsAccountIds => self.clearBgOsAccountTask env activatedOsAccountIds

/-! ## Authorisation records -/

def refreshAuthRecord (env : Env) (self : BgContinuousTaskMgr) : BgContinuousTaskMgr :=
  if env.saveOk then { self with authFile := self.bannerNotificationRecord } else self

/-- The loop that takes out authorisation records; the file is written when one goes. -/
def removeBanners (env : Env) (chosen : BannerNotificationRecord → Bool)
    (self : BgContinuousTaskMgr) : BgContinuousTaskMgr :=
  if (KeyedMap.vals self.bannerNotificationRecord).any chosen then
    { self with
      bannerNotificationRecord := KeyedMap.filterVal (fun _ banner => !chosen banner)
        self.bannerNotificationRecord }.refreshAuthRecord env
  else self

def stopBannerContinuousTaskByUser (env : Env) (label : String) (self : BgContinuousTaskMgr) :
    BgContinuousTaskMgr :=
  match self.bannerNotificationRecord.lookup label with
  | none => self
  | some banner =>
      if self.isSysReady && banner.authResult ≠ UserAuthResult.grantedOnce &&
          banner.authResult ≠ UserAuthResult.grantedAlways then
        { self with
          bannerNotificationRecord :=
            self.bannerNotificationRecord.erase label }.refreshAuthRecord env
      else self

/-! ## Apps, abilities and bundles -/

def onAbilityStateChanged (env : Env) (uid : Int) (abilityName : String) (abilityId : Int)
    (self : BgContinuousTaskMgr) : BgContinuousTaskMgr :=
  if !self.isSysReady ∨ abilityName = "" then self
  else (self.stopBackgroundRunningByContext env uid abilityName abilityId).2

def onAppStopped (env : Env) (uid : Int) (self : BgContinuousTaskMgr) : BgContinuousTaskMgr :=
  if !self.isSysReady then self
  else
    let ended := self.endTasks (fun record => record.uid == uid) markSystemCancel
      (cancelExisting env) (stopAndSave env)
    match env.appIndexAndBundleName uid with
    | none => ended
    | some (stopAppIndex, stopBundleName) =>
        ended.removeBanners env (fun banner => banner.bundleName == stopBundleName &&
          banner.appIndex == stopAppIndex && banner.authResult == UserAuthResult.grantedOnce)

def addModes (appliedModeIds bgModeIds : List Nat) : List Nat :=
  bgModeIds.foldl (fun applied mode => if mode ∈ applied then applied else applied ++ [mode])
    appliedModeIds

def onAppStateChanged (uid : Int) (foreground : Bool) (self : BgContinuousTaskMgr) :
    BgContinuousTaskMgr :=
  if !self.isSysReady then self
  else if foreground then { self with appOnForeground := self.appOnForeground.insert uid }
  else
    let background := { self with
      appOnForeground := self.appOnForeground.filter (fun other => other ≠ uid)
      applyTaskOnForeground := self.applyTaskOnForeground.erase uid }
    if self.continuousTaskInfosMap.entries.isEmpty then background
    else
      let tasks := (KeyedMap.vals self.continuousTaskInfosMap).filter
        (fun record => record.uid == uid)
      { background with
        applyTaskOnForeground := background.applyTaskOnForeground.insert uid
          (tasks.foldl (fun applied task => addModes applied task.bgModeIds) []) }

inductive PackageAction where
  | added
  | removedOrChanged
  | dataCleared
  deriving DecidableEq, Repr

def onBundleInfoChanged (env : Env) (action : PackageAction) (bundleName : String)
    (uid userId appIndex : Int) (self : BgContinuousTaskMgr) : BgContinuousTaskMgr :=
  let uncached := { self with cachedBundleInfos := self.cachedBundleInfos.erase uid }
  if !self.isSysReady then self
  else
    match action with
    | .added => uncached
    | .removedOrChanged =>
        uncached.removeBanners env (fun banner => banner.userId == userId &&
          banner.bundleName == bundleName && banner.appIndex == appIndex)
    | .dataCleared =>
        uncached.endTasks (fun record => record.uid == uid) markSystemCancel (cancelMain env)
          (stopAndSave env)

def onRemoveSystemAbility (env : Env) (mode : Nat) (self : BgContinuousTaskMgr) :
    BgContinuousTaskMgr :=
  if self.isSysReady && (mode == BackgroundMode.voip || mode == BackgroundMode.workout ||
      mode == BackgroundMode.audioPlayback) then
    self.handleRemoveTaskByMode env mode
  else self

/-! ## Stop by the system -/

def setReason (key : String) (reason : StopReason) (detailedCancelReason : Int)
    (self : BgContinuousTaskMgr) : BgContinuousTaskMgr :=
  match self.continuousTaskInfosMap.lookup key with
  | none => self
  | some record =>
      self.setRecord key
        { record with
          reason := reason
          detailedCancelReason :=
            if detailedCancelReason ≠ ContinuousTaskCancelReason.invalidReason then
              detailedCancelReason
            else record.detailedCancelReason }

def handleStopContinuousTask (env : Env) (uid : Int) (taskType : Nat) (key : String)
    (self : BgContinuousTaskMgr) : BgContinuousTaskMgr :=
  if taskType = BackgroundMode.dataTransfer then
    self.removeContinuousTaskRecordByUidAndMode env uid taskType
  else if taskType = allModes then self.removeContinuousTaskRecordByUid env uid
  else
    match self.continuousTaskInfosMap.lookup key with
    | none => self
    | some record =>
        let detailed := (record.bgModeIds.head?.map getDetailedCancelReasonFromMode).getD
          ContinuousTaskCancelReason.invalidReason
        ((self.setReason key .freezeCancel detailed).stopBackgroundRunningByTask env
          record.continuousTaskId).2

def stopContinuousTask (env : Env) (uid : Int) (taskType : Nat) (key : String)
    (self : BgContinuousTaskMgr) : BgContinuousTaskMgr :=
  if self.isSysReady then self.handleStopContinuousTask env uid taskType key else self

/-! ## Suspension -/

def suspended (mode : Int) (record : ContinuousTaskRecord) : ContinuousTaskRecord :=
  { record with
    suspendState := true
    isStandby := false
    suspendReason := suspendReasonOf mode false }

def handleSuspendContinuousTask (env : Env) (uid mode : Int) (key : String)
    (self : BgContinuousTaskMgr) : BgContinuousTaskMgr :=
  match self.continuousTaskInfosMap.lookup key with
  | none => self
  | some record =>
      let told := if record.uid = uid then
          ((self.setRecord key (suspended mode record)).onContinuousTaskChanged
            (suspended mode record) .taskSuspend).saveTasks env
        else self
      (told.cancelMainAndSub env record).handleAppContinuousTaskStop uid

def standbySuspended (mode : Int) (record : ContinuousTaskRecord) : ContinuousTaskRecord :=
  { record with
    isStandby := true
    isStandbySuspend := true
    suspendReason := suspendReasonOf mode true }

def handleSuspendContinuousTaskByStandby (env : Env) (uid mode : Int) (key : String)
    (self : BgContinuousTaskMgr) : BgContinuousTaskMgr :=
  match self.continuousTaskInfosMap.lookup key with
  | none => self
  | some record =>
      if record.uid ≠ uid ∨ record.suspendState ∨ record.isStandbySuspend then self
      else
        ((self.setRecord key (standbySuspended mode record)).onContinuousTaskChanged
          (standbySuspended mode record) .taskSuspend).saveTasks env

def continuousTaskSuspend : BitVec 32 := 2#32

def continuousTaskActive : BitVec 32 := 4#32

def suspendContinuousTask (env : Env) (uid mode : Int) (key : String) (isStandby : Bool)
    (self : BgContinuousTaskMgr) : BgContinuousTaskMgr :=
  if !self.isSysReady then self
  else
    let hasCallback := self.isExistCallback uid continuousTaskSuspend
    if isStandby then
      if hasCallback then self.handleSuspendContinuousTaskByStandby env uid mode key else self
    else if hasCallback then self.handleSuspendContinuousTask env uid mode key
    else self.handleStopContinuousTask env uid 0 key

/-- One task in the loop of `HandleActiveContinuousTaskByStandby`. -/
def activateStandby (env : Env) (uid : Int) (key : String) (record : ContinuousTaskRecord)
    (self : BgContinuousTaskMgr) : BgContinuousTaskMgr :=
  if record.uid ≠ uid ∨ !record.isStandbySuspend then self
  else
    let active := { record with isStandby := true, isStandbySuspend := false }
    ((self.setRecord key active).onContinuousTaskChanged active .taskActive).saveTasks env

def handleActiveContinuousTaskByStandby (env : Env) (uid : Int) (self : BgContinuousTaskMgr) :
    BgContinuousTaskMgr :=
  self.forEachTask (activateStandby env uid)

def activeContinuousTask (env : Env) (uid : Int) (isStandby : Bool)
    (self : BgContinuousTaskMgr) : BgContinuousTaskMgr :=
  if !self.isSysReady then self
  else if isStandby then
    if self.isExistCallback uid continuousTaskActive then
      self.handleActiveContinuousTaskByStandby env uid
    else self
  else self.handleActiveContinuousTask env uid

/-! ## Audio detection -/

def sendAudioCallBackTaskState (record : ContinuousTaskRecord) (self : BgContinuousTaskMgr) :
    BgContinuousTaskMgr :=
  { self with
    calls := self.calls ++ (self.bgTaskSubscribers.filter
      (fun subscriber => subscriber.isHap && subscriber.wantsTaskState)).map
      (fun subscriber => (subscriber.remote, .onContinuousTaskStop (audioCallbackInfo record))) }

def undetected (record : ContinuousTaskRecord) : ContinuousTaskRecord :=
  { record with audioDetectState := false }

def audioSuspended (record : ContinuousTaskRecord) : ContinuousTaskRecord :=
  { record with
    suspendState := true
    suspendAudioTaskTimes := 1
    suspendReason := systemSuspendAudioPlaybackNotRunning }

/-- One task in the loop of `HandleSuspendContinuousAudioTask`. -/
def suspendAudio (env : Env) (uid : Int) (key : String) (record : ContinuousTaskRecord)
    (self : BgContinuousTaskMgr) : BgContinuousTaskMgr :=
  if record.uid = uid ∧ checkExistMode record.bgModeIds BackgroundMode.audioPlayback then
    let cancelled := (self.setRecord key (undetected record)).cancelPair env record.mainPair
    if !self.isExistCallback uid continuousTaskSuspend then
      cancelled.sendAudioCallBackTaskState (undetected record)
    else if record.suspendAudioTaskTimes = 0 then
      ((cancelled.setRecord key (audioSuspended (undetected record))).onContinuousTaskChanged
        (audioSuspended (undetected record)) .taskSuspend).saveTasks env
    else
      ((cancelled.onContinuousTaskChanged
        (markFrozen ContinuousTaskCancelReason.systemCancelAudioPlaybackNotRunning
          (undetected record)) .taskCancel).eraseRecord key).saveTasks env
  else self

def handleSuspendContinuousAudioTask (env : Env) (uid : Int) (self : BgContinuousTaskMgr) :
    BgContinuousTaskMgr :=
  (self.forEachTask (suspendAudio env uid)).handleAppContinuousTaskStop uid

def suspendContinuousAudioTask (env : Env) (uid : Int) (self : BgContinuousTaskMgr) :
    BgContinuousTaskMgr :=
  if self.isSysReady then self.handleSuspendContinuousAudioTask env uid else self

/-! ## AVSession -/

def avsessionSaUid : Int := 6700

/-- The tasks are removed by name, so those of every uid go. -/
def removeAudioPlaybackDelayTask (uid : Int) (self : BgContinuousTaskMgr) : BgContinuousTaskMgr :=
  if uid ∈ self.delayTasks then
    { self with
      delayTasks := self.delayTasks.filter (fun other => other ≠ uid)
      delayedNotify := [] }
  else self

/-- The notification of a task with other modes, or with AVSession in front of it. -/
def refreshForAvsession (env : Env) (key : String) (record : ContinuousTaskRecord)
    (self : BgContinuousTaskMgr) : ErrCode × BgContinuousTaskMgr :=
  let prompt := self.checkNotificationText env record
  let noted := prompt.note record
  if prompt.text = "" then
    let cancelled := self.tools.cancelNotification env.toNotificationEnv record.mainPair
    (cancelled.1, ((self.setTools cancelled.2).setRecord key
      { noted with notificationId := -1 }).saveTasks env)
  else
    (.ok, ((self.setTools (self.tools.refreshContinuousNotifications env.toNotificationEnv
      [(record.notificationLabel, env.mainAbilityLabel record.bundleName record.userId,
        prompt.text)])).setRecord key noted).saveTasks env)

def avSessionNotifyTask (env : Env) (isPublish : Bool) (key : String)
    (record : ContinuousTaskRecord) (self : BgContinuousTaskMgr) :
    ErrCode × BgContinuousTaskMgr :=
  if !record.audioDetectState then
    (.ok, self.setRecord key { record with audioDetectState := true })
  else if !isPublish && checkExistMode record.bgSubModeIds
      BackgroundTaskSubmode.submodeAvsessionAudioPlayback then
    (.ok, self)
  else if !isPublish && record.bgModeIds == [BackgroundMode.audioPlayback] then
    let sent := self.sendContinuousTaskNotification env record
    (sent.ret, (self.setSent key sent).saveTasks env)
  else if !checkExistMode record.bgModeIds BackgroundMode.dataTransfer then
    self.refreshForAvsession env key record
  else (.ok, self)

def avSessionNotifyUpdateNotificationInner (env : Env) (uid : Int) (isPublish : Bool)
    (self : BgContinuousTaskMgr) : ErrCode × BgContinuousTaskMgr :=
  let noted := { self with
    avSessionNotification := self.avSessionNotification.insert uid isPublish }
  let ready := if isPublish then noted.removeAudioPlaybackDelayTask uid else noted
  match ready.findTask (fun _ task => task.uid == uid) with
  | none => (.objectNotExist, ready.removeAudioPlaybackDelayTask uid)
  | some (key, record) =>
      let notified := ready.avSessionNotifyTask env isPublish key record
      (notified.1, notified.2.removeAudioPlaybackDelayTask uid)

def avSessionNotifyUpdateNotification (env : Env) (callingUid uid pid : Int) (isPublish : Bool)
    (self : BgContinuousTaskMgr) : ErrCode × BgContinuousTaskMgr :=
  if !self.isSysReady then (.sysNotReady, self)
  else if callingUid ≠ avsessionSaUid then (.checkTaskParam, self)
  else if isPublish then self.avSessionNotifyUpdateNotificationInner env uid isPublish
  else
    (.ok, { self with
      delayedNotify := self.delayedNotify ++ [(uid, pid)]
      delayTasks := self.delayTasks.insert uid })

def runDelayedNotify (env : Env) (self : BgContinuousTaskMgr) : BgContinuousTaskMgr :=
  match self.delayedNotify with
  | [] => self
  | (uid, _) :: rest =>
      ({ self with delayedNotify := rest }.avSessionNotifyUpdateNotificationInner env uid false).2

/-! ## Live views -/

def navigation : String := "NAVIGATION"

def setLiveViewInfo (uid : Int) (isLiveViewPublish : Bool) (eventName : String)
    (self : BgContinuousTaskMgr) : BgContinuousTaskMgr :=
  let events := (self.liveViewInfo.lookup uid).getD []
  if isLiveViewPublish then
    { self with liveViewInfo := self.liveViewInfo.insert uid (events.insert eventName) }
  else
    let left := events.filter (fun event => event ≠ eventName)
    if left.isEmpty then { self with liveViewInfo := self.liveViewInfo.erase uid }
    else { self with liveViewInfo := self.liveViewInfo.insert uid left }

/-- One task in the loop of `CancelBgTaskNotificationInner`. -/
def cancelForLiveView (env : Env) (uid : Int) (key : String) (record : ContinuousTaskRecord)
    (self : BgContinuousTaskMgr) : BgContinuousTaskMgr :=
  if record.uid ≠ uid ∨ record.notificationId = -1 ∨ !checkLiveViewInfoModes record then self
  else
    ((self.cancelPair env record.mainPair).setRecord key
      { record with notificationId := -1 }).saveTasks env

/-- A navigation live view of an app appears. -/
def onConsumed (env : Env) (uid : Int) (self : BgContinuousTaskMgr) : BgContinuousTaskMgr :=
  let noted := self.setLiveViewInfo uid true navigation
  if noted.isSysReady then noted.forEachTask (cancelForLiveView env uid) else noted

/-- One task in the loop of `SendNotificationByLiveViewCancelInner`. -/
def sendAfterLiveView (env : Env) (uid : Int) (key : String) (record : ContinuousTaskRecord)
    (self : BgContinuousTaskMgr) : BgContinuousTaskMgr :=
  if record.uid ≠ uid ∨ record.notificationId ≠ -1 then self
  else (self.setSent key (self.sendContinuousTaskNotification env record)).saveTasks env

def onLiveViewCanceled (env : Env) (uid : Int) (self : BgContinuousTaskMgr) :
    BgContinuousTaskMgr :=
  let noted := self.setLiveViewInfo uid false navigation
  if noted.isSysReady then noted.forEachTask (sendAfterLiveView env uid) else noted

/-! ## Deleted notifications -/

/-- Why a notification goes: the user, a cancellation by the manager, or the service's
own removal of one that is not updated. -/
inductive DeleteReason where
  | userDelete
  | appCancel
  | notUpdated
  deriving DecidableEq, Repr

def markRemoved (record : ContinuousTaskRecord) : ContinuousTaskRecord :=
  { record with reason := .removeNotificationCancel }

def stopContinuousTaskByUserInner (env : Env) (key : String) (isSubNotification : Bool)
    (self : BgContinuousTaskMgr) : BgContinuousTaskMgr :=
  match self.continuousTaskInfosMap.lookup key with
  | none => self
  | some removeTask =>
      if removeTask.notificationId = -1 then self
      else
        self.endTasks (fun record => record.mainPair == removeTask.mainPair) markRemoved
          (cancelOther env isSubNotification) (stopAndSave env)

def stopContinuousTaskByUser (env : Env) (key : String) (isSubNotification : Bool)
    (deleteReason : DeleteReason) (self : BgContinuousTaskMgr) : BgContinuousTaskMgr :=
  if !self.isSysReady then self
  else
    let detailed := if deleteReason = .notUpdated then
        ContinuousTaskCancelReason.systemCancelDataTransferNotUpdate
      else ContinuousTaskCancelReason.userCancelRemoveNotification
    (self.setReason key .removeNotificationCancel detailed).stopContinuousTaskByUserInner env key
      isSubNotification

/-- `CancelNotificationByBgTask` of a continuous-task notification. -/
def cancelNotificationByBgTask (env : Env) (label abilityName : String)
    (deleteReason : DeleteReason) (self : BgContinuousTaskMgr) : BgContinuousTaskMgr :=
  if isBannerLabel label then self.stopBannerContinuousTaskByUser env label
  else
    match keyOfLabel label abilityName with
    | none => self
    | some (key, isSubNotification) =>
        if deleteReason = .appCancel then self
        else self.stopContinuousTaskByUser env key isSubNotification deleteReason

/-- A notification that is shown goes, and the manager hears of it.  What the manager
cancelled itself is gone already. -/
def onCanceled (env : Env) (pair : String × Int) (deleteReason : DeleteReason)
    (self : BgContinuousTaskMgr) : BgContinuousTaskMgr :=
  match self.tools.published.find? (fun notification => notification.pair == pair) with
  | none => self
  | some notification =>
      if deleteReason = .appCancel then self
      else
        (self.setTools (self.tools.withdraw pair)).cancelNotificationByBgTask env
          notification.label notification.abilityName deleteReason

/-! ## Dump -/

def dumpCancel (env : Env) (_key : String) (record : ContinuousTaskRecord)
    (self : BgContinuousTaskMgr) : BgContinuousTaskMgr :=
  (self.cancelPair env record.mainPair).onContinuousTaskChanged record .taskCancel

def dumpCancelAll (env : Env) (self : BgContinuousTaskMgr) : BgContinuousTaskMgr :=
  let uids := ((KeyedMap.vals self.continuousTaskInfosMap).map
    (fun record => record.uid)).dedup.insertionSort (fun first second => first ≤ second)
  let cleared := { self.forEachTask (dumpCancel env) with continuousTaskInfosMap := ∅ }.saveTasks env
  uids.foldl (fun current uid => current.handleAppContinuousTaskStop uid) cleared

/-- `ShellDump` with `--cancel_all`, or with `--cancel` and a key. -/
def shellDumpCancel (env : Env) (taskKey : Option String) (self : BgContinuousTaskMgr) :
    BgContinuousTaskMgr :=
  if !self.isSysReady then self
  else
    match taskKey with
    | none => self.dumpCancelAll env
    | some key =>
        match self.continuousTaskInfosMap.lookup key with
        | none => self
        | some record => (self.stopBackgroundRunningByTask env record.continuousTaskId).2

/-! ## Texts and detection -/

def initSubNotificationRecord (record : ContinuousTaskRecord) : ContinuousTaskRecord :=
  let modes := otherModes record.bgModeIds record.bgSubModeIds
  { record with
    bgModeIds := modes.1
    bgSubModeIds := modes.2
    bgModeId := if modes.2.isEmpty then record.bgModeId else modes.1.headD 0 }

def hasSubNotification (record : ContinuousTaskRecord) : Bool :=
  record.subNotificationId != -1 && record.subNotificationLabel != ""

def newPromptInfo (env : Env) (record : ContinuousTaskRecord) (self : BgContinuousTaskMgr) :
    PromptInfos :=
  let title := env.mainAbilityLabel record.bundleName record.userId
  if hasSubNotification record then
    let prompt := self.checkNotificationText env (initSubNotificationRecord record)
    if prompt.ret = .ok ∧ prompt.text ≠ "" then
      [(record.subNotificationLabel, title, prompt.text)]
    else []
  else if !checkExistMode record.bgModeIds BackgroundMode.dataTransfer then
    [(record.notificationLabel, title, (self.checkNotificationText env record).text)]
  else []

def notedByTexts (env : Env) (record : ContinuousTaskRecord) (self : BgContinuousTaskMgr) :
    ContinuousTaskRecord :=
  if !hasSubNotification record &&
      !checkExistMode record.bgModeIds BackgroundMode.dataTransfer then
    (self.checkNotificationText env record).note record
  else record

/-- `OnBundleResourcesChanged`, which also runs before the manager is ready. -/
def onBundleResourcesChanged (env : Env) (self : BgContinuousTaskMgr) : BgContinuousTaskMgr :=
  let renewed := { self with
    texts := getNotificationPrompt env.resourceString self.texts
    cachedBundleInfos := ∅ }
  { renewed with
    continuousTaskInfosMap := KeyedMap.mapVal (fun _ record => renewed.notedByTexts env record)
      self.continuousTaskInfosMap
    tools := self.tools.refreshContinuousNotifications env.toNotificationEnv
      ((KeyedMap.vals self.continuousTaskInfosMap).flatMap
        (fun record => renewed.newPromptInfo env record))
    bannerNotificationRecord := KeyedMap.mapVal (fun _ banner =>
      { banner with appName := env.mainAbilityLabel banner.bundleName banner.userId })
        self.bannerNotificationRecord }

/-- One key of `SendNotificationByDeteTaskInner`. -/
def sendForDete (env : Env) (self : BgContinuousTaskMgr) (key : String) : BgContinuousTaskMgr :=
  match self.continuousTaskInfosMap.lookup key with
  | none => self
  | some record =>
      let noted := { self with
        avSessionNotification := self.avSessionNotification.insert record.uid false }
      noted.setSent key (noted.handleActiveNotification env record)

def sendNotificationByDeteTask (env : Env) (taskKeys : List String) (self : BgContinuousTaskMgr) :
    BgContinuousTaskMgr :=
  if self.isSysReady then taskKeys.foldl (sendForDete env) self else self

/-- The state of the loop in `NotifyAudioStartInner`; `valid` is cleared by a text that is
missing, after which the function returns. -/
structure AudioStartLoop where
  mgr : BgContinuousTaskMgr
  newPromptInfos : PromptInfos := []
  valid : Bool := true

def noteAudioStart (appName : String) (uid : Int) (key : String) (record : ContinuousTaskRecord)
    (loop : AudioStartLoop) : AudioStartLoop :=
  let text := (loop.mgr.texts.continuousTaskText[getBgModeNameIndex BackgroundMode.audioPlayback
    record.isNewApi]?).getD ""
  if !loop.valid ∨ record.audioPlayState ∨ record.notificationId = -1 ∨ record.uid ≠ uid then loop
  else if text = "" then { loop with valid := false }
  else
    { loop with
      mgr := loop.mgr.setRecord key { record with audioPlayState := true }
      newPromptInfos := loop.newPromptInfos ++ [(record.notificationLabel, appName, text)] }

def notifyAudioStartInner (env : Env) (uid : Int) (self : BgContinuousTaskMgr) :
    BgContinuousTaskMgr :=
  match self.findTask (fun _ task =>
    task.uid == uid && !task.audioPlayState && task.notificationId > 0) with
  | none => self
  | some (_, task) =>
      let appName := env.mainAbilityLabel task.bundleName task.userId
      let loop := KeyedMap.forEach (fun loop => loop.mgr.continuousTaskInfosMap)
        (noteAudioStart appName uid) { mgr := self }
      if appName = "" then self
      else if !loop.valid ∨ loop.newPromptInfos = [] then loop.mgr
      else
        (loop.mgr.setTools (loop.mgr.tools.refreshContinuousNotifications env.toNotificationEnv
          loop.newPromptInfos)).saveTasks env

def notifyAudioStart (env : Env) (uid : Int) (self : BgContinuousTaskMgr) : BgContinuousTaskMgr :=
  if self.isSysReady then self.notifyAudioStartInner env uid else self

/-! ## Subscribers and permissions -/

def addSubscriber (info : SubscriberInfo) (self : BgContinuousTaskMgr) : BgContinuousTaskMgr :=
  if self.bgTaskSubscribers.any (fun target => target.remote == info.remote) then
    { self with
      bgTaskSubscribers := self.bgTaskSubscribers.map (fun target =>
        if target.remote = info.remote ∧ target.isHap then
          { target with flag := target.flag ||| info.flag }
        else target) }
  else { self with bgTaskSubscribers := self.bgTaskSubscribers ++ [info] }

/-- `RemoveSubscriberInner`: an app's subscriber stays while it has another flag. -/
def removeSubscriber (remote : Nat) (flag : BitVec 32) (self : BgContinuousTaskMgr) :
    BgContinuousTaskMgr :=
  { self with
    bgTaskSubscribers := self.bgTaskSubscribers.filterMap (fun target =>
      if target.remote ≠ remote then some target
      else if target.isHap && target.flag &&& ~~~flag != 0#32 then
        some { target with flag := target.flag &&& ~~~flag }
      else none) }

def onRemoteSubscriberDied (remote : Nat) (self : BgContinuousTaskMgr) : BgContinuousTaskMgr :=
  if self.isSysReady then
    { self with
      bgTaskSubscribers := self.bgTaskSubscribers.filter (fun target => target.remote ≠ remote) }
  else self

def enableContinuousTaskRequest (uid : Int) (isEnable : Bool) (self : BgContinuousTaskMgr) :
    BgContinuousTaskMgr :=
  if !self.isSysReady then self
  else if isEnable then
    { self with
      disableRequestUidList := self.disableRequestUidList.filter (fun other => other ≠ uid) }
  else { self with disableRequestUidList := self.disableRequestUidList.insert uid }

end BgContinuousTaskMgr

end BgTaskMgr.Continuous
