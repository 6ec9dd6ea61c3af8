import BgTaskMgr.Continuous.Notices

/-!
# Every operation has an effect on notifications

The operations one by one, up to `noticeEffect_taskStep`: sweeps and stops, updates and the
progress of a transfer, AVSession, and the operations that concern no notification.
-/

set_option autoImplicit false

namespace BgTaskMgr.Continuous

open BgContinuousTaskMgr

/-! ## Sweeps -/

theorem Swept.effect {change : String → ContinuousTaskRecord → Option ContinuousTaskRecord}
    {withdrawn : String → ContinuousTaskRecord → List (String × Int)}
    {before after : BgContinuousTaskMgr} (swept : Swept change withdrawn before after) :
    SweepEffect ⟨change, withdrawn, []⟩ before after := by
  refine ⟨?_, ?_, ?_, swept.hash, swept.notificationIdIndex⟩
  · intro key edited found
    obtain ⟨record, stored, left⟩ := swept.origin found
    exact ⟨record, edited, stored, left, SameNotices.refl edited⟩
  · intro key record left stored change
    exact ⟨left, swept.kept stored change, SameNotices.refl left⟩
  · intro pair
    rw [swept.shown pair]
    simp

section Sweeps

variable {s middle after : BgContinuousTaskMgr} {env : Env} {pair : String × Int}

theorem tools_setReason (s : BgContinuousTaskMgr) (key : String) (reason : StopReason)
    (detailed : Int) : (s.setReason key reason detailed).tools = s.tools := by
  unfold setReason
  split
  · rfl
  · rfl

theorem subPairs_congr {record edited : ContinuousTaskRecord} (same : SameNotices record edited) :
    subPairs edited = subPairs record := by
  have id : edited.subNotificationId = record.subNotificationId := congrArg Prod.snd same.subPair
  unfold subPairs
  rw [id, same.isByRequestObject, same.subPair]

theorem sweepEffect_deleting (same : SameTasks s after)
    (shown : ∀ other, after.tools.Shown other ↔ s.tools.Shown other ∧ other ≠ pair)
    (hash : after.tools.hash = s.tools.hash)
    (index : after.tools.notificationIdIndex = s.tools.notificationIdIndex) :
    SweepEffect (deletingSweep pair) s after := by
  refine ⟨?_, ?_, ?_, hash, index⟩
  · intro key edited found
    obtain ⟨record, stored, notices⟩ := same.backward key edited found
    exact ⟨record, record, stored, rfl, notices⟩
  · intro key record left stored change
    obtain rfl : record = left := Option.some.inj change
    exact same.forward key record stored
  · intro other
    rw [shown other]
    simp [deletingSweep]

theorem hasMain_congr {record edited : ContinuousTaskRecord} (same : SameNotices record edited)
    (main : String × Int) : hasMain main edited = hasMain main record := by
  unfold hasMain
  rw [same.mainPair]

theorem ended_eq_some {chosen : ContinuousTaskRecord → Bool} {key : String}
    {record left : ContinuousTaskRecord} :
    ended chosen key record = some left ↔ chosen record = false ∧ record = left := by
  unfold ended
  cases chosen record with
  | false => simp
  | true => simp

theorem sweepEffect_deletion (same : SameTasks s middle)
    (shown : ∀ other, middle.tools.Shown other ↔ s.tools.Shown other ∧ other ≠ pair)
    (hash : middle.tools.hash = s.tools.hash)
    (index : middle.tools.notificationIdIndex = s.tools.notificationIdIndex)
    {main : String × Int} {pairs : ContinuousTaskRecord → List (String × Int)}
    (pairsSame : ∀ record edited, SameNotices record edited → pairs edited = pairs record)
    (swept : Swept (ended (hasMain main)) (withdrawnOf (hasMain main) pairs) middle after) :
    SweepEffect (endingSweep (hasMain main) pairs [pair]) s after := by
  refine ⟨?_, ?_, ?_, swept.hash.trans hash, swept.notificationIdIndex.trans index⟩
  · intro key edited found
    obtain ⟨record, stored, left⟩ := swept.origin found
    obtain ⟨old, oldStored, notices⟩ := same.backward key record stored
    obtain ⟨stays, rfl⟩ := ended_eq_some.mp left
    rw [hasMain_congr notices] at stays
    have kept : ended (hasMain main) key old = some old := ended_eq_some.mpr ⟨stays, rfl⟩
    exact ⟨old, old, oldStored, kept, notices⟩
  · intro key record left stored change
    have stayed : ended (hasMain main) key record = some left := change
    obtain ⟨stays, rfl⟩ := ended_eq_some.mp stayed
    obtain ⟨edited, editedStored, notices⟩ := same.forward key record stored
    rw [← hasMain_congr notices] at stays
    exact ⟨edited, swept.kept editedStored (ended_eq_some.mpr ⟨stays, rfl⟩), notices⟩
  · intro other
    have withdrawnSame : ∀ key record edited, SameNotices record edited →
        withdrawnOf (hasMain main) pairs key edited =
          withdrawnOf (hasMain main) pairs key record := by
      intro key record edited notices
      unfold withdrawnOf
      rw [hasMain_congr notices, pairsSame record edited notices]
    rw [swept.shown other, shown other]
    constructor
    · rintro ⟨⟨isShown, different⟩, absent⟩
      refine ⟨isShown, by simpa [endingSweep] using different, ?_⟩
      intro key record stored listed
      obtain ⟨edited, editedStored, notices⟩ := same.forward key record stored
      refine absent key edited editedStored ?_
      rw [withdrawnSame key record edited notices]
      exact listed
    · rintro ⟨isShown, different, absent⟩
      refine ⟨⟨isShown, by simpa [endingSweep] using different⟩, ?_⟩
      intro key edited editedStored listed
      obtain ⟨record, stored, notices⟩ := same.backward key edited editedStored
      refine absent key record stored ?_
      rw [withdrawnSame key record edited notices] at listed
      exact listed

theorem sweepEffect_onCanceled (succeeds : ∀ label id, env.cancelOk label id = true)
    {notification : Notification} {deleteReason : DeleteReason}
    (reason : deleteReason ≠ .appCancel) :
    SweepEffect (deletionSweep s notification pair) s
      ((s.setTools (s.tools.withdraw pair)).cancelNotificationByBgTask env notification.label
        notification.abilityName deleteReason) := by
  have withdrawn : ∀ other, (s.tools.withdraw pair).Shown other ↔
      s.tools.Shown other ∧ other ≠ pair := s.tools.shown_withdraw pair
  have deleting : ∀ {later : BgContinuousTaskMgr}, SameTasks s later →
      later.tools = s.tools.withdraw pair → SweepEffect (deletingSweep pair) s later := by
    intro later same tools
    refine sweepEffect_deleting same ?_ ?_ ?_
    · rw [tools]
      exact withdrawn
    · rw [tools]
      rfl
    · rw [tools]
      rfl
  unfold cancelNotificationByBgTask deletionSweep
  cases decoded : keyOfLabel notification.label notification.abilityName with
  | none =>
      dsimp only
      split
      · have quiet := quiet_stopBannerContinuousTaskByUser (s.setTools (s.tools.withdraw pair)) env
          notification.label
        refine deleting (SameTasks.of_taskAt quiet.taskAt) ?_
        unfold stopBannerContinuousTaskByUser refreshAuthRecord
        split
        · rfl
        · split
          · split <;> rfl
          · rfl
      · exact deleting (SameTasks.of_taskAt (fun _ => rfl)) rfl
  | some named =>
      obtain ⟨key, isSubNotification⟩ := named
      rw [if_neg (by simp [isBannerLabel_of_keyOfLabel decoded])]
      dsimp only
      rw [if_neg reason]
      generalize detailed : (if deleteReason = .notUpdated then
          ContinuousTaskCancelReason.systemCancelDataTransferNotUpdate
        else ContinuousTaskCancelReason.userCancelRemoveNotification) = cancelReason
      have marked := sameTasks_setReason (s.setTools (s.tools.withdraw pair)) key
        .removeNotificationCancel cancelReason
      have markedTools : ((s.setTools (s.tools.withdraw pair)).setReason key
          .removeNotificationCancel cancelReason).tools = s.tools.withdraw pair :=
        tools_setReason _ key _ cancelReason
      have same : SameTasks s ((s.setTools (s.tools.withdraw pair)).setReason key
          .removeNotificationCancel cancelReason) :=
        (SameTasks.of_taskAt (fun _ => rfl) :
          SameTasks s (s.setTools (s.tools.withdraw pair))).trans marked
      unfold stopContinuousTaskByUser
      rw [detailed]
      cases ready : s.isSysReady with
      | false =>
          rw [if_pos (by simp [setTools, ready])]
          have kept := deleting (SameTasks.of_taskAt (fun _ => rfl) :
            SameTasks s (s.setTools (s.tools.withdraw pair))) rfl
          split
          · exact kept
          · simpa using kept
      | true =>
          rw [if_neg (by simp [setTools, ready])]
          dsimp only
          generalize (s.setTools (s.tools.withdraw pair)).setReason key
            .removeNotificationCancel cancelReason = told at same markedTools ⊢
          unfold stopContinuousTaskByUserInner
          cases found : s.taskAt key with
          | none =>
              have missing : told.taskAt key = none := by
                refine Option.eq_none_iff_forall_ne_some.mpr ?_
                intro task stored
                obtain ⟨record, old, _⟩ := same.backward key task stored
                exact absurd (found.symm.trans old) (by simp)
              have lookup : told.continuousTaskInfosMap.lookup key = none := missing
              rw [lookup]
              exact deleting same markedTools
          | some record =>
              obtain ⟨task, stored, notices⟩ := same.forward key record found
              have lookup : told.continuousTaskInfosMap.lookup key = some task := stored
              have id : task.notificationId = record.notificationId :=
                congrArg Prod.snd notices.mainPair
              rw [lookup]
              dsimp only
              rw [id, notices.mainPair]
              by_cases absent : record.notificationId = -1
              · rw [if_pos absent, if_neg (by simp [absent])]
                exact deleting same markedTools
              · rw [if_neg absent, if_pos (by simp [absent])]
                refine sweepEffect_deletion same ?_ ?_ ?_ ?_
                  (swept_endTasks_cancelOther succeeds told isSubNotification
                    (hasMain record.mainPair))
                · rw [markedTools]
                  exact withdrawn
                · rw [markedTools]
                  rfl
                · rw [markedTools]
                  rfl
                · intro old edited same
                  rw [same.mainPair, subPairs_congr same]

end Sweeps

/-! ## Operations -/

section Effects

variable {env : Env} {s : BgContinuousTaskMgr} {op : TaskOp}

/-! ### Starts and stops -/

theorem noticeEffect_startBackgroundRunningInner (succeed : env.NotificationsSucceed)
    (numbered : Numbered s) {record : ContinuousTaskRecord} (fresh : Fresh record)
    (request : requested env op = some record) :
    NoticeEffect env s op (s.startBackgroundRunningInner env record).2 :=
  .started request (outcome_startBackgroundRunningInner succeed numbered fresh)

theorem noticeEffect_of_stopped {after : BgContinuousTaskMgr} {chosen : ContinuousTaskRecord → Prop}
    (stopped : Stopped chosen s after)
    (only : ∀ record, chosen record → stops env s op record) : NoticeEffect env s op after := by
  refine .stopped (Unnoticed.refl s) (stopped.mono (fun _ _ => trivial)) ?_
  intro key record found gone
  exact only record (stopped.only key record found gone)

/-- A stop of the task under a key by its id, after a change that concerns no
notification. -/
theorem noticeEffect_stopByTask (succeed : env.NotificationsSucceed) (numbered : Numbered s)
    {ready : BgContinuousTaskMgr} (same : Unnoticed s ready) {key : String}
    {record : ContinuousTaskRecord} (found : s.taskAt key = some record)
    (only : ∀ task, SameIdAs s key task → stops env s op task) :
    NoticeEffect env s op (ready.stopBackgroundRunningByTask env record.continuousTaskId).2 := by
  have stopped := stopped_stopBackgroundRunningByTask succeed.2 (numbered.unnoticed same)
    record.continuousTaskId
  refine .stopped same (stopped.mono (fun _ _ => trivial)) ?_
  intro other task stored gone
  obtain ⟨edited, editedStored, notices⟩ := same.forward other task stored
  have sameId : edited.continuousTaskId = record.continuousTaskId :=
    stopped.only other edited editedStored gone
  exact only task ⟨record, found, notices.continuousTaskId.symm.trans sameId⟩

theorem noticeEffect_handleStopContinuousTask (succeed : env.NotificationsSucceed)
    (numbered : Numbered s) {uid : Int} {taskType : Nat} {key : String}
    (sweeps : taskType = BackgroundMode.dataTransfer ∨ taskType = allModes →
      sweepOf env s op = some (endingSweep (stopTypeChosen uid taskType) mainAndSub []))
    (only : taskType ≠ BackgroundMode.dataTransfer → taskType ≠ allModes →
      ∀ task, SameIdAs s key task → stops env s op task) :
    NoticeEffect env s op (s.handleStopContinuousTask env uid taskType key) := by
  unfold handleStopContinuousTask
  split
  · rename_i transfer
    have chosen : stopTypeChosen uid taskType =
        fun record => record.uid == uid && checkExistMode record.bgModeIds taskType := by
      funext record
      rw [transfer]
      rfl
    refine .swept (sweeps (Or.inl transfer)) ?_
    rw [chosen]
    exact (swept_removeContinuousTaskRecordByUidAndMode succeed.2 s uid taskType).effect
  · rename_i noTransfer
    split
    · rename_i all
      have chosen : stopTypeChosen uid taskType = fun record => record.uid == uid := by
        funext record
        simp [stopTypeChosen, all]
      refine .swept (sweeps (Or.inr all)) ?_
      rw [chosen]
      exact (swept_removeContinuousTaskRecordByUid succeed.2 s uid).effect
    · rename_i notAll
      split
      · exact .unnoticed (Unnoticed.refl s)
      · rename_i record lookup
        refine noticeEffect_stopByTask succeed numbered ?_ lookup (only noTransfer notAll)
        refine ⟨sameTasks_setReason s key _ _, ?_, ?_, ?_⟩
        · intro pair
          rw [tools_setReason]
        · rw [tools_setReason]
        · rw [tools_setReason]

theorem noticeEffect_forInner (succeed : env.NotificationsSucceed) (numbered : Numbered s)
    {taskParam : ContinuousTaskParamForInner} {callingUid : Int}
    (request : requested env op = some (innerRecord env taskParam callingUid))
    (only : taskParam.isStart = false → ∀ record, StoppedBy taskParam.uid
      (getAbilityNamePid env taskParam (innerPid env taskParam) callingUid) taskParam.abilityId
      (-1) s record → stops env s op record) :
    NoticeEffect env s op (if taskParam.isStart then
      s.startBackgroundRunningForInner env taskParam callingUid
      else s.stopBackgroundRunningForInner env taskParam callingUid).2 := by
  split
  · exact noticeEffect_startBackgroundRunningInner succeed numbered
      (fresh_innerRecord env taskParam callingUid) request
  · rename_i stop
    exact noticeEffect_of_stopped (stopped_stopBackgroundRunningInner succeed.2 numbered _ _ _ _)
      (only (by simpa using stop))

/-! ### Suspensions and ends -/

theorem unnoticed_handleSuspendContinuousTaskByStandby (uid mode : Int) (key : String) :
    Unnoticed s (s.handleSuspendContinuousTaskByStandby env uid mode key) := by
  unfold handleSuspendContinuousTaskByStandby
  split
  · exact Unnoticed.refl s
  · rename_i record lookup
    split
    · exact Unnoticed.refl s
    · have marked : Unnoticed s (s.setRecord key (standbySuspended mode record)) :=
        unnoticed_setRecord lookup ⟨⟨⟨rfl, rfl, rfl, rfl, rfl, rfl⟩, rfl⟩, rfl, rfl⟩
      have told : Unnoticed (s.setRecord key (standbySuspended mode record))
          ((s.setRecord key (standbySuspended mode record)).onContinuousTaskChanged
            (standbySuspended mode record) .taskSuspend) := unnoticed_of_fields rfl rfl
      exact (marked.trans told).trans (undisturbed_saveTasks _ env).unnoticed

theorem noticeEffect_suspendContinuousTask (succeed : env.NotificationsSucceed)
    (numbered : Numbered s) (uid mode : Int) (key : String) (isStandby : Bool) :
    NoticeEffect env s (.suspendContinuousTask uid mode key isStandby)
      (s.suspendContinuousTask env uid mode key isStandby) := by
  unfold suspendContinuousTask
  split
  · exact .unnoticed (Unnoticed.refl s)
  rename_i ready
  dsimp only
  split
  · split
    · exact .unnoticed (unnoticed_handleSuspendContinuousTaskByStandby uid mode key)
    · exact .unnoticed (Unnoticed.refl s)
  rename_i awake
  split
  · rename_i callback
    refine .swept (if_pos ?_)
      (swept_handleSuspendContinuousTask succeed.2 s uid mode key).effect
    simp only [Bool.not_eq_true, Bool.not_eq_false'] at ready awake
    simp [ready, awake, callback]
  · rename_i noCallback
    refine noticeEffect_handleStopContinuousTask succeed numbered ?_ ?_
    · intro sweeps
      exact absurd sweeps (by decide)
    · intro _ _ task sameId
      exact ⟨by simpa using awake, by simpa using noCallback, sameId⟩

theorem noticeEffect_onAppStopped (succeed : env.NotificationsSucceed) (uid : Int) :
    NoticeEffect env s (.onAppStopped uid) (s.onAppStopped env uid) := by
  by_cases ready : s.isSysReady = true
  · exact .swept (if_pos ready) (swept_onAppStopped succeed.2 s uid ready).effect
  · unfold onAppStopped
    rw [if_pos (by simp [ready])]
    exact .unnoticed (Unnoticed.refl s)

theorem noticeEffect_onBundleInfoChanged (succeed : env.NotificationsSucceed)
    (action : PackageAction) (bundleName : String) (uid userId appIndex : Int) :
    NoticeEffect env s (.onBundleInfoChanged action bundleName uid userId appIndex)
      (s.onBundleInfoChanged env action bundleName uid userId appIndex) := by
  have uncached : Undisturbed s { s with cachedBundleInfos := s.cachedBundleInfos.erase uid } :=
    ⟨fun _ => rfl, rfl⟩
  unfold onBundleInfoChanged
  dsimp only
  split
  · exact .unnoticed (Unnoticed.refl s)
  rename_i ready
  cases action with
  | added => exact .unnoticed uncached.unnoticed
  | removedOrChanged =>
      exact .unnoticed (uncached.trans (undisturbed_removeBanners _ env _)).unnoticed
  | dataCleared =>
      refine .swept (if_pos (by simpa using ready)) (Swept.effect ?_)
      exact (swept_endTasks_cancelMain succeed.2 _ _).of_same uncached

theorem noticeEffect_onAccountsStateChanged (succeed : env.NotificationsSucceed) :
    NoticeEffect env s .onAccountsStateChanged (s.onAccountsStateChanged env) := by
  unfold onAccountsStateChanged
  cases accounts : env.activatedOsAccountIds with
  | none => exact .unnoticed (Unnoticed.refl s)
  | some ids =>
      have made : sweepOf env s .onAccountsStateChanged = some (endingSweep
          (fun record => !(ids.contains record.userId)) (fun record => [record.mainPair]) []) := by
        show env.activatedOsAccountIds.map _ = _
        rw [accounts]
        rfl
      exact .swept made (swept_endTasks_cancelMain succeed.2 s _).effect

theorem undisturbed_setLiveViewInfo (uid : Int) (isLiveViewPublish : Bool) (eventName : String) :
    Undisturbed s (s.setLiveViewInfo uid isLiveViewPublish eventName) := by
  unfold setLiveViewInfo
  dsimp only
  split
  · exact ⟨fun _ => rfl, rfl⟩
  split
  · exact ⟨fun _ => rfl, rfl⟩
  · exact ⟨fun _ => rfl, rfl⟩

theorem isSysReady_setLiveViewInfo (uid : Int) (isLiveViewPublish : Bool) (eventName : String) :
    (s.setLiveViewInfo uid isLiveViewPublish eventName).isSysReady = s.isSysReady := by
  unfold setLiveViewInfo
  dsimp only
  split
  · rfl
  split
  · rfl
  · rfl

theorem noticeEffect_onConsumed (succeed : env.NotificationsSucceed) (uid : Int) :
    NoticeEffect env s (.onConsumed uid) (s.onConsumed env uid) := by
  have noted : Undisturbed s (s.setLiveViewInfo uid true navigation) :=
    undisturbed_setLiveViewInfo uid true navigation
  unfold onConsumed
  dsimp only
  rw [isSysReady_setLiveViewInfo]
  split
  · rename_i ready
    refine .swept (if_pos ready) (Swept.effect ?_)
    exact ((sweepBody_cancelForLiveView succeed.2 uid).swept _ trivial).of_same noted
  · exact .unnoticed noted.unnoticed

theorem noticeEffect_onCanceled (succeed : env.NotificationsSucceed) (pair : String × Int)
    (deleteReason : DeleteReason) :
    NoticeEffect env s (.onCanceled pair deleteReason) (s.onCanceled env pair deleteReason) := by
  unfold onCanceled
  split
  · exact .unnoticed (Unnoticed.refl s)
  rename_i notification found
  split
  · exact .unnoticed (Unnoticed.refl s)
  · rename_i reason
    refine .swept ?_ (sweepEffect_onCanceled succeed.2 reason)
    show (if deleteReason = .appCancel then none else _) = _
    rw [if_neg reason, found]
    rfl

theorem noticeEffect_shellDumpCancel (succeed : env.NotificationsSucceed) (numbered : Numbered s)
    (taskKey : Option String) :
    NoticeEffect env s (.shellDumpCancel taskKey) (s.shellDumpCancel env taskKey) := by
  unfold shellDumpCancel
  split
  · exact .unnoticed (Unnoticed.refl s)
  rename_i ready
  cases taskKey with
  | none =>
      exact .swept (if_pos (by simpa using ready)) (swept_dumpCancelAll succeed.2 s).effect
  | some key =>
      dsimp only
      split
      · exact .unnoticed (Unnoticed.refl s)
      · rename_i record lookup
        exact noticeEffect_stopByTask succeed numbered (Unnoticed.refl s) lookup
          (fun _ sameId => sameId)

/-! ### Updates -/

theorem undisturbed_setRecord_self {key : String} {record : ContinuousTaskRecord}
    (found : s.taskAt key = some record) : Undisturbed (s.setRecord key record) s := by
  refine ⟨?_, rfl⟩
  intro other
  by_cases here : other = key
  · rw [here]
    exact found.trans (taskAt_setRecord_self s key record found).symm
  · exact (taskAt_setRecord_ne s key other record here).symm

theorem pairs_refreshWantAndContext (env : NotificationEnv) (newPromptInfos : PromptInfos)
    (wantAgent : Option WantAgent) (updateContent : Bool) (published : List Notification) :
    (NotificationTools.refreshWantAndContext env newPromptInfos wantAgent updateContent
      published).2.map Notification.pair = published.map Notification.pair := by
  induction published with
  | nil => rfl
  | cons notification rest ih =>
      unfold NotificationTools.refreshWantAndContext
      split
      · dsimp only
        rw [List.map_cons, List.map_cons, ih]
      · split
        · dsimp only
          rw [List.map_cons, List.map_cons, ih]
          rfl
        · rfl

theorem sendOutcome_refresh (env : NotificationEnv) (tools : NotificationTools)
    (newPromptInfos : PromptInfos) (updateContent : Bool)
    {record noted : ContinuousTaskRecord} (same : SameNotices record noted) (ret : ErrCode) :
    SendOutcome tools record ⟨ret, noted, (tools.refreshContinuousNotificationWantAndContext env
      newPromptInfos noted updateContent).2⟩ .keeps := by
  unfold NotificationTools.refreshContinuousNotificationWantAndContext
  split
  · exact .of_tools same rfl
  · refine .kept same ?_ rfl rfl
    intro pair
    show pair ∈ List.map Notification.pair _ ↔ pair ∈ List.map Notification.pair _
    rw [pairs_refreshWantAndContext]

/-- A publication for the record with its play state noted is one for the record. -/
theorem SendOutcome.of_noted {tools : NotificationTools} {record noted : ContinuousTaskRecord}
    {sent : Sent} {kind : SendKind} (same : SameNotices record noted)
    (outcome : SendOutcome tools noted sent kind) : SendOutcome tools record sent kind := by
  have id : noted.notificationId = record.notificationId := congrArg Prod.snd same.mainPair
  have subId : noted.subNotificationId = record.subNotificationId := congrArg Prod.snd same.subPair
  have own : ownPair tools noted = ownPair tools record := by
    unfold ownPair
    rw [createNotificationLabel_congr tools.hash same.toSameTask, id]
  have ownSub : ∀ tools, ownSubPair tools noted = ownSubPair tools record := by
    intro tools
    unfold ownSubPair
    rw [createSubNotificationLabel_congr tools.hash same.toSameTask, subId]
  cases outcome with
  | kept notices shown hash index => exact .kept (same.trans notices) shown hash index
  | cleared edited none sub shown hash index =>
      exact .cleared (same.toEdited.trans edited) none (sub.trans same.subPair)
        (same.mainPair ▸ shown) hash index
  | published ret edited main sub shown hash index =>
      rw [own] at main shown
      rw [id] at index
      exact .published ret (same.toEdited.trans edited) main (sub.trans same.subPair) shown hash
        index
  | both ret edited request main sub shown hash index =>
      rw [own] at main shown
      rw [id] at index sub shown
      rw [subId] at index
      rw [ownSub] at sub shown
      exact .both ret (same.toEdited.trans edited) (same.isByRequestObject ▸ request) main sub
        shown hash index
  | withdrawn edited main sub shown hash index failed =>
      rw [own] at main shown
      rw [id] at index
      exact .withdrawn (same.toEdited.trans edited) main (sub.trans same.subPair) shown hash index
        failed

theorem undisturbed_finishUpdate (env : Env) {key : String} {record : ContinuousTaskRecord}
    (found : s.taskAt key = some record) :
    Undisturbed (if record.suspendState then s.handleActiveContinuousTask env record.uid else s)
      (s.finishUpdate env key).2 := by
  have lookup : s.continuousTaskInfosMap.lookup key = some record := found
  unfold finishUpdate
  rw [lookup]
  dsimp only
  generalize (if record.suspendState then s.handleActiveContinuousTask env record.uid else s) =
    active
  split
  · exact Undisturbed.refl active
  · rename_i updated _
    have told : Undisturbed active (active.onContinuousTaskChanged updated .taskUpdate) :=
      ⟨fun _ => rfl, rfl⟩
    exact told.trans (undisturbed_saveTasks _ env)

/-- An update that has published for its task and comes to its end. -/
theorem noticeEffect_finishUpdate {made : Publication} {sent : Sent}
    {middle : BgContinuousTaskMgr} (publishes : publication env s op = some made)
    (isUpdate : made.isUpdate = true) (same : Unnoticed s made.mgr)
    (found : made.mgr.taskAt made.key = some made.record)
    (outcome : SendOutcome made.mgr.tools made.record sent made.kind)
    (unchanged : contents sent.record = contents made.record)
    (stored : Undisturbed (made.mgr.setSent made.key sent) middle)
    (sources : SameSources made.record.uid made.mgr middle) :
    NoticeEffect env s op (middle.finishUpdate env made.key).2 := by
  have own : middle.taskAt made.key = some sent.record := by
    rw [stored.taskAt]
    exact taskAt_setRecord_self (made.mgr.setTools sent.tools) made.key sent.record found
  have finished := undisturbed_finishUpdate env own
  rw [outcome.edited.suspendState, outcome.edited.uid] at finished
  cases suspension : made.record.suspendState with
  | false =>
      rw [suspension] at finished
      exact .published publishes same found outcome (stored.trans finished)
  | true =>
      rw [suspension] at finished
      exact .updated publishes isUpdate suspension same found outcome unchanged stored sources
        finished

theorem sendKind_note (prompt : Prompt) (record : ContinuousTaskRecord) :
    sendKind env s (prompt.note record) = sendKind env s record := by
  unfold Prompt.note
  split
  · rfl
  · rfl

/-- A task without a main notification and without a text is left alone. -/
theorem sendKind_of_empty {record : ContinuousTaskRecord} (absent : record.notificationId = -1)
    (empty : (s.checkNotificationText env record).text = "") : sendKind env s record = .keeps := by
  unfold sendKind
  dsimp only
  rw [if_pos empty, if_neg (not_not.mpr absent)]
  split
  · rfl
  · rfl

theorem sends_updateOwnNotification (succeed : env.NotificationsSucceed) (key : String)
    (record : ContinuousTaskRecord) :
    ∃ sent, SendOutcome s.tools record sent
        (if record.notificationId = -1 then sendKind env s record else .keeps) ∧
      contents sent.record = contents record ∧
      (s.updateOwnNotification env key record).2 = s.setSent key sent := by
  have noted := sameNotices_note (s.checkNotificationText env record) record
  have unchanged := contents_note record (s.checkNotificationText env record)
  unfold updateOwnNotification
  dsimp only
  by_cases empty : (s.checkNotificationText env record).text = ""
  · rw [if_pos empty]
    refine ⟨⟨.ok, (s.checkNotificationText env record).note record, s.tools⟩, ?_, unchanged, rfl⟩
    have keeps : (if record.notificationId = -1 then sendKind env s record else .keeps) =
        SendKind.keeps := by
      split
      · rename_i absent
        exact sendKind_of_empty absent empty
      · rfl
    rw [keeps]
    exact .of_tools noted rfl
  rw [if_neg empty]
  by_cases absent : record.notificationId = -1
  · rw [if_pos absent, if_pos absent]
    refine ⟨_, ?_, ?_, rfl⟩
    · have sent := outcome_sendContinuousTaskNotification succeed s
        ((s.checkNotificationText env record).note record)
      rw [sendKind_note] at sent
      exact sent.of_noted noted
    · exact (contents_sendContinuousTaskNotification env s _).trans unchanged
  · rw [if_neg absent, if_neg absent]
    exact ⟨_, sendOutcome_refresh env.toNotificationEnv s.tools _ true noted .ok, unchanged, rfl⟩

theorem sends_updateTaskNotification (succeed : env.NotificationsSucceed)
    (taskParam : ContinuousTaskParam) {key : String} {record : ContinuousTaskRecord}
    (found : s.taskAt key = some record)
    (named : env.mainAbilityLabel record.bundleName record.userId ≠ "") :
    ∃ sent, SendOutcome (s.setRecord key (updatedTask taskParam record)).tools
        (updatedTask taskParam record) sent
        (if !record.isCombinedTaskNotification && record.notificationId == -1 then
          sendKind env (s.setRecord key (updatedTask taskParam record))
            (updatedTask taskParam record)
        else .keeps) ∧
      contents sent.record = contents (updatedTask taskParam record) ∧
      Undisturbed ((s.setRecord key (updatedTask taskParam record)).setSent key sent)
        (s.updateTaskNotification env taskParam key record).2 ∧
      SameSources record.uid (s.setRecord key (updatedTask taskParam record))
        (s.updateTaskNotification env taskParam key record).2 := by
  have stored := taskAt_setRecord_self s key (updatedTask taskParam record) found
  have again : ∀ (tools : NotificationTools),
      Undisturbed (((s.setRecord key (updatedTask taskParam record)).setTools tools).setRecord key
        (updatedTask taskParam record))
        ((s.setRecord key (updatedTask taskParam record)).setTools tools) :=
    fun _ => undisturbed_setRecord_self stored
  have id : (updatedTask taskParam record).notificationId = record.notificationId := by
    unfold updatedTask
    dsimp only
    split
    · rfl
    · rfl
  unfold updateTaskNotification
  dsimp only
  rw [if_neg named]
  cases combined : record.isCombinedTaskNotification with
  | false =>
      obtain ⟨sent, outcome, unchanged, eq⟩ := sends_updateOwnNotification
        (s := s.setRecord key (updatedTask taskParam record)) succeed key
        (updatedTask taskParam record)
      simp only [Bool.not_false, Bool.true_and, if_true, beq_iff_eq]
      refine ⟨sent, ?_, unchanged, ?_, ?_⟩
      · rwa [id] at outcome
      · rw [eq]
        exact Undisturbed.refl _
      · rw [eq]
        exact ⟨rfl, rfl, rfl, rfl⟩
  | true =>
      simp only [Bool.not_true, Bool.false_and, Bool.false_eq_true, if_false]
      split
      · exact ⟨_, sendOutcome_refresh env.toNotificationEnv s.tools _ false
          (SameNotices.refl (updatedTask taskParam record)) .ok, rfl, again _,
          ⟨rfl, rfl, rfl, rfl⟩⟩
      · exact ⟨⟨.ok, updatedTask taskParam record, s.tools⟩,
          .of_tools (SameNotices.refl _) rfl, rfl, again s.tools, SameSources.refl _ _⟩

theorem sameNotices_updatedTask (taskParam : ContinuousTaskParam) (record : ContinuousTaskRecord) :
    SameNotices record (updatedTask taskParam record) := by
  refine ⟨edited_updatedTask taskParam record, ?_, ?_⟩
  · unfold updatedTask
    dsimp only
    split
    · rfl
    · rfl
  · unfold updatedTask
    dsimp only
    split
    · rfl
    · rfl

theorem sameNotices_dropSubModes (taskParam : ContinuousTaskParam)
    (record : ContinuousTaskRecord) : SameNotices record (dropSubModes taskParam record) := by
  refine ⟨edited_dropSubModes taskParam record, ?_, ?_⟩
  · unfold dropSubModes
    split
    · rfl
    · rfl
  · unfold dropSubModes
    split
    · rfl
    · rfl

theorem sameNotices_withModes (taskParam : ContinuousTaskParam) (record : ContinuousTaskRecord) :
    SameNotices record (withModes taskParam record) :=
  (sameNotices_dropSubModes taskParam record).trans
    ⟨⟨⟨rfl, rfl, rfl, rfl, rfl, rfl⟩, rfl⟩, rfl, rfl⟩

theorem noticeEffect_updateTaskInfo (succeed : env.NotificationsSucceed)
    (taskParam : ContinuousTaskParam) {key : String} {record : ContinuousTaskRecord}
    (found : s.taskAt key = some record)
    (publishes : env.mainAbilityLabel record.bundleName record.userId ≠ "" →
      publication env s op = some ⟨s.setRecord key (updatedTask taskParam record), key,
        updatedTask taskParam record,
        if !record.isCombinedTaskNotification && record.notificationId == -1 then
          sendKind env (s.setRecord key (updatedTask taskParam record))
            (updatedTask taskParam record)
        else .keeps, true⟩) :
    NoticeEffect env s op (s.updateTaskInfo env taskParam key record).2 := by
  have notices := sameNotices_updatedTask taskParam record
  have stored := taskAt_setRecord_self s key (updatedTask taskParam record) found
  unfold updateTaskInfo
  by_cases named : env.mainAbilityLabel record.bundleName record.userId = ""
  · have refused : s.updateTaskNotification env taskParam key record =
        (.notificationVerifyFailed, s) := if_pos named
    rw [refused]
    exact .unnoticed (Unnoticed.refl s)
  · obtain ⟨sent, outcome, unchanged, saved, sources⟩ :=
      sends_updateTaskNotification succeed taskParam found named
    dsimp only
    split
    · exact .published (publishes named) (unnoticed_setRecord found notices) stored outcome saved
    · refine noticeEffect_finishUpdate (publishes named) rfl (unnoticed_setRecord found notices)
        stored outcome unchanged saved ?_
      show SameSources (updatedTask taskParam record).uid _ _
      rw [notices.uid]
      exact sources

theorem noticeEffect_updateBackgroundRunningByTaskIdInner (succeed : env.NotificationsSucceed)
    (uid : Int) (taskParam : ContinuousTaskParam)
    (publishes : publication env s op = updatePublicationById env s uid taskParam) :
    NoticeEffect env s op (s.updateBackgroundRunningByTaskIdInner env uid taskParam).2 := by
  unfold updateBackgroundRunningByTaskIdInner
  split
  · exact .unnoticed (Unnoticed.refl s)
  rename_i allowed
  split
  · exact .unnoticed (Unnoticed.refl s)
  rename_i valid
  split
  · exact .unnoticed (Unnoticed.refl s)
  rename_i key record search
  have found := (taskAt_of_findTask s key record search).1
  dsimp only
  split
  · exact .unnoticed (Unnoticed.refl s)
  rename_i modes
  split
  · exact .unnoticed (Unnoticed.refl s)
  rename_i noTransfer
  split
  · exact .unnoticed (Unnoticed.refl s)
  rename_i noProgress
  split
  · exact .unnoticed (Unnoticed.refl s)
  rename_i noSpecial
  refine noticeEffect_updateTaskInfo succeed taskParam found ?_
  intro named
  have accepted : ¬ updateRefused env s uid taskParam record := by
    rintro (refused | refused | refused | refused | refused)
    · exact modes refused
    · exact noTransfer refused
    · exact noProgress refused
    · exact noSpecial refused
    · exact named refused
  have requestOk : ¬ (uid ∈ s.disableRequestUidList ∨ taskParam.updateTaskId < 0) :=
    fun refused => refused.elim allowed valid
  rw [publishes]
  unfold updatePublicationById
  rw [if_neg requestOk, search]
  dsimp only
  rw [if_neg accepted]

theorem noticeEffect_updateBackgroundRunningInner (succeed : env.NotificationsSucceed)
    (key : String) (taskParam : ContinuousTaskParam)
    (publishes : publication env s op = updatePublication env s key taskParam) :
    NoticeEffect env s op (s.updateBackgroundRunningInner env key taskParam).2 := by
  unfold updateBackgroundRunningInner
  split
  · exact .unnoticed (Unnoticed.refl s)
  rename_i record lookup
  have found : s.taskAt key = some record := lookup
  have notices := sameNotices_withModes taskParam record
  have stored := taskAt_setRecord_self s key (withModes taskParam record) found
  have same := unnoticed_setRecord found notices
  dsimp only
  split
  · exact .unnoticed (Unnoticed.refl s)
  rename_i allowed
  split
  · exact .unnoticed (Unnoticed.refl s)
  rename_i differ
  split
  · exact .unnoticed (unnoticed_setRecord found (sameNotices_dropSubModes taskParam record))
  rename_i modes
  have made : publication env s op = some ⟨s.setRecord key (withModes taskParam record), key,
      withModes taskParam record,
      if checkExistMode record.bgModeIds BackgroundMode.dataTransfer &&
          checkExistMode taskParam.bgModeIds BackgroundMode.dataTransfer then .keeps
      else sendKind env (s.setRecord key (withModes taskParam record))
        (withModes taskParam record), true⟩ := by
    rw [publishes]
    unfold updatePublication
    rw [found]
    dsimp only
    rw [if_neg]
    rintro (refused | refused | refused)
    · exact allowed refused
    · exact differ refused
    · exact modes refused
  split
  · rename_i transfer
    rw [if_pos transfer] at made
    refine noticeEffect_finishUpdate made rfl same stored
      (.of_tools (SameNotices.refl _) rfl :
        SendOutcome s.tools _ ⟨.ok, withModes taskParam record, s.tools⟩ .keeps) rfl ?_
      (SameSources.refl _ _)
    exact undisturbed_setRecord_self stored
  · rename_i noTransfer
    rw [if_neg noTransfer] at made
    have outcome := outcome_sendContinuousTaskNotification succeed
      (s.setRecord key (withModes taskParam record)) (withModes taskParam record)
    split
    · exact .published made same stored outcome (Undisturbed.refl _)
    · exact noticeEffect_finishUpdate made rfl same stored outcome
        (contents_sendContinuousTaskNotification env _ _) (Undisturbed.refl _)
        ⟨rfl, rfl, rfl, rfl⟩

theorem noticeEffect_updateDataTransferProgressInner (succeed : env.NotificationsSucceed)
    (uid : Int) (progress : DataTransferProgress)
    (publishes : publication env s op = progressPublication env s uid progress) :
    NoticeEffect env s op (s.updateDataTransferProgressInner env uid progress).2 := by
  unfold updateDataTransferProgressInner
  split
  · exact .unnoticed (Unnoticed.refl s)
  split
  · exact .unnoticed (Unnoticed.refl s)
  split
  · exact .unnoticed (Unnoticed.refl s)
  rename_i key record search
  have found := (taskAt_of_findTask s key record search).1
  have notices : SameNotices record (withProgress progress record) :=
    ⟨⟨⟨rfl, rfl, rfl, rfl, rfl, rfl⟩, rfl⟩, rfl, rfl⟩
  have stored := taskAt_setRecord_self s key (withProgress progress record) found
  have outcome := outcome_sendContinuousTaskNotification succeed
    (s.setRecord key (withProgress progress record)) (withProgress progress record)
  dsimp only
  split
  · exact .unnoticed (Unnoticed.refl s)
  rename_i transfer
  have made : publication env s op = some ⟨s.setRecord key (withProgress progress record), key,
      withProgress progress record, sendKind env (s.setRecord key (withProgress progress record))
        (withProgress progress record), false⟩ := by
    rw [publishes]
    unfold progressPublication
    rw [search]
    dsimp only
    rw [if_neg transfer]
  split
  · exact .published made (unnoticed_setRecord found notices) stored outcome (Undisturbed.refl _)
  · exact .published made (unnoticed_setRecord found notices) stored outcome
      (undisturbed_saveTasks _ env)

/-! ### AVSession -/

theorem removeAudioPlaybackDelayTask_eq (s : BgContinuousTaskMgr) (uid : Int) :
    ∃ delayTasks delayedNotify, s.removeAudioPlaybackDelayTask uid =
      { s with delayTasks := delayTasks, delayedNotify := delayedNotify } := by
  unfold removeAudioPlaybackDelayTask
  split
  · exact ⟨_, _, rfl⟩
  · exact ⟨s.delayTasks, s.delayedNotify, rfl⟩

theorem sends_refreshForAvsession (succeed : env.NotificationsSucceed) (key : String)
    (record : ContinuousTaskRecord) :
    ∃ sent, SendOutcome s.tools record sent
        (if (s.checkNotificationText env record).text = "" then .clears else .keeps) ∧
      Undisturbed (s.setSent key sent) (s.refreshForAvsession env key record).2 := by
  have noted := sameNotices_note (s.checkNotificationText env record) record
  unfold refreshForAvsession
  dsimp only
  split
  · refine ⟨⟨.ok, _, _⟩, ?_, undisturbed_saveTasks _ env⟩
    refine .cleared ?_ rfl noted.subPair ?_ ?_ ?_
    · exact noted.toEdited.trans ⟨⟨rfl, rfl, rfl, rfl, rfl, rfl⟩, rfl⟩
    · exact s.tools.shown_cancelNotification succeed.2 record.mainPair
    · exact (s.tools.cancelNotification_keeps env.toNotificationEnv record.mainPair).1
    · exact (s.tools.cancelNotification_keeps env.toNotificationEnv record.mainPair).2
  · refine ⟨⟨.ok, _, _⟩, ?_, undisturbed_saveTasks _ env⟩
    have refreshed := refreshContinuousNotifications_keeps s.tools env.toNotificationEnv
      [(record.notificationLabel, env.mainAbilityLabel record.bundleName record.userId,
        (s.checkNotificationText env record).text)]
    exact .kept noted (shown_refreshContinuousNotifications s.tools env.toNotificationEnv _)
      refreshed.1 refreshed.2

theorem sends_avSessionNotifyTask (succeed : env.NotificationsSucceed) (isPublish : Bool)
    {key : String} {record : ContinuousTaskRecord} (found : s.taskAt key = some record) :
    ∃ sent, SendOutcome s.tools record sent (avSessionKind env s isPublish record) ∧
      Undisturbed (s.setSent key sent) (s.avSessionNotifyTask env isPublish key record).2 := by
  have untouched : ∃ sent, SendOutcome s.tools record sent .keeps ∧
      Undisturbed (s.setSent key sent) s :=
    ⟨⟨.ok, record, s.tools⟩, .of_tools (SameNotices.refl record) rfl,
      undisturbed_setRecord_self found⟩
  unfold avSessionNotifyTask avSessionKind
  split
  · refine ⟨⟨.ok, { record with audioDetectState := true }, s.tools⟩, ?_, Undisturbed.refl _⟩
    exact .of_tools ⟨⟨⟨rfl, rfl, rfl, rfl, rfl, rfl⟩, rfl⟩, rfl, rfl⟩ rfl
  split
  · exact untouched
  split
  · exact ⟨_, outcome_sendContinuousTaskNotification succeed s record, undisturbed_saveTasks _ env⟩
  split
  · exact sends_refreshForAvsession succeed key record
  · exact untouched

/-- AVSession's notice, also when delayed tasks are gone by then. -/
theorem noticeEffect_avSessionNotifyUpdateNotificationInner (succeed : env.NotificationsSucceed)
    (delayTasks : List Int) (delayedNotify : List (Int × Int)) (uid : Int) (isPublish : Bool)
    (publishes : publication env s op = avSessionPublication env s uid isPublish) :
    NoticeEffect env s op (({ s with
      delayTasks := delayTasks
      delayedNotify := delayedNotify }).avSessionNotifyUpdateNotificationInner env uid
        isPublish).2 := by
  have removes : ∀ current : BgContinuousTaskMgr,
      Undisturbed current (current.removeAudioPlaybackDelayTask uid) := by
    intro current
    obtain ⟨tasks, notify, eq⟩ := removeAudioPlaybackDelayTask_eq current uid
    rw [eq]
    exact ⟨fun _ => rfl, rfl⟩
  -- the notice is noted, and delayed tasks may be removed before the search
  have noted : ∃ tasks notify, (if isPublish then
      ({ s with
        delayTasks := delayTasks
        delayedNotify := delayedNotify
        avSessionNotification := s.avSessionNotification.insert uid isPublish } :
          BgContinuousTaskMgr).removeAudioPlaybackDelayTask uid
      else { s with
        delayTasks := delayTasks
        delayedNotify := delayedNotify
        avSessionNotification := s.avSessionNotification.insert uid isPublish }) =
      { s with
        delayTasks := tasks
        delayedNotify := notify
        avSessionNotification := s.avSessionNotification.insert uid isPublish } := by
    split
    · exact removeAudioPlaybackDelayTask_eq _ uid
    · exact ⟨_, _, rfl⟩
  obtain ⟨tasks, notify, ready⟩ := noted
  unfold avSessionNotifyUpdateNotificationInner
  dsimp only
  rw [ready]
  split
  · refine .unnoticed (Unnoticed.trans ?_ (removes _).unnoticed)
    exact unnoticed_of_fields rfl rfl
  · rename_i key record search
    obtain ⟨found, -⟩ := taskAt_of_findTask _ key record search
    obtain ⟨sent, outcome, saved⟩ := sends_avSessionNotifyTask succeed isPublish found
    have made : publication env s op = some ⟨{ s with
          avSessionNotification := s.avSessionNotification.insert uid isPublish }, key, record,
        avSessionKind env { s with
          avSessionNotification := s.avSessionNotification.insert uid isPublish } isPublish record,
        false⟩ := by
      rw [publishes]
      exact congrArg (Option.map _) search
    have later := saved.trans (removes _)
    exact .published made (unnoticed_of_fields rfl rfl) found outcome ⟨later.taskAt, later.tools⟩

theorem noticeEffect_avSessionNotifyUpdateNotification (succeed : env.NotificationsSucceed)
    (callingUid uid pid : Int) (isPublish : Bool) :
    NoticeEffect env s (.avSessionNotifyUpdateNotification callingUid uid pid isPublish)
      (s.avSessionNotifyUpdateNotification env callingUid uid pid isPublish).2 := by
  unfold avSessionNotifyUpdateNotification
  split
  · exact .unnoticed (Unnoticed.refl s)
  rename_i ready
  split
  · exact .unnoticed (Unnoticed.refl s)
  rename_i avsession
  cases isPublish with
  | true =>
      refine noticeEffect_avSessionNotifyUpdateNotificationInner succeed s.delayTasks
        s.delayedNotify uid true (if_pos ?_)
      simp only [Bool.not_eq_true, Bool.not_eq_false', not_not] at ready avsession
      simp [ready, avsession]
  | false => exact .unnoticed (unnoticed_of_fields rfl rfl)

theorem noticeEffect_runDelayedNotify (succeed : env.NotificationsSucceed) :
    NoticeEffect env s .runDelayedNotify (s.runDelayedNotify env) := by
  unfold runDelayedNotify
  split
  · exact .unnoticed (Unnoticed.refl s)
  · rename_i uid pid rest oldest
    refine noticeEffect_avSessionNotifyUpdateNotificationInner succeed s.delayTasks rest uid false ?_
    show s.delayedNotify.head?.bind _ = _
    rw [oldest]
    rfl

/-! ### Every operation -/

theorem unnoticed_handleActiveContinuousTaskByStandby (s : BgContinuousTaskMgr) (env : Env)
    (uid : Int) : Unnoticed s (s.handleActiveContinuousTaskByStandby env uid) := by
  have step : ∀ key record current, current.taskAt key = some record → Unnoticed s current →
      Unnoticed s (activateStandby env uid key record current) := by
    intro key record current found early
    unfold activateStandby
    split
    · exact early
    · have marked : Unnoticed current (current.setRecord key
          { record with isStandby := true, isStandbySuspend := false }) :=
        unnoticed_setRecord found ⟨⟨⟨rfl, rfl, rfl, rfl, rfl, rfl⟩, rfl⟩, rfl, rfl⟩
      have told : Unnoticed (current.setRecord key
          { record with isStandby := true, isStandbySuspend := false })
          ((current.setRecord key
            { record with isStandby := true, isStandbySuspend := false }).onContinuousTaskChanged
              { record with isStandby := true, isStandbySuspend := false } .taskActive) :=
        unnoticed_of_fields rfl rfl
      exact ((early.trans marked).trans told).trans (undisturbed_saveTasks _ env).unnoticed
  exact KeyedMap.forEach_invariant step s (Unnoticed.refl s)

theorem noticeEffect_activeContinuousTask (uid : Int) (isStandby : Bool) :
    NoticeEffect env s (.activeContinuousTask uid isStandby)
      (s.activeContinuousTask env uid isStandby) := by
  unfold activeContinuousTask
  split
  · exact .unnoticed (Unnoticed.refl s)
  cases isStandby with
  | true =>
      rw [if_pos rfl]
      split
      · exact .unnoticed (unnoticed_handleActiveContinuousTaskByStandby s env uid)
      · exact .unnoticed (Unnoticed.refl s)
  | false => exact .reactivated rfl rfl

theorem noticeEffect_clientCall (succeed : env.NotificationsSucceed) (numbered : Numbered s)
    (callingUid : Int) (call : ClientCall) :
    NoticeEffect env s (.client callingUid call) (s.clientCall env callingUid call).2 := by
  cases call with
  | startBackgroundRunning taskParam =>
      show NoticeEffect env s _ (s.startBackgroundRunning env callingUid taskParam).2
      unfold startBackgroundRunning
      split
      · exact .unnoticed (Unnoticed.refl s)
      split
      · exact .unnoticed (Unnoticed.refl s)
      split
      · exact .unnoticed (Unnoticed.refl s)
      split
      · exact .unnoticed (Unnoticed.refl s)
      · rename_i record built
        exact noticeEffect_startBackgroundRunningInner succeed numbered (fresh_startRecord built).1
          built
  | updateBackgroundRunning taskParam =>
      show NoticeEffect env s _ (s.updateBackgroundRunning env callingUid taskParam).2
      unfold updateBackgroundRunning
      split
      · exact .unnoticed (Unnoticed.refl s)
      rename_i ready
      split
      · rename_i request
        refine noticeEffect_updateBackgroundRunningByTaskIdInner succeed callingUid taskParam ?_
        exact (if_neg ready).trans (if_pos request)
      · rename_i noRequest
        refine noticeEffect_updateBackgroundRunningInner succeed _ taskParam ?_
        exact (if_neg ready).trans (if_neg noRequest)
  | stopBackgroundRunning abilityName abilityId continuousTaskId =>
      show NoticeEffect env s _
        (s.stopBackgroundRunning env callingUid abilityName abilityId continuousTaskId).2
      unfold stopBackgroundRunning
      split
      · exact .unnoticed (Unnoticed.refl s)
      split
      · exact .unnoticed (Unnoticed.refl s)
      · rename_i named
        exact noticeEffect_of_stopped (stopped_stopBackgroundRunningInner succeed.2 numbered
          callingUid abilityName abilityId continuousTaskId) (fun _ chosen => ⟨named, chosen⟩)
  | updateDataTransferProgress progress =>
      show NoticeEffect env s _ (s.updateDataTransferProgress env callingUid progress).2
      unfold updateDataTransferProgress
      split
      · exact .unnoticed (Unnoticed.refl s)
      · rename_i ready
        exact noticeEffect_updateDataTransferProgressInner succeed callingUid progress
          (if_neg ready)

/-- What an operation does to tasks and notifications, when publications and cancellations
succeed. -/
theorem noticeEffect_taskStep (succeed : env.NotificationsSucceed) (numbered : Numbered s)
    (op : TaskOp) : NoticeEffect env s op (s.taskStep (env, op)) := by
  cases op with
  | client callingUid call => exact noticeEffect_clientCall succeed numbered callingUid call
  | requestBackgroundRunningForInner callingUid taskParam =>
      show NoticeEffect env s _ (s.requestBackgroundRunningForInner env callingUid taskParam).2
      unfold requestBackgroundRunningForInner
      split
      · exact .unnoticed (Unnoticed.refl s)
      split
      · exact .unnoticed (Unnoticed.refl s)
      · rename_i permitted
        exact noticeEffect_forInner succeed numbered rfl
          (fun stop _ chosen => ⟨by simpa using permitted, stop, chosen⟩)
  | debugContinuousTask taskParam =>
      show NoticeEffect env s _ (s.debugContinuousTaskInner env taskParam).2
      unfold debugContinuousTaskInner
      split
      · exact .unnoticed (Unnoticed.refl s)
      · exact noticeEffect_forInner succeed numbered rfl (fun stop _ chosen => ⟨stop, chosen⟩)
  | stopContinuousTask uid taskType key =>
      show NoticeEffect env s _ (s.stopContinuousTask env uid taskType key)
      unfold stopContinuousTask
      split
      · rename_i ready
        refine noticeEffect_handleStopContinuousTask succeed numbered ?_
          (fun noTransfer notAll _ sameId => ⟨noTransfer, notAll, sameId⟩)
        intro sweeps
        refine if_pos ?_
        simpa [ready] using sweeps
      · exact .unnoticed (Unnoticed.refl s)
  | suspendContinuousTask uid mode key isStandby =>
      exact noticeEffect_suspendContinuousTask succeed numbered uid mode key isStandby
  | activeContinuousTask uid isStandby => exact noticeEffect_activeContinuousTask uid isStandby
  | suspendContinuousAudioTask uid =>
      show NoticeEffect env s _ (s.suspendContinuousAudioTask env uid)
      unfold suspendContinuousAudioTask
      split
      · rename_i ready
        exact .swept (if_pos ready) (swept_handleSuspendContinuousAudioTask succeed.2 s uid).effect
      · exact .unnoticed (Unnoticed.refl s)
  | avSessionNotifyUpdateNotification callingUid uid pid isPublish =>
      exact noticeEffect_avSessionNotifyUpdateNotification succeed callingUid uid pid isPublish
  | runDelayedNotify => exact noticeEffect_runDelayedNotify succeed
  | onAbilityStateChanged uid abilityName abilityId =>
      show NoticeEffect env s _ (s.onAbilityStateChanged env uid abilityName abilityId)
      unfold onAbilityStateChanged
      split
      · exact .unnoticed (Unnoticed.refl s)
      · rename_i concerned
        have named : abilityName ≠ "" := fun empty => concerned (Or.inr empty)
        exact noticeEffect_of_stopped (stopped_stopBackgroundRunningByContext succeed.2 numbered uid
          abilityName abilityId) (fun _ chosen => ⟨named, chosen⟩)
  | onAppStopped uid => exact noticeEffect_onAppStopped succeed uid
  | onBundleInfoChanged action bundleName uid userId appIndex =>
      exact noticeEffect_onBundleInfoChanged succeed action bundleName uid userId appIndex
  | onAccountsStateChanged => exact noticeEffect_onAccountsStateChanged succeed
  | onRemoveSystemAbility mode =>
      show NoticeEffect env s _ (s.onRemoveSystemAbility env mode)
      unfold onRemoveSystemAbility
      split
      · rename_i concerned
        have serves : mode = BackgroundMode.voip ∨ mode = BackgroundMode.workout ∨
            mode = BackgroundMode.audioPlayback := by
          simpa [or_assoc] using (Bool.and_eq_true_iff.mp concerned).2
        exact noticeEffect_of_stopped (stopped_handleRemoveTaskByMode succeed.2 numbered mode)
          (fun _ chosen => ⟨serves, chosen⟩)
      · exact .unnoticed (Unnoticed.refl s)
  | onConsumed uid => exact noticeEffect_onConsumed succeed uid
  | onLiveViewCanceled uid =>
      have noted : Undisturbed s (s.setLiveViewInfo uid false navigation) :=
        undisturbed_setLiveViewInfo uid false navigation
      show NoticeEffect env s _ (s.onLiveViewCanceled env uid)
      unfold onLiveViewCanceled
      dsimp only
      split
      · exact .liveViewGone noted rfl
      · exact .unnoticed noted.unnoticed
  | onCanceled pair deleteReason => exact noticeEffect_onCanceled succeed pair deleteReason
  | shellDumpCancel taskKey => exact noticeEffect_shellDumpCancel succeed numbered taskKey
  | sendNotificationByDeteTask taskKeys =>
      show NoticeEffect env s _ (s.sendNotificationByDeteTask env taskKeys)
      unfold sendNotificationByDeteTask
      split
      · exact .detected rfl rfl
      · exact .unnoticed (Unnoticed.refl s)
  | onAppStateChanged uid foreground => exact .unnoticed (unnoticed_taskStep s env trivial)
  | stopBannerContinuousTaskByUser label => exact .unnoticed (unnoticed_taskStep s env trivial)
  | onBundleResourcesChanged => exact .unnoticed (unnoticed_taskStep s env trivial)
  | notifyAudioStart uid => exact .unnoticed (unnoticed_taskStep s env trivial)
  | addSubscriber info => exact .unnoticed (unnoticed_taskStep s env trivial)
  | removeSubscriber remote flag => exact .unnoticed (unnoticed_taskStep s env trivial)
  | onRemoteSubscriberDied remote => exact .unnoticed (unnoticed_taskStep s env trivial)
  | enableContinuousTaskRequest uid isEnable =>
      exact .unnoticed (unnoticed_taskStep s env trivial)
  | publishBannerNotification => exact .unnoticed (unnoticed_taskStep s env trivial)
  | rehash rank => exact .unnoticed (unnoticed_taskStep s env trivial)

end Effects

end BgTaskMgr.Continuous
