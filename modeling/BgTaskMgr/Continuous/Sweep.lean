import BgTaskMgr.Continuous.Decomposition

/-!
# Operations that cancel notifications

What is shown after a publication or a cancellation that succeeds, and the operations that
end or suspend tasks as one change: `Swept change withdrawn` says what becomes of each
record and which notifications go.
-/

set_option autoImplicit false

namespace BgTaskMgr.Continuous

open BgContinuousTaskMgr

/-! ## What is shown -/

namespace NotificationTools

variable (tools : NotificationTools)

theorem shown_withdraw (pair other : String × Int) :
    (tools.withdraw pair).Shown other ↔ tools.Shown other ∧ other ≠ pair := by
  simp only [Shown, withdraw, List.mem_map, List.mem_filter, decide_eq_true_eq]
  constructor
  · rintro ⟨notification, ⟨listed, different⟩, rfl⟩
    exact ⟨⟨notification, listed, rfl⟩, different⟩
  · rintro ⟨⟨notification, listed, rfl⟩, different⟩
    exact ⟨notification, ⟨listed, different⟩, rfl⟩

theorem shown_display (notification : Notification) (other : String × Int) :
    (tools.display notification).Shown other ↔
      tools.Shown other ∨ other = notification.pair := by
  have replaced : (tools.display notification).Shown other ↔
      (tools.withdraw notification.pair).Shown other ∨ other = notification.pair := by
    simp [Shown, display, withdraw]
  rw [replaced, shown_withdraw]
  by_cases same : other = notification.pair
  · simp [same]
  · simp [same]

theorem shown_takeId (currentId : Int) (other : String × Int) :
    (tools.takeId currentId).Shown other ↔ tools.Shown other := by
  unfold takeId
  split
  · exact Iff.rfl
  · exact Iff.rfl

theorem shown_cancelNotification {env : NotificationEnv}
    (succeeds : ∀ label id, env.cancelOk label id = true) (pair other : String × Int) :
    (tools.cancelNotification env pair).2.Shown other ↔ tools.Shown other ∧ other ≠ pair := by
  unfold cancelNotification
  rw [if_pos (succeeds pair.1 pair.2)]
  exact shown_withdraw tools pair other

theorem cancelNotification_keeps (env : NotificationEnv) (pair : String × Int) :
    (tools.cancelNotification env pair).2.hash = tools.hash ∧
      (tools.cancelNotification env pair).2.notificationIdIndex = tools.notificationIdIndex := by
  unfold cancelNotification
  split
  · exact ⟨rfl, rfl⟩
  · exact ⟨rfl, rfl⟩

end NotificationTools

def subPairs (record : ContinuousTaskRecord) : List (String × Int) :=
  if record.subNotificationId ≠ -1 && record.isByRequestObject then [record.subPair] else []

/-! ## What leaves tasks and notifications alone -/

structure Undisturbed (before after : BgContinuousTaskMgr) : Prop where
  taskAt : ∀ key, after.taskAt key = before.taskAt key
  tools : after.tools = before.tools

theorem Undisturbed.refl (s : BgContinuousTaskMgr) : Undisturbed s s := ⟨fun _ => rfl, rfl⟩

theorem Undisturbed.trans {first second third : BgContinuousTaskMgr}
    (early : Undisturbed first second) (late : Undisturbed second third) :
    Undisturbed first third :=
  ⟨fun key => (late.taskAt key).trans (early.taskAt key), late.tools.trans early.tools⟩

theorem undisturbed_saveTasks (s : BgContinuousTaskMgr) (env : Env) :
    Undisturbed s (s.saveTasks env) := by
  refine ⟨(quiet_saveTasks s env).taskAt, ?_⟩
  unfold saveTasks refreshTaskRecord
  split
  · rfl
  · rfl

theorem undisturbed_handleAppContinuousTaskStop (s : BgContinuousTaskMgr) (uid : Int) :
    Undisturbed s (s.handleAppContinuousTaskStop uid) := by
  refine ⟨fun key => taskAt_handleAppContinuousTaskStop s key uid, ?_⟩
  unfold handleAppContinuousTaskStop
  split
  · rfl
  · rfl

theorem undisturbed_stopAndSave (s : BgContinuousTaskMgr) (env : Env)
    (record : ContinuousTaskRecord) : Undisturbed s (s.stopAndSave env record) :=
  (undisturbed_handleAppContinuousTaskStop s record.uid).trans (undisturbed_saveTasks _ env)

theorem undisturbed_removeBanners (s : BgContinuousTaskMgr) (env : Env)
    (chosen : BannerNotificationRecord → Bool) : Undisturbed s (s.removeBanners env chosen) := by
  refine ⟨(quiet_removeBanners s env chosen).taskAt, ?_⟩
  unfold removeBanners refreshAuthRecord
  split
  · split
    · rfl
    · rfl
  · rfl

structure SameNotices (before after : ContinuousTaskRecord) : Prop extends Edited before after where
  mainPair : after.mainPair = before.mainPair
  subPair : after.subPair = before.subPair

theorem SameNotices.refl (record : ContinuousTaskRecord) : SameNotices record record :=
  ⟨Edited.refl record, rfl, rfl⟩

theorem SameNotices.trans {first second third : ContinuousTaskRecord}
    (early : SameNotices first second) (late : SameNotices second third) :
    SameNotices first third :=
  ⟨early.toEdited.trans late.toEdited, late.mainPair.trans early.mainPair,
    late.subPair.trans early.subPair⟩

structure SameTasks (before after : BgContinuousTaskMgr) : Prop where
  forward : ∀ key record, before.taskAt key = some record →
    ∃ edited, after.taskAt key = some edited ∧ SameNotices record edited
  backward : ∀ key edited, after.taskAt key = some edited →
    ∃ record, before.taskAt key = some record ∧ SameNotices record edited

theorem SameTasks.of_taskAt {before after : BgContinuousTaskMgr}
    (tasks : ∀ key, after.taskAt key = before.taskAt key) : SameTasks before after :=
  ⟨fun key record found => ⟨record, (tasks key).trans found, SameNotices.refl record⟩,
    fun key record found => ⟨record, (tasks key).symm.trans found, SameNotices.refl record⟩⟩

theorem SameTasks.trans {first second third : BgContinuousTaskMgr} (early : SameTasks first second)
    (late : SameTasks second third) : SameTasks first third := by
  constructor
  · intro key record found
    obtain ⟨middle, stored, same⟩ := early.forward key record found
    obtain ⟨edited, stored', same'⟩ := late.forward key middle stored
    exact ⟨edited, stored', same.trans same'⟩
  · intro key edited found
    obtain ⟨middle, stored, same⟩ := late.backward key edited found
    obtain ⟨record, stored', same'⟩ := early.backward key middle stored
    exact ⟨record, stored', same'.trans same⟩

theorem sameTasks_setRecord {s : BgContinuousTaskMgr} {key : String}
    {record edited : ContinuousTaskRecord} (found : s.taskAt key = some record)
    (same : SameNotices record edited) : SameTasks s (s.setRecord key edited) := by
  have stored := taskAt_setRecord_self s key edited found
  constructor
  · intro other old lookup
    by_cases here : other = key
    · subst here
      obtain rfl := Option.some.inj (found.symm.trans lookup)
      exact ⟨edited, stored, same⟩
    · exact ⟨old, (taskAt_setRecord_ne s key other edited here).trans lookup,
        SameNotices.refl old⟩
  · intro other old lookup
    by_cases here : other = key
    · subst here
      obtain rfl := Option.some.inj (stored.symm.trans lookup)
      exact ⟨record, found, same⟩
    · exact ⟨old, (taskAt_setRecord_ne s key other edited here).symm.trans lookup,
        SameNotices.refl old⟩

theorem sameTasks_setReason (s : BgContinuousTaskMgr) (key : String) (reason : StopReason)
    (detailed : Int) : SameTasks s (s.setReason key reason detailed) := by
  unfold setReason
  split
  · exact SameTasks.of_taskAt (fun _ => rfl)
  · rename_i record found
    exact sameTasks_setRecord found ⟨⟨⟨rfl, rfl, rfl, rfl, rfl, rfl⟩, rfl⟩, rfl, rfl⟩

/-! ## One change of many tasks -/

/-- Each record becomes what `change` makes of it, the notifications in `withdrawn` of each
task go, and nothing is published. -/
structure Swept (change : String → ContinuousTaskRecord → Option ContinuousTaskRecord)
    (withdrawn : String → ContinuousTaskRecord → List (String × Int))
    (before after : BgContinuousTaskMgr) : Prop where
  taskAt : ∀ key, after.taskAt key = (before.taskAt key).bind (change key)
  shown : ∀ pair, after.tools.Shown pair ↔ before.tools.Shown pair ∧
    ∀ key record, before.taskAt key = some record → pair ∉ withdrawn key record
  hash : after.tools.hash = before.tools.hash
  notificationIdIndex : after.tools.notificationIdIndex = before.tools.notificationIdIndex

section Swept

variable {before middle after : BgContinuousTaskMgr} {key : String}
  {record : ContinuousTaskRecord}
  {change : String → ContinuousTaskRecord → Option ContinuousTaskRecord}
  {withdrawn : String → ContinuousTaskRecord → List (String × Int)}

theorem Swept.origin (swept : Swept change withdrawn before after)
    (found : after.taskAt key = some record) :
    ∃ old, before.taskAt key = some old ∧ change key old = some record := by
  rw [swept.taskAt key] at found
  exact Option.bind_eq_some_iff.mp found

theorem Swept.kept (swept : Swept change withdrawn before after) {old : ContinuousTaskRecord}
    (found : before.taskAt key = some old) (left : change key old = some record) :
    after.taskAt key = some record := by
  rw [swept.taskAt key, found]
  exact left

theorem Swept.then_same (swept : Swept change withdrawn before middle)
    (same : Undisturbed middle after) : Swept change withdrawn before after := by
  refine ⟨fun key => (same.taskAt key).trans (swept.taskAt key), ?_, ?_, ?_⟩
  · rw [same.tools]
    exact swept.shown
  · rw [same.tools]
    exact swept.hash
  · rw [same.tools]
    exact swept.notificationIdIndex

theorem Swept.of_same (swept : Swept change withdrawn middle after)
    (same : Undisturbed before middle) : Swept change withdrawn before after := by
  refine ⟨?_, ?_, ?_, ?_⟩
  · intro key
    rw [swept.taskAt key, same.taskAt key]
  · intro pair
    rw [swept.shown pair, same.tools]
    simp only [same.taskAt]
  · rw [swept.hash, same.tools]
  · rw [swept.notificationIdIndex, same.tools]

end Swept

/-! ## Loops -/

/-- One iteration makes `change` of the record it stands on, withdraws its notifications
and leaves the other records alone; `inv` is what the loop keeps besides. -/
structure SweepBody (inv : BgContinuousTaskMgr → Prop)
    (body : String → ContinuousTaskRecord → BgContinuousTaskMgr → BgContinuousTaskMgr)
    (change : String → ContinuousTaskRecord → Option ContinuousTaskRecord)
    (withdrawn : String → ContinuousTaskRecord → List (String × Int)) : Prop where
  keeps : ∀ key record current, current.taskAt key = some record → inv current →
    inv (body key record current)
  other : ∀ key record current, current.taskAt key = some record →
    ∀ other, other ≠ key → (body key record current).taskAt other = current.taskAt other
  own : ∀ key record current, current.taskAt key = some record → inv current →
    (body key record current).taskAt key = change key record
  shown : ∀ key record current, current.taskAt key = some record → ∀ pair,
    (body key record current).tools.Shown pair ↔
      current.tools.Shown pair ∧ pair ∉ withdrawn key record
  hash : ∀ key record current, current.taskAt key = some record →
    (body key record current).tools.hash = current.tools.hash
  notificationIdIndex : ∀ key record current, current.taskAt key = some record →
    (body key record current).tools.notificationIdIndex = current.tools.notificationIdIndex

theorem SweepBody.swept {inv : BgContinuousTaskMgr → Prop}
    {body : String → ContinuousTaskRecord → BgContinuousTaskMgr → BgContinuousTaskMgr}
    {change : String → ContinuousTaskRecord → Option ContinuousTaskRecord}
    {withdrawn : String → ContinuousTaskRecord → List (String × Int)}
    (each : SweepBody inv body change withdrawn) (s : BgContinuousTaskMgr) (start : inv s) :
    Swept change withdrawn s (s.forEachTask body) := by
  have bodyLocal : KeyedMap.Local continuousTaskInfosMap body := each.other
  have tools : ∀ key record current, current.continuousTaskInfosMap.lookup key = some record →
      (current.tools.hash = s.tools.hash ∧
        current.tools.notificationIdIndex = s.tools.notificationIdIndex) →
      ((body key record current).tools.hash = s.tools.hash ∧
        (body key record current).tools.notificationIdIndex = s.tools.notificationIdIndex) := by
    intro key record current found same
    exact ⟨(each.hash key record current found).trans same.1,
      (each.notificationIdIndex key record current found).trans same.2⟩
  have kept := KeyedMap.forEach_invariant tools s ⟨rfl, rfl⟩
  refine ⟨?_, ?_, kept.1, kept.2⟩
  · exact KeyedMap.lookup_forEach inv bodyLocal each.keeps each.own s start
  · intro pair
    exact KeyedMap.forEach_prunes (fun current => current.tools.Shown pair)
      (fun key record => pair ∈ withdrawn key record) bodyLocal each.keeps
      (fun key record current found _ => each.shown key record current found pair) s start

/-! ## Cancellations -/

section Cancel

variable {env : Env} (succeeds : ∀ label id, env.cancelOk label id = true)

structure Cancels (cancel : BgContinuousTaskMgr → BgContinuousTaskMgr)
    (pairs : List (String × Int)) : Prop where
  only : OnlyTools cancel
  shown : ∀ current pair, (cancel current).tools.Shown pair ↔
    current.tools.Shown pair ∧ pair ∉ pairs
  hash : ∀ current, (cancel current).tools.hash = current.tools.hash
  notificationIdIndex : ∀ current,
    (cancel current).tools.notificationIdIndex = current.tools.notificationIdIndex

theorem Cancels.none : Cancels (fun current => current) [] :=
  ⟨fun current => ⟨current.tools, rfl⟩, by simp, fun _ => rfl, fun _ => rfl⟩

theorem Cancels.comp {first second : BgContinuousTaskMgr → BgContinuousTaskMgr}
    {firstPairs secondPairs : List (String × Int)} (early : Cancels first firstPairs)
    (late : Cancels second secondPairs) :
    Cancels (fun current => second (first current)) (firstPairs ++ secondPairs) := by
  refine ⟨?_, ?_, ?_, ?_⟩
  · intro current
    obtain ⟨tools, eq⟩ := early.only current
    obtain ⟨tools', eq'⟩ := late.only (current.setTools tools)
    refine ⟨tools', ?_⟩
    show second (first current) = _
    rw [eq, eq']
    rfl
  · intro current pair
    rw [late.shown, early.shown, List.mem_append, not_or, and_assoc]
  · intro current
    rw [late.hash, early.hash]
  · intro current
    rw [late.notificationIdIndex, early.notificationIdIndex]

include succeeds

theorem cancels_cancelPair (pair : String × Int) : Cancels (cancelPair env pair) [pair] := by
  refine ⟨fun current => ⟨_, rfl⟩, ?_, ?_, ?_⟩
  · intro current other
    rw [List.mem_singleton]
    exact NotificationTools.shown_cancelNotification current.tools succeeds pair other
  · intro current
    exact (current.tools.cancelNotification_keeps env.toNotificationEnv pair).1
  · intro current
    exact (current.tools.cancelNotification_keeps env.toNotificationEnv pair).2

theorem cancels_cancelSubPair (record : ContinuousTaskRecord) :
    Cancels (cancelSubPair env record) (subPairs record) := by
  unfold cancelSubPair subPairs
  split
  · exact cancels_cancelPair succeeds record.subPair
  · exact Cancels.none

theorem cancels_cancelMainAndSub (record : ContinuousTaskRecord) :
    Cancels (cancelMainAndSub env record) (record.mainPair :: subPairs record) :=
  (cancels_cancelPair succeeds record.mainPair).comp (cancels_cancelSubPair succeeds record)

theorem cancels_cancelExisting (record : ContinuousTaskRecord) :
    Cancels (cancelExisting env record)
      (if record.notificationId ≠ -1 then record.mainPair :: subPairs record
      else subPairs record) := by
  unfold cancelExisting
  split
  · exact cancels_cancelMainAndSub succeeds record
  · exact cancels_cancelSubPair succeeds record

theorem cancels_cancelOther (isSubNotification : Bool) (record : ContinuousTaskRecord) :
    Cancels (cancelOther env isSubNotification record)
      (if isSubNotification then [record.mainPair] else subPairs record) := by
  unfold cancelOther
  split
  · exact cancels_cancelPair succeeds record.mainPair
  · exact cancels_cancelSubPair succeeds record

end Cancel

/-! ## Loops over chosen tasks -/

def withdrawnOf (chosen : ContinuousTaskRecord → Bool)
    (pairs : ContinuousTaskRecord → List (String × Int)) (_key : String)
    (record : ContinuousTaskRecord) : List (String × Int) :=
  if chosen record then pairs record else []

theorem SweepBody.of_chosen {inv : BgContinuousTaskMgr → Prop}
    {body : String → ContinuousTaskRecord → BgContinuousTaskMgr → BgContinuousTaskMgr}
    {chosen : ContinuousTaskRecord → Bool}
    {change : String → ContinuousTaskRecord → Option ContinuousTaskRecord}
    {cancel : ContinuousTaskRecord → BgContinuousTaskMgr → BgContinuousTaskMgr}
    {pairs : ContinuousTaskRecord → List (String × Int)}
    (cancels : ∀ record, Cancels (cancel record) (pairs record))
    (skips : ∀ key record current, chosen record = false → body key record current = current)
    (keeps : ∀ key record current, chosen record = true → current.taskAt key = some record →
      inv current → inv (body key record current))
    (tools : ∀ key record current, chosen record = true → current.taskAt key = some record →
      ∃ told : BgContinuousTaskMgr, told.tools = current.tools ∧
        (body key record current).tools = (cancel record told).tools)
    (others : ∀ key record current, chosen record = true → current.taskAt key = some record →
      ∀ other, other ≠ key → (body key record current).taskAt other = current.taskAt other)
    (own : ∀ key record current, chosen record = true → current.taskAt key = some record →
      inv current → (body key record current).taskAt key = change key record) :
    SweepBody inv body
      (fun key record => if chosen record then change key record else some record)
      (withdrawnOf chosen pairs) := by
  constructor
  · intro key record current found held
    cases choice : chosen record with
    | false => rwa [skips key record current choice]
    | true => exact keeps key record current choice found held
  · intro key record current found other different
    cases choice : chosen record with
    | false => rw [skips key record current choice]
    | true => exact others key record current choice found other different
  · intro key record current found held
    cases choice : chosen record with
    | false => simpa [skips key record current choice] using found
    | true => simpa using own key record current choice found held
  · intro key record current found pair
    unfold withdrawnOf
    cases choice : chosen record with
    | false => simp [skips key record current choice]
    | true =>
        obtain ⟨told, same, eq⟩ := tools key record current choice found
        rw [eq, (cancels record).shown, same]
        simp
  · intro key record current found
    cases choice : chosen record with
    | false => rw [skips key record current choice]
    | true =>
        obtain ⟨told, same, eq⟩ := tools key record current choice found
        rw [eq, (cancels record).hash, same]
  · intro key record current found
    cases choice : chosen record with
    | false => rw [skips key record current choice]
    | true =>
        obtain ⟨told, same, eq⟩ := tools key record current choice found
        rw [eq, (cancels record).notificationIdIndex, same]

/-! ## Ends of tasks -/

def ended (chosen : ContinuousTaskRecord → Bool) (_key : String)
    (record : ContinuousTaskRecord) : Option ContinuousTaskRecord :=
  if chosen record then none else some record

/-- The records after a loop that ends tasks, whatever becomes of the notifications. -/
theorem taskAt_endTasks {chosen : ContinuousTaskRecord → Bool}
    {mark : ContinuousTaskRecord → ContinuousTaskRecord}
    {cancel finish : ContinuousTaskRecord → BgContinuousTaskMgr → BgContinuousTaskMgr}
    (cancels : ∀ record, OnlyTools (cancel record))
    (finishes : ∀ record current key, (finish record current).taskAt key = current.taskAt key)
    (s : BgContinuousTaskMgr) (key : String) :
    (s.endTasks chosen mark cancel finish).taskAt key =
      (s.taskAt key).bind (ended chosen key) := by
  have erased : ∀ (key : String) (record : ContinuousTaskRecord) (current : BgContinuousTaskMgr)
      (other : String), (current.endTask mark cancel key record).taskAt other =
        if other = key then none else current.taskAt other := by
    intro key record current other
    unfold endTask
    obtain ⟨tools, eq⟩ := cancels record (current.onContinuousTaskChanged (mark record) .taskCancel)
    rw [eq, taskAt_eraseRecord]
    rfl
  refine KeyedMap.lookup_forEach (fun _ => True) ?_ (fun _ _ _ _ _ => trivial) ?_ s trivial key
  · intro key record current _ other different
    show (if chosen record then _ else _ : BgContinuousTaskMgr).taskAt other = current.taskAt other
    split
    · rw [finishes, erased, if_neg different]
    · rfl
  · intro key record current found _
    show (if chosen record then _ else _ : BgContinuousTaskMgr).taskAt key = ended chosen key record
    unfold ended
    split
    · rw [finishes, erased, if_pos rfl]
    · exact found

section Loops

variable {env : Env} (succeeds : ∀ label id, env.cancelOk label id = true)
  (s : BgContinuousTaskMgr)

theorem swept_endTasks {chosen : ContinuousTaskRecord → Bool}
    {mark : ContinuousTaskRecord → ContinuousTaskRecord}
    {cancel finish : ContinuousTaskRecord → BgContinuousTaskMgr → BgContinuousTaskMgr}
    {pairs : ContinuousTaskRecord → List (String × Int)}
    (cancels : ∀ record, Cancels (cancel record) (pairs record))
    (finishes : ∀ record current, Undisturbed current (finish record current)) :
    Swept (ended chosen) (withdrawnOf chosen pairs) s (s.endTasks chosen mark cancel finish) := by
  have erased : ∀ (key : String) (record : ContinuousTaskRecord) (current : BgContinuousTaskMgr)
      (other : String), (finish record (current.endTask mark cancel key record)).taskAt other =
        if other = key then none else current.taskAt other := by
    intro key record current other
    obtain ⟨left, eq⟩ :=
      (cancels record).only (current.onContinuousTaskChanged (mark record) .taskCancel)
    rw [(finishes record _).taskAt]
    unfold endTask
    rw [eq, taskAt_eraseRecord]
    rfl
  have loop : SweepBody (fun _ => True) (fun key record current =>
      if chosen record then finish record (current.endTask mark cancel key record) else current)
      (ended chosen) (withdrawnOf chosen pairs) := by
    refine SweepBody.of_chosen cancels ?_ (fun _ _ _ _ _ _ => trivial) ?_ ?_ ?_
    · intro key record current choice
      simp [choice]
    · intro key record current choice found
      refine ⟨current.onContinuousTaskChanged (mark record) .taskCancel, rfl, ?_⟩
      rw [if_pos choice, (finishes record _).tools]
      rfl
    · intro key record current choice found other different
      rw [if_pos choice, erased, if_neg different]
    · intro key record current choice found _
      rw [if_pos choice, erased, if_pos rfl]
  exact loop.swept s trivial

include succeeds

theorem swept_removeContinuousTaskRecordByUid (uid : Int) :
    Swept (ended (fun record => record.uid == uid))
      (withdrawnOf (fun record => record.uid == uid)
        (fun record => record.mainPair :: subPairs record)) s
      (s.removeContinuousTaskRecordByUid env uid) :=
  (swept_endTasks s (cancels_cancelMainAndSub succeeds)
    (fun _ current => undisturbed_saveTasks current env)).then_same
      (undisturbed_handleAppContinuousTaskStop _ uid)

theorem swept_removeContinuousTaskRecordByUidAndMode (uid : Int) (mode : Nat) :
    Swept (ended (fun record => record.uid == uid && checkExistMode record.bgModeIds mode))
      (withdrawnOf (fun record => record.uid == uid && checkExistMode record.bgModeIds mode)
        (fun record => record.mainPair :: subPairs record)) s
      (s.removeContinuousTaskRecordByUidAndMode env uid mode) :=
  (swept_endTasks s (cancels_cancelMainAndSub succeeds)
    (fun _ current => undisturbed_saveTasks current env)).then_same
      (undisturbed_handleAppContinuousTaskStop _ uid)

/-- The loops that cancel main notifications only: an account goes, or the data of an app
is cleared. -/
theorem swept_endTasks_cancelMain (chosen : ContinuousTaskRecord → Bool) :
    Swept (ended chosen) (withdrawnOf chosen (fun record => [record.mainPair])) s
      (s.endTasks chosen markSystemCancel (cancelMain env) (stopAndSave env)) :=
  swept_endTasks s (fun record => cancels_cancelPair succeeds record.mainPair)
    (fun record current => undisturbed_stopAndSave current env record)

theorem swept_onAppStopped (uid : Int) (ready : s.isSysReady = true) :
    Swept (ended (fun record => record.uid == uid))
      (withdrawnOf (fun record => record.uid == uid)
        (fun record => if record.notificationId ≠ -1 then record.mainPair :: subPairs record
          else subPairs record)) s (s.onAppStopped env uid) := by
  unfold onAppStopped
  rw [if_neg (by simp [ready])]
  have stopped : Swept _ _ s (s.endTasks (fun record => record.uid == uid) markSystemCancel
      (cancelExisting env) (stopAndSave env)) :=
    swept_endTasks s (cancels_cancelExisting succeeds)
      (fun record current => undisturbed_stopAndSave current env record)
  dsimp only
  split
  · exact stopped
  · exact stopped.then_same (undisturbed_removeBanners _ env _)

theorem swept_endTasks_cancelOther (isSubNotification : Bool)
    (chosen : ContinuousTaskRecord → Bool) :
    Swept (ended chosen) (withdrawnOf chosen (fun record =>
        if isSubNotification then [record.mainPair] else subPairs record)) s
      (s.endTasks chosen markRemoved (cancelOther env isSubNotification) (stopAndSave env)) :=
  swept_endTasks s (cancels_cancelOther succeeds isSubNotification)
    (fun record current => undisturbed_stopAndSave current env record)

theorem swept_dumpCancelAll :
    Swept (fun _ _ => none) (fun _ record => [record.mainPair]) s (s.dumpCancelAll env) := by
  have loop : SweepBody (fun _ => True) (dumpCancel env) (fun _ record => some record)
      (fun _ record => [record.mainPair]) := by
    refine ⟨fun _ _ _ _ _ => trivial, fun _ _ _ _ _ _ => rfl, fun _ _ _ found _ => found, ?_,
      ?_, ?_⟩
    · intro key record current _ pair
      exact (cancels_cancelPair succeeds record.mainPair).shown current pair
    · intro key record current _
      exact (cancels_cancelPair succeeds record.mainPair).hash current
    · intro key record current _
      exact (cancels_cancelPair succeeds record.mainPair).notificationIdIndex current
  have swept := loop.swept s trivial
  have cleared : Swept (fun _ _ => none) (fun _ record => [record.mainPair]) s
      (dumpCleared env s) := by
    refine ⟨?_, swept.shown, swept.hash, swept.notificationIdIndex⟩
    intro key
    rw [taskAt_dumpCleared]
    cases s.taskAt key with
    | none => rfl
    | some record => rfl
  have stops : ∀ (uids : List Int) (current : BgContinuousTaskMgr), Undisturbed current
      (uids.foldl (fun current uid => current.handleAppContinuousTaskStop uid) current) := by
    intro uids
    induction uids with
    | nil => exact Undisturbed.refl
    | cons uid rest ih =>
        intro current
        exact (undisturbed_handleAppContinuousTaskStop current uid).trans (ih _)
  exact cleared.then_same ((undisturbed_saveTasks _ env).trans (stops _ _))

/-! ## Suspensions -/

def audioChosen (uid : Int) (record : ContinuousTaskRecord) : Bool :=
  record.uid == uid && checkExistMode record.bgModeIds BackgroundMode.audioPlayback

/-- What an audio suspension makes of such a task, by whether the app has a callback. -/
def audioOutcome (hasCallback : Bool) (record : ContinuousTaskRecord) :
    Option ContinuousTaskRecord :=
  if !hasCallback then some (undetected record)
  else if record.suspendAudioTaskTimes = 0 then some (audioSuspended (undetected record))
  else none

def audioChange (uid : Int) (hasCallback : Bool) (_key : String)
    (record : ContinuousTaskRecord) : Option ContinuousTaskRecord :=
  if audioChosen uid record then audioOutcome hasCallback record else some record

omit succeeds in
theorem suspendAudio_of_chosen {uid : Int} {key : String} {record : ContinuousTaskRecord}
    (current : BgContinuousTaskMgr) (chosen : audioChosen uid record = true)
    (found : current.taskAt key = some record) :
    (suspendAudio env uid key record current).bgTaskSubscribers = current.bgTaskSubscribers ∧
      (suspendAudio env uid key record current).tools =
        (current.cancelPair env record.mainPair).tools ∧
      ∀ other, (suspendAudio env uid key record current).taskAt other = if other = key then
        audioOutcome (current.isExistCallback uid continuousTaskSuspend) record
      else current.taskAt other := by
  have concerned : record.uid = uid ∧
      checkExistMode record.bgModeIds BackgroundMode.audioPlayback = true := by
    simpa [audioChosen] using chosen
  unfold suspendAudio audioOutcome
  rw [if_pos concerned]
  dsimp only
  have edited : ∀ edited other, ((current.setRecord key edited).cancelPair env
      record.mainPair).taskAt other = if other = key then some edited else current.taskAt other := by
    intro edited other
    show (current.setRecord key edited).taskAt other = _
    rw [taskAt_setRecord]
    split
    · rename_i here
      rw [here, found]
      rfl
    · rfl
  split
  · exact ⟨rfl, rfl, edited (undetected record)⟩
  split
  · rw [(quiet_saveTasks _ env).bgTaskSubscribers, (undisturbed_saveTasks _ env).tools]
    refine ⟨rfl, rfl, ?_⟩
    intro other
    rw [(undisturbed_saveTasks _ env).taskAt]
    show ((current.setRecord key (undetected record)).setRecord key
      (audioSuspended (undetected record))).taskAt other = _
    rw [taskAt_setRecord, taskAt_setRecord]
    split
    · rename_i here
      rw [here, found]
      rfl
    · rfl
  · rw [(quiet_saveTasks _ env).bgTaskSubscribers, (undisturbed_saveTasks _ env).tools]
    refine ⟨rfl, rfl, ?_⟩
    intro other
    rw [(undisturbed_saveTasks _ env).taskAt, taskAt_eraseRecord]
    split
    · rfl
    · rename_i away
      exact (edited (undetected record) other).trans (if_neg away)

omit succeeds in
theorem suspendAudio_of_not_chosen {uid : Int} {key : String} {record : ContinuousTaskRecord}
    (current : BgContinuousTaskMgr) (other : audioChosen uid record = false) :
    suspendAudio env uid key record current = current := by
  refine if_neg ?_
  intro concerned
  have chosen : audioChosen uid record = true := by simpa [audioChosen] using concerned
  exact absurd (other.symm.trans chosen) (by simp)

theorem sweepBody_suspendAudio (uid : Int) :
    SweepBody (fun current => current.bgTaskSubscribers = s.bgTaskSubscribers)
      (suspendAudio env uid) (audioChange uid (s.isExistCallback uid continuousTaskSuspend))
      (withdrawnOf (audioChosen uid) (fun record => [record.mainPair])) := by
  refine SweepBody.of_chosen (fun record => cancels_cancelPair succeeds record.mainPair) ?_ ?_ ?_
    ?_ ?_
  · intro key record current choice
    exact suspendAudio_of_not_chosen current choice
  · intro key record current choice found same
    rw [(suspendAudio_of_chosen current choice found).1, same]
  · intro key record current choice found
    exact ⟨current, rfl, (suspendAudio_of_chosen current choice found).2.1⟩
  · intro key record current choice found other different
    rw [(suspendAudio_of_chosen current choice found).2.2, if_neg different]
  · intro key record current choice found same
    have callback : current.isExistCallback uid continuousTaskSuspend =
        s.isExistCallback uid continuousTaskSuspend := by
      unfold isExistCallback
      rw [same]
    rw [(suspendAudio_of_chosen current choice found).2.2, if_pos rfl, callback]

theorem swept_handleSuspendContinuousAudioTask (uid : Int) :
    Swept (audioChange uid (s.isExistCallback uid continuousTaskSuspend))
      (withdrawnOf (audioChosen uid) (fun record => [record.mainPair])) s
      (s.handleSuspendContinuousAudioTask env uid) :=
  ((sweepBody_suspendAudio succeeds s uid).swept s rfl).then_same
    (undisturbed_handleAppContinuousTaskStop _ uid)

def liveViewChosen (uid : Int) (record : ContinuousTaskRecord) : Bool :=
  record.uid == uid && record.notificationId != -1 && checkLiveViewInfoModes record

def liveViewChange (uid : Int) (_key : String) (record : ContinuousTaskRecord) :
    Option ContinuousTaskRecord :=
  if liveViewChosen uid record then some { record with notificationId := -1 } else some record

theorem sweepBody_cancelForLiveView (uid : Int) :
    SweepBody (fun _ => True) (cancelForLiveView env uid) (liveViewChange uid)
      (withdrawnOf (liveViewChosen uid) (fun record => [record.mainPair])) := by
  have gives : ∀ (key : String) (record : ContinuousTaskRecord) (current : BgContinuousTaskMgr),
      liveViewChosen uid record = true → cancelForLiveView env uid key record current =
        ((current.cancelPair env record.mainPair).setRecord key
          { record with notificationId := -1 }).saveTasks env := by
    intro key record current choice
    refine if_neg ?_
    simp only [liveViewChosen, Bool.and_eq_true, beq_iff_eq, bne_iff_ne] at choice
    simp [choice.1.1, choice.1.2, choice.2]
  refine SweepBody.of_chosen (fun record => cancels_cancelPair succeeds record.mainPair) ?_
    (fun _ _ _ _ _ _ => trivial) ?_ ?_ ?_
  · intro key record current other
    refine if_pos ?_
    by_contra chosen
    simp only [not_or, not_not] at chosen
    simp [liveViewChosen, chosen.1, chosen.2.1] at other
    simp [other] at chosen
  · intro key record current choice found
    refine ⟨current, rfl, ?_⟩
    rw [gives key record current choice, (undisturbed_saveTasks _ env).tools]
    rfl
  · intro key record current choice found other different
    rw [gives key record current choice, (undisturbed_saveTasks _ env).taskAt,
      taskAt_setRecord_ne _ key other _ different]
    rfl
  · intro key record current choice found _
    rw [gives key record current choice, (undisturbed_saveTasks _ env).taskAt]
    exact taskAt_setRecord_self (current.cancelPair env record.mainPair) key _ found

def suspendChange (uid mode : Int) (key other : String) (record : ContinuousTaskRecord) :
    Option ContinuousTaskRecord :=
  some (if other = key ∧ record.uid = uid then suspended mode record else record)

omit succeeds in
/-- A suspension first marks and announces the record, when it is a task of the app. -/
theorem suspension_told {record : ContinuousTaskRecord} (uid mode : Int) (key : String)
    (found : s.taskAt key = some record) {told : BgContinuousTaskMgr}
    (eq : told = if record.uid = uid then
      ((s.setRecord key (suspended mode record)).onContinuousTaskChanged
        (suspended mode record) .taskSuspend).saveTasks env else s) :
    told.tools = s.tools ∧
      ∀ other, told.taskAt other = (s.taskAt other).bind (suspendChange uid mode key other) := by
  subst eq
  constructor
  · split
    · exact (undisturbed_saveTasks _ env).tools
    · rfl
  intro other
  by_cases here : other = key
  · subst here
    rw [found]
    split
    · rename_i owner
      have stored := taskAt_setRecord_self s other (suspended mode record) found
      rw [(undisturbed_saveTasks _ env).taskAt]
      simp only [Option.bind_some, suspendChange, owner, and_self, if_true]
      exact stored
    · rename_i foreign
      simpa [suspendChange, foreign] using found
  · have same : (s.taskAt other).bind (suspendChange uid mode key other) = s.taskAt other := by
      cases s.taskAt other with
      | none => rfl
      | some task => simp [suspendChange, here]
    rw [same]
    split
    · rw [(undisturbed_saveTasks _ env).taskAt]
      exact taskAt_setRecord_ne s key other (suspended mode record) here
    · rfl

theorem swept_handleSuspendContinuousTask (uid mode : Int) (key : String) :
    Swept (suspendChange uid mode key)
      (fun other record => if other = key then record.mainPair :: subPairs record else []) s
      (s.handleSuspendContinuousTask env uid mode key) := by
  unfold handleSuspendContinuousTask
  split
  · rename_i missing
    have away : ∀ other record, s.taskAt other = some record → other ≠ key := by
      rintro other record found rfl
      exact absurd (missing.symm.trans found) (by simp)
    refine ⟨?_, ?_, rfl, rfl⟩
    · intro other
      cases found : s.taskAt other with
      | none => rfl
      | some record => simp [suspendChange, away other record found]
    · intro pair
      refine ⟨fun shown => ⟨shown, ?_⟩, fun both => both.1⟩
      intro other record found
      simp [away other record found]
  · rename_i record lookup
    have found : s.taskAt key = some record := lookup
    have cancels := cancels_cancelMainAndSub succeeds record
    dsimp only
    generalize eq : (if record.uid = uid then
      ((s.setRecord key (suspended mode record)).onContinuousTaskChanged
        (suspended mode record) .taskSuspend).saveTasks env else s) = told
    obtain ⟨tools, tasks⟩ := suspension_told s uid mode key found eq.symm
    obtain ⟨left, cancelled⟩ := cancels.only told
    have swept : Swept (suspendChange uid mode key)
        (fun other task => if other = key then task.mainPair :: subPairs task else []) s
        (told.cancelMainAndSub env record) := by
      refine ⟨?_, ?_, ?_, ?_⟩
      · intro other
        rw [← tasks other, cancelled]
        rfl
      · intro pair
        rw [cancels.shown told pair, tools]
        refine and_congr_right (fun _ => ?_)
        constructor
        · intro absent other task stored
          split
          · rename_i here
            rw [here] at stored
            obtain rfl := Option.some.inj (found.symm.trans stored)
            exact absent
          · simp
        · intro absent
          simpa using absent key record found
      · rw [cancels.hash, tools]
      · rw [cancels.notificationIdIndex, tools]
    exact swept.then_same (undisturbed_handleAppContinuousTaskStop _ uid)

end Loops

end BgTaskMgr.Continuous
