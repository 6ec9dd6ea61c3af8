import BgTaskMgr.Continuous.Service

/-!
# Elementary changes

Every operation on a running manager, apart from the start of a task and a few on
subscribers, is a sequence of elementary changes: a record is edited, suspended, activated
or ended, a subscriber hears something that moves no task, or nothing about tasks changes.
`Edits` is such a sequence, with the uids whose records it touches.  What one change keeps,
every operation keeps.
-/

set_option autoImplicit false

namespace BgTaskMgr.Continuous

open BgContinuousTaskMgr

namespace BgContinuousTaskMgr

def taskAt (self : BgContinuousTaskMgr) (key : String) : Option ContinuousTaskRecord :=
  self.continuousTaskInfosMap.lookup key

variable (self : BgContinuousTaskMgr) (env : Env) (key other : String)
  (record : ContinuousTaskRecord)

theorem taskAt_setRecord : (self.setRecord key record).taskAt other =
    if other = key then (self.taskAt other).map (fun _ => record) else self.taskAt other :=
  KeyedMap.lookup_adjust _ _ _ _

theorem taskAt_eraseRecord : (self.eraseRecord key).taskAt other =
    if other = key then none else self.taskAt other :=
  KeyedMap.lookup_erase _ _ _

theorem taskAt_setRecord_self {stored : ContinuousTaskRecord} (found : self.taskAt key = some stored) :
    (self.setRecord key record).taskAt key = some record := by
  rw [taskAt_setRecord, if_pos rfl, found]
  rfl

theorem taskAt_setRecord_ne (different : other ≠ key) :
    (self.setRecord key record).taskAt other = self.taskAt other := by
  rw [taskAt_setRecord, if_neg different]

theorem taskAt_eraseRecord_ne (different : other ≠ key) :
    (self.eraseRecord key).taskAt other = self.taskAt other := by
  rw [taskAt_eraseRecord, if_neg different]

@[simp]
theorem taskAt_handleAppContinuousTaskStop (uid : Int) :
    (self.handleAppContinuousTaskStop uid).taskAt other = self.taskAt other := by
  unfold handleAppContinuousTaskStop
  split
  · rfl
  · rfl

theorem taskAt_addTask : (self.addTask key record).taskAt other =
    if other = key then some record else self.taskAt other :=
  KeyedMap.lookup_insert _ _ _ _

theorem taskAt_of_findTask {found : String → ContinuousTaskRecord → Bool}
    (search : self.findTask found = some (key, record)) :
    self.taskAt key = some record ∧ found key record = true := by
  obtain ⟨entry, hit, same⟩ := Option.map_eq_some_iff.mp search
  obtain ⟨rfl, rfl⟩ := Prod.mk.inj same
  have matched := List.find?_some hit
  exact ⟨KeyedMap.mem_entries_iff.mp (List.mem_of_find?_eq_some hit), matched⟩

theorem findTask_eq_none {found : String → ContinuousTaskRecord → Bool}
    (search : self.findTask found = none) (stored : self.taskAt key = some record) :
    found key record = false := by
  have none := List.find?_eq_none.mp (Option.map_eq_none_iff.mp search) ⟨key, record⟩
    (KeyedMap.mem_entries_iff.mpr stored)
  simpa using none

theorem of_all_entries {holds : String → ContinuousTaskRecord → Bool}
    (all : self.continuousTaskInfosMap.entries.all (fun entry => holds entry.1 entry.2) = true)
    (found : self.taskAt key = some record) : holds key record = true :=
  List.all_eq_true.mp all ⟨key, record⟩ (KeyedMap.mem_entries_iff.mpr found)

end BgContinuousTaskMgr

/-! ## What the small operations leave alone -/

section Leaves

variable {s : BgContinuousTaskMgr} {env : Env}

theorem cancelNotification_map (record : ContinuousTaskRecord) :
    (s.cancelNotification env record).2.continuousTaskInfosMap = s.continuousTaskInfosMap := by
  unfold cancelNotification
  split
  · rfl
  · dsimp only
    split
    · rfl
    · rfl

theorem saveTasks_map : (s.saveTasks env).continuousTaskInfosMap = s.continuousTaskInfosMap := by
  unfold saveTasks refreshTaskRecord
  split
  · rfl
  · rfl

theorem handleAppContinuousTaskStop_map (uid : Int) :
    (s.handleAppContinuousTaskStop uid).continuousTaskInfosMap = s.continuousTaskInfosMap := by
  unfold handleAppContinuousTaskStop
  split
  · rfl
  · rfl

theorem tools_saveTasks (env : Env) : (s.saveTasks env).tools = s.tools := by
  unfold saveTasks refreshTaskRecord
  split
  · rfl
  · rfl

end Leaves

/-! ## Changes that concern no task -/

/-- Nothing about tasks and subscribers changes, except that the record file may be
written. -/
structure Quiet (before after : BgContinuousTaskMgr) : Prop where
  taskAt : ∀ key, after.taskAt key = before.taskAt key
  continuousTaskIdIndex : after.continuousTaskIdIndex = before.continuousTaskIdIndex
  calls : after.calls = before.calls
  bgTaskSubscribers : after.bgTaskSubscribers = before.bgTaskSubscribers
  isSysReady : after.isSysReady = before.isSysReady
  file : after.file = before.file ∨
    ∀ key, after.file.lookup key = (before.taskAt key).map ContinuousTaskRecord.persisted

/-- The file is left alone, and so is everything a record store is. -/
theorem Quiet.of_eq {before after : BgContinuousTaskMgr}
    (map : after.continuousTaskInfosMap = before.continuousTaskInfosMap)
    (index : after.continuousTaskIdIndex = before.continuousTaskIdIndex)
    (calls : after.calls = before.calls)
    (subscribers : after.bgTaskSubscribers = before.bgTaskSubscribers)
    (ready : after.isSysReady = before.isSysReady) (file : after.file = before.file) :
    Quiet before after :=
  ⟨fun key => by rw [BgContinuousTaskMgr.taskAt, map]; rfl, index, calls, subscribers, ready,
    Or.inl file⟩

theorem Quiet.refl (s : BgContinuousTaskMgr) : Quiet s s :=
  Quiet.of_eq rfl rfl rfl rfl rfl rfl

theorem Quiet.of_ite {before first second : BgContinuousTaskMgr} {condition : Prop}
    [Decidable condition] (onTrue : Quiet before first) (onFalse : Quiet before second) :
    Quiet before (if condition then first else second) := by
  split
  · exact onTrue
  · exact onFalse

section QuietOperations

variable (s : BgContinuousTaskMgr) (env : Env)

theorem quiet_setTools (tools : NotificationTools) : Quiet s (s.setTools tools) :=
  Quiet.of_eq rfl rfl rfl rfl rfl rfl

theorem quiet_saveTasks : Quiet s (s.saveTasks env) := by
  unfold saveTasks refreshTaskRecord
  split
  · exact ⟨fun _ => rfl, rfl, rfl, rfl, rfl,
      Or.inr (fun key => KeyedMap.lookup_mapVal _ _ key)⟩
  · exact Quiet.refl s

theorem quiet_cancelPair (pair : String × Int) : Quiet s (s.cancelPair env pair) :=
  quiet_setTools s _

theorem quiet_setCachedBundleInfo (record : ContinuousTaskRecord) :
    Quiet s (s.setCachedBundleInfo env record) := by
  unfold setCachedBundleInfo
  split
  · exact Quiet.refl s
  · split
    · exact Quiet.refl s
    · exact Quiet.of_eq rfl rfl rfl rfl rfl rfl

theorem quiet_cancelNotification (record : ContinuousTaskRecord) :
    Quiet s (s.cancelNotification env record).2 := by
  unfold cancelNotification
  split
  · exact Quiet.refl s
  · dsimp only
    split
    · exact quiet_setTools s _
    · exact quiet_setTools s _

theorem quiet_removeAudioPlaybackDelayTask (uid : Int) :
    Quiet s (s.removeAudioPlaybackDelayTask uid) :=
  Quiet.of_ite (Quiet.of_eq rfl rfl rfl rfl rfl rfl) (Quiet.refl s)

theorem quiet_setLiveViewInfo (uid : Int) (publish : Bool) (event : String) :
    Quiet s (s.setLiveViewInfo uid publish event) :=
  Quiet.of_ite (Quiet.of_eq rfl rfl rfl rfl rfl rfl)
    (Quiet.of_ite (Quiet.of_eq rfl rfl rfl rfl rfl rfl) (Quiet.of_eq rfl rfl rfl rfl rfl rfl))

theorem quiet_refreshAuthRecord : Quiet s (s.refreshAuthRecord env) :=
  Quiet.of_ite (Quiet.of_eq rfl rfl rfl rfl rfl rfl) (Quiet.refl s)

theorem quiet_removeBanners (chosen : BannerNotificationRecord → Bool) :
    Quiet s (s.removeBanners env chosen) := by
  unfold removeBanners refreshAuthRecord
  split
  · exact Quiet.of_ite (Quiet.of_eq rfl rfl rfl rfl rfl rfl) (Quiet.of_eq rfl rfl rfl rfl rfl rfl)
  · exact Quiet.refl s

theorem quiet_stopBannerContinuousTaskByUser (label : String) :
    Quiet s (s.stopBannerContinuousTaskByUser env label) := by
  unfold stopBannerContinuousTaskByUser refreshAuthRecord
  split
  · exact Quiet.refl s
  · split
    · exact Quiet.of_ite (Quiet.of_eq rfl rfl rfl rfl rfl rfl) (Quiet.of_eq rfl rfl rfl rfl rfl rfl)
    · exact Quiet.refl s

theorem quiet_onAppStateChanged (uid : Int) (foreground : Bool) :
    Quiet s (s.onAppStateChanged uid foreground) := by
  unfold onAppStateChanged
  split
  · exact Quiet.refl s
  · split
    · exact Quiet.of_eq rfl rfl rfl rfl rfl rfl
    · exact Quiet.of_ite (Quiet.of_eq rfl rfl rfl rfl rfl rfl) (Quiet.of_eq rfl rfl rfl rfl rfl rfl)

theorem quiet_enableContinuousTaskRequest (uid : Int) (isEnable : Bool) :
    Quiet s (s.enableContinuousTaskRequest uid isEnable) :=
  Quiet.of_ite (Quiet.refl s)
    (Quiet.of_ite (Quiet.of_eq rfl rfl rfl rfl rfl rfl) (Quiet.of_eq rfl rfl rfl rfl rfl rfl))

theorem quiet_rehash (rank : String → Nat) : Quiet s (s.rehash rank) :=
  ⟨fun key => KeyedMap.lookup_reorder rank s.continuousTaskInfosMap key, rfl, rfl, rfl, rfl,
    Or.inl rfl⟩

end QuietOperations

/-! ## Changes of tasks -/

structure Edited (before after : ContinuousTaskRecord) : Prop
    extends ContinuousTaskRecord.SameTask before after where
  suspendState : after.suspendState = before.suspendState

theorem Edited.refl (record : ContinuousTaskRecord) : Edited record record :=
  ⟨ContinuousTaskRecord.SameTask.refl record, rfl⟩

theorem Edited.trans {first second third : ContinuousTaskRecord} (early : Edited first second)
    (late : Edited second third) : Edited first third :=
  ⟨early.toSameTask.trans late.toSameTask, late.suspendState.trans early.suspendState⟩

def Unmoved (type : ContinuousTaskEventTriggerType) (record : ContinuousTaskRecord) : Prop :=
  type = .taskUpdate ∨ (type = .taskSuspend ∨ type = .taskActive) ∧ record.isStandby = true

/-- One elementary change.  Records of a uid in `touch` may change; a record in `unheard`
may be suspended while it is in standby, which system abilities do not hear. -/
inductive Change (touch : Int → Prop) (unheard : ContinuousTaskRecord → Prop) :
    BgContinuousTaskMgr → BgContinuousTaskMgr → Prop where
  | quiet {before after : BgContinuousTaskMgr} (same : Quiet before after) :
      Change touch unheard before after
  | edit {s : BgContinuousTaskMgr} {key : String} {record : ContinuousTaskRecord}
      (edited : ContinuousTaskRecord) (found : s.taskAt key = some record)
      (touched : touch record.uid) (keeps : Edited record edited) :
      Change touch unheard s (s.setRecord key edited)
  | editAll (s : BgContinuousTaskMgr) (edit : ContinuousTaskRecord → ContinuousTaskRecord)
      (all : ∀ uid, touch uid) (keeps : ∀ record, Edited record (edit record)) :
      Change touch unheard s { s with
        continuousTaskInfosMap :=
          KeyedMap.mapVal (fun _ record => edit record) s.continuousTaskInfosMap }
  | tell (s : BgContinuousTaskMgr) (record : ContinuousTaskRecord)
      (type : ContinuousTaskEventTriggerType) (unmoved : Unmoved type record) :
      Change touch unheard s (s.onContinuousTaskChanged record type)
  | appStop (s : BgContinuousTaskMgr) (uid : Int) :
      Change touch unheard s (s.handleAppContinuousTaskStop uid)
  | audioCallback (s : BgContinuousTaskMgr) (record : ContinuousTaskRecord) :
      Change touch unheard s (s.sendAudioCallBackTaskState record)
  | suspend {s : BgContinuousTaskMgr} {key : String} {record : ContinuousTaskRecord}
      (edited : ContinuousTaskRecord) (found : s.taskAt key = some record)
      (touched : touch record.uid) (same : ContinuousTaskRecord.SameTask record edited)
      (suspended : edited.suspendState = true)
      (heard : edited.isStandby = false ∨ unheard record) :
      Change touch unheard s ((s.setRecord key edited).onContinuousTaskChanged edited .taskSuspend)
  | activate {s : BgContinuousTaskMgr} {key : String} {record : ContinuousTaskRecord}
      (edited : ContinuousTaskRecord) (found : s.taskAt key = some record)
      (touched : touch record.uid) (same : ContinuousTaskRecord.SameTask record edited)
      (active : edited.suspendState = false) (heard : edited.isStandby = false) :
      Change touch unheard s ((s.setRecord key edited).onContinuousTaskChanged edited .taskActive)
  | finish {s : BgContinuousTaskMgr} {key : String} {record : ContinuousTaskRecord}
      (marked : ContinuousTaskRecord) (found : s.taskAt key = some record)
      (touched : touch record.uid) (same : ContinuousTaskRecord.SameTask record marked) :
      Change touch unheard s ((s.onContinuousTaskChanged marked .taskCancel).eraseRecord key)

abbrev Edits (touch : Int → Prop) (unheard : ContinuousTaskRecord → Prop) :
    BgContinuousTaskMgr → BgContinuousTaskMgr → Prop :=
  Relation.ReflTransGen (Change touch unheard)

section Edits

variable {touch : Int → Prop} {unheard : ContinuousTaskRecord → Prop}
  {s before after : BgContinuousTaskMgr} {key : String} {record : ContinuousTaskRecord}

theorem Edits.of_quiet (same : Quiet before after) : Edits touch unheard before after :=
  Relation.ReflTransGen.single (Change.quiet same)

theorem Change.bgTaskSubscribers (change : Change touch unheard before after) :
    after.bgTaskSubscribers = before.bgTaskSubscribers := by
  cases change with
  | quiet same => exact same.bgTaskSubscribers
  | appStop uid =>
      unfold handleAppContinuousTaskStop
      split
      · rfl
      · rfl
  | _ => rfl

theorem Edits.bgTaskSubscribers (edits : Edits touch unheard before after) :
    after.bgTaskSubscribers = before.bgTaskSubscribers := by
  induction edits with
  | refl => rfl
  | tail _ change ih => exact (Change.bgTaskSubscribers change).trans ih

theorem Edits.of_ite {condition : Prop} [Decidable condition] {first second : BgContinuousTaskMgr}
    (onTrue : Edits touch unheard s first) (onFalse : Edits touch unheard s second) :
    Edits touch unheard s (if condition then first else second) := by
  split
  · exact onTrue
  · exact onFalse

theorem Edits.edit {edited : ContinuousTaskRecord} (found : s.taskAt key = some record)
    (touched : touch record.uid) (keeps : Edited record edited) :
    Edits touch unheard s (s.setRecord key edited) :=
  Relation.ReflTransGen.single (Change.edit edited found touched keeps)

theorem Change.continuousTaskIdIndex (change : Change touch unheard before after) :
    after.continuousTaskIdIndex = before.continuousTaskIdIndex := by
  cases change with
  | quiet same => exact same.continuousTaskIdIndex
  | appStop uid =>
      unfold handleAppContinuousTaskStop
      split
      · rfl
      · rfl
  | _ => rfl

theorem Edits.continuousTaskIdIndex (edits : Edits touch unheard before after) :
    after.continuousTaskIdIndex = before.continuousTaskIdIndex := by
  induction edits with
  | refl => rfl
  | tail _ change ih => exact (Change.continuousTaskIdIndex change).trans ih

theorem Change.isSysReady (change : Change touch unheard before after) :
    after.isSysReady = before.isSysReady := by
  cases change with
  | quiet same => exact same.isSysReady
  | appStop uid =>
      unfold handleAppContinuousTaskStop
      split
      · rfl
      · rfl
  | _ => rfl

theorem Edits.isSysReady (edits : Edits touch unheard before after) :
    after.isSysReady = before.isSysReady := by
  induction edits with
  | refl => rfl
  | tail _ change ih => exact (Change.isSysReady change).trans ih

/-! ### Where records come from -/

/-- Every task after was the same task before, in the map and in a file written since. -/
structure Traces (before after : BgContinuousTaskMgr) : Prop where
  origin : ∀ key record, after.taskAt key = some record →
    ∃ old, before.taskAt key = some old ∧ ContinuousTaskRecord.SameTask old record
  file : after.file = before.file ∨ ∀ key record, after.file.lookup key = some record →
    ∃ old, before.taskAt key = some old ∧ ContinuousTaskRecord.SameTask old record

theorem Traces.trans {first second third : BgContinuousTaskMgr} (early : Traces first second)
    (late : Traces second third) : Traces first third := by
  have back : ∀ key record old, second.taskAt key = some old →
      ContinuousTaskRecord.SameTask old record →
      ∃ oldest, first.taskAt key = some oldest ∧
        ContinuousTaskRecord.SameTask oldest record := by
    intro key record old found same
    obtain ⟨oldest, stored, kept⟩ := early.origin key old found
    exact ⟨oldest, stored, kept.trans same⟩
  constructor
  · intro key record found
    obtain ⟨old, stored, same⟩ := late.origin key record found
    exact back key record old stored same
  · rcases late.file with kept | written
    · rw [kept]
      exact early.file
    · refine Or.inr ?_
      intro key record found
      obtain ⟨old, stored, same⟩ := written key record found
      exact back key record old stored same

theorem Quiet.traces (same : Quiet before after) : Traces before after := by
  constructor
  · intro key record found
    exact ⟨record, (same.taskAt key).symm.trans found,
      ContinuousTaskRecord.SameTask.refl record⟩
  · rcases same.file with kept | written
    · exact Or.inl kept
    · refine Or.inr ?_
      intro key record found
      rw [written key] at found
      obtain ⟨old, stored, persisted⟩ := Option.map_eq_some_iff.mp found
      exact ⟨old, stored, persisted ▸ ContinuousTaskRecord.sameTask_persisted old⟩

theorem Traces.of_eq (map : after.continuousTaskInfosMap = before.continuousTaskInfosMap)
    (file : after.file = before.file) : Traces before after := by
  refine ⟨?_, Or.inl file⟩
  intro key record found
  rw [BgContinuousTaskMgr.taskAt, map] at found
  exact ⟨record, found, ContinuousTaskRecord.SameTask.refl record⟩

theorem Traces.refl (s : BgContinuousTaskMgr) : Traces s s := Traces.of_eq rfl rfl

theorem traces_setRecord {edited : ContinuousTaskRecord} (found : s.taskAt key = some record)
    (same : ContinuousTaskRecord.SameTask record edited) : Traces s (s.setRecord key edited) := by
  refine ⟨?_, Or.inl rfl⟩
  intro other stored lookup
  rw [taskAt_setRecord] at lookup
  split at lookup
  · rename_i here
    rw [here, found] at lookup
    obtain rfl := Option.some.inj lookup
    exact ⟨record, here ▸ found, same⟩
  · exact ⟨stored, lookup, ContinuousTaskRecord.SameTask.refl stored⟩

theorem traces_eraseRecord : Traces s (s.eraseRecord key) := by
  refine ⟨?_, Or.inl rfl⟩
  intro other stored lookup
  rw [taskAt_eraseRecord] at lookup
  split at lookup
  · exact absurd lookup (by simp)
  · exact ⟨stored, lookup, ContinuousTaskRecord.SameTask.refl stored⟩

theorem traces_handleAppContinuousTaskStop (uid : Int) :
    Traces s (s.handleAppContinuousTaskStop uid) := by
  unfold handleAppContinuousTaskStop
  split
  · exact Traces.refl s
  · exact Traces.of_eq rfl rfl

theorem Change.traces (change : Change touch unheard before after) : Traces before after := by
  cases change with
  | quiet same => exact same.traces
  | edit edited found touched keeps => exact traces_setRecord found keeps.toSameTask
  | editAll edit all keeps =>
      refine ⟨?_, Or.inl rfl⟩
      intro key record found
      obtain ⟨old, stored, rfl⟩ := Option.map_eq_some_iff.mp
        ((KeyedMap.lookup_mapVal _ _ key).symm.trans found)
      exact ⟨old, stored, (keeps old).toSameTask⟩
  | tell record type unmoved => exact Traces.of_eq rfl rfl
  | appStop uid => exact traces_handleAppContinuousTaskStop uid
  | audioCallback record => exact Traces.of_eq rfl rfl
  | suspend edited found touched same suspended heard =>
      exact (traces_setRecord found same).trans (Traces.of_eq rfl rfl)
  | activate edited found touched same active heard =>
      exact (traces_setRecord found same).trans (Traces.of_eq rfl rfl)
  | finish marked found touched same => 
      have told : Traces before (before.onContinuousTaskChanged marked .taskCancel) :=
        Traces.of_eq rfl rfl
      exact told.trans traces_eraseRecord

theorem Edits.traces (edits : Edits touch unheard before after) : Traces before after := by
  induction edits with
  | refl => exact Traces.refl before
  | tail _ change ih => exact ih.trans (Change.traces change)

theorem Edits.taskAt_none (edits : Edits touch unheard before after)
    (free : before.taskAt key = none) : after.taskAt key = none := by
  refine Option.eq_none_iff_forall_ne_some.mpr ?_
  intro record found
  obtain ⟨old, stored, -⟩ := (Edits.traces edits).origin key record found
  exact absurd (free.symm.trans stored) (by simp)

/-- A task of a uid that is not touched is left as it is. -/
theorem Change.untouched (change : Change touch unheard before after)
    (found : before.taskAt key = some record) (foreign : ¬ touch record.uid) :
    after.taskAt key = some record := by
  have elsewhere : ∀ other stored, before.taskAt other = some stored → touch stored.uid →
      key ≠ other := by
    rintro other stored lookup touched rfl
    obtain rfl := Option.some.inj (found.symm.trans lookup)
    exact foreign touched
  cases change with
  | quiet same => exact (same.taskAt key).trans found
  | edit edited lookup touched keeps =>
      rw [taskAt_setRecord_ne _ _ _ _ (elsewhere _ _ lookup touched), found]
  | editAll edit all keeps => exact absurd (all record.uid) foreign
  | tell other type unmoved => exact found
  | appStop uid => rw [taskAt_handleAppContinuousTaskStop, found]
  | audioCallback other => exact found
  | suspend edited lookup touched same suspended heard =>
      exact (taskAt_setRecord_ne _ _ _ _ (elsewhere _ _ lookup touched)).trans found
  | activate edited lookup touched same active heard =>
      exact (taskAt_setRecord_ne _ _ _ _ (elsewhere _ _ lookup touched)).trans found
  | finish marked lookup touched same =>
      exact (taskAt_eraseRecord_ne _ _ _ (elsewhere _ _ lookup touched)).trans found

theorem Edits.untouched (edits : Edits touch unheard before after)
    (found : before.taskAt key = some record) (foreign : ¬ touch record.uid) :
    after.taskAt key = some record := by
  induction edits with
  | refl => exact found
  | tail _ change ih => exact Change.untouched change ih foreign

theorem Edits.forEachTask
    {body : String → ContinuousTaskRecord → BgContinuousTaskMgr → BgContinuousTaskMgr}
    (each : ∀ key record current, current.taskAt key = some record →
      Edits touch unheard current (body key record current)) :
    Edits touch unheard s (s.forEachTask body) := by
  have step : ∀ key record current, current.taskAt key = some record →
      Edits touch unheard s current → Edits touch unheard s (body key record current) := by
    intro key record current found early
    exact early.trans (each key record current found)
  exact KeyedMap.forEach_invariant step s .refl

end Edits

/-! ## The event of an audio start -/

section AudioStart

variable {s : BgContinuousTaskMgr} {key : String} {record : ContinuousTaskRecord}

/-- One task in the loop is marked as playing, or the manager stays as it is. -/
theorem mgr_noteAudioStart (appName : String) (uid : Int) (loop : AudioStartLoop) :
    (noteAudioStart appName uid key record loop).mgr = loop.mgr ∨
      (noteAudioStart appName uid key record loop).mgr =
        loop.mgr.setRecord key { record with audioPlayState := true } := by
  unfold noteAudioStart
  dsimp only
  split
  · exact Or.inl rfl
  split
  · exact Or.inl rfl
  · exact Or.inr rfl

/-- What each mark keeps, and the refresh with its save, the whole event keeps. -/
theorem notifyAudioStartInner_keeps {Keeps : BgContinuousTaskMgr → Prop} (env : Env) (uid : Int)
    (start : Keeps s)
    (marks : ∀ key record mgr, mgr.taskAt key = some record → Keeps mgr →
      Keeps (mgr.setRecord key { record with audioPlayState := true }))
    (shows : ∀ mgr newPromptInfos, Keeps mgr →
      Keeps ((mgr.setTools (mgr.tools.refreshContinuousNotifications env.toNotificationEnv
        newPromptInfos)).saveTasks env)) :
    Keeps (s.notifyAudioStartInner env uid) := by
  have step : ∀ appName key record (loop : AudioStartLoop), loop.mgr.taskAt key = some record →
      Keeps loop.mgr → Keeps (noteAudioStart appName uid key record loop).mgr := by
    intro appName key record loop found held
    rcases mgr_noteAudioStart appName uid loop with same | marked
    · rw [same]
      exact held
    · rw [marked]
      exact marks key record loop.mgr found held
  have looped : ∀ appName, Keeps (KeyedMap.forEach
      (fun loop : AudioStartLoop => loop.mgr.continuousTaskInfosMap) (noteAudioStart appName uid)
      { mgr := s }).mgr :=
    fun appName => KeyedMap.forEach_invariant (step appName) { mgr := s } start
  unfold notifyAudioStartInner
  split
  · exact start
  dsimp only
  split
  · exact start
  split
  · exact looped _
  · exact shows _ _ (looped _)

end AudioStart

end BgTaskMgr.Continuous
