import BgTaskMgr.Continuous.IdBounds
import BgTaskMgr.Continuous.TaskIds

/-!
# The counter of notification ids over restarts

A new process counts from the start again until it has checked the restored tasks; then it
sets the counter to the largest main id among them.
-/

set_option autoImplicit false

namespace BgTaskMgr.Continuous

open BgContinuousTaskMgr

/-! ## The scan of the restored tasks -/

def lacksSub (allProcesses : List Int) (record : ContinuousTaskRecord) : Bool :=
  allProcesses.contains record.pid && record.notificationId != -1 && !record.suspendState &&
    isLiveViewAndOther record && record.subNotificationId == -1

/-- The notifications keep their ids, or the main one is cleared, and no id is taken. -/
structure KeepsIds (tools : NotificationTools) (record : ContinuousTaskRecord) (sent : Sent) :
    Prop where
  index : sent.tools.notificationIdIndex = tools.notificationIdIndex
  main : sent.record.notificationId = record.notificationId ∨ sent.record.notificationId = -1
  sub : sent.record.subNotificationId = record.subNotificationId

section Sending

variable {tools : NotificationTools} {record : ContinuousTaskRecord}

theorem KeepsIds.refl (tools : NotificationTools) (record : ContinuousTaskRecord) (ret : ErrCode) :
    KeepsIds tools record ⟨ret, record, tools⟩ := ⟨rfl, .inl rfl, rfl⟩

theorem keepsIds_publishMainNotification (env : NotificationEnv)
    (main : record.notificationId ≠ -1) (subRecord : ContinuousTaskRecord)
    (appName prompt : String) :
    KeepsIds tools record (tools.publishMainNotification env subRecord appName prompt record) := by
  unfold NotificationTools.publishMainNotification NotificationTools.chosenId
    NotificationTools.takeId
  simp only [if_neg main]
  split
  · exact ⟨rfl, .inl rfl, rfl⟩
  · exact ⟨rfl, .inl rfl, rfl⟩

theorem keepsIds_publishSubNotification (env : NotificationEnv)
    (sub : record.subNotificationId ≠ -1) (subRecord : ContinuousTaskRecord)
    (appName prompt : String) :
    KeepsIds tools record (tools.publishSubNotification env subRecord appName prompt record) := by
  unfold NotificationTools.publishSubNotification NotificationTools.chosenId
    NotificationTools.takeId
  simp only [if_neg sub]
  split
  · exact ⟨rfl, .inl rfl, rfl⟩
  · exact ⟨rfl, .inl rfl, rfl⟩

theorem keepsIds_publishNotification (env : NotificationEnv) (main : record.notificationId ≠ -1)
    (appName prompt : String) :
    KeepsIds tools record (tools.publishNotification env record appName prompt) := by
  unfold NotificationTools.publishNotification NotificationTools.chosenId NotificationTools.takeId
  simp only [if_neg main]
  split
  · exact ⟨rfl, .inl rfl, rfl⟩
  · exact ⟨rfl, .inl rfl, rfl⟩

variable {s : BgContinuousTaskMgr} (env : Env)

theorem keepsIds_sendNotification (isSubNotification : Bool)
    (main : isSubNotification = false → record.notificationId ≠ -1)
    (sub : isSubNotification = true → record.subNotificationId ≠ -1)
    (subRecord : ContinuousTaskRecord) (appName : String) :
    KeepsIds s.tools record
      (s.sendNotification env subRecord record appName isSubNotification) := by
  unfold sendNotification
  dsimp only
  split
  · exact .refl _ _ _
  split
  · exact .refl _ _ _
  split
  · rename_i isSub
    exact keepsIds_publishSubNotification env.toNotificationEnv (sub isSub) subRecord _ _
  · rename_i isMain
    exact keepsIds_publishMainNotification env.toNotificationEnv (main (by simpa using isMain))
      subRecord _ _

theorem keepsIds_sendContinuousTaskNotification (main : record.notificationId ≠ -1) :
    KeepsIds s.tools record (s.sendContinuousTaskNotification env record) := by
  have same := sameNotices_note (s.checkNotificationText env record) record
  have notedMain : ((s.checkNotificationText env record).note record).notificationId =
      record.notificationId := congrArg Prod.snd same.mainPair
  have notedSub : ((s.checkNotificationText env record).note record).subNotificationId =
      record.subNotificationId := congrArg Prod.snd same.subPair
  unfold sendContinuousTaskNotification
  dsimp only
  split
  · exact .refl _ _ _
  split
  · exact .refl _ _ _
  split
  · exact ⟨rfl, .inl notedMain, notedSub⟩
  split
  · exact ⟨cancelNotification_index env.toNotificationEnv record.mainPair, .inr rfl, notedSub⟩
  split
  · exact ⟨rfl, .inl notedMain, notedSub⟩
  · have sent := @keepsIds_publishNotification s.tools _ env.toNotificationEnv
      (notedMain ▸ main) (s.cachedAppName record.uid) (s.checkNotificationText env record).text
    exact ⟨sent.index, notedMain ▸ sent.main, sent.sub.trans notedSub⟩

theorem KeepsIds.trans {first second : Sent} (early : KeepsIds tools record first)
    (late : KeepsIds first.tools first.record second) : KeepsIds tools record second := by
  refine ⟨late.index.trans early.index, ?_, late.sub.trans early.sub⟩
  obtain same | cleared := late.main
  · rw [same]
    exact early.main
  · exact .inr cleared

theorem keepsIds_sendLiveViewAndOtherNotification (main : record.notificationId ≠ -1)
    (sub : record.subNotificationId ≠ -1) :
    KeepsIds s.tools record (s.sendLiveViewAndOtherNotification env record) := by
  unfold sendLiveViewAndOtherNotification
  dsimp only
  split
  · exact .refl _ _ _
  split
  · exact .refl _ _ _
  have sentMain := keepsIds_sendNotification (s := s) env false (fun _ => main) (by simp)
    (liveViewMainRecord record) (s.cachedAppName record.uid)
  set mainSent := s.sendNotification env (liveViewMainRecord record) record
    (s.cachedAppName record.uid) false
  split
  · exact sentMain
  have sentSub := @keepsIds_sendNotification mainSent.record (s.setTools mainSent.tools) env true
    (by simp) (fun _ => by rw [sentMain.sub]; exact sub) (liveViewSubRecord record)
    (s.cachedAppName record.uid)
  set subSent := (s.setTools mainSent.tools).sendNotification env (liveViewSubRecord record)
    mainSent.record (s.cachedAppName record.uid) true
  have both : KeepsIds s.tools record subSent := sentMain.trans sentSub
  split
  · exact both
  split
  · exact ⟨(cancelNotification_index env.toNotificationEnv subSent.record.mainPair).trans
      both.index, both.main, both.sub⟩
  · exact both

theorem keepsIds_handleActiveNotification (main : record.notificationId ≠ -1)
    (sub : record.suspendState = false → isLiveViewAndOther record = true →
      record.subNotificationId ≠ -1) :
    KeepsIds s.tools record (s.handleActiveNotification env record) := by
  unfold handleActiveNotification
  split
  · exact .refl _ _ _
  rename_i active
  have active : record.suspendState = false := by simpa using active
  unfold sendByModes
  split
  · rename_i both
    exact keepsIds_sendLiveViewAndOtherNotification env main (sub active both)
  · exact keepsIds_sendContinuousTaskNotification env main

end Sending

section Scan

variable {env : Env} {allProcesses : List Int} {s : BgContinuousTaskMgr}

theorem tools_setCachedBundleInfo (record : ContinuousTaskRecord) :
    (s.setCachedBundleInfo env record).tools = s.tools := by
  unfold setCachedBundleInfo
  grind

theorem tasks_setCachedBundleInfo (record : ContinuousTaskRecord) :
    (s.setCachedBundleInfo env record).continuousTaskInfosMap = s.continuousTaskInfosMap := by
  unfold setCachedBundleInfo
  grind

theorem index_cancelNotification (record : ContinuousTaskRecord) :
    (s.cancelNotification env record).2.tools.notificationIdIndex =
      s.tools.notificationIdIndex := by
  have index := fun (tools : NotificationTools) pair =>
    @cancelNotification_index tools env.toNotificationEnv pair
  unfold cancelNotification
  grind [setTools]

theorem local_checkRestored :
    KeyedMap.Local continuousTaskInfosMap (checkRestored env allProcesses) := by
  intro key record s found key' other
  unfold checkRestored
  split
  · rw [cancelNotification_map]
    exact taskAt_eraseRecord_ne s key key' other
  split
  · rfl
  · refine (taskAt_setRecord_ne _ key key' _ other).trans ?_
    exact congrArg (fun map : TaskMap => map.lookup key') (tasks_setCachedBundleInfo record)

theorem alive_checkRestored {key : String} {record edited : ContinuousTaskRecord}
    (kept : (checkRestored env allProcesses key record s).taskAt key = some edited) :
    allProcesses.contains record.pid = true := by
  cases runs : allProcesses.contains record.pid with
  | true => rfl
  | false =>
      unfold checkRestored at kept
      rw [runs, if_pos (by simp), taskAt, cancelNotification_map] at kept
      have gone := taskAt_eraseRecord s key key
      rw [if_pos rfl] at gone
      exact absurd (gone.symm.trans kept) (by simp)

structure SameIds (record edited : ContinuousTaskRecord) : Prop where
  main : edited.notificationId = record.notificationId ∨ edited.notificationId = -1
  sub : edited.subNotificationId = record.subNotificationId

theorem ids_checkRestored {key : String} {record : ContinuousTaskRecord}
    (found : s.taskAt key = some record) (enough : lacksSub allProcesses record = false) :
    (checkRestored env allProcesses key record s).tools.notificationIdIndex =
        s.tools.notificationIdIndex ∧
      ∀ edited, (checkRestored env allProcesses key record s).taskAt key = some edited →
        SameIds record edited := by
  have alive : ∀ edited, (checkRestored env allProcesses key record s).taskAt key = some edited →
      allProcesses.contains record.pid = true := fun _ kept => alive_checkRestored kept
  unfold checkRestored at alive ⊢
  split
  · rename_i gone
    refine ⟨index_cancelNotification record, fun edited kept => ?_⟩
    rw [if_pos gone] at alive
    rw [alive edited kept] at gone
    exact absurd gone (by simp)
  rename_i runs
  have runs : allProcesses.contains record.pid = true := by simpa using runs
  split
  · refine ⟨rfl, fun edited kept => ?_⟩
    obtain rfl := Option.some.inj (found.symm.trans kept)
    exact ⟨.inl rfl, rfl⟩
  rename_i main
  dsimp only
  set cached := s.setCachedBundleInfo env record with isCached
  have tools : cached.tools = s.tools := tools_setCachedBundleInfo record
  have here : cached.taskAt key = some record := by
    rw [taskAt, isCached, tasks_setCachedBundleInfo]
    exact found
  have keeps : KeepsIds cached.tools record (cached.handleActiveNotification env record) := by
    refine keepsIds_handleActiveNotification env main (fun active both none => ?_)
    rw [lacksSub, runs, active, both, none] at enough
    simp [main] at enough
  refine ⟨keeps.index.trans (by rw [tools]), fun edited kept => ?_⟩
  have stored := taskAt_setRecord_self (cached.setTools (cached.handleActiveNotification env
    record).tools) key (cached.handleActiveNotification env record).record here
  obtain rfl := Option.some.inj (stored.symm.trans kept)
  exact ⟨keeps.main, keeps.sub⟩

/-- The tasks after the scan: the ids are those that were restored, and none was taken. -/
theorem ids_forEachTask_checkRestored (enough : ∀ key record, s.taskAt key = some record →
    lacksSub allProcesses record = false) :
    (s.forEachTask (checkRestored env allProcesses)).tools.notificationIdIndex =
        s.tools.notificationIdIndex ∧
      ∀ key edited, (s.forEachTask (checkRestored env allProcesses)).taskAt key = some edited →
        ∃ record, s.taskAt key = some record ∧ SameIds record edited := by
  have step : ∀ key record (current : BgContinuousTaskMgr), s.taskAt key = some record →
      current.taskAt key = some record →
      (current.tools.notificationIdIndex = s.tools.notificationIdIndex ∧
        ∀ key edited, current.taskAt key = some edited →
          ∃ record, s.taskAt key = some record ∧ SameIds record edited) →
      (checkRestored env allProcesses key record current).tools.notificationIdIndex =
          s.tools.notificationIdIndex ∧
        ∀ key' edited, (checkRestored env allProcesses key record current).taskAt key' =
          some edited → ∃ record, s.taskAt key' = some record ∧ SameIds record edited := by
    rintro key record current stored found ⟨index, sofar⟩
    obtain ⟨same, ids⟩ := @ids_checkRestored env _ _ _ _ found (enough key record stored)
    refine ⟨same.trans index, fun key' edited kept => ?_⟩
    by_cases here : key' = key
    · subst here
      exact ⟨record, stored, ids edited kept⟩
    · exact sofar key' edited
        ((local_checkRestored key record current found key' here).symm.trans kept)
  refine KeyedMap.forEach_untouched local_checkRestored s step ⟨rfl, ?_⟩
  intro key record found
  exact ⟨record, found, .inl rfl, rfl⟩

theorem alive_forEachTask_checkRestored {key : String} {record edited : ContinuousTaskRecord}
    (stored : s.taskAt key = some record)
    (kept : (s.forEachTask (checkRestored env allProcesses)).taskAt key = some edited) :
    allProcesses.contains record.pid = true := by
  have settle : ∀ current : BgContinuousTaskMgr,
      current.continuousTaskInfosMap.lookup key = some record → True →
        ∀ edited, (checkRestored env allProcesses key record current).taskAt key = some edited →
          allProcesses.contains record.pid = true :=
    fun current _ _ edited kept => alive_checkRestored kept
  have keep : ∀ key' record' (current : BgContinuousTaskMgr), key' ≠ key →
      current.continuousTaskInfosMap.lookup key' = some record' → True →
      (∀ edited, current.taskAt key = some edited → allProcesses.contains record.pid = true) →
        ∀ edited, (checkRestored env allProcesses key' record' current).taskAt key =
          some edited → allProcesses.contains record.pid = true := by
    intro key' record' current other found _ settled edited kept
    exact settled edited
      ((local_checkRestored key' record' current found key other.symm).symm.trans kept)
  exact KeyedMap.forEach_settles
    (fun current : BgContinuousTaskMgr => ∀ edited, current.taskAt key = some edited →
      allProcesses.contains record.pid = true)
    local_checkRestored (fun _ _ _ _ _ => trivial) key record settle keep s trivial stored edited
    kept

end Scan

/-! ## The counter after a start -/

/-- A task in the file has a main id at least as large, or none there has one and the counter
is as large. -/
def Covers (file : TaskMap) (index id : Int) : Prop :=
  (∃ record ∈ KeyedMap.vals file, id ≤ record.notificationId) ∨
    ((∀ record ∈ KeyedMap.vals file, record.notificationId ≤ -1) ∧ id ≤ index)

instance (file : TaskMap) (index id : Int) : Decidable (Covers file index id) :=
  inferInstanceAs (Decidable (_ ∨ _))

theorem foldl_max_of_small {field : ContinuousTaskRecord → Int}
    {records : List ContinuousTaskRecord} {start : Int}
    (small : ∀ record ∈ records, field record ≤ start) :
    records.foldl (fun largest record => max largest (field record)) start = start := by
  induction records with
  | nil => rfl
  | cons record rest ih =>
      rw [List.foldl_cons, max_eq_left (small record (by simp))]
      exact ih (fun later member => small later (by simp [member]))

def seed (tasks : TaskMap) (index : Int) : Int :=
  if maxOf (fun record => record.notificationId) tasks ≠ -1 then
    maxOf (fun record => record.notificationId) tasks
  else index

theorem neg_one_le_seed (tasks : TaskMap) {index : Int} (counter : -1 ≤ index) :
    -1 ≤ seed tasks index := by
  unfold seed
  split
  · exact neg_one_le_maxOf _ tasks
  · exact counter

theorem Covers.le_seed {tasks : TaskMap} {index id : Int} (covers : Covers tasks index id)
    (counter : -1 ≤ index) : id ≤ seed tasks index := by
  unfold seed
  obtain ⟨record, member, larger⟩ | ⟨small, bound⟩ := covers
  · obtain ⟨key, found⟩ := KeyedMap.mem_vals.mp member
    have largest : record.notificationId ≤ maxOf (fun record => record.notificationId) tasks :=
      le_maxOf found
    split
    · exact larger.trans largest
    · omega
  · have none : maxOf (fun record => record.notificationId) tasks = -1 := foldl_max_of_small small
    rw [if_neg (not_not.mpr none)]
    exact bound

section Start

variable {env : Env} {s : BgContinuousTaskMgr}

theorem restored_tasks (empty : ∀ key, s.taskAt key = none) (readable : env.fileReadable = true) :
    (s.restoreTaskRecord env).continuousTaskInfosMap = s.file := by
  have none : s.continuousTaskInfosMap = ∅ := by
    refine AList.ext (List.eq_nil_iff_forall_not_mem.mpr ?_)
    intro entry member
    have found : s.taskAt entry.1 = some entry.2 := KeyedMap.mem_entries_iff.mp member
    exact absurd ((empty entry.1).symm.trans found) (by simp)
  unfold restoreTaskRecord
  rw [if_pos readable]
  show s.continuousTaskInfosMap ∪ s.file = s.file
  rw [none, AList.empty_union]

/-- Without a list of the processes the tasks of the file are taken in as they are. -/
theorem start_unasked (unasked : env.allRunningProcesses = none) :
    (s.initRequiredResourceInfo env).continuousTaskInfosMap =
        (s.restoreTaskRecord env).continuousTaskInfosMap ∧
      (s.initRequiredResourceInfo env).tools = s.tools := by
  unfold BgContinuousTaskMgr.initRequiredResourceInfo handlePersistenceData
  simp only [unasked]
  unfold restoreTaskRecord
  split
  · exact ⟨rfl, rfl⟩
  · exact ⟨rfl, rfl⟩

theorem start_asked {allProcesses : List Int}
    (asked : env.allRunningProcesses = some allProcesses) :
    ∃ restored : BgContinuousTaskMgr,
      restored.continuousTaskInfosMap = (s.restoreTaskRecord env).continuousTaskInfosMap ∧
      restored.tools = s.tools ∧
      (s.initRequiredResourceInfo env).continuousTaskInfosMap =
        (restored.forEachTask (checkRestored env allProcesses)).continuousTaskInfosMap ∧
      (s.initRequiredResourceInfo env).tools.notificationIdIndex =
        seed restored.continuousTaskInfosMap
          (restored.forEachTask (checkRestored env allProcesses)).tools.notificationIdIndex := by
  set prompted : BgContinuousTaskMgr := { s with
    texts := getNotificationPrompt env.resourceString
      { s.texts with modeForNotificationText := initNotificationText } } with isPrompted
  have applied (s : BgContinuousTaskMgr) :
      (s.restoreApplyRecord env).continuousTaskInfosMap = s.continuousTaskInfosMap ∧
        (s.restoreApplyRecord env).tools = s.tools := by
    unfold restoreApplyRecord
    split
    · exact ⟨rfl, rfl⟩
    · exact ⟨rfl, rfl⟩
  have authorised (s : BgContinuousTaskMgr) :
      (s.restoreAuthRecord env).continuousTaskInfosMap = s.continuousTaskInfosMap ∧
        (s.restoreAuthRecord env).tools = s.tools := by
    unfold restoreAuthRecord
    split
    · exact ⟨rfl, rfl⟩
    · exact ⟨rfl, rfl⟩
  have written (s : BgContinuousTaskMgr) :
      (s.refreshAuthRecord env).continuousTaskInfosMap = s.continuousTaskInfosMap ∧
        (s.refreshAuthRecord env).tools = s.tools := by
    unfold BgContinuousTaskMgr.refreshAuthRecord
    split
    · exact ⟨rfl, rfl⟩
    · exact ⟨rfl, rfl⟩
  refine ⟨prompted.restoreTaskRecord env, ?_, ?_, ?_, ?_⟩
  · unfold restoreTaskRecord
    split
    · rfl
    · rfl
  · unfold restoreTaskRecord
    split
    · rfl
    · rfl
  · unfold BgContinuousTaskMgr.initRequiredResourceInfo handlePersistenceData
    simp only [asked]
    rw [(written _).1, (authorised _).1, (applied _).1, saveTasks_map]
    rfl
  · unfold BgContinuousTaskMgr.initRequiredResourceInfo handlePersistenceData
    simp only [asked]
    rw [(written _).2, (authorised _).2, (applied _).2, tools_saveTasks, seed]
    unfold checkPersistenceData
    dsimp only
    split
    · rfl
    · rfl

def TasksSeed (env : Env) (s : BgContinuousTaskMgr) : Prop :=
  match env.allRunningProcesses with
  | none => ∀ record ∈ KeyedMap.vals s.file,
      record.notificationId ≤ s.tools.notificationIdIndex ∧
        record.subNotificationId ≤ s.tools.notificationIdIndex
  | some allProcesses => ∀ record ∈ KeyedMap.vals s.file,
      lacksSub allProcesses record = false ∧ (allProcesses.contains record.pid = true →
        Covers s.file s.tools.notificationIdIndex record.subNotificationId)

/-- The ids of the restored tasks are at most the counter after the start. -/
theorem bounded_start (counter : -1 ≤ s.tools.notificationIdIndex)
    (empty : ∀ key, s.taskAt key = none)
    (seeds : env.fileReadable = true → TasksSeed env s) :
    Bounded (-1) (s.initRequiredResourceInfo env) := by
  have fromFile : ∀ key record, (s.restoreTaskRecord env).taskAt key = some record →
      env.fileReadable = true ∧ record ∈ KeyedMap.vals s.file := by
    intro key record found
    obtain ⟨readable, stored⟩ := taskAt_restoreTaskRecord empty found
    exact ⟨readable, KeyedMap.mem_vals.mpr ⟨key, stored⟩⟩
  cases processes : env.allRunningProcesses with
  | none =>
      obtain ⟨tasks, tools⟩ := start_unasked (s := s) processes
      refine ⟨tools ▸ counter, tools ▸ counter, fun key record found => ?_⟩
      rw [taskAt, tasks] at found
      obtain ⟨readable, member⟩ := fromFile key record found
      have small := seeds readable
      rw [TasksSeed, processes] at small
      rw [tools]
      exact ⟨(small record member).1, (small record member).2⟩
  | some allProcesses =>
      obtain ⟨restored, restoredTasks, restoredTools, tasks, index⟩ :=
        start_asked (s := s) processes
      have small : ∀ key record, restored.taskAt key = some record →
          lacksSub allProcesses record = false ∧ (allProcesses.contains record.pid = true →
            Covers restored.continuousTaskInfosMap s.tools.notificationIdIndex
              record.subNotificationId) := by
        intro key record found
        rw [taskAt, restoredTasks] at found
        obtain ⟨readable, member⟩ := fromFile key record found
        have seeds := seeds readable
        rw [TasksSeed, processes] at seeds
        rw [restoredTasks, restored_tasks empty readable]
        exact seeds record member
      obtain ⟨same, ids⟩ := @ids_forEachTask_checkRestored env _ _
        (fun key record found => (small key record found).1)
      rw [same, restoredTools] at index
      have floor := neg_one_le_seed restored.continuousTaskInfosMap counter
      refine ⟨index ▸ floor, index ▸ floor, fun key edited found => ?_⟩
      rw [taskAt, tasks] at found
      obtain ⟨record, stored, kept⟩ := ids key edited found
      have alive := alive_forEachTask_checkRestored stored found
      rw [index]
      constructor
      · obtain main | cleared := kept.main
        · rw [main]
          have own : Covers restored.continuousTaskInfosMap s.tools.notificationIdIndex
              record.notificationId :=
            .inl ⟨record, KeyedMap.mem_vals.mpr ⟨key, stored⟩, le_refl _⟩
          exact own.le_seed counter
        · rw [cleared]
          exact floor
      · rw [kept.sub]
        exact ((small key record stored).2 alive).le_seed counter

/-- An id that the file covers is at most the counter after the start. -/
theorem Covers.le_index {allProcesses : List Int} {id : Int}
    (covers : Covers s.file s.tools.notificationIdIndex id)
    (counter : -1 ≤ s.tools.notificationIdIndex) (empty : ∀ key, s.taskAt key = none)
    (readable : env.fileReadable = true) (asked : env.allRunningProcesses = some allProcesses)
    (seeds : TasksSeed env s) :
    id ≤ (s.initRequiredResourceInfo env).tools.notificationIdIndex := by
  obtain ⟨restored, restoredTasks, restoredTools, tasks, index⟩ := start_asked (s := s) asked
  rw [restored_tasks empty readable] at restoredTasks
  have enough : ∀ key record, restored.taskAt key = some record →
      lacksSub allProcesses record = false := by
    intro key record found
    rw [taskAt, restoredTasks] at found
    rw [TasksSeed, asked] at seeds
    exact (seeds record (KeyedMap.mem_vals.mpr ⟨key, found⟩)).1
  rw [index, (ids_forEachTask_checkRestored enough).1, restoredTasks, restoredTools]
  exact covers.le_seed counter

end Start

end BgTaskMgr.Continuous
