import BgTaskMgr.Continuous.Decomposition

/-!
# Task ids over restarts

The counter of task ids is seeded from the restored records only when the running
processes could be queried.  As long as every restoration that brings back a record is
followed by that query, the tasks have pairwise distinct ids in every state of every run
of the service.
-/

set_option autoImplicit false

namespace BgTaskMgr.Continuous

open BgContinuousTaskMgr

/-! ## Distinct ids -/

def DistinctIds (tasks : TaskMap) : Prop :=
  ((KeyedMap.vals tasks).map (fun record => record.continuousTaskId)).Nodup

instance (tasks : TaskMap) : Decidable (DistinctIds tasks) :=
  inferInstanceAs (Decidable (List.Nodup _))

def IdDetermines (lookup : String → Option ContinuousTaskRecord) : Prop :=
  ∀ key record key' record', lookup key = some record → lookup key' = some record' →
    record.continuousTaskId = record'.continuousTaskId → key = key'

theorem distinctIds_of_idDetermines {tasks : TaskMap}
    (determines : IdDetermines (fun key => tasks.lookup key)) : DistinctIds tasks := by
  unfold DistinctIds KeyedMap.vals
  rw [List.map_map]
  refine List.Nodup.map_on ?_ (List.NodupKeys.nodup tasks.nodupKeys)
  rintro ⟨key, record⟩ member ⟨key', record'⟩ member' same
  have found := KeyedMap.mem_entries_iff.mp member
  have found' := KeyedMap.mem_entries_iff.mp member'
  obtain rfl := determines key record key' record' found found' same
  obtain rfl := Option.some.inj (found.symm.trans found')
  rfl

theorem IdDetermines.of_origin {before after : String → Option ContinuousTaskRecord}
    (determines : IdDetermines before)
    (origin : ∀ key record, after key = some record →
      ∃ old, before key = some old ∧ ContinuousTaskRecord.SameTask old record) :
    IdDetermines after := by
  intro key record key' record' found found' same
  obtain ⟨old, stored, kept⟩ := origin key record found
  obtain ⟨old', stored', kept'⟩ := origin key' record' found'
  refine determines key old key' old' stored stored' ?_
  rw [← kept.continuousTaskId, ← kept'.continuousTaskId, same]

/-! ## The invariant -/

/-- Ids are distinct in the map and in the file, and those in the map were handed out by
the counter. -/
structure IdsTracked (s : BgContinuousTaskMgr) : Prop where
  distinct : IdDetermines s.taskAt
  bounded : ∀ key record, s.taskAt key = some record →
    0 < record.continuousTaskId ∧ record.continuousTaskId ≤ s.continuousTaskIdIndex
  counter : 0 ≤ s.continuousTaskIdIndex
  fileDistinct : IdDetermines (fun key => s.file.lookup key)
  filePositive : ∀ key record, s.file.lookup key = some record → 0 < record.continuousTaskId
  unready : s.isSysReady = false → ∀ key, s.taskAt key = none

theorem idsTracked_installed (hash : String → Nat) : IdsTracked (installed hash) := by
  have empty : ∀ key, (installed hash).taskAt key = none := AList.lookup_empty
  have emptyFile : ∀ key, (installed hash).file.lookup key = none := AList.lookup_empty
  exact {
    distinct := by
      intro key record key' record' found
      exact absurd ((empty key).symm.trans found) (by simp)
    bounded := by
      intro key record found
      exact absurd ((empty key).symm.trans found) (by simp)
    counter := le_refl 0
    fileDistinct := by
      intro key record key' record' found
      exact absurd ((emptyFile key).symm.trans found) (by simp)
    filePositive := by
      intro key record found
      exact absurd ((emptyFile key).symm.trans found) (by simp)
    unready := fun _ => empty }

/-- The invariant goes on to a state with the same tasks, or fewer, and no smaller
counter. -/
theorem IdsTracked.of_traces {before after : BgContinuousTaskMgr} (tracked : IdsTracked before)
    (traces : Traces before after)
    (counter : before.continuousTaskIdIndex ≤ after.continuousTaskIdIndex)
    (ready : after.isSysReady = before.isSysReady) : IdsTracked after := by
  have positive : ∀ key record old, before.taskAt key = some old →
      ContinuousTaskRecord.SameTask old record → 0 < record.continuousTaskId ∧
        record.continuousTaskId ≤ before.continuousTaskIdIndex := by
    intro key record old stored same
    rw [same.continuousTaskId]
    exact tracked.bounded key old stored
  refine ⟨tracked.distinct.of_origin traces.origin, ?_, tracked.counter.trans counter, ?_, ?_, ?_⟩
  · intro key record found
    obtain ⟨old, stored, same⟩ := traces.origin key record found
    have bounds := positive key record old stored same
    exact ⟨bounds.1, bounds.2.trans counter⟩
  · rcases traces.file with kept | written
    · rw [kept]
      exact tracked.fileDistinct
    · exact tracked.distinct.of_origin written
  · rcases traces.file with kept | written
    · rw [kept]
      exact tracked.filePositive
    · intro key record found
      obtain ⟨old, stored, same⟩ := written key record found
      exact (positive key record old stored same).1
  · intro notReady key
    refine Option.eq_none_iff_forall_ne_some.mpr ?_
    intro record found
    obtain ⟨old, stored, -⟩ := traces.origin key record found
    exact absurd ((tracked.unready (ready ▸ notReady) key).symm.trans stored) (by simp)

/-! ## Starting a task -/

theorem IdsTracked.addTask {before middle : BgContinuousTaskMgr} (tracked : IdsTracked before)
    (traces : Traces before middle) (key : String) (stored : ContinuousTaskRecord)
    (numbered : stored.continuousTaskId = before.continuousTaskIdIndex + 1)
    (counter : middle.continuousTaskIdIndex = before.continuousTaskIdIndex + 1)
    (same : middle.isSysReady = before.isSysReady) (ready : before.isSysReady = true) :
    IdsTracked (middle.addTask key stored) := by
  have old := tracked.of_traces traces (by omega) same
  have below : ∀ other record, middle.taskAt other = some record →
      record.continuousTaskId ≤ before.continuousTaskIdIndex := by
    intro other record found
    obtain ⟨source, stored, kept⟩ := traces.origin other record found
    rw [kept.continuousTaskId]
    exact (tracked.bounded other source stored).2
  refine ⟨?_, ?_, old.counter, old.fileDistinct, old.filePositive, ?_⟩
  · intro first record second record' found found' equal
    rw [taskAt_addTask] at found found'
    split at found
    · rename_i isNew
      split at found'
      · rename_i isNew'
        rw [isNew, isNew']
      · obtain rfl := Option.some.inj found
        have := below second record' found'
        omega
    · split at found'
      · obtain rfl := Option.some.inj found'
        have := below first record found
        omega
      · exact old.distinct first record second record' found found' equal
  · intro other record found
    show 0 < record.continuousTaskId ∧ record.continuousTaskId ≤ middle.continuousTaskIdIndex
    rw [taskAt_addTask] at found
    split at found
    · obtain rfl := Option.some.inj found
      have := tracked.counter
      omega
    · exact old.bounded other record found
  · intro notReady
    have isReady : (middle.addTask key stored).isSysReady = true := same.trans ready
    exact absurd (notReady.symm.trans isReady) (by simp)

theorem IdsTracked.started {s after : BgContinuousTaskMgr} {record : ContinuousTaskRecord}
    {touch : Int → Prop} {unheard : ContinuousTaskRecord → Prop} (tracked : IdsTracked s)
    (ready : s.isSysReady = true)
    (start : Started touch unheard { record with continuousTaskId := s.continuousTaskIdIndex + 1 }
      s.nextTaskId after) : IdsTracked after := by
  have numbered : Traces s s.nextTaskId := Traces.of_eq rfl rfl
  cases start with
  | refused edits =>
      have same : after.isSysReady = s.isSysReady := (Edits.isSysReady edits).trans rfl
      refine tracked.of_traces (numbered.trans (Edits.traces edits)) ?_ same
      rw [Edits.continuousTaskIdIndex edits]
      show s.continuousTaskIdIndex ≤ s.continuousTaskIdIndex + 1
      omega
  | @added middle _ stored edits keeps free saved =>
      have same : middle.isSysReady = s.isSysReady := (Edits.isSysReady edits).trans rfl
      exact IdsTracked.of_traces (tracked.addTask (numbered.trans (Edits.traces edits)) _ stored
        keeps.continuousTaskId (Edits.continuousTaskIdIndex edits) same ready) saved.traces
        (le_of_eq saved.continuousTaskIdIndex.symm) saved.isSysReady

theorem IdsTracked.taskStep {s : BgContinuousTaskMgr} (tracked : IdsTracked s)
    (label : Env × TaskOp) : IdsTracked (s.taskStep label) := by
  have effect : Effect (fun _ => True) s label.2 (s.taskStep label) :=
    taskStep_effect label (fun _ _ _ _ _ _ => trivial)
  generalize s.taskStep label = after at effect ⊢
  obtain ⟨env, op⟩ := label
  cases effect with
  | edits edits =>
      exact tracked.of_traces (Edits.traces edits)
        (le_of_eq (Edits.continuousTaskIdIndex edits).symm) (Edits.isSysReady edits)
  | started record fresh ready start => exact tracked.started ready start
  | cleared env =>
      obtain ⟨counter, ready, -⟩ := dumpCancelAll_keeps (s := s) env
      exact tracked.of_traces (traces_dumpCancelAll env) (le_of_eq counter.symm) ready
  | addSubscriber info =>
      unfold BgContinuousTaskMgr.addSubscriber
      split
      · exact tracked.of_traces (Traces.of_eq rfl rfl) (le_refl _) rfl
      · exact tracked.of_traces (Traces.of_eq rfl rfl) (le_refl _) rfl
  | removeSubscriber remote flag =>
      exact tracked.of_traces (Traces.of_eq rfl rfl) (le_refl _) rfl
  | subscriberDied remote =>
      unfold onRemoteSubscriberDied
      split
      · exact tracked.of_traces (Traces.of_eq rfl rfl) (le_refl _) rfl
      · exact tracked

/-! ## Restoration -/

theorem le_foldl_max (field : ContinuousTaskRecord → Int) (records : List ContinuousTaskRecord)
    (start : Int) :
    start ≤ records.foldl (fun largest record => max largest (field record)) start ∧
      ∀ record ∈ records,
        field record ≤ records.foldl (fun largest record => max largest (field record)) start := by
  induction records generalizing start with
  | nil => exact ⟨le_refl start, by simp⟩
  | cons head rest ih =>
      obtain ⟨fromStart, fromRest⟩ := ih (max start (field head))
      refine ⟨(le_max_left _ _).trans fromStart, ?_⟩
      intro record member
      rcases List.mem_cons.mp member with rfl | later
      · exact (le_max_right _ _).trans fromStart
      · exact fromRest record later

theorem le_maxOf {field : ContinuousTaskRecord → Int} {tasks : TaskMap} {key : String}
    {record : ContinuousTaskRecord} (found : tasks.lookup key = some record) :
    field record ≤ maxOf field tasks :=
  (le_foldl_max field (KeyedMap.vals tasks) (-1)).2 record (KeyedMap.mem_vals.mpr ⟨key, found⟩)

theorem neg_one_le_maxOf (field : ContinuousTaskRecord → Int) (tasks : TaskMap) :
    -1 ≤ maxOf field tasks :=
  (le_foldl_max field (KeyedMap.vals tasks) (-1)).1

/-- After the query the counter is past every restored id. -/
theorem IdsTracked.checkPersistenceData {s : BgContinuousTaskMgr} (env : Env)
    (allProcesses : List Int) (distinct : IdDetermines s.taskAt)
    (positive : ∀ key record, s.taskAt key = some record → 0 < record.continuousTaskId)
    (counter : 0 ≤ s.continuousTaskIdIndex)
    (fileDistinct : IdDetermines (fun key => s.file.lookup key))
    (filePositive : ∀ key record, s.file.lookup key = some record → 0 < record.continuousTaskId) :
    IdsTracked { s.checkPersistenceData env allProcesses with isSysReady := true } := by
  obtain ⟨traces, kept⟩ := traces_forEachTask_checkRestored env allProcesses s
  have numbered : ∀ key record old, s.taskAt key = some old →
      ContinuousTaskRecord.SameTask old record → 0 < record.continuousTaskId := by
    intro key record old stored same
    rw [same.continuousTaskId]
    exact positive key old stored
  refine ⟨distinct.of_origin traces.origin, ?_, ?_, ?_, ?_, ?_⟩
  · intro key record found
    obtain ⟨old, stored, same⟩ := traces.origin key record found
    have above := numbered key record old stored same
    have below : record.continuousTaskId ≤
        maxOf (fun record => record.continuousTaskId) s.continuousTaskInfosMap := by
      rw [same.continuousTaskId]
      exact le_maxOf stored
    refine ⟨above, below.trans (le_of_eq ?_)⟩
    exact (if_pos (by omega)).symm
  · show 0 ≤ if maxOf (fun record => record.continuousTaskId) s.continuousTaskInfosMap ≠ -1 then
        maxOf (fun record => record.continuousTaskId) s.continuousTaskInfosMap
      else (s.forEachTask (checkRestored env allProcesses)).continuousTaskIdIndex
    have least := neg_one_le_maxOf (fun record => record.continuousTaskId)
      s.continuousTaskInfosMap
    rw [kept]
    split
    · omega
    · exact counter
  · show IdDetermines (fun key => (s.forEachTask (checkRestored env allProcesses)).file.lookup key)
    rcases traces.file with same | written
    · rw [same]
      exact fileDistinct
    · exact distinct.of_origin written
  · show ∀ key record, (s.forEachTask (checkRestored env allProcesses)).file.lookup key =
      some record → 0 < record.continuousTaskId
    rcases traces.file with same | written
    · rw [same]
      exact filePositive
    · intro key record found
      obtain ⟨old, stored, kept⟩ := written key record found
      exact numbered key record old stored kept
  · intro notReady
    exact absurd notReady (by simp)

/-- A restoration that brings back a record is followed by a query of the running
processes that succeeds. -/
def CounterSeeded (s : BgContinuousTaskMgr) (label : Env × ServiceOp) : Prop :=
  match label with
  | (env, .initRequiredResourceInfo) =>
      s.isSysReady = false → env.fileReadable = true → s.file.entries ≠ [] →
        env.allRunningProcesses.isSome = true
  | (_, .task _) => True
  | (_, .restart) => True

instance CounterSeeded.decidable (s : BgContinuousTaskMgr) :
    (label : Env × ServiceOp) → Decidable (CounterSeeded s label)
  | (_, .initRequiredResourceInfo) => inferInstanceAs (Decidable (_ → _))
  | (_, .task _) => isTrue trivial
  | (_, .restart) => isTrue trivial

theorem taskAt_restoreTaskRecord {s : BgContinuousTaskMgr} {env : Env} {key : String}
    {record : ContinuousTaskRecord} (empty : ∀ key, s.taskAt key = none)
    (found : (s.restoreTaskRecord env).taskAt key = some record) :
    env.fileReadable = true ∧ s.file.lookup key = some record := by
  unfold restoreTaskRecord at found
  split at found
  · rename_i readable
    have absent : key ∉ s.continuousTaskInfosMap := AList.lookup_eq_none.mp (empty key)
    exact ⟨readable, (AList.lookup_union_right absent).symm.trans found⟩
  · exact absurd ((empty key).symm.trans found) (by simp)

theorem IdsTracked.initRequiredResourceInfo {s : BgContinuousTaskMgr} (tracked : IdsTracked s)
    (env : Env) (notReady : s.isSysReady = false)
    (seeded : CounterSeeded s (env, .initRequiredResourceInfo)) :
    IdsTracked (s.initRequiredResourceInfo env) := by
  let prompted := { s with
    texts := getNotificationPrompt env.resourceString
      { s.texts with modeForNotificationText := initNotificationText } }
  have origin : ∀ key record, (prompted.restoreTaskRecord env).taskAt key = some record →
      env.fileReadable = true ∧ s.file.lookup key = some record := by
    intro key record found
    have empty : ∀ key, prompted.taskAt key = none := tracked.unready notReady
    exact taskAt_restoreTaskRecord (s := prompted) empty found
  have distinct : IdDetermines (prompted.restoreTaskRecord env).taskAt := by
    intro key record key' record' found found' same
    exact tracked.fileDistinct key record key' record' (origin key record found).2
      (origin key' record' found').2 same
  have positive : ∀ key record, (prompted.restoreTaskRecord env).taskAt key = some record →
      0 < record.continuousTaskId := by
    intro key record found
    exact tracked.filePositive key record (origin key record found).2
  have file : (prompted.restoreTaskRecord env).file = s.file := by
    unfold restoreTaskRecord
    split
    · rfl
    · rfl
  have counter : (prompted.restoreTaskRecord env).continuousTaskIdIndex =
      s.continuousTaskIdIndex := by
    unfold restoreTaskRecord
    split
    · rfl
    · rfl
  show IdsTracked { prompted.handlePersistenceData env with isSysReady := true }
  unfold handlePersistenceData
  cases query : env.allRunningProcesses with
  | none =>
      -- nothing was restored, so there is nothing the counter should be past
      have nothing : ∀ key record, (prompted.restoreTaskRecord env).taskAt key ≠ some record := by
        intro key record found
        obtain ⟨readable, stored⟩ := origin key record found
        have listed : s.file.entries ≠ [] :=
          List.ne_nil_of_mem (KeyedMap.mem_entries_iff.mpr stored)
        have answered := seeded notReady readable listed
        rw [query] at answered
        exact absurd answered (by simp)
      refine ⟨distinct, ?_, ?_, ?_, ?_, ?_⟩
      · intro key record found
        exact absurd found (nothing key record)
      · exact counter.symm ▸ tracked.counter
      · exact file.symm ▸ tracked.fileDistinct
      · exact file.symm ▸ tracked.filePositive
      · intro still
        exact absurd still (by simp)
  | some allProcesses =>
      have checked := IdsTracked.checkPersistenceData env allProcesses distinct positive
        (counter.symm ▸ tracked.counter) (file.symm ▸ tracked.fileDistinct)
        (file.symm ▸ tracked.filePositive)
      obtain ⟨traces, kept⟩ := traces_afterCheck
        ((prompted.restoreTaskRecord env).checkPersistenceData env allProcesses) env
      exact checked.of_traces ⟨traces.origin, traces.file⟩ (le_of_eq kept.symm) rfl

theorem IdsTracked.restart {s : BgContinuousTaskMgr} (tracked : IdsTracked s) :
    IdsTracked s.restart := by
  have empty : ∀ key, s.restart.taskAt key = none := AList.lookup_empty
  refine ⟨?_, ?_, le_refl 0, tracked.fileDistinct, tracked.filePositive, fun _ => empty⟩
  · intro key record key' record' found
    exact absurd ((empty key).symm.trans found) (by simp)
  · intro key record found
    exact absurd ((empty key).symm.trans found) (by simp)

theorem IdsTracked.serviceStep {s : BgContinuousTaskMgr} (tracked : IdsTracked s)
    (label : Env × ServiceOp) (seeded : CounterSeeded s label) :
    IdsTracked (s.serviceStep label) := by
  obtain ⟨env, op⟩ := label
  cases op with
  | task op => exact tracked.taskStep (env, op)
  | initRequiredResourceInfo =>
      show IdsTracked (if s.isSysReady then s else s.initRequiredResourceInfo env)
      split
      · exact tracked
      · rename_i notReady
        exact tracked.initRequiredResourceInfo env (by simpa using notReady) seeded
  | restart => exact tracked.restart

/-! ## Runs -/

/-- In every run of the service in which a restoration that brings back a record is
followed by a successful query of the running processes, ids identify tasks. -/
theorem run_distinctIds (hash : String → Nat) (labels : List (Env × ServiceOp))
    (seeded : StepSystem.Admissible serviceStep CounterSeeded (installed hash) labels) :
    DistinctIds
      (StepSystem.run serviceStep (installed hash) labels).continuousTaskInfosMap := by
  have tracked : IdsTracked (StepSystem.run serviceStep (installed hash) labels) :=
    StepSystem.run_invariant (fun _ label tracked seeded => tracked.serviceStep label seeded)
      labels (installed hash) (idsTracked_installed hash) seeded
  exact distinctIds_of_idDetermines tracked.distinct

def restartedRun (restoreEnv : Env) : List (Env × ServiceOp) :=
  [(deviceEnv, .initRequiredResourceInfo),
    ((deviceStart 100 (requestOf [BackgroundMode.location] [2])).1,
      .task (deviceStart 100 (requestOf [BackgroundMode.location] [2])).2),
    (deviceEnv, .restart),
    (restoreEnv, .initRequiredResourceInfo),
    ((deviceStart 200 (requestOf [BackgroundMode.location] [2])).1,
      .task (deviceStart 200 (requestOf [BackgroundMode.location] [2])).2)]

theorem run_distinctIds_restarted :
    StepSystem.Admissible serviceStep CounterSeeded (installed (fun _ => 0))
        (restartedRun deviceEnv) ∧
      DistinctIds (StepSystem.run serviceStep (installed (fun _ => 0))
        (restartedRun deviceEnv)).continuousTaskInfosMap :=
  ⟨by decide, run_distinctIds (fun _ => 0) (restartedRun deviceEnv) (by decide)⟩

/-- When the query fails, the task restored from the file and the first task after the
restart both have the id 1. -/
theorem restarted_ids_collide :
    ¬ DistinctIds (StepSystem.run serviceStep (installed (fun _ => 0))
      (restartedRun silentEnv)).continuousTaskInfosMap := by
  decide

end BgTaskMgr.Continuous
