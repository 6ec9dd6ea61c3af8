import BgTaskMgr.Continuous.Decomposition
import BgTaskMgr.Lib.Separated
import Mathlib

/-!
# Isolation of apps

A client call reaches tasks by their key, which begins with the uid, by their ability, or
by their id.  A start, an update by mode list and a progress update look at the owner.
-/

set_option autoImplicit false

namespace BgTaskMgr.Continuous

open BgContinuousTaskMgr

/-! ## Keys name their owner -/

def OwnKey (uid : Int) (key : String) : Prop := ∃ rest, key = toString uid ++ "_" ++ rest

theorem underscore_notMem_toString_nat (number : Nat) : '_' ∉ (toString number).toList := by
  show '_' ∉ (Nat.repr number).toList
  rw [Nat.toList_repr]
  exact Nat.underscore_not_in_toDigits

theorem underscore_notMem_toString (uid : Int) : '_' ∉ (toString uid).toList := by
  cases uid with
  | ofNat n => exact underscore_notMem_toString_nat n
  | negSucc n =>
      show '_' ∉ ("-" ++ toString (n + 1)).toList
      rw [String.toList_append]
      simp

theorem split_numbered {number number' : Int} {rest rest' : String}
    (same : toString number ++ ("_" ++ rest) = toString number' ++ ("_" ++ rest')) :
    number = number' ∧ rest = rest' := by
  have lists := congrArg String.toList same
  simp only [String.toList_append] at lists
  obtain ⟨numbers, rests⟩ := (List.append_separator_inj_of_front
    (underscore_notMem_toString number) (underscore_notMem_toString number')).mp lists
  exact ⟨Int.repr_injective (String.toList_injective numbers), String.toList_injective rests⟩

theorem OwnKey.unique {uid uid' : Int} {key : String} (own : OwnKey uid key)
    (own' : OwnKey uid' key) : uid = uid' := by
  obtain ⟨rest, rfl⟩ := own
  obtain ⟨rest', same⟩ := own'
  rw [String.append_assoc, String.append_assoc] at same
  exact (split_numbered same).1

theorem ownKey_abilityKey (uid : Int) (abilityName : String) (abilityId : Int) :
    OwnKey uid (abilityKey uid abilityName abilityId) :=
  ⟨_, rfl⟩

theorem ownKey_taskInfoMapKey (record : ContinuousTaskRecord) :
    OwnKey record.uid (taskInfoMapKey record) := by
  unfold taskInfoMapKey
  dsimp only
  split
  · refine ⟨record.abilityName ++ "_" ++ toString record.abilityId ++ "_" ++
      toString record.continuousTaskId, ?_⟩
    simp only [abilityKey, String.append_assoc]
  · exact ownKey_abilityKey record.uid record.abilityName record.abilityId

/-- Every task is stored, in the map and in the file, under a key of its owner. -/
structure KeysOwned (s : BgContinuousTaskMgr) : Prop where
  tasks : ∀ key record, s.taskAt key = some record → OwnKey record.uid key
  file : ∀ key record, s.file.lookup key = some record → OwnKey record.uid key

theorem KeysOwned.of_traces {before after : BgContinuousTaskMgr} (owned : KeysOwned before)
    (traces : Traces before after) : KeysOwned after := by
  have back : ∀ key record old, before.taskAt key = some old →
      ContinuousTaskRecord.SameTask old record → OwnKey record.uid key := by
    intro key record old stored same
    rw [same.uid]
    exact owned.tasks key old stored
  constructor
  · intro key record found
    obtain ⟨old, stored, same⟩ := traces.origin key record found
    exact back key record old stored same
  · rcases traces.file with kept | written
    · rw [kept]
      exact owned.file
    · intro key record found
      obtain ⟨old, stored, same⟩ := written key record found
      exact back key record old stored same

theorem KeysOwned.started {s after : BgContinuousTaskMgr} {record : ContinuousTaskRecord}
    {touch : Int → Prop} {unheard : ContinuousTaskRecord → Prop} (owned : KeysOwned s)
    (start : Started touch unheard record s after) : KeysOwned after := by
  cases start with
  | refused edits => exact owned.of_traces (Edits.traces edits)
  | @added middle _ stored edits keeps free saved =>
      have old := owned.of_traces (Edits.traces edits)
      have added : KeysOwned (middle.addTask (taskInfoMapKey record) stored) := by
        refine ⟨?_, old.file⟩
        intro key other found
        rw [taskAt_addTask] at found
        split at found
        · rename_i here
          obtain rfl := Option.some.inj found
          rw [here, keeps.uid]
          exact ownKey_taskInfoMapKey record
        · exact old.tasks key other found
      exact added.of_traces saved.traces

theorem KeysOwned.taskStep {s : BgContinuousTaskMgr} (owned : KeysOwned s)
    (label : Env × TaskOp) : KeysOwned (s.taskStep label) := by
  have effect : Effect (fun _ => True) s label.2 (s.taskStep label) :=
    taskStep_effect label (fun _ _ _ _ _ _ => trivial)
  generalize s.taskStep label = after at effect ⊢
  obtain ⟨env, op⟩ := label
  cases effect with
  | edits edits => exact owned.of_traces (Edits.traces edits)
  | started record fresh ready start =>
      have numbered : KeysOwned s.nextTaskId := owned.of_traces (Traces.of_eq rfl rfl)
      exact numbered.started start
  | cleared env => exact owned.of_traces (traces_dumpCancelAll env)
  | addSubscriber info =>
      unfold BgContinuousTaskMgr.addSubscriber
      split
      · exact owned.of_traces (Traces.of_eq rfl rfl)
      · exact owned.of_traces (Traces.of_eq rfl rfl)
  | removeSubscriber remote flag => exact owned.of_traces (Traces.of_eq rfl rfl)
  | subscriberDied remote =>
      unfold onRemoteSubscriberDied
      split
      · exact owned.of_traces (Traces.of_eq rfl rfl)
      · exact owned

theorem KeysOwned.restoreTaskRecord {s : BgContinuousTaskMgr} (owned : KeysOwned s) (env : Env) :
    KeysOwned (s.restoreTaskRecord env) := by
  unfold BgContinuousTaskMgr.restoreTaskRecord
  split
  · refine ⟨?_, owned.file⟩
    intro key record found
    rcases AList.lookup_union_eq_some.mp found with here | ⟨-, stored⟩
    · exact owned.tasks key record here
    · exact owned.file key record stored
  · exact owned

theorem KeysOwned.initRequiredResourceInfo {s : BgContinuousTaskMgr} (owned : KeysOwned s)
    (env : Env) : KeysOwned (s.initRequiredResourceInfo env) :=
  (owned.restoreTaskRecord env).of_traces (traces_initRequiredResourceInfo s env)

theorem KeysOwned.serviceStep {s : BgContinuousTaskMgr} (owned : KeysOwned s)
    (label : Env × ServiceOp) : KeysOwned (s.serviceStep label) := by
  obtain ⟨env, op⟩ := label
  cases op with
  | task op => exact owned.taskStep (env, op)
  | initRequiredResourceInfo =>
      show KeysOwned (if s.isSysReady then s else s.initRequiredResourceInfo env)
      split
      · exact owned
      · exact owned.initRequiredResourceInfo env
  | restart =>
      refine ⟨?_, owned.file⟩
      intro key record found
      exact absurd ((AList.lookup_empty key).symm.trans found) (by simp)

theorem keysOwned_run (hash : String → Nat) (labels : List (Env × ServiceOp)) :
    KeysOwned (StepSystem.run serviceStep (installed hash) labels) := by
  refine StepSystem.run_preserves (fun _ label owned => owned.serviceStep label) labels
    (installed hash) ?_
  constructor
  · intro key record found
    exact absurd ((AList.lookup_empty key).symm.trans found) (by simp)
  · intro key record found
    exact absurd ((AList.lookup_empty key).symm.trans found) (by simp)

/-! ## Client calls -/

/-- Tasks of other uids are still there, with all their fields. -/
def Isolated (uid : Int) (before after : BgContinuousTaskMgr) : Prop :=
  ∀ key record, before.taskAt key = some record → record.uid ≠ uid →
    after.taskAt key = some record

section Calls

variable {s after : BgContinuousTaskMgr} {uid : Int} {unheard : ContinuousTaskRecord → Prop}

theorem Isolated.refl (s : BgContinuousTaskMgr) (uid : Int) : Isolated uid s s :=
  fun _ _ found _ => found

theorem isolated_of_edits (edits : Edits (fun owner => owner = uid) unheard s after) :
    Isolated uid s after :=
  fun _ _ found foreign => Edits.untouched edits found foreign

theorem isolated_of_started {record : ContinuousTaskRecord}
    (start : Started (fun owner => owner = uid) unheard record s after) : Isolated uid s after := by
  cases start with
  | refused edits => exact isolated_of_edits edits
  | @added middle _ stored edits keeps free saved =>
      intro key other found foreign
      have kept := Edits.untouched edits found foreign
      have elsewhere : key ≠ taskInfoMapKey record := by
        rintro rfl
        exact absurd (free.symm.trans kept) (by simp)
      rw [saved.taskAt, taskAt_addTask, if_neg elsewhere]
      exact kept

theorem isolated_startBackgroundRunning (env : Env) (taskParam : ContinuousTaskParam) :
    Isolated uid s (s.startBackgroundRunning env uid taskParam).2 := by
  unfold startBackgroundRunning
  split
  · exact Isolated.refl s uid
  split
  · exact Isolated.refl s uid
  split
  · exact Isolated.refl s uid
  split
  · exact Isolated.refl s uid
  rename_i record built
  unfold startBackgroundRunningInner
  split
  · exact Isolated.refl s uid
  split
  · exact Isolated.refl s uid
  · have start : Started (fun owner => owner = uid) (fun _ => True)
        { record with continuousTaskId := s.continuousTaskIdIndex + 1 } s.nextTaskId
        (s.nextTaskId.startNumbered env
          { record with continuousTaskId := s.continuousTaskIdIndex + 1 }).2 :=
      started_startNumbered env (fresh_startRecord built).2
    intro key other found foreign
    exact isolated_of_started start key other found foreign

/-- An update by mode list reaches the task by a key of the caller. -/
theorem isolated_updateBackgroundRunningInner (env : Env) (taskParam : ContinuousTaskParam)
    (owned : KeysOwned s) :
    Isolated uid s (s.updateBackgroundRunningInner env
      (abilityKey uid taskParam.abilityName taskParam.abilityId) taskParam).2 := by
  have edits : Edits (fun owner => owner = uid) (fun _ => True) s
      (s.updateBackgroundRunningInner env
        (abilityKey uid taskParam.abilityName taskParam.abilityId) taskParam).2 := by
    refine edits_updateBackgroundRunningInner env taskParam ?_
    intro record found
    exact (owned.tasks _ record found).unique (ownKey_abilityKey uid _ _)
  exact isolated_of_edits edits

theorem isolated_updateDataTransferProgress (env : Env) (progress : DataTransferProgress) :
    Isolated uid s (s.updateDataTransferProgress env uid progress).2 := by
  unfold updateDataTransferProgress
  split
  · exact Isolated.refl s uid
  · have edits : Edits (fun owner => owner = uid) (fun _ => True) s
        (s.updateDataTransferProgressInner env uid progress).2 :=
      edits_updateDataTransferProgressInner env uid progress rfl
    exact isolated_of_edits edits

end Calls

end BgTaskMgr.Continuous
