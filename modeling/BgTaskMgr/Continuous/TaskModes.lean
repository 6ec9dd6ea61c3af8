import BgTaskMgr.Continuous.Isolation
import BgTaskMgr.Continuous.ModeChanges

/-!
# The modes of live tasks

What starts and updates establish of the modes of a task holds of every task and of every
record in the file, over the whole life of the service.  A task has a mode unless an update
with an empty list replaced its modes, and each mode of a task that an app started was
declared when the app asked for it.
-/

set_option autoImplicit false

namespace BgTaskMgr.Continuous

open BgContinuousTaskMgr

/-! ## What all records have -/

structure AllRecords (has : ContinuousTaskRecord → Prop) (s : BgContinuousTaskMgr) : Prop where
  tasks : ∀ key record, s.taskAt key = some record → has record
  file : ∀ key record, s.file.lookup key = some record → has record

/-- The property depends on the modes and on what they are judged by. -/
def OfModes (has : ContinuousTaskRecord → Prop) : Prop :=
  ∀ old new, SameModes old new → has old → has new

namespace AllRecords

variable {has : ContinuousTaskRecord → Prop} {s after : BgContinuousTaskMgr}

theorem mono {weaker : ContinuousTaskRecord → Prop} (held : AllRecords has s)
    (weakens : ∀ record, has record → weaker record) : AllRecords weaker s :=
  ⟨fun key record found => weakens record (held.tasks key record found),
    fun key record found => weakens record (held.file key record found)⟩

theorem keeps (held : AllRecords has s) (ofModes : OfModes has) (keeps : KeepsModes s after) :
    AllRecords has after := by
  have back : ∀ key record, (∃ old, s.taskAt key = some old ∧ SameModes old record) →
      has record := by
    rintro key record ⟨old, stored, same⟩
    exact ofModes old record same (held.tasks key old stored)
  constructor
  · intro key record found
    exact back key record (keeps.origin key record found)
  · intro key record found
    rcases keeps.file with kept | written
    · rw [kept] at found
      exact held.file key record found
    · exact back key record (written key record found)

theorem addTask (held : AllRecords has s) (key : String) {record : ContinuousTaskRecord}
    (new : has record) : AllRecords has (s.addTask key record) := by
  refine ⟨?_, held.file⟩
  intro other stored found
  rw [taskAt_addTask] at found
  split at found
  · obtain rfl := Option.some.inj found
    exact new
  · exact held.tasks other stored found

theorem setRecord (held : AllRecords has s) (key : String) {record : ContinuousTaskRecord}
    (new : has record) : AllRecords has (s.setRecord key record) := by
  refine ⟨?_, held.file⟩
  intro other stored found
  rw [taskAt_setRecord] at found
  split at found
  · obtain ⟨-, -, rfl⟩ := Option.map_eq_some_iff.mp found
    exact new
  · exact held.tasks other stored found

theorem configuredBgMode_nextTaskId (env : Env) (record : ContinuousTaskRecord)
    (s : BgContinuousTaskMgr) :
    s.nextTaskId.configuredBgMode env record = s.configuredBgMode env record := by
  unfold configuredBgMode setCachedBundleInfo nextTaskId
  dsimp only
  by_cases cached : (s.cachedBundleInfos.lookup record.uid).isSome = true
  · rw [if_pos cached, if_pos cached]
    rfl
  · rw [if_neg cached, if_neg cached]
    split
    · rfl
    · rfl

theorem taskStep (held : AllRecords has s) (ofModes : OfModes has) (label : Env × TaskOp)
    (starts : ∀ record, record.bgModeIds ≠ [] →
      (record.isFromWebview = false →
        (record.bgModeIds = requestedModes label.2 ∧ StartsTask s record label.2) ∧
        checkBgmodeTypes label.1 (s.configuredBgMode label.1 record) record.isNewApi record
          record.bgModeIds = .ok) → has record)
    (replaces : ∀ callingUid taskParam key record edited,
      label.2 = .client callingUid (.updateBackgroundRunning taskParam) →
      s.replacedTask label.1 callingUid taskParam = some (key, record) →
      edited.requested = record.requested → edited.bgModeIds = taskParam.bgModeIds →
        has edited) :
    AllRecords has (s.taskStep label) := by
  have effect := taskStep_modes (s := s) label
  generalize s.taskStep label = after at effect ⊢
  cases effect with
  | kept keeps => exact held.keeps ofModes keeps
  | @started env op after record named asked start =>
      have numbered : KeepsModes s s.nextTaskId := KeepsModes.of_eq rfl rfl rfl rfl rfl
      have ready := held.keeps ofModes numbered
      cases start with
      | refused keeps => exact ready.keeps ofModes keeps
      | added key stored keeps same modes saved =>
          have new : has record := by
            refine starts record named (fun client => ⟨asked client, ?_⟩)
            have passed := modes client
            rw [configuredBgMode_nextTaskId] at passed
            exact passed
          exact ((ready.keeps ofModes keeps).addTask key (ofModes record stored same new)).keeps
            ofModes saved
  | updated env callingUid taskParam update =>
      cases update with
      | kept keeps => exact held.keeps ofModes keeps
      | @replaced key record edited chosen same modes keeps =>
          exact (held.setRecord key (replaces callingUid taskParam key record edited rfl chosen same
            modes)).keeps ofModes keeps
  | appState env uid foreground =>
      have same := quiet_onAppStateChanged s uid foreground
      have written : (s.onAppStateChanged uid foreground).file = s.file := by
        unfold onAppStateChanged
        dsimp only
        split
        · rfl
        split
        · rfl
        · split
          · rfl
          · rfl
      refine ⟨?_, ?_⟩
      · intro key record found
        exact held.tasks key record ((same.taskAt key).symm.trans found)
      · rw [written]
        exact held.file

theorem restoreTaskRecord (held : AllRecords has s) (env : Env) :
    AllRecords has (s.restoreTaskRecord env) := by
  unfold BgContinuousTaskMgr.restoreTaskRecord
  split
  · refine ⟨?_, held.file⟩
    intro key record found
    rcases AList.mem_lookup_union.mp found with known | ⟨-, restored⟩
    · exact held.tasks key record known
    · exact held.file key record restored
  · exact held

theorem initRequiredResourceInfo (held : AllRecords has s) (ofModes : OfModes has) (env : Env) :
    AllRecords has (s.initRequiredResourceInfo env) := by
  let prompted := { s with
    texts := getNotificationPrompt env.resourceString
      { s.texts with modeForNotificationText := initNotificationText } }
  have prompts : AllRecords has prompted := ⟨held.tasks, held.file⟩
  have restored := prompts.restoreTaskRecord env
  show AllRecords has { prompted.handlePersistenceData env with isSysReady := true }
  unfold handlePersistenceData
  dsimp only
  split
  · exact ⟨restored.tasks, restored.file⟩
  · rename_i allProcesses _
    have visited := restored.keeps ofModes (KeepsModes.restored env allProcesses)
    have checked : AllRecords has
        ((prompted.restoreTaskRecord env).checkPersistenceData env allProcesses) :=
      ⟨visited.tasks, visited.file⟩
    have saved := checked.keeps ofModes (KeepsModes.save env)
    -- the caches and the authorisation records are no part of the tasks
    have rest : ∀ s : BgContinuousTaskMgr, AllRecords has s →
        AllRecords has (((s.restoreApplyRecord env).restoreAuthRecord env).refreshAuthRecord env) := by
      intro s held
      unfold restoreApplyRecord restoreAuthRecord refreshAuthRecord
      constructor
      · intro key record found
        refine held.tasks key record ?_
        rw [← found]
        grind [BgContinuousTaskMgr.taskAt]
      · intro key record found
        refine held.file key record ?_
        rw [← found]
        grind
    have finished := rest _ saved
    exact ⟨finished.tasks, finished.file⟩

theorem restart (held : AllRecords has s) : AllRecords has s.restart := by
  refine ⟨?_, held.file⟩
  intro key record found
  exact absurd ((AList.lookup_empty key).symm.trans found) (by simp)

theorem installed (hash : String → Nat) : AllRecords has (installed hash) := by
  constructor
  · intro key record found
    exact absurd ((AList.lookup_empty key).symm.trans found) (by simp)
  · intro key record found
    exact absurd ((AList.lookup_empty key).symm.trans found) (by simp)

end AllRecords

/-! ## Tasks without a mode -/

/-- What `ReadFromParcel` makes of a parameter: the list of modes travels only with the batch
flag. -/
def ContinuousTaskParam.readFromParcel (taskParam : ContinuousTaskParam) : ContinuousTaskParam :=
  { taskParam with bgModeIds := if taskParam.isBatchApi then taskParam.bgModeIds else [] }

namespace BgContinuousTaskMgr

def emptiesModes (self : BgContinuousTaskMgr) : Env × ServiceOp → Bool
  | (env, .task (.client callingUid (.updateBackgroundRunning taskParam))) =>
      taskParam.bgModeIds.isEmpty && (self.replacedTask env callingUid taskParam).isSome
  | _ => false

end BgContinuousTaskMgr

def HasMode (record : ContinuousTaskRecord) : Prop := record.bgModeIds ≠ []

theorem ofModes_hasMode : OfModes HasMode := by
  intro old new same named
  unfold HasMode
  rw [same.bgModeIds]
  exact named

theorem allNamed_serviceStep {s : BgContinuousTaskMgr} (held : AllRecords HasMode s)
    (label : Env × ServiceOp) (names : s.emptiesModes label = false) :
    AllRecords HasMode (s.serviceStep label) := by
  obtain ⟨env, op⟩ := label
  cases op with
  | task op =>
      refine held.taskStep ofModes_hasMode (env, op) (fun _ named _ => named) ?_
      intro callingUid taskParam key record edited kind chosen _ modes
      simp only at kind chosen
      subst kind
      have named : (taskParam.bgModeIds.isEmpty &&
          (s.replacedTask env callingUid taskParam).isSome) = false := names
      rw [chosen] at named
      unfold HasMode
      rw [modes]
      simpa using named
  | initRequiredResourceInfo =>
      show AllRecords HasMode (if s.isSysReady then s else s.initRequiredResourceInfo env)
      split
      · exact held
      · exact held.initRequiredResourceInfo ofModes_hasMode env
  | restart => exact held.restart

/-- In every run of the service in which no update empties the modes of a task, every task has
a mode. -/
theorem run_tasks_have_modes (hash : String → Nat) (labels : List (Env × ServiceOp))
    (names : StepSystem.Admissible serviceStep (fun s label => s.emptiesModes label = false)
      (installed hash) labels) (key : String) (record : ContinuousTaskRecord)
    (found : (StepSystem.run serviceStep (installed hash) labels).taskAt key = some record) :
    record.bgModeIds ≠ [] := by
  have preserve : ∀ s label, AllRecords HasMode s → s.emptiesModes label = false →
      AllRecords HasMode (s.serviceStep label) :=
    fun _ label held names => allNamed_serviceStep held label names
  exact (StepSystem.run_invariant preserve labels (installed hash) (AllRecords.installed hash)
    names).tasks key record found

def updatedRun (taskParam : ContinuousTaskParam) : List (Env × ServiceOp) :=
  [(deviceEnv, .initRequiredResourceInfo),
    (deviceEnv, .task (.client 100 (.startBackgroundRunning
      { requestOf [BackgroundMode.location] [] with isByRequestObject := false }))),
    (deviceEnv, .task (.client 100 (.updateBackgroundRunning taskParam)))]

def updateOf (modes : List Nat) (isBatchApi : Bool) : ContinuousTaskParam :=
  { requestOf modes [] with
    isByRequestObject := false
    isBatchApi := isBatchApi }

theorem run_tasks_have_modes_updated :
    StepSystem.Admissible serviceStep (fun s label => s.emptiesModes label = false)
        (installed (fun _ => 0)) (updatedRun (updateOf [BackgroundMode.audioRecording] true)) ∧
      ∀ key record, (StepSystem.run serviceStep (installed (fun _ => 0))
        (updatedRun (updateOf [BackgroundMode.audioRecording] true))).taskAt key = some record →
          record.bgModeIds ≠ [] :=
  ⟨by decide, fun key record found => run_tasks_have_modes (fun _ => 0)
    (updatedRun (updateOf [BackgroundMode.audioRecording] true)) (by decide) key record found⟩

/-- An update without the batch flag loses its modes in the parcel, and the task is left
without one. -/
theorem update_empties_modes :
    ∃ entry ∈ (StepSystem.run serviceStep (installed (fun _ => 0))
      (updatedRun (updateOf [BackgroundMode.audioRecording]
        false).readFromParcel)).continuousTaskInfosMap.entries, entry.2.bgModeIds = [] := by
  decide

/-! ## Modes that were declared -/

/-- The mode is declared in the mask; a request object may play, record or call under
`MODE_AV_PLAYBACK_AND_RECORD`. -/
def Declared (configuredBgMode : BitVec 32) (isByRequestObject : Bool) (mode : Nat) : Prop :=
  mode ≠ 0 ∧ (configuredBgMode &&& modeBit mode ≠ 0#32 ∨
    isByRequestObject = true ∧
      (modeBit mode = modeBit BackgroundMode.audioPlayback ∨
        modeBit mode = modeBit BackgroundMode.audioRecording ∨
        modeBit mode = modeBit BackgroundMode.voip) ∧
      configuredBgMode &&& modeBit modeAvPlaybackAndRecord ≠ 0#32)

theorem not_declared_zero (isByRequestObject : Bool) (mode : Nat) :
    ¬ Declared 0#32 isByRequestObject mode := by
  rintro ⟨-, declared | ⟨-, -, declared⟩⟩
  · simp at declared
  · simp at declared

theorem declared_of_checkBgmodeType {env : Env} {mask : BitVec 32} {record : ContinuousTaskRecord}
    {mode : Nat} (passed : checkBgmodeType env mask true record mode = .ok) :
    Declared mask record.isByRequestObject mode := by
  unfold checkBgmodeType at passed
  rw [if_neg (by simp)] at passed
  split at passed
  · rename_i restricted
    exact absurd passed restricted
  split at passed
  · rename_i av
    unfold declaredAsAvPlaybackAndRecord at av
    simp only [Bool.and_eq_true, Bool.or_eq_true, beq_iff_eq, bne_iff_ne] at av
    obtain ⟨⟨alike, object⟩, declared⟩ := av
    refine ⟨?_, Or.inr ⟨object, or_assoc.mp alike, declared⟩⟩
    rintro rfl
    revert alike
    decide
  split at passed
  · exact absurd passed (by simp)
  · rename_i declared
    simp only [not_or] at declared
    exact ⟨declared.1, Or.inl declared.2⟩

theorem declared_of_checkBgmodeTypes {env : Env} {mask : BitVec 32} {record : ContinuousTaskRecord}
    {modes : List Nat} (passed : checkBgmodeTypes env mask true record modes = .ok) :
    ∀ mode ∈ modes, Declared mask record.isByRequestObject mode := by
  induction modes with
  | nil => simp
  | cons first rest ih =>
      unfold checkBgmodeTypes at passed
      dsimp only at passed
      split at passed
      · rename_i refused
        exact absurd passed refused
      · rename_i accepted
        intro mode member
        rcases List.mem_cons.mp member with rfl | later
        · exact declared_of_checkBgmodeType (not_not.mp accepted)
        · exact ih passed mode later

theorem configuredBgMode_of_declared {s : BgContinuousTaskMgr} (env : Env)
    {record : ContinuousTaskRecord} {isByRequestObject : Bool} {mode : Nat}
    (declared : Declared (s.getBackgroundModeInfo record.uid record.abilityName)
      isByRequestObject mode) :
    s.configuredBgMode env record = s.getBackgroundModeInfo record.uid record.abilityName := by
  have cached : (s.cachedBundleInfos.lookup record.uid).isSome = true := by
    rw [Option.isSome_iff_ne_none]
    intro absent
    unfold getBackgroundModeInfo at declared
    rw [absent] at declared
    exact not_declared_zero isByRequestObject mode declared
  unfold configuredBgMode setCachedBundleInfo
  rw [if_pos cached]

theorem configuredBgMode_of_requested {old new : ContinuousTaskRecord}
    (same : new.requested = old.requested) (env : Env) (s : BgContinuousTaskMgr) :
    s.configuredBgMode env new = s.configuredBgMode env old := by
  unfold ContinuousTaskRecord.requested at same
  simp only [Requested.mk.injEq] at same
  obtain ⟨uid, name, bundle, user, -, -, -, need, component, -⟩ := same
  unfold configuredBgMode setCachedBundleInfo addAbilityBgModeInfos
  rw [uid, name, bundle, user, need, component]

/-- The call of the app that has the task starts it, or is an update that chooses it. -/
def CallsFor (env : Env) (record : ContinuousTaskRecord) (s : BgContinuousTaskMgr) : TaskOp → Prop
  | .client callingUid (.updateBackgroundRunning taskParam) =>
      record.uid = callingUid ∧ ∃ key task,
        s.replacedTask env callingUid taskParam = some (key, task) ∧
          task.requested = record.requested
  | op => StartsTask s record op

theorem CallsFor.of_startsTask {env : Env} {record : ContinuousTaskRecord}
    {s : BgContinuousTaskMgr} {op : TaskOp} (starts : StartsTask s record op) :
    CallsFor env record s op := by
  unfold StartsTask at starts
  split at starts
  · exact starts
  · exact absurd starts id

theorem CallsFor.of_requested {env : Env} {old new : ContinuousTaskRecord}
    {s : BgContinuousTaskMgr} {op : TaskOp} (same : new.requested = old.requested)
    (calls : CallsFor env old s op) : CallsFor env new s op := by
  have uid : new.uid = old.uid := congrArg Requested.uid same
  have name : new.abilityName = old.abilityName := congrArg Requested.abilityName same
  have number : new.continuousTaskId = old.continuousTaskId :=
    congrArg Requested.continuousTaskId same
  unfold CallsFor StartsTask at calls ⊢
  rw [uid, name, number, same]
  exact calls

/-- An app asked for the mode in a call for the task, when it was declared for it. -/
def Accepted (hash : String → Nat) (labels : List (Env × ServiceOp))
    (record : ContinuousTaskRecord) (mode : Nat) : Prop :=
  ∃ earlier env op later, labels = earlier ++ (env, ServiceOp.task op) :: later ∧
    mode ∈ requestedModes op ∧
    CallsFor env record (StepSystem.run serviceStep (installed hash) earlier) op ∧
    Declared ((StepSystem.run serviceStep (installed hash) earlier).configuredBgMode env record)
      record.isByRequestObject mode

def Authorised (hash : String → Nat) (labels : List (Env × ServiceOp))
    (record : ContinuousTaskRecord) : Prop :=
  record.isNewApi = true → record.isFromWebview = false →
    ∀ mode ∈ record.bgModeIds, Accepted hash labels record mode

theorem ofModes_authorised (hash : String → Nat) (labels : List (Env × ServiceOp)) :
    OfModes (Authorised hash labels) := by
  intro old new same held newApi client mode member
  have kept := same.requested
  unfold ContinuousTaskRecord.requested at kept
  simp only [Requested.mk.injEq] at kept
  obtain ⟨-, -, -, -, object, api, webview, -, -⟩ := kept
  rw [same.bgModeIds] at member
  obtain ⟨earlier, env, op, later, split, asked, calls, declared⟩ :=
    held (api ▸ newApi) (webview ▸ client) mode member
  refine ⟨earlier, env, op, later, split, asked, calls.of_requested same.requested, ?_⟩
  rw [configuredBgMode_of_requested same.requested, object]
  exact declared

namespace BgContinuousTaskMgr

def updatesOwnTask (self : BgContinuousTaskMgr) : Env × ServiceOp → Bool
  | (env, .task (.client callingUid (.updateBackgroundRunning taskParam))) =>
      !taskParam.isByRequestObject ||
        (self.replacedTask env callingUid taskParam).all (fun found => found.2.uid == callingUid)
  | _ => true

/-- An update that is not of another app's task is by the app that has the task it chooses. -/
theorem uid_of_replacedTask {s : BgContinuousTaskMgr} {env : Env} {callingUid : Int}
    {taskParam : ContinuousTaskParam} {key : String} {record : ContinuousTaskRecord}
    (owned : KeysOwned s)
    (own : s.updatesOwnTask
      (env, .task (.client callingUid (.updateBackgroundRunning taskParam))) = true)
    (chosen : s.replacedTask env callingUid taskParam = some (key, record)) :
    record.uid = callingUid := by
  have owner : (!taskParam.isByRequestObject ||
      (s.replacedTask env callingUid taskParam).all (fun found => found.2.uid == callingUid)) =
        true := own
  cases object : taskParam.isByRequestObject with
  | true =>
      rw [object, chosen] at owner
      simpa using owner
  | false =>
      unfold replacedTask at chosen
      rw [object] at chosen
      split at chosen
      · exact absurd chosen (by simp)
      rw [if_neg Bool.false_ne_true] at chosen
      obtain ⟨found, search, same⟩ := Option.map_eq_some_iff.mp chosen
      obtain ⟨isKey, rfl⟩ := Prod.mk.inj same
      obtain ⟨stored, -⟩ := Option.filter_eq_some_iff.mp search
      exact (owned.tasks _ found stored).unique (ownKey_abilityKey _ _ _)

/-- The modes of an update by the own app were declared for the task it chooses. -/
theorem declared_of_replacedTask {s : BgContinuousTaskMgr} {env : Env} {callingUid : Int}
    {taskParam : ContinuousTaskParam} {key : String} {record : ContinuousTaskRecord}
    (chosen : s.replacedTask env callingUid taskParam = some (key, record))
    (own : taskParam.isByRequestObject = true → record.uid = callingUid) :
    ∀ mode ∈ taskParam.bgModeIds,
      Declared (s.getBackgroundModeInfo record.uid record.abilityName) record.isByRequestObject
        mode := by
  unfold replacedTask at chosen
  split at chosen
  · exact absurd chosen (by simp)
  split at chosen
  · rename_i object
    split at chosen
    · exact absurd chosen (by simp)
    obtain ⟨-, passes⟩ := Option.filter_eq_some_iff.mp chosen
    unfold replacesByTaskId at passes
    simp only [Bool.and_eq_true, beq_iff_eq] at passes
    rw [own object]
    exact declared_of_checkBgmodeTypes passes.1.1.1.1.1
  · obtain ⟨found, search, same⟩ := Option.map_eq_some_iff.mp chosen
    obtain ⟨-, rfl⟩ := Prod.mk.inj same
    obtain ⟨-, passes⟩ := Option.filter_eq_some_iff.mp search
    unfold replacesByKey at passes
    simp only [Bool.and_eq_true, beq_iff_eq] at passes
    have declared := declared_of_checkBgmodeTypes passes.2
    have object : (dropSubModes taskParam found).isByRequestObject = found.isByRequestObject :=
      (edited_dropSubModes taskParam found).isByRequestObject
    rw [object] at declared
    exact declared

end BgContinuousTaskMgr

theorem authorised_serviceStep (hash : String → Nat) {past : List (Env × ServiceOp)}
    {s : BgContinuousTaskMgr} (reached : s = StepSystem.run serviceStep (installed hash) past)
    (held : AllRecords (Authorised hash past) s) (label : Env × ServiceOp)
    (own : s.updatesOwnTask label = true) :
    AllRecords (Authorised hash (past ++ [label])) (s.serviceStep label) := by
  have later : AllRecords (Authorised hash (past ++ [label])) s := by
    refine held.mono ?_
    intro record authorised newApi client mode member
    obtain ⟨earlier, env, op, later, split, accepted⟩ := authorised newApi client mode member
    refine ⟨earlier, env, op, later ++ [label], ?_, accepted⟩
    rw [split, List.append_assoc, List.cons_append]
  have ofModes := ofModes_authorised hash (past ++ [label])
  obtain ⟨env, op⟩ := label
  cases op with
  | task op =>
      refine later.taskStep ofModes (env, op) ?_ ?_
      · intro record _ passed newApi client mode member
        obtain ⟨⟨asked, starts⟩, modes⟩ := passed client
        rw [newApi] at modes
        refine ⟨past, env, op, [], rfl, asked ▸ member, ?_, ?_⟩
        · rw [← reached]
          exact .of_startsTask starts
        rw [← reached]
        exact declared_of_checkBgmodeTypes modes mode member
      · intro callingUid taskParam key record edited kind chosen same modes newApi client mode
          member
        simp only at kind chosen
        subst kind
        rw [modes] at member
        have owner := uid_of_replacedTask (reached ▸ keysOwned_run hash past) own chosen
        refine ⟨past, env, _, [], rfl, member, ?_, ?_⟩
        · rw [← reached]
          have uid : edited.uid = record.uid := congrArg Requested.uid same
          exact ⟨uid.trans owner, key, record, chosen, same.symm⟩
        have object : edited.isByRequestObject = record.isByRequestObject :=
          congrArg Requested.isByRequestObject same
        have declared := declared_of_replacedTask chosen (fun _ => owner) mode member
        rw [← reached, configuredBgMode_of_requested same, configuredBgMode_of_declared env declared,
          object]
        exact declared
  | initRequiredResourceInfo =>
      show AllRecords _ (if s.isSysReady then s else s.initRequiredResourceInfo env)
      split
      · exact later
      · exact later.initRequiredResourceInfo ofModes env
  | restart => exact later.restart

theorem authorised_run (hash : String → Nat) (labels : List (Env × ServiceOp)) :
    ∀ (past : List (Env × ServiceOp)) (s : BgContinuousTaskMgr),
      s = StepSystem.run serviceStep (installed hash) past →
      AllRecords (Authorised hash past) s →
      StepSystem.Admissible serviceStep (fun s label => s.updatesOwnTask label = true) s labels →
        AllRecords (Authorised hash (past ++ labels)) (StepSystem.run serviceStep s labels) := by
  induction labels with
  | nil =>
      intro past s _ held _
      rw [List.append_nil]
      exact held
  | cons label rest ih =>
      intro past s reached held own
      have step := authorised_serviceStep hash reached held label own.1
      have next : s.serviceStep label =
          StepSystem.run serviceStep (installed hash) (past ++ [label]) := by
        rw [StepSystem.run_append, ← reached]
        rfl
      have rest := ih (past ++ [label]) (s.serviceStep label) next step own.2
      rw [List.append_assoc] at rest
      exact rest

/-- In every run of the service in which updates by task id come from the apps that have the
tasks, each mode of a task that an app started through the new interface was declared for it
when the app asked for the mode. -/
theorem run_modes_declared (hash : String → Nat) (labels : List (Env × ServiceOp))
    (own : StepSystem.Admissible serviceStep (fun s label => s.updatesOwnTask label = true)
      (installed hash) labels) (key : String) (record : ContinuousTaskRecord)
    (found : (StepSystem.run serviceStep (installed hash) labels).taskAt key = some record)
    (newApi : record.isNewApi = true) (client : record.isFromWebview = false) :
    ∀ mode ∈ record.bgModeIds, Accepted hash labels record mode :=
  (authorised_run hash labels [] (installed hash) rfl (AllRecords.installed hash) own).tasks key
    record found newApi client

theorem run_modes_declared_updated :
    ∃ record, (StepSystem.run serviceStep (installed (fun _ => 0))
        (updatedRun (updateOf [BackgroundMode.audioRecording] true))).taskAt
          "100_EntryAbility_1" = some record ∧
      record.bgModeIds = [BackgroundMode.audioRecording] ∧
      ∀ mode ∈ record.bgModeIds, Accepted (fun _ => 0)
        (updatedRun (updateOf [BackgroundMode.audioRecording] true)) record mode := by
  have stored : ((StepSystem.run serviceStep (installed (fun _ => 0))
      (updatedRun (updateOf [BackgroundMode.audioRecording] true))).taskAt
        "100_EntryAbility_1").map (fun record =>
          (record.isNewApi, record.isFromWebview, record.bgModeIds)) =
      some (true, false, [BackgroundMode.audioRecording]) := by decide
  obtain ⟨record, found, fields⟩ := Option.map_eq_some_iff.mp stored
  simp only [Prod.mk.injEq] at fields
  obtain ⟨newApi, client, modes⟩ := fields
  exact ⟨record, found, modes, run_modes_declared (fun _ => 0)
    (updatedRun (updateOf [BackgroundMode.audioRecording] true)) (by decide) "100_EntryAbility_1"
    record found newApi client⟩

def specialEnv : Env :=
  { deviceEnv with
    bundleInfo := fun _ _ =>
      some [("EntryAbility", modeBit BackgroundMode.specialScenarioProcessing)]
    specialScenarioACLPermission := fun _ => true
    foregroundApplications := some [100] }

/-- An app starts a task for a special scenario, whose mode is past `BGMODE_NUMS`. -/
theorem special_scenario_mode_is_large :
    ∃ entry ∈ (StepSystem.run serviceStep (installed (fun _ => 0))
      [(specialEnv, .initRequiredResourceInfo),
        (specialEnv, .task (.client 100 (.startBackgroundRunning
          (requestOf [BackgroundMode.specialScenarioProcessing]
            [BackgroundTaskSubmode.submodeMediaProcessNormalNotification]))))
        ]).continuousTaskInfosMap.entries,
      entry.2.isNewApi = true ∧ entry.2.isFromWebview = false ∧
        ∃ mode ∈ entry.2.bgModeIds, bgmodeNums < mode := by
  decide

end BgTaskMgr.Continuous
