import BgTaskMgr.Continuous.Isolation
import BgTaskMgr.Continuous.StartExits
import BgTaskMgr.Continuous.TaskIds

/-!
# The limit on request objects

A request object is refused when ten of them have the ability id it comes with.  The count does
not look at the uid: no ability of an app ever has more than ten, but those of other apps with
the same id take part in the count.
-/

set_option autoImplicit false

namespace BgTaskMgr.Continuous

open BgContinuousTaskMgr

/-! ## Counting -/

def isRequestOf (abilityId : Int) (task : ContinuousTaskRecord) : Bool :=
  task.abilityId == abilityId && task.isByRequestObject

def requestTasks (abilityId : Int) (tasks : TaskMap) : Nat :=
  (KeyedMap.vals tasks).countP (isRequestOf abilityId)

def ownTasks (uid abilityId : Int) (tasks : TaskMap) : Nat :=
  (KeyedMap.vals tasks).countP (fun task => isRequestOf abilityId task && task.uid == uid)

def foreignTasks (uid abilityId : Int) (tasks : TaskMap) : Nat :=
  (KeyedMap.vals tasks).countP (fun task => isRequestOf abilityId task && !(task.uid == uid))

theorem requestTasks_eq (uid abilityId : Int) (tasks : TaskMap) :
    requestTasks abilityId tasks =
      ownTasks uid abilityId tasks + foreignTasks uid abilityId tasks := by
  unfold requestTasks ownTasks foreignTasks
  induction KeyedMap.vals tasks with
  | nil => rfl
  | cons task rest ih =>
      simp only [List.countP_cons, ih]
      cases isRequestOf abilityId task with
      | false => simp
      | true =>
          cases task.uid == uid with
          | false => simp; omega
          | true => simp; omega

def SameOwn (uid : Int) (s other : BgContinuousTaskMgr) : Prop :=
  ∀ key record, record.uid = uid → (s.taskAt key = some record ↔ other.taskAt key = some record)

theorem ownTasks_le {uid : Int} {s other : BgContinuousTaskMgr} (same : SameOwn uid s other)
    (abilityId : Int) : ownTasks uid abilityId s.continuousTaskInfosMap ≤
      ownTasks uid abilityId other.continuousTaskInfosMap := by
  apply KeyedMap.countP_vals_le
  intro key record found isOwn
  have owner : record.uid = uid := by
    simp only [Bool.and_eq_true, beq_iff_eq] at isOwn
    exact isOwn.2
  exact ⟨record, (same key record owner).mp found, isOwn⟩

theorem ownTasks_congr {uid : Int} {s other : BgContinuousTaskMgr} (same : SameOwn uid s other)
    (abilityId : Int) : ownTasks uid abilityId s.continuousTaskInfosMap =
      ownTasks uid abilityId other.continuousTaskInfosMap :=
  le_antisymm (ownTasks_le same abilityId)
    (ownTasks_le (fun key record owner => (same key record owner).symm) abilityId)

theorem checkAbilityTaskNum_eq (record : ContinuousTaskRecord) (s : BgContinuousTaskMgr) :
    s.checkAbilityTaskNum record =
      if abilityTaskMaxNum ≤ requestTasks record.abilityId s.continuousTaskInfosMap then
        .continuousNotApplyMaxTask
      else .ok :=
  rfl

theorem requestTasks_addTask {s : BgContinuousTaskMgr} {key : String}
    {stored : ContinuousTaskRecord} (free : s.taskAt key = none) (abilityId : Int) :
    requestTasks abilityId (s.addTask key stored).continuousTaskInfosMap =
      requestTasks abilityId s.continuousTaskInfosMap +
        if isRequestOf abilityId stored then 1 else 0 := by
  have entries : (s.addTask key stored).continuousTaskInfosMap.entries =
      ⟨key, stored⟩ :: s.continuousTaskInfosMap.entries :=
    AList.entries_insert_of_notMem (AList.lookup_eq_none.mp free)
  unfold requestTasks KeyedMap.vals
  rw [entries, List.map_cons, List.countP_cons]

/-! ## What other apps can do to the check -/

/-- The check of a request object comes out alike in every state with the same tasks of the
app. -/
def CheckIsOwn (record : ContinuousTaskRecord) (s : BgContinuousTaskMgr) : Prop :=
  ∀ other, KeysOwned other → SameOwn record.uid s other →
    other.checkAbilityTaskNum record = s.checkAbilityTaskNum record

section Crowd

variable {uid abilityId : Int} {s : BgContinuousTaskMgr}

def neighbourTask (uid abilityId : Int) (count : Nat) : ContinuousTaskRecord :=
  { uid := uid + count, abilityName := "EntryAbility", abilityId := abilityId
    isByRequestObject := true }

/-- The tasks of the app, beside those of `count` other apps with the same ability id. -/
def crowded (uid abilityId : Int) (s : BgContinuousTaskMgr) : Nat → BgContinuousTaskMgr
  | 0 => { s with
      continuousTaskInfosMap :=
        KeyedMap.filterVal (fun _ task => task.uid == uid) s.continuousTaskInfosMap }
  | count + 1 => (crowded uid abilityId s count).addTask
      (taskInfoMapKey (neighbourTask uid abilityId (count + 1)))
      (neighbourTask uid abilityId (count + 1))

theorem taskAt_alone {key : String} {record : ContinuousTaskRecord} :
    (crowded uid abilityId s 0).taskAt key = some record ↔
      s.taskAt key = some record ∧ record.uid = uid := by
  unfold crowded taskAt
  dsimp only
  rw [KeyedMap.lookup_filterVal, Option.filter_eq_some_iff]
  simp

theorem taskAt_crowded_succ (count : Nat) (key : String) :
    (crowded uid abilityId s (count + 1)).taskAt key =
      if key = taskInfoMapKey (neighbourTask uid abilityId (count + 1)) then
        some (neighbourTask uid abilityId (count + 1))
      else (crowded uid abilityId s count).taskAt key :=
  taskAt_addTask _ _ _ _

theorem crowded_uid_le {count : Nat} {key : String} {record : ContinuousTaskRecord}
    (found : (crowded uid abilityId s count).taskAt key = some record) :
    record.uid ≤ uid + count := by
  induction count with
  | zero =>
      have own := (taskAt_alone.mp found).2
      omega
  | succ count ih =>
      rw [taskAt_crowded_succ] at found
      split at found
      · obtain rfl := Option.some.inj found
        exact le_refl _
      · have before := ih found
        omega

theorem keysOwned_crowded (owned : KeysOwned s) (count : Nat) :
    KeysOwned (crowded uid abilityId s count) := by
  induction count with
  | zero => exact ⟨fun key record found => owned.tasks key record (taskAt_alone.mp found).1,
      owned.file⟩
  | succ count ih =>
      refine ⟨?_, ih.file⟩
      intro key record found
      rw [taskAt_crowded_succ] at found
      split at found
      · rename_i here
        obtain rfl := Option.some.inj found
        rw [here]
        exact ownKey_taskInfoMapKey _
      · exact ih.tasks key record found

theorem crowded_free (owned : KeysOwned s) (count : Nat) :
    (crowded uid abilityId s count).taskAt
      (taskInfoMapKey (neighbourTask uid abilityId (count + 1))) = none := by
  refine Option.eq_none_iff_forall_ne_some.mpr ?_
  intro record found
  have owner := ((keysOwned_crowded owned count).tasks _ record found).unique
    (ownKey_taskInfoMapKey (neighbourTask uid abilityId (count + 1)))
  have bound := crowded_uid_le found
  have next : (neighbourTask uid abilityId (count + 1)).uid = uid + (count + 1 : Nat) := rfl
  omega

theorem sameOwn_crowded (owned : KeysOwned s) (count : Nat) :
    SameOwn uid s (crowded uid abilityId s count) := by
  induction count with
  | zero =>
      intro key record own
      rw [taskAt_alone]
      exact ⟨fun found => ⟨found, own⟩, fun both => both.1⟩
  | succ count ih =>
      intro key record own
      rw [ih key record own, taskAt_crowded_succ]
      split
      · rename_i here
        rw [here, crowded_free owned count]
        constructor
        · intro found
          exact absurd found (by simp)
        · intro found
          have other : record.uid = uid + (count + 1 : Nat) := by
            rw [← Option.some.inj found]
            rfl
          omega
      · exact Iff.rfl

theorem requestTasks_crowded (owned : KeysOwned s) (count : Nat) :
    requestTasks abilityId (crowded uid abilityId s count).continuousTaskInfosMap =
      ownTasks uid abilityId s.continuousTaskInfosMap + count := by
  induction count with
  | zero =>
      have none : foreignTasks uid abilityId
          (crowded uid abilityId s 0).continuousTaskInfosMap = 0 := by
        refine List.countP_eq_zero.mpr ?_
        intro task member
        obtain ⟨key, found⟩ := KeyedMap.mem_vals.mp member
        simp [(taskAt_alone.mp found).2]
      rw [requestTasks_eq uid, none, ownTasks_congr (sameOwn_crowded owned 0)]
  | succ count ih =>
      have counted : isRequestOf abilityId (neighbourTask uid abilityId (count + 1)) = true := by
        simp [isRequestOf, neighbourTask]
      unfold crowded
      rw [requestTasks_addTask (crowded_free owned count), ih, if_pos counted]
      rfl

end Crowd

/-- Other apps have no say in the check exactly when the app has reached the limit alone. -/
theorem checkIsOwn_iff {s : BgContinuousTaskMgr} (owned : KeysOwned s)
    (record : ContinuousTaskRecord) :
    CheckIsOwn record s ↔
      abilityTaskMaxNum ≤ ownTasks record.uid record.abilityId s.continuousTaskInfosMap := by
  constructor
  · intro same
    by_contra few
    -- alone the app passes, with ten other apps it does not
    have alone := same (crowded record.uid record.abilityId s 0) (keysOwned_crowded owned 0)
      (sameOwn_crowded owned 0)
    have among := same (crowded record.uid record.abilityId s abilityTaskMaxNum)
      (keysOwned_crowded owned abilityTaskMaxNum) (sameOwn_crowded owned abilityTaskMaxNum)
    rw [← among, checkAbilityTaskNum_eq, checkAbilityTaskNum_eq, requestTasks_crowded owned,
      requestTasks_crowded owned, if_neg (by omega), if_pos (by omega)] at alone
    exact absurd alone (by simp)
  · intro full other _ sameOwn
    rw [checkAbilityTaskNum_eq, checkAbilityTaskNum_eq, requestTasks_eq record.uid,
      requestTasks_eq record.uid, ← ownTasks_congr sameOwn, if_pos (by omega), if_pos (by omega)]

/-! ## Starts that the limit refuses -/

section Refusals

variable {env : Env} {s : BgContinuousTaskMgr} {record : ContinuousTaskRecord}

theorem checkBgmodeTypes_ne_maxTask (configuredBgMode : BitVec 32) (isNewApi : Bool)
    (modes : List Nat) :
    checkBgmodeTypes env configuredBgMode isNewApi record modes ≠ .continuousNotApplyMaxTask := by
  induction modes with
  | nil => simp [checkBgmodeTypes]
  | cons mode rest ih =>
      unfold checkBgmodeTypes
      dsimp only
      split
      · unfold checkBgmodeType checkRestrictedMode allowUseSpecial
        grind
      · exact ih

theorem checkCombinedTaskNotification_ne_maxTask :
    (s.checkCombinedTaskNotification record).ret ≠ .continuousNotApplyMaxTask := by
  have matched : (s.determineMatchCombinedTaskNotifacation record).ret ≠
      .continuousNotApplyMaxTask := by
    unfold determineMatchCombinedTaskNotifacation
    grind
  unfold checkCombinedTaskNotification
  grind

theorem checkNotificationText_ne_maxTask (record : ContinuousTaskRecord) :
    (s.checkNotificationText env record).ret ≠ .continuousNotApplyMaxTask := by
  have special : (s.checkSpecialNotificationText record).ret ≠ .continuousNotApplyMaxTask := by
    unfold checkSpecialNotificationText
    grind
  have single (mode : Nat) (text : String) :
      (s.singleModeNotificationText env mode text record).ret ≠ .continuousNotApplyMaxTask := by
    unfold singleModeNotificationText
    grind
  have merged (modes : List Nat) (text : String) :
      (s.mergeNotificationText env modes text).ret ≠ .continuousNotApplyMaxTask := by
    unfold mergeNotificationText
    grind
  have modes (text : String) :
      (s.modesNotificationText env text record).ret ≠ .continuousNotApplyMaxTask := by
    unfold modesNotificationText
    grind
  unfold checkNotificationText
  grind

theorem sendByModes_ne_maxTask (record : ContinuousTaskRecord) :
    (s.sendByModes env record).ret ≠ .continuousNotApplyMaxTask := by
  have text := fun s => @checkNotificationText_ne_maxTask env s
  have plain (record : ContinuousTaskRecord) :
      (s.sendContinuousTaskNotification env record).ret ≠ .continuousNotApplyMaxTask := by
    unfold sendContinuousTaskNotification NotificationTools.publishNotification
    grind
  have part (s : BgContinuousTaskMgr) (part record : ContinuousTaskRecord) (appName : String)
      (isSub : Bool) :
      (s.sendNotification env part record appName isSub).ret ≠ .continuousNotApplyMaxTask := by
    unfold sendNotification NotificationTools.publishMainNotification
      NotificationTools.publishSubNotification
    grind
  unfold sendByModes sendLiveViewAndOtherNotification
  grind

theorem startBackgroundRunningSubmit_ne_maxTask (key : String) :
    (s.startBackgroundRunningSubmit env record key).1 ≠ .continuousNotApplyMaxTask := by
  have modes : s.checkStartModes env record ≠ .continuousNotApplyMaxTask := by
    have types := @checkBgmodeTypes_ne_maxTask env
    unfold checkStartModes checkBgmodeTypeForInner
    grind
  have combined := @checkCombinedTaskNotification_ne_maxTask s record
  have sent (combined : Combined) :
      (sendStartNotification env combined).ret ≠ .continuousNotApplyMaxTask := by
    have byModes := fun s => @sendByModes_ne_maxTask env s
    unfold sendStartNotification
    grind
  have unsaved : env.saveFailure.code ≠ .continuousNotApplyMaxTask := by
    cases env.saveFailure <;> simp [SaveFailure.code]
  unfold startBackgroundRunningSubmit refreshTaskRecord
  grind

/-- The limit refuses the start of a request object exactly when its check fails. -/
theorem start_maxTask_iff (object : record.isByRequestObject = true)
    (enabled : record.uid ∉ s.disableRequestUidList)
    (launched : env.isGamePreLaunchApp record.uid = false) :
    (s.startBackgroundRunningInner env record).1 = .continuousNotApplyMaxTask ↔
      s.checkAbilityTaskNum record = .continuousNotApplyMaxTask := by
  have checked : s.checkAbilityTaskNum record = .continuousNotApplyMaxTask ∨
      s.checkAbilityTaskNum record = .ok := by
    rw [checkAbilityTaskNum_eq]
    split
    · exact .inl rfl
    · exact .inr rfl
  by_cases allowed : s.allowApplyContinuousTask env record = .ok
  · have passed := checkAbilityTaskNum_of_allowed object allowed
    have submitted := fun s record => @startBackgroundRunningSubmit_ne_maxTask env s record
    rw [startBackgroundRunningInner_of_allowed enabled allowed, passed]
    unfold startNumbered
    have numbered : s.nextTaskId.checkAbilityTaskNum (withNextId s record) = .ok := passed
    grind
  · have refused : s.startBackgroundRunningInner env record =
        (s.allowApplyContinuousTask env record, s) := by
      unfold startBackgroundRunningInner
      rw [if_neg enabled, if_pos allowed]
    rw [refused]
    unfold allowApplyContinuousTask
    grind

end Refusals

/-! ## The limit along runs -/

structure Limited (s : BgContinuousTaskMgr) : Prop where
  tasks : ∀ abilityId, requestTasks abilityId s.continuousTaskInfosMap ≤ abilityTaskMaxNum
  file : ∀ abilityId, requestTasks abilityId s.file ≤ abilityTaskMaxNum
  unready : s.isSysReady = false → ∀ key, s.taskAt key = none

theorem isRequestOf_congr {old record : ContinuousTaskRecord}
    (same : ContinuousTaskRecord.SameTask old record) (abilityId : Int) :
    isRequestOf abilityId record = isRequestOf abilityId old := by
  unfold isRequestOf
  rw [same.abilityId, same.isByRequestObject]

theorem requestTasks_le {before after : TaskMap} (abilityId : Int)
    (origin : ∀ key record, after.lookup key = some record →
      ∃ old, before.lookup key = some old ∧ ContinuousTaskRecord.SameTask old record) :
    requestTasks abilityId after ≤ requestTasks abilityId before := by
  apply KeyedMap.countP_vals_le
  intro key record found isRequest
  obtain ⟨old, stored, same⟩ := origin key record found
  exact ⟨old, stored, (isRequestOf_congr same abilityId).symm.trans isRequest⟩

theorem Limited.of_traces {before after : BgContinuousTaskMgr} (limited : Limited before)
    (traces : Traces before after) (ready : after.isSysReady = before.isSysReady) :
    Limited after := by
  refine ⟨fun abilityId => (requestTasks_le abilityId traces.origin).trans
    (limited.tasks abilityId), ?_, ?_⟩
  · intro abilityId
    rcases traces.file with kept | written
    · rw [kept]
      exact limited.file abilityId
    · exact (requestTasks_le abilityId written).trans (limited.tasks abilityId)
  · intro notReady key
    rw [ready] at notReady
    refine Option.eq_none_iff_forall_ne_some.mpr ?_
    intro record found
    obtain ⟨old, stored, -⟩ := traces.origin key record found
    exact absurd ((limited.unready notReady key).symm.trans stored) (by simp)

theorem requestTasks_lt {s : BgContinuousTaskMgr} {record : ContinuousTaskRecord}
    (passed : s.checkAbilityTaskNum record = .ok) :
    requestTasks record.abilityId s.continuousTaskInfosMap < abilityTaskMaxNum := by
  rw [checkAbilityTaskNum_eq] at passed
  by_contra full
  rw [if_pos (not_lt.mp full)] at passed
  exact absurd passed (by simp)

theorem Limited.start {s : BgContinuousTaskMgr} (limited : Limited s) (env : Env)
    (record : ContinuousTaskRecord) (ready : s.isSysReady = true) :
    Limited (s.startBackgroundRunningInner env record).2 := by
  by_cases disabled : record.uid ∈ s.disableRequestUidList
  · rw [show s.startBackgroundRunningInner env record = (.maliciousContinuoustask, s) from
      if_pos disabled]
    exact limited
  by_cases allowed : s.allowApplyContinuousTask env record = .ok
  swap
  · unfold startBackgroundRunningInner
    rw [if_neg disabled, if_pos allowed]
    exact limited
  rw [startBackgroundRunningInner_of_allowed disabled allowed]
  have numbered : Limited s.nextTaskId := limited.of_traces (Traces.of_eq rfl rfl) rfl
  have start : Started (fun _ => True) (fun _ => True) (withNextId s record) s.nextTaskId
      (s.nextTaskId.startNumbered env (withNextId s record)).2 :=
    started_startNumbered env trivial
  cases start with
  | refused edits => exact numbered.of_traces (Edits.traces edits) (Edits.isSysReady edits)
  | @added middle _ stored edits keeps free saved =>
      have old := numbered.of_traces (Edits.traces edits) (Edits.isSysReady edits)
      have added : Limited (middle.addTask (taskInfoMapKey (withNextId s record)) stored) := by
        refine ⟨?_, old.file, ?_⟩
        · intro abilityId
          rw [requestTasks_addTask free]
          cases isRequest : isRequestOf abilityId stored with
          | false => simpa using old.tasks abilityId
          | true =>
              rw [isRequestOf_congr keeps.toSameTask] at isRequest
              simp only [isRequestOf, Bool.and_eq_true, beq_iff_eq] at isRequest
              obtain ⟨rfl, object⟩ := isRequest
              have few := requestTasks_lt (checkAbilityTaskNum_of_allowed object allowed)
              have fewer := requestTasks_le record.abilityId (Edits.traces edits).origin
              exact Nat.succ_le_of_lt (lt_of_le_of_lt fewer few)
        · intro notReady
          have running : (middle.addTask (taskInfoMapKey (withNextId s record))
            stored).isSysReady = true := (Edits.isSysReady edits).trans ready
          exact absurd (notReady.symm.trans running) (by simp)
      exact added.of_traces saved.traces saved.isSysReady

theorem Limited.taskStep {s : BgContinuousTaskMgr} (limited : Limited s) (label : Env × TaskOp) :
    Limited (s.taskStep label) := by
  have step : StepEffect (fun _ => True) s label.2 (s.taskStep label) :=
    taskStep_stepEffect label (fun _ _ _ _ _ _ => trivial)
  generalize s.taskStep label = after at step ⊢
  obtain ⟨env, op⟩ := label
  cases step with
  | edits edits => exact limited.of_traces (Edits.traces edits) (Edits.isSysReady edits)
  | start env record fresh ready => exact limited.start env record ready
  | cleared env =>
      exact limited.of_traces (traces_dumpCancelAll env) (dumpCancelAll_keeps env).2.1
  | addSubscriber info =>
      unfold BgContinuousTaskMgr.addSubscriber
      split
      · exact limited.of_traces (Traces.of_eq rfl rfl) rfl
      · exact limited.of_traces (Traces.of_eq rfl rfl) rfl
  | removeSubscriber remote flag => exact limited.of_traces (Traces.of_eq rfl rfl) rfl
  | subscriberDied remote =>
      unfold onRemoteSubscriberDied
      split
      · exact limited.of_traces (Traces.of_eq rfl rfl) rfl
      · exact limited

theorem Limited.initRequiredResourceInfo {s : BgContinuousTaskMgr} (limited : Limited s)
    (env : Env) (notReady : s.isSysReady = false) : Limited (s.initRequiredResourceInfo env) := by
  have loaded : ∀ abilityId, requestTasks abilityId
      (s.restoreTaskRecord env).continuousTaskInfosMap ≤ abilityTaskMaxNum := by
    intro abilityId
    refine (requestTasks_le abilityId ?_).trans (limited.file abilityId)
    intro key record found
    exact ⟨record, (taskAt_restoreTaskRecord (limited.unready notReady) found).2,
      ContinuousTaskRecord.SameTask.refl record⟩
  have file : (s.restoreTaskRecord env).file = s.file := by
    unfold restoreTaskRecord
    split
    · rfl
    · rfl
  have traces := traces_initRequiredResourceInfo s env
  refine ⟨fun abilityId => (requestTasks_le abilityId traces.origin).trans (loaded abilityId),
    ?_, fun still => absurd still (by simp [BgContinuousTaskMgr.initRequiredResourceInfo])⟩
  intro abilityId
  rcases traces.file with kept | written
  · rw [kept, file]
    exact limited.file abilityId
  · exact (requestTasks_le abilityId written).trans (loaded abilityId)

theorem Limited.serviceStep {s : BgContinuousTaskMgr} (limited : Limited s)
    (label : Env × ServiceOp) : Limited (s.serviceStep label) := by
  obtain ⟨env, op⟩ := label
  cases op with
  | task op => exact limited.taskStep (env, op)
  | initRequiredResourceInfo =>
      show Limited (if s.isSysReady then s else s.initRequiredResourceInfo env)
      split
      · exact limited
      · rename_i notReady
        exact limited.initRequiredResourceInfo env (by simpa using notReady)
  | restart =>
      exact ⟨fun _ => Nat.zero_le _, limited.file, fun _ => AList.lookup_empty⟩

theorem limited_run (hash : String → Nat) (labels : List (Env × ServiceOp)) :
    Limited (StepSystem.run serviceStep (installed hash) labels) :=
  StepSystem.run_preserves (fun _ label limited => limited.serviceStep label) labels
    (installed hash) ⟨fun _ => Nat.zero_le _, fun _ => Nat.zero_le _, fun _ => AList.lookup_empty⟩

/-- Whether the start of a request object is refused for the limit comes out alike in every
state with the same tasks of the app. -/
def RefusalIsOwn (env : Env) (record : ContinuousTaskRecord) (s : BgContinuousTaskMgr) : Prop :=
  ∀ other, KeysOwned other → SameOwn record.uid s other →
    record.uid ∉ other.disableRequestUidList →
      ((other.startBackgroundRunningInner env record).1 = .continuousNotApplyMaxTask ↔
        (s.startBackgroundRunningInner env record).1 = .continuousNotApplyMaxTask)

theorem refusalIsOwn_iff {env : Env} {s : BgContinuousTaskMgr} {record : ContinuousTaskRecord}
    (owned : KeysOwned s) (object : record.isByRequestObject = true)
    (enabled : record.uid ∉ s.disableRequestUidList)
    (launched : env.isGamePreLaunchApp record.uid = false) :
    RefusalIsOwn env record s ↔
      abilityTaskMaxNum ≤ ownTasks record.uid record.abilityId s.continuousTaskInfosMap := by
  rw [← checkIsOwn_iff owned]
  have verdict : ∀ other : BgContinuousTaskMgr,
      other.checkAbilityTaskNum record = s.checkAbilityTaskNum record ↔
        (other.checkAbilityTaskNum record = .continuousNotApplyMaxTask ↔
          s.checkAbilityTaskNum record = .continuousNotApplyMaxTask) := by
    intro other
    rw [checkAbilityTaskNum_eq, checkAbilityTaskNum_eq]
    split <;> split <;> simp
  constructor
  · intro same other ownedOther sameOwn
    -- the check does not read the list of disabled apps
    have enabledOther := same { other with disableRequestUidList := [] }
      ⟨ownedOther.tasks, ownedOther.file⟩ sameOwn (by simp)
    rw [start_maxTask_iff object (by simp) launched,
      start_maxTask_iff object enabled launched] at enabledOther
    exact (verdict other).mpr enabledOther
  · intro same other ownedOther sameOwn enabledOther
    rw [start_maxTask_iff object enabledOther launched,
      start_maxTask_iff object enabled launched]
    exact (verdict other).mp (same other ownedOther sameOwn)

/-- No ability of an app has more than ten request objects in any run; and the tasks of other
apps have no say in the check of a request object, and in the refusal of its start for the
limit, exactly when the app has ten request objects with the ability id itself. -/
theorem abilityTaskLimit (hash : String → Nat) (labels : List (Env × ServiceOp)) :
    (∀ uid abilityId, ownTasks uid abilityId
        (StepSystem.run serviceStep (installed hash) labels).continuousTaskInfosMap ≤
          abilityTaskMaxNum) ∧
      ∀ s, KeysOwned s → ∀ record : ContinuousTaskRecord,
        (CheckIsOwn record s ↔ abilityTaskMaxNum ≤
          ownTasks record.uid record.abilityId s.continuousTaskInfosMap) ∧
        ∀ env : Env, record.isByRequestObject = true →
          record.uid ∉ s.disableRequestUidList → env.isGamePreLaunchApp record.uid = false →
            (RefusalIsOwn env record s ↔ abilityTaskMaxNum ≤
              ownTasks record.uid record.abilityId s.continuousTaskInfosMap) := by
  refine ⟨?_, fun s owned record => ⟨checkIsOwn_iff owned record, ?_⟩⟩
  · intro uid abilityId
    have all := (limited_run hash labels).tasks abilityId
    rw [requestTasks_eq uid] at all
    exact (Nat.le_add_right _ _).trans all
  · intro env object enabled launched
    exact refusalIsOwn_iff owned object enabled launched

def fullRun : List (Env × ServiceOp) :=
  (deviceEnv, .initRequiredResourceInfo) :: List.replicate abilityTaskMaxNum
    ((deviceStart 200 (requestOf [BackgroundMode.location] [2])).1,
      .task (deviceStart 200 (requestOf [BackgroundMode.location] [2])).2)

def requestObject (uid continuousTaskId : Int) : ContinuousTaskRecord :=
  { uid := uid, abilityName := "EntryAbility", abilityId := 1, isByRequestObject := true
    continuousTaskId := continuousTaskId }

/-- The next request of the app 200 is refused whatever other apps run. -/
theorem abilityTaskLimit_full :
    CheckIsOwn (requestObject 200 0)
        (StepSystem.run serviceStep (installed (fun _ => 0)) fullRun) ∧
      RefusalIsOwn deviceEnv (requestObject 200 0)
        (StepSystem.run serviceStep (installed (fun _ => 0)) fullRun) := by
  have full : abilityTaskMaxNum ≤ ownTasks (requestObject 200 0).uid (requestObject 200 0).abilityId
      (StepSystem.run serviceStep (installed (fun _ => 0)) fullRun).continuousTaskInfosMap := by
    decide
  have limit := (abilityTaskLimit (fun _ => 0) fullRun).2 _ (keysOwned_run (fun _ => 0) fullRun)
    (requestObject 200 0)
  exact ⟨limit.1.mpr full, (limit.2 deviceEnv rfl (by decide) rfl).mpr full⟩

def runningTasks (uid : Int) (ids : List Int) : BgContinuousTaskMgr :=
  { isSysReady := true
    continuousTaskInfosMap := ids.foldl (fun tasks id =>
      tasks.insert (taskInfoMapKey (requestObject uid id)) (requestObject uid id)) ∅ }

/-- The app 100 has no task and may start one, until the app 200 has ten. -/
theorem other_app_reaches_limit :
    ∃ (env : Env) (s other : BgContinuousTaskMgr) (record : ContinuousTaskRecord),
      SameOwn record.uid s other ∧ s.checkAbilityTaskNum record = .ok ∧
        other.checkAbilityTaskNum record = .continuousNotApplyMaxTask ∧
        (other.startBackgroundRunningInner env record).1 = .continuousNotApplyMaxTask := by
  refine ⟨{}, runningTasks 200 [], runningTasks 200 [1, 2, 3, 4, 5, 6, 7, 8, 9, 10],
    requestObject 100 0, ?_, by decide, by decide, by decide⟩
  intro key record own
  have foreign : ∀ task ∈ KeyedMap.vals
      (runningTasks 200 [1, 2, 3, 4, 5, 6, 7, 8, 9, 10]).continuousTaskInfosMap,
      task.uid = 200 := by decide
  constructor
  · intro found
    simp [runningTasks, taskAt] at found
  · intro found
    have other := foreign record (KeyedMap.mem_vals.mpr ⟨key, found⟩)
    rw [own] at other
    exact absurd other (by decide)

end BgTaskMgr.Continuous
