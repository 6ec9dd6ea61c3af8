import BgTaskMgr.Efficiency.GrantedTasks

/-!
# Granted CPU levels

A granted CPU request reaches its record through a posted task.  `ApplyEfficiencyResourcesInner`
writes the level, and tells it, only after the early return for a request that brings no new
resource.
-/

set_option autoImplicit false

namespace BgTaskMgr.Efficiency

open Bitmask StepSystem

namespace BgEfficiencyResourcesMgr

/-- The part of a granted request that carries its CPU level: a process record takes the CPU
alone. -/
def cpuRequest (env : Env) (uid : Int) (resourceInfo : EfficiencyResourceInfo) :
    EfficiencyResourceInfo :=
  { resourceInfo with
    resourceNumber := if resourceInfo.isProcess then ResourceType.cpu
      else permittedNumber env uid resourceInfo }

def cpuTask (env : Env) (uid pid : Int) (resourceInfo : EfficiencyResourceInfo) : HandlerTask :=
  applyTask uid pid (env.bundleNameForUid uid) (cpuRequest env uid resourceInfo)

/-- The record has the level, and the subscribers were told so. -/
def LevelInEffect (isProcess : Bool) (key level : Int) (mgr : BgEfficiencyResourcesMgr) : Prop :=
  (∃ record, (mgr.infoMap isProcess).lookup key = some record ∧ record.cpuLevel = level) ∧
    ∃ info, (applyType isProcess, info) ∈ mgr.events ∧ info.mapKey isProcess = key ∧
      info.cpuLevel = level

def LacksResource (isProcess : Bool) (key : Int) (number : ResourceNumber)
    (mgr : BgEfficiencyResourcesMgr) : Prop :=
  ∀ record, (mgr.infoMap isProcess).lookup key = some record →
    number &&& ~~~record.resourceNumber ≠ 0#32

/-! ## The posted task -/

section

variable {env : Env} {self : BgEfficiencyResourcesMgr} {uid pid : Int}
  {resourceInfo : EfficiencyResourceInfo}

theorem checkIfCanApplyCpuLevel_of_cpu
    (cpu : resourceInfo.resourceNumber &&& ResourceType.cpu = ResourceType.cpu)
    (bundleName : String) :
    (checkIfCanApplyCpuLevel env resourceInfo bundleName).2 = resourceInfo := by
  unfold checkIfCanApplyCpuLevel
  rw [if_neg (not_not_intro cpu)]
  repeat' split
  all_goals rfl

theorem cpu_of_permitted
    (permitted : permittedNumber env uid resourceInfo &&& ResourceType.cpu ≠ 0#32) :
    resourceInfo.resourceNumber &&& ResourceType.cpu = ResourceType.cpu := by
  have zeroth : ResourceType.cpu = bit 32 0 := rfl
  apply and_cpu_of_ne_zero
  rw [zeroth, Ne, and_bit_eq_zero_iff (by decide), Bool.not_eq_false] at permitted ⊢
  rw [getLsbD_permittedNumber, Bool.and_eq_true] at permitted
  exact permitted.1

theorem cpuTask_mem_grantedTasks
    (permitted : permittedNumber env uid resourceInfo &&& ResourceType.cpu ≠ 0#32) :
    (cpuTask env uid pid resourceInfo, env.now) ∈ grantedTasks env uid pid resourceInfo self := by
  have checked := @checkIfCanApplyCpuLevel_of_cpu env resourceInfo (cpu_of_permitted permitted)
    (env.bundleNameForUid uid)
  unfold grantedTasks
  apply List.mem_map.mpr
  refine ⟨cpuRequest env uid resourceInfo, ?_, rfl⟩
  unfold splitRequest grantedRequest cpuRequest
  rw [checked]
  cases isProcess : resourceInfo.isProcess with
  | false => simp [isProcess]
  | true => simp [permitted]

/-! ## What the task leaves -/

/-- A task that brings a new resource writes its level and tells it. -/
theorem applyEfficiencyResourcesInner_of_lacks {callbackInfo : ResourceCallbackInfo}
    {info : EfficiencyResourceInfo} (asks : callbackInfo.resourceNumber ≠ 0#32)
    (lacks : LacksResource info.isProcess (callbackInfo.mapKey info.isProcess)
      callbackInfo.resourceNumber self) :
    (∃ record : ResourceApplicationRecord,
        ((self.applyEfficiencyResourcesInner env callbackInfo info).infoMap
          info.isProcess).lookup (callbackInfo.mapKey info.isProcess) =
            some (record.setCpuLevel callbackInfo.cpuLevel)) ∧
      ∃ number, (self.applyEfficiencyResourcesInner env callbackInfo info).events =
        self.events ++
          [(applyType info.isProcess, { callbackInfo with resourceNumber := number })] := by
  have added : (appliedRecord env callbackInfo info ((self.infoMap info.isProcess).lookup
        (callbackInfo.mapKey info.isProcess))).resourceNumber ^^^
      ((((self.infoMap info.isProcess).lookup (callbackInfo.mapKey info.isProcess)).map
          (fun record => record.resourceNumber)).getD 0#32 &&&
        (appliedRecord env callbackInfo info ((self.infoMap info.isProcess).lookup
          (callbackInfo.mapKey info.isProcess))).resourceNumber) ≠ 0#32 := by
    rw [appliedRecord_resourceNumber, and_or_self, or_xor_self]
    cases found : (self.infoMap info.isProcess).lookup (callbackInfo.mapKey info.isProcess) with
    | none =>
        rw [Option.map_none, Option.getD_none, BitVec.not_zero, BitVec.and_allOnes]
        exact asks
    | some record => exact lacks record found
  obtain ⟨number, isNumber⟩ : ∃ number, number =
      (appliedRecord env callbackInfo info ((self.infoMap info.isProcess).lookup
        (callbackInfo.mapKey info.isProcess))).resourceNumber ^^^
      ((((self.infoMap info.isProcess).lookup (callbackInfo.mapKey info.isProcess)).map
          (fun record => record.resourceNumber)).getD 0#32 &&&
        (appliedRecord env callbackInfo info ((self.infoMap info.isProcess).lookup
          (callbackInfo.mapKey info.isProcess))).resourceNumber) := ⟨_, rfl⟩
  unfold applyEfficiencyResourcesInner
  dsimp only
  rw [if_neg added, ← isNumber]
  constructor
  · refine ⟨appliedRecord env callbackInfo info ((self.infoMap info.isProcess).lookup
      (callbackInfo.mapKey info.isProcess)), ?_⟩
    rw [infoMap_refreshResourceRecord, infoMap_setInfoMap, if_pos rfl, KeyedMap.lookup_insert,
      if_pos rfl]
  · refine ⟨number, ?_⟩
    rw [events_refreshResourceRecord, events_setInfoMap, events_onResourceChanged,
      events_postTimeOut]

/-- A task that brings none returns early: the level stays, and nothing is told. -/
theorem applyEfficiencyResourcesInner_of_held {callbackInfo : ResourceCallbackInfo}
    {info : EfficiencyResourceInfo} {record : ResourceApplicationRecord}
    (found : (self.infoMap info.isProcess).lookup (callbackInfo.mapKey info.isProcess) =
      some record)
    (held : callbackInfo.resourceNumber &&& ~~~record.resourceNumber = 0#32) :
    (∃ after, ((self.applyEfficiencyResourcesInner env callbackInfo info).infoMap
        info.isProcess).lookup (callbackInfo.mapKey info.isProcess) = some after ∧
          after.cpuLevel = record.cpuLevel) ∧
      (self.applyEfficiencyResourcesInner env callbackInfo info).events = self.events := by
  constructor
  · refine ⟨_, lookup_applyEfficiencyResourcesInner found, ?_⟩
    rw [if_pos ⟨rfl, rfl⟩]
    exact (cpuLevel_rewritten callbackInfo info record).mpr (Or.inl held)
  · have nothing : (appliedRecord env callbackInfo info (some record)).resourceNumber ^^^
        (record.resourceNumber &&&
          (appliedRecord env callbackInfo info (some record)).resourceNumber) = 0#32 := by
      have number := appliedRecord_resourceNumber env callbackInfo info (some record)
      rw [Option.map_some, Option.getD_some] at number
      rw [number, and_or_self, or_xor_self, held]
    unfold applyEfficiencyResourcesInner
    simp only [found, Option.map_some, Option.getD_some]
    rw [if_pos nothing, events_refreshResourceRecord, events_setInfoMap, events_postTimeOut]

/-- A level survives the check of `SetCpuLevel` when it is one of the enumeration. -/
theorem setCpuLevel_eq_iff (cpuLevel : Int) :
    (if EfficiencyResourcesCpuLevel.isCpuLevelValid cpuLevel then cpuLevel
      else EfficiencyResourcesCpuLevel.default) = cpuLevel ↔
      EfficiencyResourcesCpuLevel.isCpuLevelValid cpuLevel = true := by
  constructor
  · intro same
    by_contra invalid
    rw [if_neg invalid] at same
    rw [← same] at invalid
    exact invalid (by decide)
  · intro valid
    rw [if_pos valid]

theorem cpuLevel_setCpuLevel_of_checked {level checked : Int}
    (isChecked : checked = if EfficiencyResourcesCpuLevel.isCpuLevelValid level then level
      else EfficiencyResourcesCpuLevel.default) (record : ResourceApplicationRecord) :
    (record.setCpuLevel checked).cpuLevel = checked := by
  apply (setCpuLevel_eq_iff checked).mpr
  rw [isChecked]
  split
  · assumption
  · decide

/-- After a task that carries a level, the level is in effect when the task brought a new
resource, and otherwise when it was before. -/
theorem levelInEffect_applyEfficiencyResourcesInner_iff {callbackInfo : ResourceCallbackInfo}
    {info : EfficiencyResourceInfo} {level : Int} (asks : callbackInfo.resourceNumber ≠ 0#32)
    (carries : callbackInfo.cpuLevel =
      if EfficiencyResourcesCpuLevel.isCpuLevelValid level then level
      else EfficiencyResourcesCpuLevel.default) :
    LevelInEffect info.isProcess (callbackInfo.mapKey info.isProcess) level
        (self.applyEfficiencyResourcesInner env callbackInfo info) ↔
      (LacksResource info.isProcess (callbackInfo.mapKey info.isProcess)
          callbackInfo.resourceNumber self ∧
        EfficiencyResourcesCpuLevel.isCpuLevelValid level = true) ∨
      (¬ LacksResource info.isProcess (callbackInfo.mapKey info.isProcess)
          callbackInfo.resourceNumber self ∧
        LevelInEffect info.isProcess (callbackInfo.mapKey info.isProcess) level self) := by
  have survives := setCpuLevel_eq_iff level
  by_cases lacks : LacksResource info.isProcess (callbackInfo.mapKey info.isProcess)
      callbackInfo.resourceNumber self
  · have written := @applyEfficiencyResourcesInner_of_lacks env self callbackInfo info asks lacks
    obtain ⟨⟨record, stored⟩, number, told⟩ := written
    simp only [lacks, true_and, not_true_eq_false, false_and, or_false]
    constructor
    · intro inEffect
      obtain ⟨⟨after, found, isLevel⟩, _⟩ := inEffect
      rw [stored] at found
      rw [← Option.some.inj found] at isLevel
      rw [cpuLevel_setCpuLevel_of_checked carries, carries] at isLevel
      exact survives.mp isLevel
    · intro valid
      have sameLevel : callbackInfo.cpuLevel = level := carries.trans (survives.mpr valid)
      refine ⟨⟨_, stored, ?_⟩, { callbackInfo with resourceNumber := number }, ?_, rfl, sameLevel⟩
      · rw [cpuLevel_setCpuLevel_of_checked carries, sameLevel]
      · rw [told]
        exact List.mem_append_right _ (List.mem_singleton.mpr rfl)
  · have there : ∃ record, (self.infoMap info.isProcess).lookup
        (callbackInfo.mapKey info.isProcess) = some record ∧
          callbackInfo.resourceNumber &&& ~~~record.resourceNumber = 0#32 := by
      unfold LacksResource at lacks
      push Not at lacks
      exact lacks
    obtain ⟨record, found, held⟩ := there
    have kept := @applyEfficiencyResourcesInner_of_held env self callbackInfo info record found held
    obtain ⟨⟨after, stored, sameLevel⟩, told⟩ := kept
    simp only [lacks, false_and, false_or, not_false_eq_true, true_and]
    unfold LevelInEffect
    rw [told, stored, found]
    simp [sameLevel]

/-- A granted request with the CPU posts its CPU task.  In every state in which that runs, the
level is in effect afterwards when the task brings the record a new resource, the level being
one of the enumeration, and otherwise when it was in effect before. -/
theorem cpu_level_takes_effect_iff (self : BgEfficiencyResourcesMgr)
    (asks : resourceInfo.isApply = true)
    (granted : (self.applyEfficiencyResources env uid pid resourceInfo).1 = .ok)
    (permitted : permittedNumber env uid resourceInfo &&& ResourceType.cpu ≠ 0#32) :
    (∃ tasks, (self.applyEfficiencyResources env uid pid resourceInfo).2 =
        { self with pending := self.pending ++ tasks } ∧
      (cpuTask env uid pid resourceInfo, env.now) ∈ tasks) ∧
    ∀ (mgr : BgEfficiencyResourcesMgr) (later : Env) (index : Nat) (due : Int),
      mgr.pending[index]? = some (cpuTask env uid pid resourceInfo, due) →
      (LevelInEffect resourceInfo.isProcess (if resourceInfo.isProcess then pid else uid)
          resourceInfo.cpuLevel (mgr.step (later, .resource (.runPending index))) ↔
        (LacksResource resourceInfo.isProcess (if resourceInfo.isProcess then pid else uid)
            (cpuRequest env uid resourceInfo).resourceNumber mgr ∧
          EfficiencyResourcesCpuLevel.isCpuLevelValid resourceInfo.cpuLevel = true) ∨
        (¬ LacksResource resourceInfo.isProcess (if resourceInfo.isProcess then pid else uid)
            (cpuRequest env uid resourceInfo).resourceNumber mgr ∧
          LevelInEffect resourceInfo.isProcess (if resourceInfo.isProcess then pid else uid)
            resourceInfo.cpuLevel mgr)) := by
  constructor
  · rcases @applyEfficiencyResources_cases env self uid pid resourceInfo asks with
      ⟨_, posted⟩ | ⟨refused, _⟩
    · exact ⟨_, posted, cpuTask_mem_grantedTasks permitted⟩
    · exact absurd granted refused
  · intro mgr later index due taken
    have nonzero : (cpuRequest env uid resourceInfo).resourceNumber ≠ 0#32 := by
      unfold cpuRequest
      cases resourceInfo.isProcess with
      | false =>
          intro nothing
          simp only [Bool.false_eq_true, if_false] at nothing
          rw [nothing, BitVec.zero_and] at permitted
          exact permitted rfl
      | true => exact (by decide : ResourceType.cpu ≠ 0#32)
    simp only [step, resourceStep]
    rw [taken]
    exact @levelInEffect_applyEfficiencyResourcesInner_iff later
      { mgr with pending := mgr.pending.eraseIdx index }
      (ResourceCallbackInfo.setCpuLevel resourceInfo.cpuLevel
        { uid := uid, pid := pid
          resourceNumber := (cpuRequest env uid resourceInfo).resourceNumber
          bundleName := env.bundleNameForUid uid })
      (cpuRequest env uid resourceInfo) resourceInfo.cpuLevel nonzero rfl

end

def askCpu (cpuLevel : Int) : EfficiencyResourceInfo where
  resourceNumber := ResourceType.cpu
  isApply := true
  timeOut := 0
  reason := "sync"
  isPersist := true
  cpuLevel := cpuLevel

theorem cpu_level_takes_effect_first :
    LevelInEffect false 100 2
      ((({ isSysReady := true } : BgEfficiencyResourcesMgr).applyEfficiencyResources
        (quietEnv 2000 300000) 100 200 (askCpu 2)).2.step (quietEnv 2000 300000,
          .resource (.runPending 0))) := by
  have effect := (@cpu_level_takes_effect_iff (quietEnv 2000 300000) 100 200 (askCpu 2)
    { isSysReady := true } rfl (by decide) (by decide)).2
  apply (effect _ (quietEnv 2000 300000) 0 2000 rfl).mpr
  refine Or.inl ⟨?_, by decide⟩
  intro record found
  cases found

def raisedLevel : List (Env × ServiceOp) :=
  bootLabels 1000 300000 ++ [persistentApply ResourceType.cpu false 1, runAt 2000 0,
    persistentApply ResourceType.cpu false 2]

/-- The request for level 2 is granted, and its task leaves the record at level 1. -/
theorem cpu_level_not_raised :
    (run step {} raisedLevel).pending[0]? =
        some (cpuTask (quietEnv 2000 300000) 100 200 (askCpu 2), 2000) ∧
      ¬ LevelInEffect false 100 2
        ((run step {} raisedLevel).step (quietEnv 2000 300000, .resource (.runPending 0))) := by
  refine ⟨by decide, ?_⟩
  intro inEffect
  obtain ⟨⟨record, found, isLevel⟩, _⟩ := inEffect
  have kept : ((run step {} raisedLevel).step (quietEnv 2000 300000,
      .resource (.runPending 0))).appLevel 100 = some 1 := by
    decide
  unfold appLevel at kept
  rw [found, Option.map_some, isLevel] at kept
  cases kept

end BgEfficiencyResourcesMgr

end BgTaskMgr.Efficiency
