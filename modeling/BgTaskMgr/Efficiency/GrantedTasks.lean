import BgTaskMgr.Efficiency.CpuLevels

/-!
# What a granted request posts

`ApplyEfficiencyResources` filters the requested mask through the list of the app and posts the
rest as one task or, for a process request, as one task for each of the two maps.  The tasks
together ask for what is requested and permitted.
-/

set_option autoImplicit false

namespace BgTaskMgr.Efficiency

open Bitmask

namespace BgEfficiencyResourcesMgr

/-- The task that `SendResourceApplyTask` posts for an apply. -/
def applyTask (uid pid : Int) (bundleName : String) (resourceInfo : EfficiencyResourceInfo) :
    HandlerTask :=
  .applyEfficiencyResourcesInner
    (ResourceCallbackInfo.setCpuLevel resourceInfo.cpuLevel
      { uid := uid, pid := pid, resourceNumber := resourceInfo.resourceNumber
        bundleName := bundleName }) resourceInfo

/-- The requests that `ApplyResourceForPkgAndProc` makes of one. -/
def splitRequest (preAppCpuLevel : Int) (resourceInfo : EfficiencyResourceInfo) :
    List EfficiencyResourceInfo :=
  if !resourceInfo.isProcess then [resourceInfo]
  else
    (if resourceInfo.resourceNumber &&& ResourceType.cpu ≠ 0#32 then
      [{ resourceInfo with resourceNumber := ResourceType.cpu }] else []) ++
    (if resourceInfo.resourceNumber &&& ~~~ResourceType.cpu ≠ 0#32 then
      [{ resourceInfo with
          resourceNumber := resourceInfo.resourceNumber &&& ~~~ResourceType.cpu
          isProcess := false
          cpuLevel := preAppCpuLevel }] else [])

def permittedNumber (env : Env) (uid : Int) (resourceInfo : EfficiencyResourceInfo) :
    ResourceNumber :=
  getExemptedResourceType env resourceInfo.resourceNumber uid (env.bundleNameForUid uid)

def grantedRequest (env : Env) (uid : Int) (resourceInfo : EfficiencyResourceInfo) :
    EfficiencyResourceInfo :=
  { (checkIfCanApplyCpuLevel env resourceInfo (env.bundleNameForUid uid)).2 with
    resourceNumber := permittedNumber env uid resourceInfo }

def grantedTasks (env : Env) (uid pid : Int) (resourceInfo : EfficiencyResourceInfo)
    (self : BgEfficiencyResourcesMgr) : List (HandlerTask × Int) :=
  (splitRequest (self.getPreAppCpuLevel uid) (grantedRequest env uid resourceInfo)).map
    (fun request => (applyTask uid pid (env.bundleNameForUid uid) request, env.now))

/-! ## The posted tasks -/

section

variable {env : Env} {self : BgEfficiencyResourcesMgr} {uid pid : Int}
  {resourceInfo : EfficiencyResourceInfo}

theorem sendResourceApplyTask_of_apply (asks : resourceInfo.isApply = true)
    (bundleName : String) :
    self.sendResourceApplyTask env uid pid bundleName resourceInfo =
      self.postTask (applyTask uid pid bundleName resourceInfo) env.now := by
  unfold sendResourceApplyTask
  rw [if_pos asks]
  rfl

theorem applyResourceForPkgAndProc_of_apply (asks : resourceInfo.isApply = true)
    (bundleName : String) :
    self.applyResourceForPkgAndProc env uid pid bundleName resourceInfo =
      { self with
        pending := self.pending ++ (splitRequest (self.getPreAppCpuLevel uid) resourceInfo).map
          (fun request => (applyTask uid pid bundleName request, env.now)) } := by
  have sends : ∀ (mgr : BgEfficiencyResourcesMgr) (request : EfficiencyResourceInfo),
      request.isApply = true → mgr.sendResourceApplyTask env uid pid bundleName request =
        { mgr with
          pending := mgr.pending ++ [(applyTask uid pid bundleName request, env.now)] } :=
    fun _ _ isApply => sendResourceApplyTask_of_apply isApply bundleName
  have cpuSent := sends self { resourceInfo with resourceNumber := ResourceType.cpu } asks
  have restSent := fun (mgr : BgEfficiencyResourcesMgr) (cpuLevel : Int) =>
    sends mgr { resourceInfo with
      resourceNumber := resourceInfo.resourceNumber &&& ~~~ResourceType.cpu
      isProcess := false
      cpuLevel := cpuLevel } asks
  unfold applyResourceForPkgAndProc splitRequest
  dsimp only
  by_cases forApp : (!resourceInfo.isProcess) = true
  · rw [if_pos forApp, if_pos forApp]
    exact sends self resourceInfo asks
  · rw [if_neg forApp, if_neg forApp]
    by_cases cpu : resourceInfo.resourceNumber &&& ResourceType.cpu ≠ 0#32
    · rw [if_pos cpu, if_pos cpu, cpuSent]
      by_cases rest : resourceInfo.resourceNumber &&& ~~~ResourceType.cpu ≠ 0#32
      · rw [if_pos rest, if_pos rest, restSent]
        simp [getPreAppCpuLevel]
      · rw [if_neg rest, if_neg rest]
        simp
    · rw [if_neg cpu, if_neg cpu]
      by_cases rest : resourceInfo.resourceNumber &&& ~~~ResourceType.cpu ≠ 0#32
      · rw [if_pos rest, if_pos rest, restSent]
        simp
      · rw [if_neg rest, if_neg rest]
        simp

theorem isApply_checkIfCanApplyCpuLevel (bundleName : String) :
    (checkIfCanApplyCpuLevel env resourceInfo bundleName).2.isApply = resourceInfo.isApply := by
  unfold checkIfCanApplyCpuLevel
  repeat' split
  all_goals rfl

theorem isProcess_checkIfCanApplyCpuLevel (bundleName : String) :
    (checkIfCanApplyCpuLevel env resourceInfo bundleName).2.isProcess =
      resourceInfo.isProcess := by
  unfold checkIfCanApplyCpuLevel
  repeat' split
  all_goals rfl

theorem applyEfficiencyResources_cases (asks : resourceInfo.isApply = true) :
    ((self.applyEfficiencyResources env uid pid resourceInfo).1 = .ok ∧
      (self.applyEfficiencyResources env uid pid resourceInfo).2 =
        { self with pending := self.pending ++ grantedTasks env uid pid resourceInfo self }) ∨
    ((self.applyEfficiencyResources env uid pid resourceInfo).1 ≠ .ok ∧
      (self.applyEfficiencyResources env uid pid resourceInfo).2 = self) := by
  have sameNumber := checkIfCanApplyCpuLevel_resourceNumber env resourceInfo
    (env.bundleNameForUid uid)
  have asksStill : (grantedRequest env uid resourceInfo).isApply = true :=
    (isApply_checkIfCanApplyCpuLevel (env.bundleNameForUid uid)).trans asks
  unfold applyEfficiencyResources
  dsimp only
  rw [sameNumber]
  split
  · simp
  split
  · simp
  split
  · simp
  split
  · simp
  split
  · rename_i refused
    exact Or.inr ⟨refused, rfl⟩
  split
  · simp
  split
  · simp
  · exact Or.inl ⟨rfl, applyResourceForPkgAndProc_of_apply asksStill (env.bundleNameForUid uid)⟩

/-! ## What a task adds -/

/-- Running the task adds the number to the record of the caller in one map, and no bit to any
other record. -/
def Grants (uid pid : Int) (grant : Bool × ResourceNumber) (entry : HandlerTask × Int) : Prop :=
  ∀ (mgr : BgEfficiencyResourcesMgr) (env : Env) (isProcess : Bool) (key : Int),
    heldNumber isProcess key (mgr.runTask env entry.1) =
      heldNumber isProcess key mgr |||
        if isProcess = grant.1 ∧ key = (if isProcess then pid else uid) then grant.2 else 0#32

theorem heldNumber_applyEfficiencyResourcesInner (callbackInfo : ResourceCallbackInfo)
    (info : EfficiencyResourceInfo) (isProcess : Bool) (key : Int) :
    heldNumber isProcess key (self.applyEfficiencyResourcesInner env callbackInfo info) =
      heldNumber isProcess key self |||
        if isProcess = info.isProcess ∧ key = callbackInfo.mapKey info.isProcess
          then callbackInfo.resourceNumber else 0#32 := by
  obtain ⟨cpuLevel, lookups⟩ := exists_lookup_applied self env callbackInfo info
  have number := appliedRecord_resourceNumber env callbackInfo info
    ((self.infoMap info.isProcess).lookup (callbackInfo.mapKey info.isProcess))
  unfold heldNumber
  rw [lookups]
  split
  · rename_i here
    rw [here.1, here.2]
    exact number
  · rw [BitVec.or_zero]

theorem grants_applyTask (bundleName : String) (request : EfficiencyResourceInfo) (due : Int) :
    Grants uid pid (request.isProcess, request.resourceNumber)
      (applyTask uid pid bundleName request, due) := by
  intro mgr env isProcess key
  unfold applyTask
  simp only [runTask]
  rw [heldNumber_applyEfficiencyResourcesInner]
  unfold ResourceCallbackInfo.setCpuLevel ResourceCallbackInfo.mapKey
  by_cases same : isProcess = request.isProcess
  · rw [same]
  · simp [same]

/-! ## What is permitted -/

/-- The list of the app permits the resource: 0 stands for all of them, `n` for the bit
`n - 1`. -/
def PermitsResource (resourcesApply : List Int) (index : Nat) : Prop :=
  0 ∈ resourcesApply ∨ index < maxResourcesTypeNum ∧ (index : Int) + 1 ∈ resourcesApply

instance (resourcesApply : List Int) (index : Nat) :
    Decidable (PermitsResource resourcesApply index) :=
  inferInstanceAs (Decidable (_ ∨ _))

theorem getLsbD_foldl_addExempted {resourcesApply : List Int} (some : 0 ∉ resourcesApply)
    (exempted : ResourceNumber) {index : Nat} (inside : index < 32) :
    (resourcesApply.foldl addExempted exempted).getLsbD index =
      (exempted.getLsbD index ||
        decide (index < maxResourcesTypeNum ∧ (index : Int) + 1 ∈ resourcesApply)) := by
  have most : maxResourcesTypeNum = 9 := rfl
  induction resourcesApply generalizing exempted with
  | nil => simp
  | cons resourceType rest ih =>
      have nonzero : resourceType ≠ 0 := fun zero => some (by simp [zero])
      have someRest : 0 ∉ rest := fun member => some (List.mem_cons_of_mem _ member)
      rw [List.foldl_cons, ih someRest]
      unfold addExempted
      split
      · rename_i skipped
        have other : index < maxResourcesTypeNum → (index : Int) + 1 ≠ resourceType := by
          rw [most] at skipped ⊢
          omega
        by_cases known : index < maxResourcesTypeNum
        · simp [known, other known]
        · simp [known]
      · rename_i kept
        rw [BitVec.getLsbD_or, getLsbD_bit inside]
        have same : index = (resourceType - 1).toNat ↔
            index < maxResourcesTypeNum ∧ (index : Int) + 1 = resourceType := by
          rw [most] at kept ⊢
          omega
        by_cases here : index = (resourceType - 1).toNat
        · obtain ⟨known, isType⟩ := same.mp here
          simp [here.symm, known, isType]
        · have other : ¬ (index < maxResourcesTypeNum ∧ (index : Int) + 1 = resourceType) :=
            fun both => here (same.mpr both)
          rw [decide_eq_false here, Bool.or_false]
          by_cases known : index < maxResourcesTypeNum
          · have notType : (index : Int) + 1 ≠ resourceType := fun isType => other ⟨known, isType⟩
            simp [known, notType]
          · simp [known]

theorem getLsbD_permittedNumber (index : Nat) :
    (permittedNumber env uid resourceInfo).getLsbD index =
      (resourceInfo.resourceNumber.getLsbD index &&
        decide (PermitsResource (env.resourcesApply uid (env.bundleNameForUid uid)) index)) := by
  by_cases inside : index < 32
  · unfold permittedNumber getExemptedResourceType PermitsResource
    dsimp only
    generalize env.resourcesApply uid (env.bundleNameForUid uid) = resourcesApply
    by_cases empty : resourcesApply = []
    · simp [empty]
    · rw [if_neg empty]
      by_cases all : 0 ∈ resourcesApply
      · simp [all]
      · rw [if_neg all, BitVec.getLsbD_and, getLsbD_foldl_addExempted all 0#32 inside]
        simp [all, Bool.and_comm]
  · rw [BitVec.getLsbD_of_ge _ _ (by omega), BitVec.getLsbD_of_ge _ _ (by omega)]
    rfl

/-! ## All grants of a request -/

def together (grants : List (Bool × ResourceNumber)) : ResourceNumber :=
  grants.foldr (fun grant number => grant.2 ||| number) 0#32

/-- A process takes the CPU of a process request alone, and the app the rest. -/
def SplitByMap (asksProcess : Bool) (grant : Bool × ResourceNumber) : Prop :=
  if grant.1 then asksProcess = true ∧ grant.2 = ResourceType.cpu
  else asksProcess = true → grant.2 &&& ResourceType.cpu = 0#32

theorem or_and_not_cpu (number : ResourceNumber) :
    (number &&& ResourceType.cpu) ||| (number &&& ~~~ResourceType.cpu) = number := by
  rw [← BitVec.and_or_distrib_left, BitVec.or_not_self, BitVec.and_allOnes]

theorem and_cpu_of_ne_zero {number : ResourceNumber}
    (held : number &&& ResourceType.cpu ≠ 0#32) :
    number &&& ResourceType.cpu = ResourceType.cpu := by
  have zeroth : ResourceType.cpu = bit 32 0 := rfl
  rw [zeroth, Ne, and_bit_eq_zero_iff (by decide), Bool.not_eq_false] at held
  rw [zeroth]
  refine BitVec.eq_of_getLsbD_eq (fun i inBounds => ?_)
  rw [BitVec.getLsbD_and, getLsbD_bit inBounds]
  by_cases first : i = 0
  · rw [first, held]
    rfl
  · simp [first]

theorem together_splitRequest (preAppCpuLevel : Int) (request : EfficiencyResourceInfo) :
    together ((splitRequest preAppCpuLevel request).map
      (fun part => (part.isProcess, part.resourceNumber))) = request.resourceNumber := by
  have whole := or_and_not_cpu request.resourceNumber
  unfold splitRequest together
  split
  · simp
  · split
    · rename_i cpu
      have isCpu := and_cpu_of_ne_zero cpu
      split
      · rw [isCpu] at whole
        simpa using whole
      · rename_i nothing
        rw [isCpu, not_not.mp nothing] at whole
        simpa using whole
    · rename_i noCpu
      split
      · rw [not_not.mp noCpu] at whole
        simpa using whole
      · rename_i nothing
        rw [not_not.mp noCpu, not_not.mp nothing] at whole
        simpa using whole

theorem splitByMap_splitRequest (preAppCpuLevel : Int) (request : EfficiencyResourceInfo) :
    ∀ part ∈ splitRequest preAppCpuLevel request,
      SplitByMap request.isProcess (part.isProcess, part.resourceNumber) := by
  intro part member
  unfold splitRequest at member
  split at member
  · rename_i forApp
    rw [Bool.not_eq_true'] at forApp
    rw [List.mem_singleton.mp member]
    simp [SplitByMap, forApp]
  · rename_i forProcess
    rw [Bool.not_eq_true', Bool.not_eq_false] at forProcess
    rcases List.mem_append.mp member with forCpu | forRest
    · split at forCpu
      · rw [List.mem_singleton.mp forCpu]
        simp [SplitByMap, forProcess]
      · cases forCpu
    · split at forRest
      · rw [List.mem_singleton.mp forRest]
        have noCpu : request.resourceNumber &&& ~~~ResourceType.cpu &&& ResourceType.cpu =
            0#32 := by
          rw [BitVec.and_assoc, BitVec.not_and_self]
          exact BitVec.and_zero
        simp [SplitByMap, noCpu]
      · cases forRest

/-- A refused request changes nothing.  A granted one posts tasks that add, together, what is
requested and permitted, whenever they run: a process record gets the CPU of a process request
alone, the app record then everything else, and every other record nothing. -/
theorem grants_requested_and_permitted {env : Env} {uid pid : Int}
    {resourceInfo : EfficiencyResourceInfo} (self : BgEfficiencyResourcesMgr)
    (asks : resourceInfo.isApply = true) :
    ((self.applyEfficiencyResources env uid pid resourceInfo).1 ≠ .ok →
      (self.applyEfficiencyResources env uid pid resourceInfo).2 = self) ∧
    ((self.applyEfficiencyResources env uid pid resourceInfo).1 = .ok →
      ∃ grants tasks,
        (self.applyEfficiencyResources env uid pid resourceInfo).2 =
          { self with pending := self.pending ++ tasks } ∧
        List.Forall₂ (Grants uid pid) grants tasks ∧
        (∀ index, (together grants).getLsbD index =
          (resourceInfo.resourceNumber.getLsbD index &&
            decide (PermitsResource (env.resourcesApply uid (env.bundleNameForUid uid)) index))) ∧
        ∀ grant ∈ grants, SplitByMap resourceInfo.isProcess grant) := by
  rcases @applyEfficiencyResources_cases env self uid pid resourceInfo asks with
    ⟨granted, posted⟩ | ⟨refused, unchanged⟩
  · refine ⟨fun refused => absurd granted refused, fun _ => ?_⟩
    refine ⟨(splitRequest (self.getPreAppCpuLevel uid) (grantedRequest env uid resourceInfo)).map
      (fun part => (part.isProcess, part.resourceNumber)), _, posted, ?_, ?_, ?_⟩
    · unfold grantedTasks
      rw [List.forall₂_map_left_iff, List.forall₂_map_right_iff, List.forall₂_same]
      intro part _
      exact grants_applyTask _ part env.now
    · intro index
      rw [together_splitRequest]
      exact getLsbD_permittedNumber index
    · intro grant member
      obtain ⟨part, partMember, rfl⟩ := List.mem_map.mp member
      have split := splitByMap_splitRequest _ _ part partMember
      have sameProcess : (grantedRequest env uid resourceInfo).isProcess =
          resourceInfo.isProcess :=
        isProcess_checkIfCanApplyCpuLevel (env.bundleNameForUid uid)
      rwa [sameProcess] at split
  · exact ⟨fun _ => unchanged, fun granted => absurd granted refused⟩

end

def onlyCpu : Env :=
  { quietEnv 2000 300000 with resourcesApply := fun _ _ => [40, 1, -3] }

def cpuAndTimer : EfficiencyResourceInfo where
  resourceNumber := ResourceType.cpu ||| ResourceType.timer
  isApply := true
  timeOut := 0
  reason := "sync"
  isPersist := true
  isProcess := true

theorem grants_cpu_alone :
    ∃ grants tasks,
      (applyEfficiencyResources onlyCpu 100 200 cpuAndTimer { isSysReady := true }).2.pending =
        tasks ∧
      List.Forall₂ (Grants 100 200) grants tasks ∧
      (together grants).getLsbD 0 = true ∧ (together grants).getLsbD 2 = false := by
  obtain ⟨grants, tasks, posted, each, bits, _⟩ :=
    (@grants_requested_and_permitted onlyCpu 100 200 cpuAndTimer { isSysReady := true } rfl).2
      (by decide)
  refine ⟨grants, tasks, ?_, each, ?_, ?_⟩
  · rw [posted]
    rfl
  · rw [bits]
    decide
  · rw [bits]
    decide

end BgEfficiencyResourcesMgr

end BgTaskMgr.Efficiency
