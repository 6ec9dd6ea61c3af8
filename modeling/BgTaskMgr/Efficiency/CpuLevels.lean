import BgTaskMgr.Efficiency.Grants
import BgTaskMgr.Lib.MarkedQueue

/-!
# The CPU level of a record

The level is read from the records when a client calls and written when the queued task
runs.  What a queued request without the CPU writes is settled by its call, so it leaves the
level of the app's record alone exactly when the record has that level by then, or when the
request brings nothing new.
-/

set_option autoImplicit false

namespace BgTaskMgr.Efficiency

open Bitmask StepSystem

/-! ## Calls -/

def storedLevel (cpuLevel : Int) : Int :=
  if EfficiencyResourcesCpuLevel.isCpuLevelValid cpuLevel then cpuLevel
  else EfficiencyResourcesCpuLevel.default

/-- A call of `ApplyEfficiencyResources`, with the level that the record of the app has when
the client calls. -/
structure ApplyCall where
  uid : Int
  resourceInfo : EfficiencyResourceInfo
  heldLevel : Int

/-- The level that a request without the CPU stands for: for a process the one that its app
holds at the call; for an app that named the CPU without being permitted the one it named, for
any other app none. -/
def ApplyCall.level (call : ApplyCall) : Int :=
  if call.resourceInfo.isProcess then call.heldLevel
  else if call.resourceInfo.resourceNumber &&& ResourceType.cpu = ResourceType.cpu then
    storedLevel call.resourceInfo.cpuLevel
  else EfficiencyResourcesCpuLevel.default

/-- What the call queues: the CPU alone for a process, the rest for the app. -/
def ApplyCall.Asks (call : ApplyCall) : HandlerTask → Prop
  | .applyEfficiencyResourcesInner callbackInfo resourceInfo =>
      (resourceInfo.isProcess = true → callbackInfo.resourceNumber = ResourceType.cpu) ∧
        (callbackInfo.resourceNumber &&& ResourceType.cpu = 0#32 →
          callbackInfo.uid = call.uid ∧ storedLevel callbackInfo.cpuLevel = call.level)
  | _ => True

def NoApply : HandlerTask → Prop
  | .applyEfficiencyResourcesInner _ _ => False
  | _ => True

namespace BgEfficiencyResourcesMgr

def heldLevel (uid : Int) (mgr : BgEfficiencyResourcesMgr) : Int :=
  ((mgr.appResourceApplyMap.lookup uid).map (fun record => storedLevel record.cpuLevel)).getD
    EfficiencyResourcesCpuLevel.default

def Queues (kind : HandlerTask → Prop) (before after : BgEfficiencyResourcesMgr) : Prop :=
  ∃ queued, after.pending = before.pending ++ queued ∧ ∀ entry ∈ queued, kind entry.1

section

variable {self : BgEfficiencyResourcesMgr} {env : Env} {kind : HandlerTask → Prop}

theorem queues_of_pending {after : BgEfficiencyResourcesMgr}
    (same : after.pending = self.pending) : Queues kind self after :=
  ⟨[], by rw [same, List.append_nil], fun _ member => absurd member List.not_mem_nil⟩

theorem Queues.refl (self : BgEfficiencyResourcesMgr) : Queues kind self self :=
  queues_of_pending rfl

theorem Queues.trans {middle after : BgEfficiencyResourcesMgr}
    (early : Queues kind self middle) (late : Queues kind middle after) :
    Queues kind self after := by
  obtain ⟨first, appended, ofKind⟩ := early
  obtain ⟨second, appended', ofKind'⟩ := late
  refine ⟨first ++ second, by rw [appended', appended, List.append_assoc], ?_⟩
  intro entry member
  rcases List.mem_append.mp member with old | new
  · exact ofKind entry old
  · exact ofKind' entry new

theorem queues_postTask {task : HandlerTask} (due : Int) (ofKind : kind task) :
    Queues kind self (self.postTask task due) := by
  refine ⟨[(task, due)], rfl, ?_⟩
  intro entry member
  rw [List.mem_singleton.mp member]
  exact ofKind

/-! ## What a call queues -/

theorem getPreAppCpuLevel_eq (uid : Int) (mgr : BgEfficiencyResourcesMgr) :
    mgr.getPreAppCpuLevel uid = mgr.heldLevel uid := by
  unfold getPreAppCpuLevel heldLevel storedLevel
  cases mgr.appResourceApplyMap.lookup uid with
  | none => rfl
  | some record => rfl

theorem storedLevel_storedLevel (cpuLevel : Int) :
    storedLevel (storedLevel cpuLevel) = storedLevel cpuLevel := by
  unfold storedLevel
  by_cases valid : EfficiencyResourcesCpuLevel.isCpuLevelValid cpuLevel = true
  · rw [if_pos valid, if_pos valid]
  · rw [if_neg valid]
    rfl

theorem storedLevel_heldLevel (uid : Int) (mgr : BgEfficiencyResourcesMgr) :
    storedLevel (mgr.heldLevel uid) = mgr.heldLevel uid := by
  unfold heldLevel
  cases mgr.appResourceApplyMap.lookup uid with
  | none => rfl
  | some record => exact storedLevel_storedLevel record.cpuLevel

theorem queues_sendResourceApplyTask {call : ApplyCall} {uid pid : Int} {bundleName : String}
    {resourceInfo : EfficiencyResourceInfo}
    (asks : resourceInfo.isProcess = true → resourceInfo.resourceNumber = ResourceType.cpu)
    (level : resourceInfo.resourceNumber &&& ResourceType.cpu = 0#32 →
      uid = call.uid ∧ storedLevel resourceInfo.cpuLevel = call.level) :
    Queues call.Asks self (self.sendResourceApplyTask env uid pid bundleName resourceInfo) := by
  unfold sendResourceApplyTask
  dsimp only
  split
  · refine queues_postTask env.now ⟨asks, fun noCpu => ⟨(level noCpu).1, ?_⟩⟩
    exact (storedLevel_storedLevel resourceInfo.cpuLevel).trans (level noCpu).2
  · exact queues_postTask env.now trivial

theorem queues_applyResourceForPkgAndProc {call : ApplyCall} {uid pid : Int}
    {bundleName : String} {resourceInfo : EfficiencyResourceInfo} (owner : uid = call.uid)
    (ofApp : resourceInfo.isProcess = false →
      resourceInfo.resourceNumber &&& ResourceType.cpu = 0#32 →
        storedLevel resourceInfo.cpuLevel = call.level)
    (ofProcess : resourceInfo.isProcess = true → self.heldLevel uid = call.level) :
    Queues call.Asks self
      (self.applyResourceForPkgAndProc env uid pid bundleName resourceInfo) := by
  unfold applyResourceForPkgAndProc
  split
  · rename_i notProcess
    have forApp : resourceInfo.isProcess = false := by simpa using notProcess
    exact queues_sendResourceApplyTask (fun isProcess => absurd isProcess (by simp [forApp]))
      (fun noCpu => ⟨owner, ofApp forApp noCpu⟩)
  · rename_i notApp
    have isProcess : resourceInfo.isProcess = true := by simpa using notApp
    let cpuSent := if resourceInfo.resourceNumber &&& ResourceType.cpu ≠ 0#32 then
        self.sendResourceApplyTask env uid pid bundleName
          { resourceInfo with resourceNumber := ResourceType.cpu } else self
    have cpu : Queues call.Asks self cpuSent ∧
        cpuSent.appResourceApplyMap = self.appResourceApplyMap := by
      unfold cpuSent
      split
      · refine ⟨queues_sendResourceApplyTask (fun _ => rfl) ?_, ?_⟩
        · intro (noCpu : ResourceType.cpu &&& ResourceType.cpu = 0#32)
          exact absurd noCpu (by decide)
        · unfold sendResourceApplyTask
          dsimp only
          split
          · rfl
          · rfl
      · exact ⟨Queues.refl self, rfl⟩
    have held : cpuSent.getPreAppCpuLevel uid = self.heldLevel uid := by
      rw [getPreAppCpuLevel_eq]
      unfold heldLevel
      rw [cpu.2]
    dsimp only
    split
    · refine cpu.1.trans (queues_sendResourceApplyTask
        (fun isProcess => absurd isProcess (by simp)) ?_)
      intro _
      refine ⟨owner, ?_⟩
      show storedLevel (cpuSent.getPreAppCpuLevel uid) = call.level
      rw [held, storedLevel_heldLevel]
      exact ofProcess isProcess
    · exact cpu.1

/-- The check of the level leaves the request to its app or process, and takes its level away
when it does not name the CPU. -/
theorem checkIfCanApplyCpuLevel_info (env : Env) (resourceInfo : EfficiencyResourceInfo)
    (bundleName : String) :
    (checkIfCanApplyCpuLevel env resourceInfo bundleName).2.isProcess = resourceInfo.isProcess ∧
      storedLevel (checkIfCanApplyCpuLevel env resourceInfo bundleName).2.cpuLevel =
        if resourceInfo.resourceNumber &&& ResourceType.cpu = ResourceType.cpu then
          storedLevel resourceInfo.cpuLevel
        else EfficiencyResourcesCpuLevel.default := by
  unfold checkIfCanApplyCpuLevel
  by_cases named : resourceInfo.resourceNumber &&& ResourceType.cpu = ResourceType.cpu
  · rw [if_neg (not_not.mpr named), if_pos named]
    grind
  · rw [if_pos named, if_neg named]
    exact ⟨rfl, rfl⟩

theorem queues_applyEfficiencyResources (uid pid : Int) (resourceInfo : EfficiencyResourceInfo) :
    Queues (ApplyCall.Asks ⟨uid, resourceInfo, self.heldLevel uid⟩) self
      (self.applyEfficiencyResources env uid pid resourceInfo).2 := by
  unfold applyEfficiencyResources
  split
  · exact Queues.refl self
  split
  · exact Queues.refl self
  split
  · exact Queues.refl self
  dsimp only
  split
  · exact Queues.refl self
  split
  · exact Queues.refl self
  split
  · exact Queues.refl self
  split
  · exact Queues.refl self
  obtain ⟨sameProcess, level⟩ :=
    checkIfCanApplyCpuLevel_info env resourceInfo (env.bundleNameForUid uid)
  refine queues_applyResourceForPkgAndProc rfl ?_ ?_
  · intro forApp _
    have ofApp : resourceInfo.isProcess = false := sameProcess.symm.trans forApp
    unfold ApplyCall.level
    rw [if_neg (by simp [ofApp])]
    exact level
  · intro isProcess
    unfold ApplyCall.level
    rw [if_pos (sameProcess.symm.trans isProcess)]

/-! ## What the other operations queue -/

theorem queues_resetAllEfficiencyResources (uid pid : Int) :
    Queues NoApply self (self.resetAllEfficiencyResources env uid pid).2 := by
  unfold resetAllEfficiencyResources
  split
  · exact Queues.refl self
  split
  · exact Queues.refl self
  dsimp only
  split
  · exact Queues.refl self
  split
  · exact Queues.refl self
  · exact queues_postTask env.now trivial

theorem queues_removeRelativeProcessRecord (uid : Int) (resourceNumber : ResourceNumber) :
    Queues NoApply self (self.removeRelativeProcessRecord env uid resourceNumber) := by
  unfold removeRelativeProcessRecord
  generalize KeyedMap.vals self.procResourceApplyMap = records
  induction records generalizing self with
  | nil => exact queues_of_pending rfl
  | cons record rest ih =>
      refine Queues.trans ?_ ih
      unfold postRelativeReset
      split
      · exact queues_postTask env.now trivial
      · exact queues_of_pending rfl

theorem pending_removeTargetResourceRecord (isProcess : Bool) (mapKey : Int)
    (callbackInfo : ResourceCallbackInfo) :
    (self.removeTargetResourceRecord isProcess mapKey callbackInfo).pending = self.pending := by
  unfold removeTargetResourceRecord
  dsimp only
  split
  · rfl
  split
  · rfl
  · exact pending_eraseBits _ _ _ _ _

theorem pending_dumpResetMap (isProcess : Bool) :
    (self.dumpResetMap isProcess).pending = self.pending := by
  unfold dumpResetMap
  rw [pending_setInfoMap]
  generalize KeyedMap.vals (self.infoMap isProcess) = records
  induction records generalizing self with
  | nil => rfl
  | cons record rest ih => exact ih

theorem pending_shellDump (dumpOption : DumpOption) :
    (self.shellDump env dumpOption).pending = self.pending := by
  unfold shellDump
  split
  · rfl
  · rw [pending_refreshResourceRecord]
    split
    · exact (pending_dumpResetMap true).trans (pending_dumpResetMap false)
    · unfold dumpResetOne
      split
      · rfl
      · exact pending_removeTargetResourceRecord _ _ _
    · rfl
    · rfl

theorem queues_runTask (task : HandlerTask) : Queues NoApply self (self.runTask env task) := by
  cases task with
  | applyEfficiencyResourcesInner callbackInfo resourceInfo =>
      have posted : Queues NoApply self (self.postTimeOut env
          (callbackInfo.mapKey resourceInfo.isProcess) resourceInfo) := by
        unfold postTimeOut
        split
        · exact queues_of_pending rfl
        · exact queues_postTask _ trivial
      simp only [runTask, applyEfficiencyResourcesInner]
      split
      · refine posted.trans (queues_of_pending ?_)
        rw [pending_refreshResourceRecord, pending_setInfoMap]
      · refine posted.trans (queues_of_pending ?_)
        rw [pending_refreshResourceRecord, pending_setInfoMap]
        rfl
  | resetEfficiencyResourcesInner callbackInfo isProcess =>
      simp only [runTask, resetEfficiencyResourcesInner]
      refine Queues.trans ?_ (queues_of_pending (pending_refreshResourceRecord _ env))
      split
      · exact queues_of_pending (pending_removeTargetResourceRecord true _ _)
      · exact (queues_of_pending (pending_removeTargetResourceRecord false _ _)).trans
          (queues_removeRelativeProcessRecord _ _)
  | resetTimeOutResource mapKey isProcess =>
      simp only [runTask, resetTimeOutResource]
      split
      · exact queues_of_pending rfl
      split
      · exact queues_of_pending rfl
      · exact queues_of_pending (pending_eraseBits _ _ _ _ _)

theorem queues_recoverDelayedTask (isProcess : Bool) :
    Queues NoApply self (self.recoverDelayedTask env isProcess) := by
  refine ⟨_, rfl, ?_⟩
  intro entry member
  obtain ⟨_, _, posted⟩ := List.mem_flatMap.mp member
  obtain ⟨_, _, rfl⟩ := List.mem_map.mp posted
  trivial

theorem queues_restoreData : Queues NoApply self (self.restoreData env) := by
  have recovered : (((self.restoreResourceRecord env).checkPersistenceData
      env).recoverResourceNumber env).pending = self.pending := by
    unfold recoverResourceNumber restoreResourceRecord
    split
    · split
      · rfl
      · rfl
    · split
      · rfl
      · rfl
  unfold restoreData
  refine Queues.trans ?_ (queues_of_pending (pending_refreshResourceRecord _ env))
  exact ((queues_of_pending recovered).trans (queues_recoverDelayedTask true)).trans
    (queues_recoverDelayedTask false)

theorem queues_onAddSystemAbility (ability : DependedAbility) :
    Queues NoApply self (self.onAddSystemAbility env ability) := by
  unfold onAddSystemAbility
  dsimp only
  split
  · unfold initNecessaryState
    split
    · exact queues_of_pending rfl
    · have handled : Queues NoApply { self with dependsReady := self.dependsReady.insert ability }
          (handlePersistenceData env
            { self with dependsReady := self.dependsReady.insert ability }) := by
        unfold handlePersistenceData
        split
        · dsimp only
          split
          · exact queues_of_pending (pending_refreshResourceRecord _ env)
          · exact queues_restoreData
        · exact queues_restoreData
      exact handled
  · exact queues_of_pending rfl

/-! ## Queued requests and their calls -/

structure Called where
  mgr : BgEfficiencyResourcesMgr := {}
  calls : List (Option ApplyCall) := []

def callOf (mgr : BgEfficiencyResourcesMgr) : Env × ServiceOp → Option ApplyCall
  | (_, .resource (.applyEfficiencyResources uid _ resourceInfo)) =>
      some ⟨uid, resourceInfo, mgr.heldLevel uid⟩
  | _ => none

def waiting {α : Type} (entries : List α) : Env × ServiceOp → List α
  | (_, .resource (.runPending index)) => entries.eraseIdx index
  | (_, .restart) => []
  | _ => entries

/-- A step marks the tasks that it queues with its call. -/
def Called.step (called : Called) (label : Env × ServiceOp) : Called :=
  let after := called.mgr.step label
  let left := waiting called.calls label
  { mgr := after
    calls := left ++ List.replicate (after.pending.length - left.length)
      (called.mgr.callOf label) }

def Asked (entry : HandlerTask × Int) : Option ApplyCall → Prop
  | some call => call.Asks entry.1
  | none => NoApply entry.1

theorem queues_step (label : Env × ServiceOp) :
    ∃ queued, (self.step label).pending = waiting self.pending label ++ queued ∧
      ∀ entry ∈ queued, Asked entry (self.callOf label) := by
  have service : ∀ {before after : BgEfficiencyResourcesMgr}, Queues NoApply before after →
      ∃ queued, after.pending = before.pending ++ queued ∧
        ∀ entry ∈ queued, Asked entry none := fun queues => queues
  obtain ⟨env, op⟩ := label
  cases op with
  | resource op =>
      cases op with
      | applyEfficiencyResources uid pid resourceInfo =>
          exact queues_applyEfficiencyResources uid pid resourceInfo
      | resetAllEfficiencyResources uid pid =>
          exact service (queues_resetAllEfficiencyResources uid pid)
      | removeAppRecord uid bundleName resetAll =>
          refine service ?_
          simp only [step, resourceStep, removeAppRecord]
          split
          · exact Queues.refl self
          · have own : NoApply (.resetEfficiencyResourcesInner
              { uid := uid, pid := 0, bundleName := bundleName,
                resourceNumber := if resetAll then maxResourceMask else diedMask } false) :=
              trivial
            exact queues_postTask env.now own
      | removeProcessRecord uid pid bundleName =>
          refine service ?_
          simp only [step, resourceStep, removeProcessRecord]
          split
          · exact Queues.refl self
          · have own : NoApply (.resetEfficiencyResourcesInner
              { uid := uid, pid := pid, resourceNumber := diedMask
                bundleName := bundleName } true) := trivial
            exact queues_postTask env.now own
      | shellDump dumpOption =>
          exact service (queues_of_pending (pending_shellDump dumpOption))
      | runPending index =>
          simp only [step, resourceStep]
          split
          · rename_i missing
            refine ⟨[], ?_, fun _ member => absurd member List.not_mem_nil⟩
            rw [List.append_nil]
            exact (List.eraseIdx_of_length_le (List.getElem?_eq_none_iff.mp missing)).symm
          · rename_i task due taken
            exact service
              (@queues_runTask { self with pending := self.pending.eraseIdx index } env task)
  | addSystemAbility ability => exact service (queues_onAddSystemAbility ability)
  | removeSystemAbility ability =>
      refine service ?_
      simp only [step, onRemoveSystemAbility]
      split
      · exact queues_of_pending rfl
      · exact queues_of_pending rfl
  | restart => exact ⟨[], rfl, fun _ member => absurd member List.not_mem_nil⟩

def CallsKnown (called : Called) : Prop :=
  List.Forall₂ Asked called.mgr.pending called.calls

theorem callsKnown_step {called : Called} (known : CallsKnown called) (label : Env × ServiceOp) :
    CallsKnown (called.step label) := by
  obtain ⟨queued, appended, asked⟩ := @queues_step called.mgr label
  have left : List.Forall₂ Asked (waiting called.mgr.pending label)
      (waiting called.calls label) := by
    unfold waiting
    split
    · exact MarkedQueue.eraseIdx known _
    · exact .nil
    · exact known
  unfold CallsKnown Called.step
  dsimp only
  rw [appended, List.length_append, ← left.length_eq, Nat.add_sub_cancel_left]
  exact List.rel_append left (MarkedQueue.replicate asked)

/-- A waiting request without the CPU is for the app of its call, at the level of the call. -/
theorem call_of_pending {called : Called} (known : CallsKnown called) {index : Nat} {due : Int}
    {callbackInfo : ResourceCallbackInfo} {resourceInfo : EfficiencyResourceInfo}
    (taken : called.mgr.pending[index]? =
      some (.applyEfficiencyResourcesInner callbackInfo resourceInfo, due))
    (noCpu : callbackInfo.resourceNumber &&& ResourceType.cpu = 0#32) :
    ∃ call, called.calls[index]? = some (some call) ∧ resourceInfo.isProcess = false ∧
      callbackInfo.uid = call.uid ∧ storedLevel callbackInfo.cpuLevel = call.level := by
  obtain ⟨mark, marked, asked⟩ := MarkedQueue.exists_mark known taken
  cases mark with
  | none => exact absurd asked id
  | some call =>
      refine ⟨call, marked, ?_, asked.2 noCpu⟩
      rw [← Bool.not_eq_true]
      intro isProcess
      rw [asked.1 isProcess] at noCpu
      exact absurd noCpu (by decide)

theorem or_xor_self (held asked : ResourceNumber) :
    (held ||| asked) ^^^ held = asked &&& ~~~held := by
  refine BitVec.eq_of_getLsbD_eq (fun i inBounds => ?_)
  simp only [BitVec.getLsbD_xor, BitVec.getLsbD_or, BitVec.getLsbD_and, BitVec.getLsbD_not,
    inBounds, decide_true, Bool.true_and]
  cases held.getLsbD i <;> cases asked.getLsbD i <;> rfl

/-- The record that an apply leaves where it finds one: the level is written when the request
brings a new resource. -/
def rewritten (env : Env) (callbackInfo : ResourceCallbackInfo)
    (resourceInfo : EfficiencyResourceInfo) (record : ResourceApplicationRecord) :
    ResourceApplicationRecord :=
  let applied := appliedRecord env callbackInfo resourceInfo (some record)
  if callbackInfo.resourceNumber &&& ~~~record.resourceNumber = 0#32 then applied
  else applied.setCpuLevel callbackInfo.cpuLevel

theorem lookup_applyEfficiencyResourcesInner {callbackInfo : ResourceCallbackInfo}
    {resourceInfo : EfficiencyResourceInfo} {isProcess : Bool} {key : Int}
    {record : ResourceApplicationRecord}
    (found : (self.infoMap isProcess).lookup key = some record) :
    ((self.applyEfficiencyResourcesInner env callbackInfo resourceInfo).infoMap isProcess).lookup
        key = some (if isProcess = resourceInfo.isProcess ∧
          key = callbackInfo.mapKey resourceInfo.isProcess
            then rewritten env callbackInfo resourceInfo record else record) := by
  by_cases here : isProcess = resourceInfo.isProcess ∧
      key = callbackInfo.mapKey resourceInfo.isProcess
  · rw [if_pos here]
    obtain ⟨rfl, rfl⟩ := here
    have number : (appliedRecord env callbackInfo resourceInfo (some record)).resourceNumber =
        record.resourceNumber ||| callbackInfo.resourceNumber := rfl
    have added : (record.resourceNumber ||| callbackInfo.resourceNumber) ^^^
        (record.resourceNumber &&& (record.resourceNumber ||| callbackInfo.resourceNumber)) =
          callbackInfo.resourceNumber &&& ~~~record.resourceNumber := by
      rw [and_or_self, or_xor_self]
    simp only [applyEfficiencyResourcesInner, rewritten, found, Option.map_some, Option.getD_some,
      number, added]
    split
    · rw [infoMap_refreshResourceRecord, infoMap_setInfoMap, if_pos rfl, KeyedMap.lookup_insert,
        if_pos rfl]
    · rw [infoMap_refreshResourceRecord, infoMap_setInfoMap, if_pos rfl, KeyedMap.lookup_insert,
        if_pos rfl]
  · obtain ⟨cpuLevel, lookups⟩ := exists_lookup_applied self env callbackInfo resourceInfo
    rw [lookups, if_neg here, if_neg here, found]

/-! ## Runs -/

def Handles (mgr : BgEfficiencyResourcesMgr) (label : Env × ServiceOp)
    (callbackInfo : ResourceCallbackInfo) (resourceInfo : EfficiencyResourceInfo) : Prop :=
  ∃ env index due, label = (env, .resource (.runPending index)) ∧
    mgr.pending[index]? = some (.applyEfficiencyResourcesInner callbackInfo resourceInfo, due)

def LevelsKept (before after : BgEfficiencyResourcesMgr) : Prop :=
  ∀ isProcess key record, (before.infoMap isProcess).lookup key = some record →
    ∃ kept, (after.infoMap isProcess).lookup key = some kept ∧ kept.cpuLevel = record.cpuLevel

def KeepsCpuLevels (mgr : BgEfficiencyResourcesMgr) (label : Env × ServiceOp) : Prop :=
  ∀ callbackInfo resourceInfo, Handles mgr label callbackInfo resourceInfo →
    callbackInfo.resourceNumber &&& ResourceType.cpu = 0#32 → LevelsKept mgr (mgr.step label)

/-- When a queued request without the CPU is handled, the record of its app has the level that
its call stands for, or the request brings nothing new. -/
def MeetsCalledLevel (called : Called) (label : Env × ServiceOp) : Prop :=
  ∀ index, label.2 = .resource (.runPending index) → ∀ callbackInfo resourceInfo due,
    called.mgr.pending[index]? = some (.applyEfficiencyResourcesInner callbackInfo resourceInfo,
      due) →
    callbackInfo.resourceNumber &&& ResourceType.cpu = 0#32 →
      ∀ call, called.calls[index]? = some (some call) →
        ∀ record, called.mgr.appResourceApplyMap.lookup call.uid = some record →
          callbackInfo.resourceNumber &&& ~~~record.resourceNumber = 0#32 ∨
            record.cpuLevel = call.level

theorem cpuLevel_rewritten (callbackInfo : ResourceCallbackInfo)
    (resourceInfo : EfficiencyResourceInfo) (record : ResourceApplicationRecord) :
    (rewritten env callbackInfo resourceInfo record).cpuLevel = record.cpuLevel ↔
      callbackInfo.resourceNumber &&& ~~~record.resourceNumber = 0#32 ∨
        (record.setCpuLevel callbackInfo.cpuLevel).cpuLevel = record.cpuLevel := by
  unfold rewritten
  dsimp only
  split
  · rename_i nothing
    exact ⟨fun _ => Or.inl nothing, fun _ => rfl⟩
  · rename_i something
    exact ⟨Or.inr, fun either => either.resolve_left something⟩

theorem keepsCpuLevels_iff {called : Called} (known : CallsKnown called)
    (label : Env × ServiceOp) :
    KeepsCpuLevels called.mgr label ↔ MeetsCalledLevel called label := by
  have stepped : ∀ env index due callbackInfo resourceInfo,
      called.mgr.pending[index]? =
        some (.applyEfficiencyResourcesInner callbackInfo resourceInfo, due) →
      resourceInfo.isProcess = false → ∀ isProcess key record,
        (called.mgr.infoMap isProcess).lookup key = some record →
          ((called.mgr.step (env, .resource (.runPending index))).infoMap isProcess).lookup key =
            some (if isProcess = false ∧ key = callbackInfo.uid
              then rewritten env callbackInfo resourceInfo record else record) := by
    intro env index due callbackInfo resourceInfo taken forApp isProcess key record found
    have run : called.mgr.step (env, .resource (.runPending index)) =
        { called.mgr with
          pending := called.mgr.pending.eraseIdx index }.applyEfficiencyResourcesInner env
            callbackInfo resourceInfo := by
      simp only [BgEfficiencyResourcesMgr.step, resourceStep]
      rw [taken]
      rfl
    have popped : (({ called.mgr with pending := called.mgr.pending.eraseIdx index } :
      BgEfficiencyResourcesMgr).infoMap isProcess).lookup key = some record := found
    rw [run, lookup_applyEfficiencyResourcesInner popped, forApp]
    rfl
  constructor
  · rintro keeps index isRun callbackInfo resourceInfo due taken noCpu call marked record found
    obtain ⟨env, op⟩ := label
    obtain rfl : op = .resource (.runPending index) := isRun
    obtain ⟨made, marked', forApp, owner, level⟩ := call_of_pending known taken noCpu
    obtain rfl : made = call := Option.some.inj (Option.some.inj (marked'.symm.trans marked))
    rw [← owner] at found
    obtain ⟨after, afterFound, sameLevel⟩ := keeps callbackInfo resourceInfo
      ⟨env, index, due, rfl, taken⟩ noCpu false callbackInfo.uid record found
    rw [stepped env index due callbackInfo resourceInfo taken forApp false callbackInfo.uid record
      found, if_pos ⟨rfl, rfl⟩] at afterFound
    rw [← Option.some.inj afterFound] at sameLevel
    refine ((cpuLevel_rewritten callbackInfo resourceInfo record).mp sameLevel).imp id ?_
    exact fun written => written.symm.trans level
  · rintro meets callbackInfo resourceInfo ⟨env, index, due, rfl, taken⟩ noCpu isProcess key record
      found
    obtain ⟨call, marked, forApp, owner, level⟩ := call_of_pending known taken noCpu
    refine ⟨_, stepped env index due callbackInfo resourceInfo taken forApp isProcess key record
      found, ?_⟩
    split
    · rename_i here
      obtain ⟨rfl, rfl⟩ := here
      refine (cpuLevel_rewritten callbackInfo resourceInfo record).mpr ?_
      refine (meets index rfl callbackInfo resourceInfo due taken noCpu call marked record
        (owner ▸ found)).imp id ?_
      exact fun held => Eq.trans level held.symm
    · rfl

end

theorem admissible_called_iff {ok : BgEfficiencyResourcesMgr → Env × ServiceOp → Prop}
    (called : Called) (labels : List (Env × ServiceOp)) :
    Admissible Called.step (fun called label => ok called.mgr label) called labels ↔
      Admissible step ok called.mgr labels := by
  induction labels generalizing called with
  | nil => exact Iff.rfl
  | cons label rest ih => exact and_congr_right (fun _ => ih (called.step label))

/-- In every run, with client calls and queued tasks in any order: the handled requests
without the CPU change no level exactly when each brings nothing new to its app's record, or
the record has by then the level that the call stands for. -/
theorem cpu_levels_kept_iff (labels : List (Env × ServiceOp)) :
    Admissible step KeepsCpuLevels {} labels ↔
      Admissible Called.step MeetsCalledLevel {} labels := by
  have agree : ∀ (called : Called) (label : Env × ServiceOp), CallsKnown called → True →
      (KeepsCpuLevels called.mgr label ↔ MeetsCalledLevel called label) :=
    fun called label known _ => keepsCpuLevels_iff known label
  have start : CallsKnown {} := .nil
  refine (admissible_called_iff {} labels).symm.trans
    (admissible_iff_of_invariant agree ?_ labels {} start (fun _ _ => trivial))
  exact fun called label known _ _ => callsKnown_step known label

def appLevel (mgr : BgEfficiencyResourcesMgr) (uid : Int) : Option Int :=
  ((mgr.infoMap false).lookup uid).map (fun record => record.cpuLevel)

theorem not_keepsCpuLevels {mgr : BgEfficiencyResourcesMgr} {label : Env × ServiceOp}
    {callbackInfo : ResourceCallbackInfo} {resourceInfo : EfficiencyResourceInfo} {uid level : Int}
    (handles : Handles mgr label callbackInfo resourceInfo)
    (noCpu : callbackInfo.resourceNumber &&& ResourceType.cpu = 0#32)
    (before : mgr.appLevel uid = some level) (after : (mgr.step label).appLevel uid ≠ some level) :
    ¬ KeepsCpuLevels mgr label := by
  intro keeps
  obtain ⟨record, found, isLevel⟩ := Option.map_eq_some_iff.mp before
  obtain ⟨kept, keptFound, same⟩ := keeps callbackInfo resourceInfo handles noCpu false uid record
    found
  refine after ?_
  unfold appLevel
  rw [keptFound, Option.map_some, same, isLevel]

def persistentApply (resourceNumber : ResourceNumber) (isProcess : Bool) (cpuLevel : Int) :
    Env × ServiceOp :=
  (quietEnv 2000 300000, .resource (.applyEfficiencyResources 100 200
    { resourceNumber := resourceNumber, isApply := true, timeOut := 0, reason := "sync"
      isPersist := true, isProcess := isProcess, cpuLevel := cpuLevel }))

def timerAfterCpu : List (Env × ServiceOp) :=
  bootLabels 1000 300000 ++ [persistentApply ResourceType.cpu false 2, runAt 2000 0,
    persistentApply ResourceType.timer false (-1)]

def timerBeforeCpuRuns : List (Env × ServiceOp) :=
  bootLabels 1000 300000 ++ [persistentApply ResourceType.cpu false 2,
    persistentApply ResourceType.timer true (-1), runAt 2000 0]

theorem cpu_level_lost :
    ¬ Admissible step KeepsCpuLevels {} (timerAfterCpu ++ [runAt 2000 0]) ∧
      ¬ Admissible step KeepsCpuLevels {} (timerBeforeCpuRuns ++ [runAt 2000 0]) := by
  constructor
  · intro admissible
    have taken : (run step {} timerAfterCpu).pending[0]? =
        some (.applyEfficiencyResourcesInner ⟨100, 200, ResourceType.timer, "app", -1⟩
          ⟨ResourceType.timer, true, 0, "sync", true, false, -1⟩, 2000) := by decide
    exact not_keepsCpuLevels ⟨_, 0, 2000, rfl, taken⟩ (by decide)
      (show (run step {} timerAfterCpu).appLevel 100 = some 2 by decide) (by decide)
      admissible.last
  · intro admissible
    have taken : (run step {} timerBeforeCpuRuns).pending[0]? =
        some (.applyEfficiencyResourcesInner ⟨100, 200, ResourceType.timer, "app", -1⟩
          ⟨ResourceType.timer, true, 0, "sync", true, false, -1⟩, 2000) := by decide
    exact not_keepsCpuLevels ⟨_, 0, 2000, rfl, taken⟩ (by decide)
      (show (run step {} timerBeforeCpuRuns).appLevel 100 = some 2 by decide) (by decide)
      admissible.last

end BgEfficiencyResourcesMgr

end BgTaskMgr.Efficiency
