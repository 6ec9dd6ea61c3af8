import BgTaskMgr.Efficiency.Manager

/-!
# Masks, unit lists and keys of the efficiency records

Every stored record has a mask that is the set of its units and stands under its own
uid or pid.  Apply, reset, timeout, death, dump and a restore keep this; the one
exception is `RecoverResourceNumber`, which changes masks without their lists.
-/

set_option autoImplicit false

namespace BgTaskMgr.Efficiency

open Bitmask StepSystem

def ResourceApplicationRecord.mapKey (isProcess : Bool) (record : ResourceApplicationRecord) :
    Int :=
  if isProcess then record.pid else record.uid

structure RecordOk (isProcess : Bool) (key : Int) (record : ResourceApplicationRecord) :
    Prop where
  represents : Represents record.resourceNumber record.resourceUnitList
  nonzero : record.resourceNumber ≠ 0#32
  keyed : record.mapKey isProcess = key

def MapOk (isProcess : Bool) (records : ResourceRecordMap) : Prop :=
  ∀ key record, records.lookup key = some record → RecordOk isProcess key record

/-- A queued apply asks for something, and only for known resources. -/
def TaskOk : HandlerTask → Prop
  | .applyEfficiencyResourcesInner callbackInfo _ =>
      callbackInfo.resourceNumber ≠ 0#32 ∧
        callbackInfo.resourceNumber &&& maxResourceMask = callbackInfo.resourceNumber
  | _ => True

theorem mapOk_empty (isProcess : Bool) : MapOk isProcess ∅ := by
  intro key record found
  cases found

theorem mapOk_insert {isProcess : Bool} {records : ResourceRecordMap} {key : Int}
    {record : ResourceApplicationRecord} (ok : MapOk isProcess records)
    (new : RecordOk isProcess key record) : MapOk isProcess (records.insert key record) := by
  intro a stored found
  rw [KeyedMap.lookup_insert] at found
  split at found
  · rename_i same
    cases Option.some.inj found
    rw [same]
    exact new
  · exact ok a stored found

theorem mapOk_erase {isProcess : Bool} {records : ResourceRecordMap} (key : Int)
    (ok : MapOk isProcess records) : MapOk isProcess (records.erase key) := by
  intro a stored found
  rw [KeyedMap.lookup_erase] at found
  split at found
  · cases found
  · exact ok a stored found

theorem mapOk_adjust {isProcess : Bool} {records : ResourceRecordMap} {key : Int}
    {record : ResourceApplicationRecord} (ok : MapOk isProcess records)
    (new : RecordOk isProcess key record) :
    MapOk isProcess (KeyedMap.adjust key (fun _ => record) records) := by
  intro a stored found
  rw [KeyedMap.lookup_adjust] at found
  split at found
  · rename_i same
    obtain ⟨_, _, rfl⟩ := Option.map_eq_some_iff.mp found
    rw [same]
    exact new
  · exact ok a stored found

theorem mapOk_filterVal {isProcess : Bool} {records : ResourceRecordMap}
    (keep : Int → ResourceApplicationRecord → Bool) (ok : MapOk isProcess records) :
    MapOk isProcess (KeyedMap.filterVal keep records) := by
  intro key record found
  rw [KeyedMap.lookup_filterVal, Option.filter_eq_some_iff] at found
  exact ok key record found.1

theorem mapOk_union {isProcess : Bool} {records stored : ResourceRecordMap}
    (ok : MapOk isProcess records) (okStored : MapOk isProcess stored) :
    MapOk isProcess (records ∪ stored) := by
  intro key record found
  rcases AList.lookup_union_eq_some.mp found with here | ⟨_, there⟩
  · exact ok key record here
  · exact okStored key record there

namespace BgEfficiencyResourcesMgr

structure MemoryOk (mgr : BgEfficiencyResourcesMgr) : Prop where
  maps : ∀ isProcess, MapOk isProcess (mgr.infoMap isProcess)
  queue : ∀ entry ∈ mgr.pending, TaskOk entry.1

structure Invariant (mgr : BgEfficiencyResourcesMgr) : Prop extends MemoryOk mgr where
  fileApp : MapOk false mgr.file.appResourceRecord
  fileProcess : MapOk true mgr.file.processResourceRecord

section

variable {self : BgEfficiencyResourcesMgr}

theorem memoryOk_setInfoMap (memory : MemoryOk self) {isProcess : Bool}
    {records : ResourceRecordMap} (ok : MapOk isProcess records) :
    MemoryOk (self.setInfoMap isProcess records) where
  maps other := by
    rw [infoMap_setInfoMap]
    split
    · rename_i same
      rw [same]
      exact ok
    · exact memory.maps other
  queue := by
    rw [pending_setInfoMap]
    exact memory.queue

theorem memoryOk_refreshResourceRecord (memory : MemoryOk self) (env : Env) :
    MemoryOk (self.refreshResourceRecord env) where
  maps isProcess := by
    rw [infoMap_refreshResourceRecord]
    exact memory.maps isProcess
  queue := by
    rw [pending_refreshResourceRecord]
    exact memory.queue

theorem memoryOk_onResourceChanged (memory : MemoryOk self)
    (callbackInfo : ResourceCallbackInfo) (type : EfficiencyResourcesEventType) :
    MemoryOk (self.onResourceChanged callbackInfo type) :=
  ⟨memory.maps, memory.queue⟩

/-! ## Calls that only post tasks -/

/-- The call does nothing but post well-formed tasks. -/
def OnlyPosts (before after : BgEfficiencyResourcesMgr) : Prop :=
  ∃ posted : List (HandlerTask × Int), (∀ entry ∈ posted, TaskOk entry.1) ∧
    after = { before with pending := before.pending ++ posted }

theorem onlyPosts_refl : OnlyPosts self self := by
  refine ⟨[], ?_, ?_⟩
  · intro entry member
    cases member
  · rw [List.append_nil]

theorem onlyPosts_trans {middle after : BgEfficiencyResourcesMgr} (first : OnlyPosts self middle)
    (second : OnlyPosts middle after) : OnlyPosts self after := by
  obtain ⟨early, earlyOk, rfl⟩ := first
  obtain ⟨late, lateOk, rfl⟩ := second
  refine ⟨early ++ late, ?_, by rw [List.append_assoc]⟩
  intro entry member
  rcases List.mem_append.mp member with inEarly | inLate
  · exact earlyOk entry inEarly
  · exact lateOk entry inLate

theorem onlyPosts_postTask {task : HandlerTask} (due : Int) (ok : TaskOk task) :
    OnlyPosts self (self.postTask task due) := by
  refine ⟨[(task, due)], ?_, rfl⟩
  intro entry member
  rw [List.mem_singleton.mp member]
  exact ok

theorem OnlyPosts.memoryOk {after : BgEfficiencyResourcesMgr} (posts : OnlyPosts self after)
    (memory : MemoryOk self) : MemoryOk after := by
  obtain ⟨posted, postedOk, rfl⟩ := posts
  refine ⟨memory.maps, ?_⟩
  intro entry member
  rcases List.mem_append.mp member with old | new
  · exact memory.queue entry old
  · exact postedOk entry new

theorem onlyPosts_postTimeOut (env : Env) (mapKey : Int) (resourceInfo : EfficiencyResourceInfo) :
    OnlyPosts self (self.postTimeOut env mapKey resourceInfo) := by
  unfold postTimeOut
  split
  · exact onlyPosts_refl
  · exact onlyPosts_postTask _ trivial

theorem onlyPosts_removeRelativeProcessRecord (env : Env) (uid : Int)
    (resourceNumber : ResourceNumber) :
    OnlyPosts self (self.removeRelativeProcessRecord env uid resourceNumber) := by
  unfold removeRelativeProcessRecord
  generalize KeyedMap.vals self.procResourceApplyMap = records
  induction records generalizing self with
  | nil => exact onlyPosts_refl
  | cons record rest ih =>
      refine onlyPosts_trans ?_ ih
      unfold postRelativeReset
      split
      · exact onlyPosts_postTask env.now trivial
      · exact onlyPosts_refl

theorem onlyPosts_sendResourceApplyTask (env : Env) (uid pid : Int)
    (bundleName : String) {resourceInfo : EfficiencyResourceInfo}
    (asked : resourceInfo.resourceNumber ≠ 0#32)
    (within : resourceInfo.resourceNumber &&& maxResourceMask = resourceInfo.resourceNumber) :
    OnlyPosts self (self.sendResourceApplyTask env uid pid bundleName resourceInfo) := by
  unfold sendResourceApplyTask
  dsimp only
  split
  · exact onlyPosts_postTask env.now ⟨asked, within⟩
  · exact onlyPosts_postTask env.now trivial

theorem onlyPosts_applyResourceForPkgAndProc (env : Env)
    (uid pid : Int) (bundleName : String) {resourceInfo : EfficiencyResourceInfo}
    (asked : resourceInfo.resourceNumber ≠ 0#32)
    (within : resourceInfo.resourceNumber &&& maxResourceMask = resourceInfo.resourceNumber) :
    OnlyPosts self (self.applyResourceForPkgAndProc env uid pid bundleName resourceInfo) := by
  unfold applyResourceForPkgAndProc
  split
  · exact onlyPosts_sendResourceApplyTask env uid pid bundleName asked within
  · have cpuSent : OnlyPosts self (if resourceInfo.resourceNumber &&& ResourceType.cpu ≠ 0#32 then
        self.sendResourceApplyTask env uid pid bundleName
          { resourceInfo with resourceNumber := ResourceType.cpu } else self) := by
      split
      · exact onlyPosts_sendResourceApplyTask env uid pid bundleName
          (show ResourceType.cpu ≠ 0#32 by decide)
          (show ResourceType.cpu &&& maxResourceMask = ResourceType.cpu by decide)
      · exact onlyPosts_refl
    dsimp only
    split
    · rename_i rest
      refine onlyPosts_trans cpuSent
        (onlyPosts_sendResourceApplyTask env uid pid bundleName rest ?_)
      calc resourceInfo.resourceNumber &&& ~~~ResourceType.cpu &&& maxResourceMask
          = resourceInfo.resourceNumber &&& maxResourceMask &&& ~~~ResourceType.cpu := by
            rw [BitVec.and_assoc, BitVec.and_comm (~~~ResourceType.cpu), ← BitVec.and_assoc]
        _ = resourceInfo.resourceNumber &&& ~~~ResourceType.cpu := by rw [within]
    · exact cpuSent

theorem checkResourceInfo_within {resourceInfo : EfficiencyResourceInfo}
    (passed : checkResourceInfo resourceInfo = true) :
    resourceInfo.resourceNumber &&& maxResourceMask = resourceInfo.resourceNumber := by
  have small : resourceInfo.resourceNumber.toNat ≤ maxResourceMask.toNat := by
    simp only [checkResourceInfo, Bool.not_eq_true', Bool.or_eq_false_iff, decide_eq_false_iff_not,
      BitVec.not_lt] at passed
    exact passed.1.2
  have mask : maxResourceMask.toNat = 2 ^ 9 - 1 := by decide
  refine BitVec.eq_of_toNat_eq ?_
  rw [BitVec.toNat_and, mask, Nat.and_two_pow_sub_one_eq_mod]
  refine Nat.mod_eq_of_lt ?_
  omega

theorem getExemptedResourceType_within (env : Env) {resourceNumber : ResourceNumber} (uid : Int)
    (bundleName : String) (within : resourceNumber &&& maxResourceMask = resourceNumber) :
    getExemptedResourceType env resourceNumber uid bundleName &&& maxResourceMask =
      getExemptedResourceType env resourceNumber uid bundleName := by
  unfold getExemptedResourceType
  dsimp only
  split
  · exact BitVec.zero_and
  · split
    · exact within
    · rw [BitVec.and_assoc, within]

theorem checkIfCanApplyCpuLevel_resourceNumber (env : Env)
    (resourceInfo : EfficiencyResourceInfo) (bundleName : String) :
    (checkIfCanApplyCpuLevel env resourceInfo bundleName).2.resourceNumber =
      resourceInfo.resourceNumber := by
  unfold checkIfCanApplyCpuLevel
  repeat' split
  all_goals rfl

theorem onlyPosts_applyEfficiencyResources (env : Env) (uid pid : Int)
    (resourceInfo : EfficiencyResourceInfo) :
    OnlyPosts self (self.applyEfficiencyResources env uid pid resourceInfo).2 := by
  unfold applyEfficiencyResources
  by_cases ready : self.isSysReady
  · by_cases passed : checkResourceInfo resourceInfo
    · have within := checkResourceInfo_within passed
      rw [← checkIfCanApplyCpuLevel_resourceNumber env resourceInfo
        (env.bundleNameForUid uid)] at within
      have exempted := getExemptedResourceType_within env uid (env.bundleNameForUid uid) within
      simp only [ready, passed, Bool.not_true, Bool.false_eq_true, if_false]
      split
      · exact onlyPosts_refl
      · split
        · exact onlyPosts_refl
        · split
          · exact onlyPosts_refl
          · split
            · exact onlyPosts_refl
            · rename_i asked
              split
              · exact onlyPosts_refl
              · exact onlyPosts_applyResourceForPkgAndProc env uid pid _ asked exempted
    · simpa [ready, passed] using onlyPosts_refl
  · simpa [ready] using onlyPosts_refl

theorem onlyPosts_resetAllEfficiencyResources (env : Env) (uid pid : Int) :
    OnlyPosts self (self.resetAllEfficiencyResources env uid pid).2 := by
  unfold resetAllEfficiencyResources
  split
  · exact onlyPosts_refl
  · split
    · exact onlyPosts_refl
    · dsimp only
      split
      · exact onlyPosts_refl
      · split
        · exact onlyPosts_refl
        · exact onlyPosts_postTask env.now trivial

theorem onlyPosts_removeAppRecord (env : Env) (uid : Int) (bundleName : String)
    (resetAll : Bool) : OnlyPosts self (self.removeAppRecord env uid bundleName resetAll).2 := by
  unfold removeAppRecord
  split
  · exact onlyPosts_refl
  · exact onlyPosts_postTask env.now trivial

theorem onlyPosts_removeProcessRecord (env : Env) (uid pid : Int) (bundleName : String) :
    OnlyPosts self (self.removeProcessRecord env uid pid bundleName).2 := by
  unfold removeProcessRecord
  split
  · exact onlyPosts_refl
  · exact onlyPosts_postTask env.now trivial

/-! ## Handler tasks -/

theorem appliedRecord_ok (env : Env) {callbackInfo : ResourceCallbackInfo}
    (resourceInfo : EfficiencyResourceInfo) {isProcess : Bool} {mapKey : Int}
    {found : Option ResourceApplicationRecord}
    (keyed : callbackInfo.mapKey isProcess = mapKey)
    (ok : ∀ record, found = some record → RecordOk isProcess mapKey record)
    (task : TaskOk (.applyEfficiencyResourcesInner callbackInfo resourceInfo)) :
    RecordOk isProcess mapKey (appliedRecord env callbackInfo resourceInfo found) := by
  obtain ⟨asked, within⟩ := task
  cases found with
  | none =>
      have grown := represents_updateUnits represents_nil env.now resourceInfo within
      rw [BitVec.zero_or] at grown
      exact ⟨grown, asked, keyed⟩
  | some record =>
      have old := ok record rfl
      have grown := represents_updateUnits old.represents env.now resourceInfo within
      refine ⟨grown, ?_, old.keyed⟩
      intro empty
      exact old.nonzero (BitVec.or_eq_zero_iff.mp empty).1

theorem memoryOk_applyEfficiencyResourcesInner (memory : MemoryOk self) (env : Env)
    {callbackInfo : ResourceCallbackInfo} {resourceInfo : EfficiencyResourceInfo}
    (task : TaskOk (.applyEfficiencyResourcesInner callbackInfo resourceInfo)) :
    MemoryOk (self.applyEfficiencyResourcesInner env callbackInfo resourceInfo) := by
  have record := appliedRecord_ok env resourceInfo rfl
    (fun record found => memory.maps resourceInfo.isProcess
      (callbackInfo.mapKey resourceInfo.isProcess) record found) task
  have posted := (onlyPosts_postTimeOut env (callbackInfo.mapKey resourceInfo.isProcess)
    resourceInfo).memoryOk memory
  simp only [applyEfficiencyResourcesInner]
  split
  · exact memoryOk_refreshResourceRecord (memoryOk_setInfoMap posted
      (mapOk_insert (posted.maps _) record)) env
  · refine memoryOk_refreshResourceRecord (memoryOk_setInfoMap
      (memoryOk_onResourceChanged posted _ _) (mapOk_insert (posted.maps _) ?_)) env
    exact ⟨record.represents, record.nonzero, record.keyed⟩

theorem memoryOk_eraseBits (memory : MemoryOk self) {isProcess : Bool} {mapKey : Int}
    {record : ResourceApplicationRecord} {eraseBit : ResourceNumber} (cpuLevel : Int)
    (found : (self.infoMap isProcess).lookup mapKey = some record)
    (held : record.resourceNumber &&& eraseBit = eraseBit) :
    MemoryOk (self.eraseBits isProcess mapKey record eraseBit cpuLevel) := by
  have old := memory.maps isProcess mapKey record found
  have told := memoryOk_onResourceChanged memory
    { uid := record.uid, pid := record.pid, resourceNumber := eraseBit
      bundleName := record.bundleName, cpuLevel := cpuLevel } (resetType isProcess)
  simp only [eraseBits]
  split
  · exact memoryOk_setInfoMap told (mapOk_erase mapKey (told.maps isProcess))
  · rename_i remaining
    refine memoryOk_setInfoMap told (mapOk_adjust (told.maps isProcess) ⟨?_, remaining, ?_⟩)
    · exact represents_removeListRecord old.represents held
    · exact old.keyed

theorem memoryOk_resetTimeOutResource (memory : MemoryOk self) (env : Env) (mapKey : Int)
    (isProcess : Bool) : MemoryOk (self.resetTimeOutResource env mapKey isProcess) := by
  unfold resetTimeOutResource
  split
  · exact memory
  · rename_i record found
    dsimp only
    split
    · exact memory
    · have old := memory.maps isProcess mapKey record found
      exact memoryOk_eraseBits memory _ found (timeOutBits_held old.represents env.now)

theorem and_and_self (number clean : ResourceNumber) :
    number &&& (number &&& clean) = number &&& clean := by
  rw [← BitVec.and_assoc, BitVec.and_self]

theorem memoryOk_removeTargetResourceRecord (memory : MemoryOk self) (isProcess : Bool)
    (mapKey : Int) (callbackInfo : ResourceCallbackInfo) :
    MemoryOk (self.removeTargetResourceRecord isProcess mapKey callbackInfo) := by
  unfold removeTargetResourceRecord
  dsimp only
  split
  · exact memory
  · rename_i record found
    split
    · exact memory
    · exact memoryOk_eraseBits memory _ found (and_and_self _ _)

theorem memoryOk_resetEfficiencyResourcesInner (memory : MemoryOk self) (env : Env)
    (callbackInfo : ResourceCallbackInfo) (isProcess : Bool) :
    MemoryOk (self.resetEfficiencyResourcesInner env callbackInfo isProcess) := by
  refine memoryOk_refreshResourceRecord ?_ env
  split
  · exact memoryOk_removeTargetResourceRecord memory true _ callbackInfo
  · exact (onlyPosts_removeRelativeProcessRecord env _ _).memoryOk
      (memoryOk_removeTargetResourceRecord memory false _ callbackInfo)

theorem memoryOk_runTask (memory : MemoryOk self) (env : Env) {task : HandlerTask}
    (ok : TaskOk task) : MemoryOk (self.runTask env task) := by
  cases task with
  | applyEfficiencyResourcesInner callbackInfo resourceInfo =>
      exact memoryOk_applyEfficiencyResourcesInner memory env ok
  | resetEfficiencyResourcesInner callbackInfo isProcess =>
      exact memoryOk_resetEfficiencyResourcesInner memory env callbackInfo isProcess
  | resetTimeOutResource mapKey isProcess =>
      exact memoryOk_resetTimeOutResource memory env mapKey isProcess

theorem memoryOk_dumpResetMap (memory : MemoryOk self) (isProcess : Bool) :
    MemoryOk (self.dumpResetMap isProcess) := by
  unfold dumpResetMap
  refine memoryOk_setInfoMap ?_ (mapOk_empty isProcess)
  apply List.foldlRecOn (motive := MemoryOk) _ _ memory
  intro mgr memory record _
  exact memoryOk_onResourceChanged memory _ _

theorem memoryOk_shellDump (memory : MemoryOk self) (env : Env) (dumpOption : DumpOption) :
    MemoryOk (self.shellDump env dumpOption) := by
  unfold shellDump
  split
  · exact memory
  · refine memoryOk_refreshResourceRecord ?_ env
    split
    · exact memoryOk_dumpResetMap (memoryOk_dumpResetMap memory false) true
    · unfold dumpResetOne
      split
      · exact memory
      · exact memoryOk_removeTargetResourceRecord memory _ _ _
    · exact memory
    · exact memory

theorem memoryOk_eraseIdx (memory : MemoryOk self) (index : Nat) :
    MemoryOk { self with pending := self.pending.eraseIdx index } where
  maps := memory.maps
  queue entry member := memory.queue entry (List.mem_of_mem_eraseIdx member)

theorem memoryOk_resourceStep (memory : MemoryOk self) (label : Env × ResourceOp) :
    MemoryOk (self.resourceStep label) := by
  obtain ⟨env, op⟩ := label
  cases op with
  | applyEfficiencyResources uid pid resourceInfo =>
      exact (onlyPosts_applyEfficiencyResources env uid pid resourceInfo).memoryOk memory
  | resetAllEfficiencyResources uid pid =>
      exact (onlyPosts_resetAllEfficiencyResources env uid pid).memoryOk memory
  | removeAppRecord uid bundleName resetAll =>
      exact (onlyPosts_removeAppRecord env uid bundleName resetAll).memoryOk memory
  | removeProcessRecord uid pid bundleName =>
      exact (onlyPosts_removeProcessRecord env uid pid bundleName).memoryOk memory
  | shellDump dumpOption => exact memoryOk_shellDump memory env dumpOption
  | runPending index =>
      simp only [resourceStep]
      split
      · exact memory
      · rename_i task due taken
        exact memoryOk_runTask (memoryOk_eraseIdx memory index) env
          (memory.queue _ (List.mem_of_getElem? taken))

/-! ## The file -/

/-- The file is as before, or holds the records that are in memory now. -/
def FileFollows (before after : BgEfficiencyResourcesMgr) : Prop :=
  after.file = before.file ∨ after.file = ⟨after.appResourceApplyMap, after.procResourceApplyMap⟩

theorem fileFollows_refreshResourceRecord {before : BgEfficiencyResourcesMgr}
    (same : self.file = before.file) (env : Env) :
    FileFollows before (self.refreshResourceRecord env) := by
  unfold refreshResourceRecord
  split
  · exact Or.inr rfl
  · exact Or.inl same

theorem OnlyPosts.file {after : BgEfficiencyResourcesMgr} (posts : OnlyPosts self after) :
    after.file = self.file := by
  obtain ⟨posted, _, rfl⟩ := posts
  rfl

theorem file_eraseBits (isProcess : Bool) (mapKey : Int) (record : ResourceApplicationRecord)
    (eraseBit : ResourceNumber) (cpuLevel : Int) :
    (self.eraseBits isProcess mapKey record eraseBit cpuLevel).file = self.file := by
  simp only [eraseBits]
  split
  · rw [file_setInfoMap]
    rfl
  · rw [file_setInfoMap]
    rfl

theorem file_removeTargetResourceRecord (isProcess : Bool) (mapKey : Int)
    (callbackInfo : ResourceCallbackInfo) :
    (self.removeTargetResourceRecord isProcess mapKey callbackInfo).file = self.file := by
  unfold removeTargetResourceRecord
  dsimp only
  split
  · rfl
  · split
    · rfl
    · exact file_eraseBits _ _ _ _ _

theorem file_dumpResetMap (isProcess : Bool) : (self.dumpResetMap isProcess).file = self.file := by
  unfold dumpResetMap
  rw [file_setInfoMap]
  generalize KeyedMap.vals (self.infoMap isProcess) = records
  induction records generalizing self with
  | nil => rfl
  | cons record rest ih => exact ih

theorem fileFollows_runTask (env : Env) (task : HandlerTask) :
    FileFollows self (self.runTask env task) := by
  cases task with
  | applyEfficiencyResourcesInner callbackInfo resourceInfo =>
      have posted : (self.postTimeOut env (callbackInfo.mapKey resourceInfo.isProcess)
          resourceInfo).file = self.file := (onlyPosts_postTimeOut env _ resourceInfo).file
      simp only [runTask, applyEfficiencyResourcesInner]
      split
      · refine fileFollows_refreshResourceRecord ?_ env
        rw [file_setInfoMap]
        exact posted
      · refine fileFollows_refreshResourceRecord ?_ env
        rw [file_setInfoMap]
        exact posted
  | resetEfficiencyResourcesInner callbackInfo isProcess =>
      refine fileFollows_refreshResourceRecord ?_ env
      split
      · exact file_removeTargetResourceRecord true _ callbackInfo
      · exact (onlyPosts_removeRelativeProcessRecord env _ _).file.trans
          (file_removeTargetResourceRecord false _ callbackInfo)
  | resetTimeOutResource mapKey isProcess =>
      left
      simp only [runTask, resetTimeOutResource]
      split
      · rfl
      · split
        · rfl
        · exact file_eraseBits _ _ _ _ _

theorem fileFollows_shellDump (env : Env) (dumpOption : DumpOption) :
    FileFollows self (self.shellDump env dumpOption) := by
  unfold shellDump
  split
  · exact Or.inl rfl
  · refine fileFollows_refreshResourceRecord ?_ env
    split
    · exact (file_dumpResetMap true).trans (file_dumpResetMap false)
    · unfold dumpResetOne
      split
      · rfl
      · exact file_removeTargetResourceRecord _ _ _
    · rfl
    · rfl

/-- Only a refresh writes the file, and it is the last thing a step does. -/
theorem fileFollows_resourceStep (label : Env × ResourceOp) :
    FileFollows self (self.resourceStep label) := by
  obtain ⟨env, op⟩ := label
  cases op with
  | applyEfficiencyResources uid pid resourceInfo =>
      exact Or.inl (onlyPosts_applyEfficiencyResources env uid pid resourceInfo).file
  | resetAllEfficiencyResources uid pid =>
      exact Or.inl (onlyPosts_resetAllEfficiencyResources env uid pid).file
  | removeAppRecord uid bundleName resetAll =>
      exact Or.inl (onlyPosts_removeAppRecord env uid bundleName resetAll).file
  | removeProcessRecord uid pid bundleName =>
      exact Or.inl (onlyPosts_removeProcessRecord env uid pid bundleName).file
  | shellDump dumpOption => exact fileFollows_shellDump env dumpOption
  | runPending index =>
      simp only [resourceStep]
      split
      · exact Or.inl rfl
      · rename_i task due taken
        have ran : FileFollows { self with pending := self.pending.eraseIdx index } _ :=
          fileFollows_runTask env task
        exact ran

theorem invariant_of_memoryOk {before after : BgEfficiencyResourcesMgr}
    (invariant : Invariant before) (memory : MemoryOk after) (follows : FileFollows before after) :
    Invariant after := by
  rcases follows with same | written
  · refine ⟨memory, ?_, ?_⟩
    · rw [same]
      exact invariant.fileApp
    · rw [same]
      exact invariant.fileProcess
  · refine ⟨memory, ?_, ?_⟩
    · rw [written]
      exact memory.maps false
    · rw [written]
      exact memory.maps true

theorem invariant_refreshResourceRecord (invariant : Invariant self) (env : Env) :
    Invariant (self.refreshResourceRecord env) :=
  invariant_of_memoryOk invariant (memoryOk_refreshResourceRecord invariant.toMemoryOk env)
    (fileFollows_refreshResourceRecord rfl env)

/-! ## Restarts -/

/-- This `OnAddSystemAbility` makes the service ready and restores the records. -/
def Restores (mgr : BgEfficiencyResourcesMgr) (env : Env) (ability : DependedAbility) : Prop :=
  mgr.isSysReady = false ∧
    allDependsReady { mgr with dependsReady := mgr.dependsReady.insert ability } = true ∧
    (mgr.appMgrClient = true ∨ env.connectAppMgr = true)

/-- The app record holds no resource besides `WORK_SCHEDULER` and `TIMER`. -/
def OnlyRetained (record : ResourceApplicationRecord) : Prop :=
  record.resourceNumber &&& workSchedulerAndTimerResourceNumber = record.resourceNumber

/-- A restore happens late after boot, or every app record that memory and file bring
through the check holds retained resources only. -/
def RestoreKeepsMasks (mgr : BgEfficiencyResourcesMgr) : Env × ServiceOp → Prop
  | (env, .addSystemAbility ability) => Restores mgr env ability →
      env.systemUpDurationMs > systemUpMaxDurationMs ∨
        ∀ uid record, (mgr.restoreResourceRecord env).appResourceApplyMap.lookup uid =
          some record → survivesCheck env uid record = true → OnlyRetained record
  | _ => True

instance (mgr : BgEfficiencyResourcesMgr) (env : Env) (ability : DependedAbility) :
    Decidable (Restores mgr env ability) :=
  inferInstanceAs (Decidable (_ ∧ _ ∧ (_ ∨ _)))

instance (record : ResourceApplicationRecord) : Decidable (OnlyRetained record) :=
  inferInstanceAs (Decidable (_ = _))

instance (mgr : BgEfficiencyResourcesMgr) (label : Env × ServiceOp) :
    Decidable (RestoreKeepsMasks mgr label) :=
  match label with
  | (env, .addSystemAbility _) =>
      have : Decidable (∀ uid record,
          (mgr.restoreResourceRecord env).appResourceApplyMap.lookup uid = some record →
            survivesCheck env uid record = true → OnlyRetained record) :=
        decidable_of_iff (∀ entry ∈ (mgr.restoreResourceRecord env).appResourceApplyMap.entries,
            survivesCheck env entry.1 entry.2 = true → OnlyRetained entry.2)
          ⟨fun each uid record found => each ⟨uid, record⟩ (KeyedMap.mem_entries_iff.mpr found),
            fun each entry member => each entry.1 entry.2 (KeyedMap.mem_entries_iff.mp member)⟩
      inferInstanceAs (Decidable (_ → _ ∨ _))
  | (_, .resource _) => isTrue trivial
  | (_, .removeSystemAbility _) => isTrue trivial
  | (_, .restart) => isTrue trivial

theorem appResourceApplyMap_restoreResourceRecord (mgr : BgEfficiencyResourcesMgr) (env : Env) :
    (mgr.restoreResourceRecord env).appResourceApplyMap =
      if env.fileReadable then mgr.appResourceApplyMap ∪ mgr.file.appResourceRecord
      else mgr.appResourceApplyMap := by
  unfold restoreResourceRecord
  split <;> rfl

theorem invariant_restoreResourceRecord (invariant : Invariant self) (env : Env) :
    Invariant (self.restoreResourceRecord env) := by
  unfold restoreResourceRecord
  split
  · refine ⟨⟨fun isProcess => ?_, invariant.queue⟩, invariant.fileApp, invariant.fileProcess⟩
    cases isProcess with
    | false => exact mapOk_union (invariant.maps false) invariant.fileApp
    | true => exact mapOk_union (invariant.maps true) invariant.fileProcess
  · exact invariant

theorem invariant_checkPersistenceData (invariant : Invariant self) (env : Env) :
    Invariant (self.checkPersistenceData env) := by
  refine ⟨⟨fun isProcess => ?_, invariant.queue⟩, invariant.fileApp, invariant.fileProcess⟩
  cases isProcess with
  | false => exact mapOk_filterVal (survivesCheck env) (invariant.maps false)
  | true =>
      have running := mapOk_filterVal
        (fun pid _ => decide (pid ∈ env.allRunningProcesses.map Prod.snd)) (invariant.maps true)
      exact running

theorem invariant_recoverResourceNumber (invariant : Invariant self) (env : Env)
    (keeps : env.systemUpDurationMs > systemUpMaxDurationMs ∨
      ∀ uid record, self.appResourceApplyMap.lookup uid = some record → OnlyRetained record) :
    Invariant (self.recoverResourceNumber env) := by
  unfold recoverResourceNumber
  split
  · exact invariant
  · rename_i early
    have retained := keeps.resolve_left early
    refine ⟨⟨fun isProcess => ?_, invariant.queue⟩, invariant.fileApp, invariant.fileProcess⟩
    cases isProcess with
    | false =>
        intro uid record found
        have mapped : (KeyedMap.mapVal (fun _ record => { record with
            resourceNumber := record.resourceNumber &&& workSchedulerAndTimerResourceNumber })
              self.appResourceApplyMap).lookup uid = some record := found
        rw [KeyedMap.lookup_mapVal] at mapped
        obtain ⟨before, beforeFound, rfl⟩ := Option.map_eq_some_iff.mp mapped
        have old := invariant.maps false uid before beforeFound
        have same : before.resourceNumber &&& workSchedulerAndTimerResourceNumber =
            before.resourceNumber := retained uid before beforeFound
        rw [same]
        exact old
    | true => exact invariant.maps true

theorem invariant_recoverDelayedTask (invariant : Invariant self) (env : Env)
    (isProcess : Bool) : Invariant (self.recoverDelayedTask env isProcess) := by
  refine ⟨⟨invariant.maps, ?_⟩, invariant.fileApp, invariant.fileProcess⟩
  intro entry member
  rcases List.mem_append.mp member with old | new
  · exact invariant.queue entry old
  · obtain ⟨_, _, posted⟩ := List.mem_flatMap.mp new
    obtain ⟨_, _, rfl⟩ := List.mem_map.mp posted
    trivial

theorem invariant_restoreData (invariant : Invariant self) (env : Env)
    (keeps : env.systemUpDurationMs > systemUpMaxDurationMs ∨
      ∀ uid record, (self.restoreResourceRecord env).appResourceApplyMap.lookup uid =
        some record → survivesCheck env uid record = true → OnlyRetained record) :
    Invariant (self.restoreData env) := by
  have restored := invariant_restoreResourceRecord invariant env
  have checked := invariant_checkPersistenceData restored env
  have recovered := invariant_recoverResourceNumber checked env (by
    refine keeps.imp_right (fun retained uid record found => ?_)
    have kept : (KeyedMap.filterVal (survivesCheck env)
        (self.restoreResourceRecord env).appResourceApplyMap).lookup uid = some record := found
    rw [KeyedMap.lookup_filterVal, Option.filter_eq_some_iff] at kept
    exact retained uid record kept.1 kept.2)
  exact invariant_refreshResourceRecord (invariant_recoverDelayedTask
    (invariant_recoverDelayedTask recovered env true) env false) env

theorem invariant_handlePersistenceData (invariant : Invariant self) (env : Env)
    (keeps : self.appMgrClient = true ∨ env.connectAppMgr = true →
      env.systemUpDurationMs > systemUpMaxDurationMs ∨
        ∀ uid record, (self.restoreResourceRecord env).appResourceApplyMap.lookup uid =
          some record → survivesCheck env uid record = true → OnlyRetained record) :
    Invariant (self.handlePersistenceData env) := by
  unfold handlePersistenceData
  split
  · have client : Invariant { self with appMgrClient := true } :=
      ⟨⟨invariant.maps, invariant.queue⟩, invariant.fileApp, invariant.fileProcess⟩
    dsimp only
    split
    · exact invariant_refreshResourceRecord client env
    · rename_i reached
      have connected : env.connectAppMgr = true := by simpa using reached
      refine invariant_restoreData client env ?_
      rw [appResourceApplyMap_restoreResourceRecord] at keeps ⊢
      exact keeps (Or.inr connected)
  · rename_i client
    have known : self.appMgrClient = true := by simpa using client
    exact invariant_restoreData invariant env (keeps (Or.inl known))

theorem invariant_onAddSystemAbility (invariant : Invariant self) (env : Env)
    (ability : DependedAbility)
    (keeps : RestoreKeepsMasks self (env, .addSystemAbility ability)) :
    Invariant (self.onAddSystemAbility env ability) := by
  have listed : Invariant { self with dependsReady := self.dependsReady.insert ability } :=
    ⟨⟨invariant.maps, invariant.queue⟩, invariant.fileApp, invariant.fileProcess⟩
  unfold onAddSystemAbility
  dsimp only
  split
  · rename_i allUp
    unfold initNecessaryState
    split
    · exact listed
    · rename_i notReady
      simp only [RestoreKeepsMasks, appResourceApplyMap_restoreResourceRecord] at keeps
      have handled := invariant_handlePersistenceData listed env (by
        rw [appResourceApplyMap_restoreResourceRecord]
        intro connected
        exact keeps ⟨Bool.eq_false_iff.mpr notReady, allUp, connected⟩)
      exact ⟨⟨handled.maps, handled.queue⟩, handled.fileApp, handled.fileProcess⟩
  · exact listed

theorem invariant_step (invariant : Invariant self) (label : Env × ServiceOp)
    (keeps : RestoreKeepsMasks self label) : Invariant (self.step label) := by
  obtain ⟨env, op⟩ := label
  cases op with
  | resource op =>
      have memory := memoryOk_resourceStep invariant.toMemoryOk (env, op)
      exact invariant_of_memoryOk invariant memory (fileFollows_resourceStep (env, op))
  | addSystemAbility ability => exact invariant_onAddSystemAbility invariant env ability keeps
  | removeSystemAbility ability =>
      simp only [step, onRemoveSystemAbility]
      split
      · exact ⟨⟨invariant.maps, invariant.queue⟩, invariant.fileApp, invariant.fileProcess⟩
      · exact ⟨⟨invariant.maps, invariant.queue⟩, invariant.fileApp, invariant.fileProcess⟩
  | restart =>
      refine ⟨⟨fun isProcess => ?_, ?_⟩, invariant.fileApp, invariant.fileProcess⟩
      · cases isProcess with
        | false => exact mapOk_empty false
        | true => exact mapOk_empty true
      · intro entry member
        cases member

theorem invariant_init : Invariant {} := by
  refine ⟨⟨fun isProcess => ?_, ?_⟩, mapOk_empty false, mapOk_empty true⟩
  · cases isProcess with
    | false => exact mapOk_empty false
    | true => exact mapOk_empty true
  · intro entry member
    cases member

end

def RecordsWellFormed (isProcess : Bool) (records : ResourceRecordMap) : Prop :=
  ∀ key record, records.lookup key = some record →
    record.resourceNumber = maskOf 32 (unitIndices record.resourceUnitList) ∧
    (unitIndices record.resourceUnitList).Nodup ∧
    (∀ index ∈ unitIndices record.resourceUnitList, index < maxResourcesTypeNum) ∧
    record.resourceNumber ≠ 0#32 ∧
    record.mapKey isProcess = key

/-- In a run whose restores keep the masks, every record of both maps is well formed
after every step. -/
theorem records_well_formed (labels : List (Env × ServiceOp))
    (keeps : Admissible step RestoreKeepsMasks {} labels) (isProcess : Bool) :
    RecordsWellFormed isProcess ((run step {} labels).infoMap isProcess) := by
  have invariant : Invariant (run step {} labels) := by
    refine run_invariant ?_ labels _ invariant_init keeps
    intro mgr label invariant keeps
    exact invariant_step invariant label keeps
  intro key record found
  have ok := invariant.maps isProcess key record found
  exact ⟨ok.represents.mask, ok.represents.distinct, ok.represents.below, ok.nonzero, ok.keyed⟩

def bootLabels (now up : Int) : List (Env × ServiceOp) :=
  [(quietEnv now up, .addSystemAbility .appMgr),
    (quietEnv now up, .addSystemAbility .bundleMgr),
    (quietEnv now up, .addSystemAbility .resSched)]

def restartLabels (resourceNumber : ResourceNumber) (up : Int) : List (Env × ServiceOp) :=
  bootLabels 1000 100000 ++
    [(quietEnv 2000 101000, .resource (.applyEfficiencyResources 100 200
        { resourceNumber := resourceNumber, isApply := true, timeOut := 0, reason := "sync"
          isPersist := true })),
      (quietEnv 2001 101001, .resource (.runPending 0)),
      (quietEnv 3000 102000, .restart)] ++ bootLabels 4000 up

/-- A timer request survives an early restart with its mask intact. -/
theorem records_well_formed_timer_restart :
    Admissible step RestoreKeepsMasks {} (restartLabels ResourceType.timer 200000) ∧
    RecordsWellFormed false
      ((run step {} (restartLabels ResourceType.timer 200000)).infoMap false) := by
  have keeps : Admissible step RestoreKeepsMasks {} (restartLabels ResourceType.timer 200000) := by
    decide
  exact ⟨keeps, records_well_formed _ keeps false⟩

/-- Four minutes after boot at the latest, a restart leaves `CPU | TIMER` of one record
with the mask `TIMER` and both units. -/
theorem records_not_well_formed_early_restart :
    ¬ RecordsWellFormed false ((run step {}
      (restartLabels (ResourceType.cpu ||| ResourceType.timer) 200000)).infoMap false) := by
  intro wellFormed
  obtain ⟨mask, _⟩ := wellFormed 100 _ rfl
  revert mask
  decide

end BgEfficiencyResourcesMgr

end BgTaskMgr.Efficiency
