import BgTaskMgr.Common.ErrCode
import BgTaskMgr.Lib.Bitmask
import BgTaskMgr.Lib.KeyedMap

/-!
# Efficiency resource records

A record holds its resources twice: as the bits of `resourceNumber_` and as the
units of `resourceUnitList_`.  `Represents` is the agreement of the two, with the
per-record operations of the manager that keep it.
-/

set_option autoImplicit false

namespace BgTaskMgr.Efficiency

open Bitmask

abbrev ResourceNumber := BitVec 32

namespace ResourceType

def cpu : ResourceNumber := 1#32
def timer : ResourceNumber := 1#32 <<< 2
def workScheduler : ResourceNumber := 1#32 <<< 3

end ResourceType

/-- `ResourceTypeName`; its length is the number of resource types. -/
def resourceTypeName : List String :=
  ["CPU", "COMMON_EVENT", "TIMER", "WORK_SCHEDULER", "BLUETOOTH", "GPS", "AUDIO",
    "RUNNING_LOCK", "SENSOR"]

def maxResourcesTypeNum : Nat := resourceTypeName.length

def maxResourceMask : ResourceNumber := (1#32 <<< maxResourcesTypeNum) - 1#32

namespace EfficiencyResourcesCpuLevel

def default : Int := -1
def levelEnd : Int := 3

def isCpuLevelValid (cpuLevel : Int) : Bool := cpuLevel ≥ default && cpuLevel < levelEnd

end EfficiencyResourcesCpuLevel

/-- One unit of `resourceUnitList_`. -/
structure PersistTime where
  resourceIndex : Nat
  isPersist : Bool
  endTime : Int
  reason : String
  timeOut : Int
  deriving DecidableEq, Repr

structure ResourceApplicationRecord where
  uid : Int
  pid : Int
  resourceNumber : ResourceNumber
  bundleName : String
  cpuLevel : Int := EfficiencyResourcesCpuLevel.default
  resourceUnitList : List PersistTime := []
  deriving DecidableEq, Repr

abbrev ResourceRecordMap := KeyedMap Int ResourceApplicationRecord

/-- What a subscriber is told, and what a queued request carries. -/
structure ResourceCallbackInfo where
  uid : Int
  pid : Int
  resourceNumber : ResourceNumber
  bundleName : String
  cpuLevel : Int := EfficiencyResourcesCpuLevel.default
  deriving DecidableEq, Repr

/-- `isProcess ? GetPid() : GetUid()`, the key a request addresses. -/
def ResourceCallbackInfo.mapKey (isProcess : Bool) (info : ResourceCallbackInfo) : Int :=
  if isProcess then info.pid else info.uid

structure EfficiencyResourceInfo where
  resourceNumber : ResourceNumber
  isApply : Bool
  timeOut : Nat
  reason : String
  isPersist : Bool := false
  isProcess : Bool := false
  cpuLevel : Int := EfficiencyResourcesCpuLevel.default
  deriving DecidableEq, Repr

def ResourceCallbackInfo.setCpuLevel (cpuLevel : Int) (info : ResourceCallbackInfo) :
    ResourceCallbackInfo :=
  { info with
    cpuLevel := if EfficiencyResourcesCpuLevel.isCpuLevelValid cpuLevel then cpuLevel
      else EfficiencyResourcesCpuLevel.default }

namespace ResourceApplicationRecord

def setCpuLevel (cpuLevel : Int) (record : ResourceApplicationRecord) :
    ResourceApplicationRecord :=
  { record with
    cpuLevel := if EfficiencyResourcesCpuLevel.isCpuLevelValid cpuLevel then cpuLevel
      else EfficiencyResourcesCpuLevel.default }

end ResourceApplicationRecord

/-! ## The unit list -/

def modifyUnit (resourceIndex : Nat) (f : PersistTime → PersistTime) :
    List PersistTime → List PersistTime
  | [] => []
  | unit :: rest =>
      if unit.resourceIndex = resourceIndex then f unit :: rest
      else unit :: modifyUnit resourceIndex f rest

def PersistTime.extend (now : Int) (resourceInfo : EfficiencyResourceInfo) (unit : PersistTime) :
    PersistTime :=
  let endtime := now + resourceInfo.timeOut
  let isPersist := unit.isPersist || resourceInfo.isPersist
  { unit with
    reason := resourceInfo.reason
    isPersist := isPersist
    endTime := if isPersist then 0 else max unit.endTime endtime }

/-- The loop body of `UpdateResourcesEndtime` at one resource index. -/
def updateUnit (now : Int) (resourceInfo : EfficiencyResourceInfo) (number : ResourceNumber)
    (units : List PersistTime) (resourceIndex : Nat) : List PersistTime :=
  if number &&& bit 32 resourceIndex = 0#32 then units
  else if units.any (fun unit => unit.resourceIndex = resourceIndex) then
    modifyUnit resourceIndex (PersistTime.extend now resourceInfo) units
  else units ++ [{
    resourceIndex := resourceIndex
    isPersist := resourceInfo.isPersist
    endTime := if resourceInfo.isPersist then 0 else now + resourceInfo.timeOut
    reason := resourceInfo.reason
    timeOut := resourceInfo.timeOut }]

/-- `UpdateResourcesEndtime` on the list; the timeout task it posts is the manager's. -/
def updateUnits (now : Int) (resourceInfo : EfficiencyResourceInfo) (number : ResourceNumber)
    (units : List PersistTime) : List PersistTime :=
  (List.range maxResourcesTypeNum).foldl (updateUnit now resourceInfo number) units

def removeListRecord (eraseBit : ResourceNumber) (units : List PersistTime) :
    List PersistTime :=
  if eraseBit = 0#32 then units
  else units.filter (fun unit => bit 32 unit.resourceIndex &&& eraseBit = 0#32)

/-- The `eraseBit` of `ResetTimeOutResource`: the bits of the units whose time is up. -/
def timeOutBits (now : Int) (units : List PersistTime) : ResourceNumber :=
  units.foldl (fun eraseBit unit =>
    if unit.isPersist then eraseBit
    else if now ≥ unit.endTime then eraseBit ||| bit 32 unit.resourceIndex
    else eraseBit) 0#32

/-! ## Agreement of mask and list -/

def unitIndices (units : List PersistTime) : List Nat :=
  units.map (fun unit => unit.resourceIndex)

/-- `number` is the set of resources that `units` holds, each held once. -/
structure Represents (number : ResourceNumber) (units : List PersistTime) : Prop where
  mask : number = maskOf 32 (unitIndices units)
  distinct : (unitIndices units).Nodup
  below : ∀ index ∈ unitIndices units, index < maxResourcesTypeNum

theorem represents_nil : Represents 0#32 [] where
  mask := rfl
  distinct := List.nodup_nil
  below _ member := by cases member

theorem unitIndices_modifyUnit (resourceIndex : Nat) {f : PersistTime → PersistTime}
    (keeps : ∀ unit, (f unit).resourceIndex = unit.resourceIndex) (units : List PersistTime) :
    unitIndices (modifyUnit resourceIndex f units) = unitIndices units := by
  induction units with
  | nil => rfl
  | cons unit rest ih =>
      unfold modifyUnit
      split
      · simp [unitIndices, keeps]
      · simpa [unitIndices] using ih

/-- One round of the loop adds the index when the request asks for it. -/
theorem represents_updateUnit {number : ResourceNumber} {units : List PersistTime}
    (represents : Represents number units) (now : Int) (resourceInfo : EfficiencyResourceInfo)
    (requested : ResourceNumber) {resourceIndex : Nat}
    (known : resourceIndex < maxResourcesTypeNum) :
    Represents (number ||| if requested &&& bit 32 resourceIndex = 0#32 then 0#32
        else bit 32 resourceIndex) (updateUnit now resourceInfo requested units resourceIndex) := by
  unfold updateUnit
  by_cases skipped : requested &&& bit 32 resourceIndex = 0#32
  · simpa [skipped] using represents
  · rw [if_neg skipped, if_neg skipped]
    by_cases held : units.any (fun unit => unit.resourceIndex = resourceIndex)
    · have indices := unitIndices_modifyUnit resourceIndex
        (show ∀ unit, (PersistTime.extend now resourceInfo unit).resourceIndex =
          unit.resourceIndex from fun _ => rfl) units
      have member : resourceIndex ∈ unitIndices units := by
        simpa [unitIndices] using held
      rw [if_pos held]
      refine ⟨?_, ?_, ?_⟩
      · rw [indices, represents.mask]
        refine BitVec.eq_of_getLsbD_eq (fun i inBounds => ?_)
        rw [BitVec.getLsbD_or, getLsbD_maskOf _ inBounds, getLsbD_bit inBounds]
        by_cases same : i = resourceIndex
        · simp [same, member]
        · simp [same]
      · rw [indices]
        exact represents.distinct
      · rw [indices]
        exact represents.below
    · have absent : resourceIndex ∉ unitIndices units := by
        simpa [unitIndices] using held
      rw [if_neg held]
      refine ⟨?_, ?_, ?_⟩
      · rw [represents.mask]
        simp only [unitIndices, List.map_append, List.map_cons, List.map_nil]
        rw [maskOf_append]
        simp [maskOf]
      · simp only [unitIndices, List.map_append, List.map_cons, List.map_nil]
        refine List.nodup_append.mpr ⟨represents.distinct, List.nodup_singleton _, ?_⟩
        intro index member other added
        rw [List.mem_singleton.mp added]
        rintro rfl
        exact absent member
      · intro index member
        simp only [unitIndices, List.map_append, List.map_cons, List.map_nil, List.mem_append,
          List.mem_singleton] at member
        rcases member with old | new
        · exact represents.below index old
        · rw [new]
          exact known

def requestedIndices (requested : ResourceNumber) (indices : List Nat) : List Nat :=
  indices.filter (fun index => requested &&& bit 32 index ≠ 0#32)

theorem represents_foldl_updateUnit {number : ResourceNumber} {units : List PersistTime}
    (represents : Represents number units) (now : Int) (resourceInfo : EfficiencyResourceInfo)
    (requested : ResourceNumber) (indices : List Nat)
    (known : ∀ index ∈ indices, index < maxResourcesTypeNum) :
    Represents (number ||| maskOf 32 (requestedIndices requested indices))
      (indices.foldl (updateUnit now resourceInfo requested) units) := by
  induction indices generalizing number units with
  | nil => simpa [requestedIndices, maskOf] using represents
  | cons index rest ih =>
      have one := represents_updateUnit represents now resourceInfo requested
        (known index (by simp))
      have more := ih one (fun later member => known later (by simp [member]))
      have gathered : (number ||| if requested &&& bit 32 index = 0#32 then 0#32
            else bit 32 index) ||| maskOf 32 (requestedIndices requested rest) =
          number ||| maskOf 32 (requestedIndices requested (index :: rest)) := by
        by_cases skipped : requested &&& bit 32 index = 0#32
        · simp [requestedIndices, skipped]
        · simp [requestedIndices, skipped, maskOf, BitVec.or_assoc]
      rw [← gathered]
      exact more

theorem getLsbD_maxResourceMask : ∀ i : Fin 32,
    maxResourceMask.getLsbD i = decide (i.val < maxResourcesTypeNum) := by
  decide

/-- A request within the known resources is the mask of the indices it asks for. -/
theorem maskOf_requestedIndices {requested : ResourceNumber}
    (within : requested &&& maxResourceMask = requested) :
    maskOf 32 (requestedIndices requested (List.range maxResourcesTypeNum)) = requested := by
  refine BitVec.eq_of_getLsbD_eq (fun i inBounds => ?_)
  have clipped := congrArg (fun mask => mask.getLsbD i) within
  have maskBit := getLsbD_maxResourceMask ⟨i, inBounds⟩
  dsimp only at maskBit
  simp only [BitVec.getLsbD_and, maskBit] at clipped
  rw [getLsbD_maskOf _ inBounds]
  have asked : requested &&& bit 32 i ≠ 0#32 ↔ requested.getLsbD i = true := by
    rw [Ne, and_bit_eq_zero_iff inBounds, Bool.not_eq_false]
  by_cases known : i < maxResourcesTypeNum
  · simp only [requestedIndices, List.mem_filter, List.mem_range, known, true_and,
      decide_eq_true_iff, asked]
    cases requested.getLsbD i <;> rfl
  · have unset : requested.getLsbD i = false := by
      rw [← clipped]
      simp [known]
    rw [unset]
    simp [requestedIndices, known]

theorem represents_updateUnits {number : ResourceNumber} {units : List PersistTime}
    (represents : Represents number units) (now : Int) (resourceInfo : EfficiencyResourceInfo)
    {requested : ResourceNumber} (within : requested &&& maxResourceMask = requested) :
    Represents (number ||| requested) (updateUnits now resourceInfo requested units) := by
  have folded := represents_foldl_updateUnit represents now resourceInfo requested
    (List.range maxResourcesTypeNum) (fun index member => List.mem_range.mp member)
  rwa [maskOf_requestedIndices within] at folded

theorem represents_removeListRecord {number eraseBit : ResourceNumber}
    {units : List PersistTime} (represents : Represents number units)
    (held : number &&& eraseBit = eraseBit) :
    Represents (number ^^^ eraseBit) (removeListRecord eraseBit units) := by
  unfold removeListRecord
  by_cases nothing : eraseBit = 0#32
  · simpa [nothing] using represents
  · rw [if_neg nothing]
    have indices : unitIndices (units.filter
        (fun unit => bit 32 unit.resourceIndex &&& eraseBit = 0#32)) =
          (unitIndices units).filter (fun index => bit 32 index &&& eraseBit = 0#32) := by
      rw [unitIndices, unitIndices, List.filter_map]
      rfl
    refine ⟨?_, ?_, ?_⟩
    · rw [indices, maskOf_filter_clear, ← represents.mask, xor_eq_and_not held]
    · rw [indices]
      exact represents.distinct.filter _
    · intro index member
      rw [indices] at member
      exact represents.below index (List.mem_filter.mp member).1

def PersistTime.isTimeOut (now : Int) (unit : PersistTime) : Bool :=
  !unit.isPersist && now ≥ unit.endTime

theorem timeOutBits_eq (now : Int) (units : List PersistTime) :
    timeOutBits now units = maskOf 32 (unitIndices (units.filter (PersistTime.isTimeOut now))) := by
  have general : ∀ eraseBit : ResourceNumber,
      units.foldl (fun eraseBit unit =>
        if unit.isPersist then eraseBit
        else if now ≥ unit.endTime then eraseBit ||| bit 32 unit.resourceIndex
        else eraseBit) eraseBit =
      eraseBit ||| maskOf 32 (unitIndices (units.filter (PersistTime.isTimeOut now))) := by
    induction units with
    | nil =>
        intro eraseBit
        simp [unitIndices, maskOf]
    | cons unit rest ih =>
        intro eraseBit
        rw [List.foldl_cons, ih]
        cases persist : unit.isPersist with
        | true => simp [PersistTime.isTimeOut, persist]
        | false =>
            by_cases due : now ≥ unit.endTime
            · simp [PersistTime.isTimeOut, persist, due, unitIndices, maskOf, BitVec.or_assoc]
            · simp [PersistTime.isTimeOut, persist, due]
  rw [timeOutBits, general]
  simp

theorem timeOutBits_held {number : ResourceNumber} {units : List PersistTime}
    (represents : Represents number units) (now : Int) :
    number &&& timeOutBits now units = timeOutBits now units := by
  rw [represents.mask, timeOutBits_eq]
  refine BitVec.eq_of_getLsbD_eq (fun i inBounds => ?_)
  rw [BitVec.getLsbD_and, getLsbD_maskOf _ inBounds, getLsbD_maskOf _ inBounds]
  by_cases expired : i ∈ unitIndices (units.filter (PersistTime.isTimeOut now))
  · have held : i ∈ unitIndices units := by
      obtain ⟨unit, member, rfl⟩ := List.mem_map.mp expired
      exact List.mem_map_of_mem (List.mem_of_mem_filter member)
    simp [expired, held]
  · simp [expired]

end BgTaskMgr.Efficiency
