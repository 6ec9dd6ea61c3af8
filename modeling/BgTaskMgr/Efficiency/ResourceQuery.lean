import BgTaskMgr.Efficiency.CpuLevels

/-!
# What the resource query reports

`GetAllEfficiencyResources` lists one entry for each unit of the records of a uid.  The loop
builds the number of an entry from the index of the unit by `index << 1`.
-/

set_option autoImplicit false

namespace BgTaskMgr.Efficiency

open Bitmask StepSystem

/-- `EfficiencyResourceInfo` with its `uid_` and `pid_`, which only a query sets. -/
structure OwnedResourceInfo extends EfficiencyResourceInfo where
  uid : Int := -1
  pid : Int := -1
  deriving DecidableEq, Repr

/-- The `resourceNumber` that the loop of `GetAllEfficiencyResourcesInner` builds. -/
def queriedNumber (resourceIndex : Nat) : ResourceNumber :=
  if resourceIndex ≠ 0 then BitVec.ofNat 32 resourceIndex <<< 1 else 1#32

/-- The loop body of `GetAllEfficiencyResourcesInner` at one unit of a record. -/
def queriedEntry (uid pid : Int) (isProcess : Bool) (record : ResourceApplicationRecord)
    (unit : PersistTime) : OwnedResourceInfo where
  resourceNumber := queriedNumber unit.resourceIndex
  isApply := false
  timeOut := (unit.timeOut % 2 ^ 32).toNat
  reason := unit.reason
  isPersist := unit.isPersist
  isProcess := isProcess
  cpuLevel :=
    if record.cpuLevel ≠ EfficiencyResourcesCpuLevel.default ∧
        EfficiencyResourcesCpuLevel.isCpuLevelValid record.cpuLevel then record.cpuLevel
    else EfficiencyResourcesCpuLevel.default
  uid := uid
  pid := pid

def queriedEntries (uid pid : Int) (isProcess : Bool) (record : ResourceApplicationRecord) :
    List OwnedResourceInfo :=
  record.resourceUnitList.map (queriedEntry uid pid isProcess record)

def getAllEfficiencyResourcesInner (infoMap : ResourceRecordMap)
    (resourceInfoList : List OwnedResourceInfo) (uid pid : Int) (isProcess : Bool) :
    List OwnedResourceInfo :=
  (KeyedMap.vals infoMap).foldl (fun resourceInfoList record =>
    if record.uid ≠ uid then resourceInfoList
    else resourceInfoList ++ queriedEntries uid pid isProcess record) resourceInfoList

namespace BgEfficiencyResourcesMgr

def getAllEfficiencyResources (env : Env) (uid pid : Int) (self : BgEfficiencyResourcesMgr) :
    Except ErrCode (List OwnedResourceInfo) :=
  if !self.isSysReady then .error .resourcesSysNotReady
  else if uid < 0 || pid < 0 then .error .resourcesInvalidPidOrUid
  else if !env.isSystemApp && !env.isServiceExtensionType pid then .error .notSystemApp
  else
    let resourceInfoList :=
      getAllEfficiencyResourcesInner self.appResourceApplyMap [] uid pid false
    .ok (getAllEfficiencyResourcesInner self.procResourceApplyMap resourceInfoList uid pid true)

end BgEfficiencyResourcesMgr

/-- The entries of a record say what it holds: one for each unit, with the bit of the unit,
and together the mask of the record. -/
structure ReportedExactly (record : ResourceApplicationRecord)
    (entries : List OwnedResourceInfo) : Prop where
  units : List.Forall₂ (fun unit (entry : OwnedResourceInfo) =>
    entry.resourceNumber = bit 32 unit.resourceIndex) record.resourceUnitList entries
  mask : entries.foldr (fun entry number => entry.resourceNumber ||| number) 0#32 =
    record.resourceNumber

section

variable {uid pid : Int} {isProcess : Bool} {record : ResourceApplicationRecord}

def recordsOf (uid : Int) (infoMap : ResourceRecordMap) : List ResourceApplicationRecord :=
  (KeyedMap.vals infoMap).filter (fun record => record.uid = uid)

theorem getAllEfficiencyResourcesInner_eq (infoMap : ResourceRecordMap)
    (resourceInfoList : List OwnedResourceInfo) (uid pid : Int) (isProcess : Bool) :
    getAllEfficiencyResourcesInner infoMap resourceInfoList uid pid isProcess =
      resourceInfoList ++ (recordsOf uid infoMap).flatMap (queriedEntries uid pid isProcess) := by
  unfold getAllEfficiencyResourcesInner recordsOf
  generalize KeyedMap.vals infoMap = records
  induction records generalizing resourceInfoList with
  | nil => simp
  | cons record rest ih =>
      rw [List.foldl_cons, ih]
      by_cases own : record.uid = uid
      · simp [own]
      · simp [own]

/-- Twice the index is the bit of the index up to 2, and 0 has its own case. -/
theorem queriedNumber_eq_bit_iff {resourceIndex : Nat}
    (known : resourceIndex < maxResourcesTypeNum) :
    queriedNumber resourceIndex = bit 32 resourceIndex ↔ resourceIndex < 3 := by
  have each : ∀ index : Fin maxResourcesTypeNum,
      queriedNumber index.val = bit 32 index.val ↔ index.val < 3 := by
    decide
  exact each ⟨resourceIndex, known⟩

theorem foldr_resourceNumber_eq_maskOf {units : List PersistTime} {entries : List OwnedResourceInfo}
    (bits : List.Forall₂ (fun unit (entry : OwnedResourceInfo) =>
      entry.resourceNumber = bit 32 unit.resourceIndex) units entries) :
    entries.foldr (fun entry number => entry.resourceNumber ||| number) 0#32 =
      maskOf 32 (unitIndices units) := by
  induction bits with
  | nil => rfl
  | cons here _ ih =>
      rw [List.foldr_cons, here, ih]
      rfl

theorem queriedEntries_bits_iff :
    List.Forall₂ (fun unit (entry : OwnedResourceInfo) =>
        entry.resourceNumber = bit 32 unit.resourceIndex) record.resourceUnitList
        (queriedEntries uid pid isProcess record) ↔
      ∀ unit ∈ record.resourceUnitList,
        queriedNumber unit.resourceIndex = bit 32 unit.resourceIndex := by
  unfold queriedEntries
  rw [List.forall₂_map_right_iff, List.forall₂_same]
  rfl

theorem reportedExactly_iff
    (represents : Represents record.resourceNumber record.resourceUnitList) :
    ReportedExactly record (queriedEntries uid pid isProcess record) ↔
      ∀ unit ∈ record.resourceUnitList, unit.resourceIndex < 3 := by
  have known : ∀ unit ∈ record.resourceUnitList, unit.resourceIndex < maxResourcesTypeNum :=
    fun unit member => represents.below _ (List.mem_map_of_mem member)
  constructor
  · intro reported unit member
    apply (queriedNumber_eq_bit_iff (known unit member)).mp
    exact queriedEntries_bits_iff.mp reported.units unit member
  · intro small
    have bits := (@queriedEntries_bits_iff uid pid isProcess record).mpr
      (fun unit member => (queriedNumber_eq_bit_iff (known unit member)).mpr (small unit member))
    exact ⟨bits, (foldr_resourceNumber_eq_maskOf bits).trans represents.mask.symm⟩

end

namespace BgEfficiencyResourcesMgr

/-- A query adds the entries of each record of the uid, and these say what the record holds
exactly when it holds the first three resources at most. -/
theorem query_reports_iff {self : BgEfficiencyResourcesMgr} (isProcess : Bool)
    (represented : ∀ key record, (self.infoMap isProcess).lookup key = some record →
      Represents record.resourceNumber record.resourceUnitList)
    (resourceInfoList : List OwnedResourceInfo) (uid pid : Int) :
    getAllEfficiencyResourcesInner (self.infoMap isProcess) resourceInfoList uid pid isProcess =
        resourceInfoList ++ (recordsOf uid (self.infoMap isProcess)).flatMap
          (queriedEntries uid pid isProcess) ∧
      ∀ record ∈ recordsOf uid (self.infoMap isProcess),
        (ReportedExactly record (queriedEntries uid pid isProcess record) ↔
          ∀ unit ∈ record.resourceUnitList, unit.resourceIndex < 3) := by
  refine ⟨getAllEfficiencyResourcesInner_eq _ _ uid pid isProcess, ?_⟩
  intro record member
  obtain ⟨key, found⟩ := KeyedMap.mem_vals.mp (List.mem_of_mem_filter member)
  exact reportedExactly_iff (represented key record found)

def holding (resourceNumber : ResourceNumber) : BgEfficiencyResourcesMgr :=
  run step {} (bootLabels 1000 300000 ++ [persistentApply resourceNumber false (-1), runAt 2000 0])

theorem query_reports_timer :
    ReportedExactly
      { uid := 100, pid := 200, resourceNumber := ResourceType.timer, bundleName := "app"
        resourceUnitList := [⟨2, true, 0, "sync", 0⟩] }
      [{ resourceNumber := ResourceType.timer, isApply := false, timeOut := 0, reason := "sync"
         isPersist := true, uid := 100, pid := 200 }] := by
  have stored : (holding ResourceType.timer).appResourceApplyMap.entries = [⟨100,
      { uid := 100, pid := 200, resourceNumber := ResourceType.timer, bundleName := "app"
        resourceUnitList := [⟨2, true, 0, "sync", 0⟩] }⟩] := by decide
  have query := @query_reports_iff (holding ResourceType.timer) false ?_ [] 100 200
  · apply (query.2 _ _).mpr
    · simp
    · simp [recordsOf, KeyedMap.vals, infoMap, stored]
  · intro key record found
    have member := KeyedMap.mem_entries_iff.mpr found
    simp only [infoMap, Bool.false_eq_true, if_false, stored, List.mem_singleton] at member
    cases member
    exact ⟨by decide, by decide, by decide⟩

/-- Uid 100 holds the work scheduler alone; the query reports the bits of two other
resources. -/
theorem query_misreports_work_scheduler :
    ∃ record ∈ recordsOf 100 (holding ResourceType.workScheduler).appResourceApplyMap,
      Represents record.resourceNumber record.resourceUnitList ∧
      ¬ ReportedExactly record (queriedEntries 100 200 false record) := by
  refine ⟨{ uid := 100, pid := 200, resourceNumber := ResourceType.workScheduler
            bundleName := "app", resourceUnitList := [⟨3, true, 0, "sync", 0⟩] },
    by decide, ⟨by decide, by decide, by decide⟩, ?_⟩
  intro reported
  have mask := reported.mask
  revert mask
  decide

end BgEfficiencyResourcesMgr

end BgTaskMgr.Efficiency
