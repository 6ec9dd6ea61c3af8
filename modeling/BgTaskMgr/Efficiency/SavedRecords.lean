import BgTaskMgr.Efficiency.Grants
import BgTaskMgr.Efficiency.RecordJson

/-!
# The records that are saved

A grant adds a unit to a list only where its index is new, so a list has one unit for each
resource at most.  The records that the service saves and reads again are far from the
length that the reader cannot count.
-/

set_option autoImplicit false

namespace BgTaskMgr.Efficiency

open StepSystem

/-! ## Unit lists along a run -/

/-- What holds of an empty unit list and stays through grants and removals. -/
structure KeptByEdits (P : List PersistTime → Prop) : Prop where
  nil : P []
  granted : ∀ now resourceInfo number units, P units →
    P (updateUnits now resourceInfo number units)
  removed : ∀ eraseBit units, P units → P (removeListRecord eraseBit units)

namespace BgEfficiencyResourcesMgr

structure Everywhere (P : List PersistTime → Prop) (mgr : BgEfficiencyResourcesMgr) : Prop where
  maps : ∀ isProcess key record, (mgr.infoMap isProcess).lookup key = some record →
    P record.resourceUnitList
  fileApp : ∀ key record, mgr.file.appResourceRecord.lookup key = some record →
    P record.resourceUnitList
  fileProcess : ∀ key record, mgr.file.processResourceRecord.lookup key = some record →
    P record.resourceUnitList

section

variable {P : List PersistTime → Prop} {self : BgEfficiencyResourcesMgr} {env : Env}

theorem Everywhere.of_maps {after : BgEfficiencyResourcesMgr} (everywhere : Everywhere P self)
    (follows : FileFollows self after)
    (maps : ∀ isProcess key record, (after.infoMap isProcess).lookup key = some record →
      P record.resourceUnitList) : Everywhere P after := by
  rcases follows with same | written
  · refine ⟨maps, ?_, ?_⟩
    · rw [same]
      exact everywhere.fileApp
    · rw [same]
      exact everywhere.fileProcess
  · refine ⟨maps, ?_, ?_⟩
    · rw [written]
      exact maps false
    · rw [written]
      exact maps true

theorem everywhere_init : Everywhere P {} := by
  refine ⟨fun isProcess key record found => ?_, fun _ _ found => ?_, fun _ _ found => ?_⟩
  · cases isProcess with
    | false => cases found
    | true => cases found
  · cases found
  · cases found

variable (kept : KeptByEdits P) (everywhere : Everywhere P self)

include kept everywhere

theorem units_of_descends {isProcess : Bool} {key : Int} {record : ResourceApplicationRecord}
    (descends : Descends self isProcess key record) : P record.resourceUnitList := by
  cases descends with
  | kept found => exact everywhere.maps isProcess key record found
  | erased found subset result =>
      rw [result]
      exact kept.removed _ _ (everywhere.maps isProcess key _ found)

theorem units_resetTimeOutResource {mapKey key : Int} {isProcess other : Bool}
    {record : ResourceApplicationRecord}
    (found : ((self.resetTimeOutResource env mapKey isProcess).infoMap other).lookup key =
      some record) : P record.resourceUnitList := by
  unfold resetTimeOutResource at found
  split at found
  · exact everywhere.maps other key record found
  rename_i held stored
  dsimp only at found
  split at found
  · exact everywhere.maps other key record found
  rw [lookup_eraseBits stored] at found
  split at found
  · split at found
    · cases found
    · obtain rfl := Option.some.inj found
      exact kept.removed _ _ (everywhere.maps isProcess mapKey held stored)
  · exact everywhere.maps other key record found

theorem units_applyEfficiencyResourcesInner {callbackInfo : ResourceCallbackInfo}
    {resourceInfo : EfficiencyResourceInfo} {isProcess : Bool} {key : Int}
    {record : ResourceApplicationRecord}
    (found : ((self.applyEfficiencyResourcesInner env callbackInfo resourceInfo).infoMap
      isProcess).lookup key = some record) : P record.resourceUnitList := by
  obtain ⟨cpuLevel, lookups⟩ := exists_lookup_applied self env callbackInfo resourceInfo
  rw [lookups] at found
  split at found
  · obtain rfl := Option.some.inj found
    apply kept.granted
    cases held : (self.infoMap resourceInfo.isProcess).lookup
        (callbackInfo.mapKey resourceInfo.isProcess) with
    | none => exact kept.nil
    | some before => exact everywhere.maps _ _ before held
  · exact everywhere.maps isProcess key record found

theorem units_runTask {task : HandlerTask} {isProcess : Bool} {key : Int}
    {record : ResourceApplicationRecord}
    (found : ((self.runTask env task).infoMap isProcess).lookup key = some record) :
    P record.resourceUnitList := by
  cases task with
  | applyEfficiencyResourcesInner callbackInfo resourceInfo =>
      exact units_applyEfficiencyResourcesInner kept everywhere found
  | resetEfficiencyResourcesInner callbackInfo ofProcess =>
      exact units_of_descends kept everywhere
        ((takesHeld_resetEfficiencyResourcesInner callbackInfo ofProcess).records _ _ _ found)
  | resetTimeOutResource mapKey ofProcess =>
      exact units_resetTimeOutResource kept everywhere found

theorem everywhere_resourceStep (op : ResourceOp) :
    Everywhere P (self.resourceStep (env, op)) := by
  have takes {after : BgEfficiencyResourcesMgr} (takes : TakesHeld self after) :
      ∀ isProcess key record, (after.infoMap isProcess).lookup key = some record →
        P record.resourceUnitList :=
    fun isProcess key record found =>
      units_of_descends kept everywhere (takes.records isProcess key record found)
  refine everywhere.of_maps (fileFollows_resourceStep (env, op)) ?_
  cases op with
  | applyEfficiencyResources uid pid resourceInfo =>
      exact takes (onlyPosts_applyEfficiencyResources env uid pid resourceInfo).takesHeld
  | resetAllEfficiencyResources uid pid =>
      exact takes (onlyPosts_resetAllEfficiencyResources env uid pid).takesHeld
  | removeAppRecord uid bundleName resetAll =>
      exact takes (onlyPosts_removeAppRecord env uid bundleName resetAll).takesHeld
  | removeProcessRecord uid pid bundleName =>
      exact takes (onlyPosts_removeProcessRecord env uid pid bundleName).takesHeld
  | shellDump dumpOption => exact takes (takesHeld_shellDump dumpOption)
  | runPending index =>
      intro isProcess key record found
      simp only [resourceStep] at found
      split at found
      · exact everywhere.maps isProcess key record found
      · have popped : Everywhere P { self with pending := self.pending.eraseIdx index } :=
          ⟨everywhere.maps, everywhere.fileApp, everywhere.fileProcess⟩
        exact units_runTask kept popped found

omit kept in
theorem units_restoreResourceRecord {isProcess : Bool} {key : Int}
    {record : ResourceApplicationRecord}
    (found : ((self.restoreResourceRecord env).infoMap isProcess).lookup key = some record) :
    P record.resourceUnitList := by
  unfold restoreResourceRecord at found
  split at found
  · cases isProcess with
    | false =>
        rcases AList.lookup_union_eq_some.mp found with inMemory | ⟨-, stored⟩
        · exact everywhere.maps false key record inMemory
        · exact everywhere.fileApp key record stored
    | true =>
        rcases AList.lookup_union_eq_some.mp found with inMemory | ⟨-, stored⟩
        · exact everywhere.maps true key record inMemory
        · exact everywhere.fileProcess key record stored
  · exact everywhere.maps isProcess key record found

theorem everywhere_step (label : Env × ServiceOp) : Everywhere P (self.step label) := by
  obtain ⟨env, op⟩ := label
  cases op with
  | resource op => exact everywhere_resourceStep kept everywhere op
  | addSystemAbility ability =>
      refine everywhere.of_maps (fileFollows_onAddSystemAbility ability) ?_
      intro isProcess key record found
      rcases lookup_onAddSystemAbility found with same | ⟨-, stored, storedFound, -, rfl⟩
      · exact everywhere.maps isProcess key record same
      · -- a restore changes the mask at most
        have units := units_restoreResourceRecord everywhere storedFound
        unfold recoveredRecord
        split
        · exact units
        · exact units
  | removeSystemAbility ability =>
      simp only [step, onRemoveSystemAbility]
      split
      · exact ⟨everywhere.maps, everywhere.fileApp, everywhere.fileProcess⟩
      · exact ⟨everywhere.maps, everywhere.fileApp, everywhere.fileProcess⟩
  | restart =>
      refine ⟨fun isProcess key record found => ?_, everywhere.fileApp, everywhere.fileProcess⟩
      cases isProcess with
      | false => cases found
      | true => cases found

end

theorem everywhere_run {P : List PersistTime → Prop} (kept : KeptByEdits P)
    (labels : List (Env × ServiceOp)) : Everywhere P (run step {} labels) := by
  have preserves : ∀ mgr label, Everywhere P mgr → Everywhere P (mgr.step label) :=
    fun _ label everywhere => everywhere_step kept everywhere label
  exact run_preserves preserves labels {} everywhere_init

end BgEfficiencyResourcesMgr

open BgEfficiencyResourcesMgr ResourceApplicationRecord

/-! ## One unit for each resource -/

structure OfResources (units : List PersistTime) : Prop where
  distinct : (unitIndices units).Nodup
  below : ∀ index ∈ unitIndices units, index < maxResourcesTypeNum

theorem keptByEdits_ofResources : KeptByEdits OfResources where
  nil := ⟨List.nodup_nil, fun _ member => absurd member List.not_mem_nil⟩
  granted now resourceInfo number units known := by
    have represents : Represents (Bitmask.maskOf 32 (unitIndices units)) units :=
      ⟨rfl, known.distinct, known.below⟩
    have folded := represents_foldl_updateUnit represents now resourceInfo number
      (List.range maxResourcesTypeNum) (fun index member => List.mem_range.mp member)
    exact ⟨folded.distinct, folded.below⟩
  removed eraseBit units known := by
    have fewer : (unitIndices (removeListRecord eraseBit units)).Sublist (unitIndices units) := by
      unfold removeListRecord
      split
      · exact .refl _
      · exact List.filter_sublist.map _
    exact ⟨known.distinct.sublist fewer,
      fun index member => known.below index (fewer.subset member)⟩

theorem OfResources.length_le {units : List PersistTime} (known : OfResources units) :
    units.length ≤ maxResourcesTypeNum := by
  have within : unitIndices units ⊆ List.range maxResourcesTypeNum :=
    fun index member => List.mem_range.mpr (known.below index member)
  have few := (List.subperm_of_subset known.distinct within).length_le
  rwa [List.length_range, unitIndices, List.length_map] at few

theorem OfResources.countable {units : List PersistTime} (known : OfResources units) :
    CountInRange units := by
  have few : units.length ≤ 9 := known.length_le
  unfold CountInRange intMax
  omega

/-- The two maps come back from their text, if their numbers are in the ranges of the types and
an `int32_t` counts their units; and it does in every record of every run of the service, in
memory and in the file. -/
theorem resource_maps_lossless :
    (∀ appRecord processRecord : ResourceRecordMap, MapInRange appRecord →
      MapInRange processRecord → ∀ key,
        (divideJsonToMap (convertMapToString appRecord processRecord) ∅ ∅).1.lookup key =
            appRecord.lookup key ∧
          (divideJsonToMap (convertMapToString appRecord processRecord) ∅ ∅).2.lookup key =
            processRecord.lookup key) ∧
      ∀ labels : List (Env × ServiceOp), Everywhere CountInRange (run step {} labels) := by
  refine ⟨fun _ _ appRange processRange key => lookup_divideJsonToMap appRange processRange key, ?_⟩
  intro labels
  have known := everywhere_run keptByEdits_ofResources labels
  exact ⟨fun isProcess key record found => (known.maps isProcess key record found).countable,
    fun key record found => (known.fileApp key record found).countable,
    fun key record found => (known.fileProcess key record found).countable⟩

def savedRecord : ResourceApplicationRecord where
  uid := 20010044
  pid := 0
  resourceNumber := ResourceType.timer
  bundleName := "com.example.alarm"
  resourceUnitList := [⟨2, false, 5000, "alarm", 3000⟩]

def oneRecord (record : ResourceApplicationRecord) : ResourceRecordMap :=
  (∅ : ResourceRecordMap).insert record.uid record

theorem lookup_oneRecord (record : ResourceApplicationRecord) :
    (oneRecord record).lookup record.uid = some record :=
  AList.lookup_insert _

theorem eq_of_lookup_oneRecord {record other : ResourceApplicationRecord} {key : Int}
    (found : (oneRecord record).lookup key = some other) : other = record := by
  rw [oneRecord, KeyedMap.lookup_insert] at found
  split at found
  · exact (Option.some.inj found).symm
  · exact absurd found (by simp)

theorem mapInRange_oneRecord {record : ResourceApplicationRecord} (range : record.InRange) :
    MapInRange (oneRecord record) where
  keys key stored := by
    rw [oneRecord, AList.mem_insert] at stored
    rcases stored with rfl | other
    · exact range.uid
    · exact absurd other (AList.notMem_empty _)
  records key other found := eq_of_lookup_oneRecord found ▸ range

theorem mapInRange_empty : MapInRange ∅ where
  keys key stored := absurd stored (AList.notMem_empty _)
  records key record found := absurd found (by simp)

theorem inRange_savedRecord : savedRecord.InRange := by
  constructor
  case units =>
    intro unit member
    obtain rfl := List.mem_singleton.mp member
    constructor
    all_goals decide
  case countable =>
    show (1 : Int) ≤ intMax
    decide
  all_goals decide

theorem resource_maps_lossless_saved :
    (divideJsonToMap (convertMapToString (oneRecord savedRecord) ∅) ∅ ∅).1.lookup 20010044 =
      some savedRecord := by
  have both := resource_maps_lossless.1 (oneRecord savedRecord) ∅
    (mapInRange_oneRecord inRange_savedRecord) mapInRange_empty
  exact (both savedRecord.uid).1.trans (lookup_oneRecord savedRecord)

end BgTaskMgr.Efficiency
