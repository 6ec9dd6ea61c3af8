import BgTaskMgr.Common.JsonValue
import BgTaskMgr.Efficiency.Record

/-!
# Efficiency records as JSON

The text of the two record maps, given by the JSON value that it is parsed to.  The reader
counts the units of a list in an `int32_t`, so the length of a list has a range as its numbers do.
-/

set_option autoImplicit false

namespace BgTaskMgr.Efficiency

open NumberText

/-! ## Units -/

def IsInt64 (x : Int) : Prop := -2 ^ 63 ≤ x ∧ x < 2 ^ 63

instance : DecidablePred IsInt64 := fun _ => inferInstanceAs (Decidable (_ ∧ _))

def getInt64 (value : Json) : Int := value.toInt.bmod (2 ^ 64)

theorem getInt64_integer {x : Int} (range : IsInt64 x) : getInt64 (.integer x) = x := by
  obtain ⟨low, high⟩ := range
  apply Int.bmod_eq_of_le
  · simp only [Json.toInt]
    omega
  · simp only [Json.toInt]
    omega

namespace PersistTime

def toJson (unit : PersistTime) : Json :=
  let info := Json.null
  let info := info.set "resourceIndex" (.integer unit.resourceIndex)
  let info := info.set "isPersist" (.boolean unit.isPersist)
  let info := info.set "endTime" (.integer unit.endTime)
  let info := info.set "reason" (.string unit.reason)
  info.set "timeOut" (.integer unit.timeOut)

/-- The loop body of `ParseFromJson`; `none` is its `continue`. -/
def ofJson (persistTime : Json) : Option PersistTime :=
  if persistTime.isNull || !persistTime.isObject then none
  else if !checkJsonValue persistTime ["resourceIndex", "isPersist", "endTime", "reason", "timeOut"]
      || !(persistTime.member "resourceIndex").isInteger
      || !(persistTime.member "isPersist").isBoolean
      || !(persistTime.member "endTime").isInteger || !(persistTime.member "reason").isString
      || !(persistTime.member "timeOut").isInteger then none
  else some {
    resourceIndex := getUInt32 (persistTime.member "resourceIndex")
    isPersist := (persistTime.member "isPersist").toBool
    endTime := getInt64 (persistTime.member "endTime")
    reason := (persistTime.member "reason").toText
    timeOut := getInt64 (persistTime.member "timeOut") }

structure InRange (unit : PersistTime) : Prop where
  resourceIndex : IsUInt32 unit.resourceIndex
  endTime : IsInt64 unit.endTime
  timeOut : IsInt64 unit.timeOut

theorem ofJson_toJson {unit : PersistTime} (range : unit.InRange) :
    ofJson unit.toJson = some unit := by
  simp [ofJson, toJson, checkJsonValue, Json.isInteger, Json.isBoolean, Json.isString,
    Json.toBool, Json.toText, getUInt32_integer, getInt64_integer, range.resourceIndex,
    range.endTime, range.timeOut]

end PersistTime

/-! ## Records -/

namespace ResourceApplicationRecord

def empty : ResourceApplicationRecord where
  uid := 0
  pid := 0
  resourceNumber := 0#32
  bundleName := ""

theorem resourceUnitList_empty : empty.resourceUnitList = [] := rfl

def parseToJson (record : ResourceApplicationRecord) (root : Json) : Json :=
  let root := root.set "bundleName" (.string record.bundleName)
  let root := root.set "uid" (.integer record.uid)
  let root := root.set "pid" (.integer record.pid)
  let root := root.set "resourceNumber" (.integer record.resourceNumber.toNat)
  let root := root.set "cpuLevel" (.integer record.cpuLevel)
  if record.resourceUnitList.isEmpty then root
  else root.set "resourceUnitList" (.array (record.resourceUnitList.map PersistTime.toJson))

def parseUnits (resourceVal : Json) : List PersistTime :=
  let nums := toInt32 resourceVal.elements.length
  (resourceVal.elements.take nums.toNat).filterMap PersistTime.ofJson

/-- The result is that of `ParseFromJson` with the record as it leaves it. -/
def parseFromJson (record : ResourceApplicationRecord) (value : Json) :
    Bool × ResourceApplicationRecord :=
  if value.isEmpty then (false, record)
  else if !checkJsonValue value ["uid", "pid", "bundleName", "resourceNumber"]
      || !(value.member "uid").isInteger || !(value.member "pid").isInteger
      || !(value.member "bundleName").isString || !(value.member "resourceNumber").isInteger then
    (false, record)
  else
    let record := { record with
      cpuLevel :=
        if checkJsonValue value ["cpuLevel"] && (value.member "cpuLevel").isInteger then
          getInt32 (value.member "cpuLevel")
        else record.cpuLevel
      uid := getInt32 (value.member "uid")
      pid := getInt32 (value.member "pid")
      bundleName := (value.member "bundleName").toText
      resourceNumber := BitVec.ofNat 32 (getUInt32 (value.member "resourceNumber")) }
    if !(value.contains "resourceUnitList" && (value.member "resourceUnitList").isArray) then
      (true, record)
    else
      (true, { record with
        resourceUnitList :=
          record.resourceUnitList ++ parseUnits (value.member "resourceUnitList") })

/-- An `int32_t` counts the units. -/
def CountInRange (units : List PersistTime) : Prop := (units.length : Int) ≤ intMax

structure InRange (record : ResourceApplicationRecord) : Prop where
  uid : IsInt32 record.uid
  pid : IsInt32 record.pid
  cpuLevel : IsInt32 record.cpuLevel
  countable : CountInRange record.resourceUnitList
  units : ∀ unit ∈ record.resourceUnitList, unit.InRange

theorem parseUnits_toJson {units : List PersistTime} (countable : CountInRange units)
    (range : ∀ unit ∈ units, unit.InRange) :
    parseUnits (.array (units.map PersistTime.toJson)) = units := by
  have nums : toInt32 units.length = units.length :=
    toInt32_of_isInt32 ⟨by omega, by unfold CountInRange intMax at countable; omega⟩
  simp only [parseUnits, Json.elements, List.length_map, nums, Int.toNat_natCast,
    ← List.map_take, List.take_length, List.filterMap_map]
  calc units.filterMap (PersistTime.ofJson ∘ PersistTime.toJson)
      = units.filterMap some := by
        apply List.filterMap_congr
        intro unit member
        exact PersistTime.ofJson_toJson (range unit member)
    _ = units := List.filterMap_some

/-- The units of a record come back behind those it is read into. -/
theorem parseFromJson_parseToJson (before : ResourceApplicationRecord)
    {record : ResourceApplicationRecord} (range : record.InRange) :
    before.parseFromJson (record.parseToJson .null) =
      (true, { record with
        resourceUnitList := before.resourceUnitList ++ record.resourceUnitList }) := by
  have units := parseUnits_toJson range.countable range.units
  have mask : getUInt32 (.integer record.resourceNumber.toNat) = record.resourceNumber.toNat :=
    getUInt32_integer record.resourceNumber.isLt
  by_cases none : record.resourceUnitList = []
  · simp [parseFromJson, parseToJson, checkJsonValue, Json.isInteger, Json.isString, Json.toText,
      getInt32_integer, range.uid, range.pid, range.cpuLevel, mask, none]
  · simp [parseFromJson, parseToJson, checkJsonValue, Json.isInteger, Json.isString, Json.isArray,
      Json.toText, getInt32_integer, range.uid, range.pid, range.cpuLevel, mask, none, units]

end ResourceApplicationRecord

/-! ## Maps -/

def convertMapToJson (records : ResourceRecordMap) : Json :=
  Json.ofMap Int.repr (fun record => record.parseToJson .null) records

/-- `ConvertMapToString`, before the dump. -/
def convertMapToString (appRecord processRecord : ResourceRecordMap) : Json :=
  (Json.null.set "appResourceRecord" (convertMapToJson appRecord)).set "processResourceRecord"
    (convertMapToJson processRecord)

/-- The key of a member: the number cast to `uint32_t`, then to the type of the keys. -/
def keyOfName (name : String) : Int := toInt32 (atoi name % 2 ^ 32)

/-- `ConvertJsonToMap`; it takes the record whatever `ParseFromJson` returns. -/
def convertJsonToMap (value : Json) (recordMap : ResourceRecordMap) : ResourceRecordMap :=
  Json.readMap keyOfName
    (fun value => some (ResourceApplicationRecord.empty.parseFromJson value).2) value recordMap

def divideJsonToMap (root : Json) (appRecord processRecord : ResourceRecordMap) :
    ResourceRecordMap × ResourceRecordMap :=
  (if root.contains "appResourceRecord" && (root.member "appResourceRecord").isObject then
      convertJsonToMap (root.member "appResourceRecord") appRecord
    else appRecord,
    if root.contains "processResourceRecord" && (root.member "processResourceRecord").isObject then
      convertJsonToMap (root.member "processResourceRecord") processRecord
    else processRecord)

structure MapInRange (records : ResourceRecordMap) : Prop where
  keys : ∀ key ∈ records, IsInt32 key
  records : ∀ key record, records.lookup key = some record → record.InRange

theorem keyOfName_repr {key : Int} (range : IsInt32 key) : keyOfName key.repr = key := by
  have cast : toInt32 (key % 2 ^ 32) = toInt32 key := by
    have exact := Int.emod_bmod key (2 ^ 32)
    exact_mod_cast exact
  rw [keyOfName, atoi_repr range.1 range.2, cast]
  exact toInt32_of_isInt32 range

theorem convertJsonToMap_convertMapToJson {records : ResourceRecordMap}
    (range : MapInRange records) (key : Int) :
    (convertJsonToMap (convertMapToJson records) ∅).lookup key = records.lookup key := by
  rw [← Option.map_id' (x := records.lookup key)]
  apply Json.lookup_readMap_ofMap
  · intro key stored
    exact keyOfName_repr (range.keys key stored)
  · intro key record found
    have whole := ResourceApplicationRecord.parseFromJson_parseToJson .empty
      (range.records key record found)
    rw [ResourceApplicationRecord.resourceUnitList_empty, List.nil_append] at whole
    exact congrArg (fun result => some result.2) whole

theorem divideJsonToMap_convertMapToString (appRecord processRecord : ResourceRecordMap) :
    divideJsonToMap (convertMapToString appRecord processRecord) ∅ ∅ =
      (convertJsonToMap (convertMapToJson appRecord) ∅,
        convertJsonToMap (convertMapToJson processRecord) ∅) := by
  have either (value : Json) : (if value.isObject then convertJsonToMap value ∅ else ∅) =
      convertJsonToMap value ∅ := by
    split
    · rfl
    · rename_i other
      exact (Json.readMap_of_not_isObject (by simpa using other) ∅).symm
  simp [divideJsonToMap, convertMapToString, either]

theorem lookup_divideJsonToMap {appRecord processRecord : ResourceRecordMap}
    (appRange : MapInRange appRecord) (processRange : MapInRange processRecord) (key : Int) :
    (divideJsonToMap (convertMapToString appRecord processRecord) ∅ ∅).1.lookup key =
        appRecord.lookup key ∧
      (divideJsonToMap (convertMapToString appRecord processRecord) ∅ ∅).2.lookup key =
        processRecord.lookup key := by
  rw [divideJsonToMap_convertMapToString]
  exact ⟨convertJsonToMap_convertMapToJson appRange key,
    convertJsonToMap_convertMapToJson processRange key⟩

end BgTaskMgr.Efficiency
