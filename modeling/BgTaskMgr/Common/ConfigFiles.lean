import BgTaskMgr.Common.CloudConfig

/-!
# The configuration files

What `BgtaskConfig::Init` reads: the exempted apps and the quota of the suspend manager's
file, and the apps of the service's own file that may ask for a CPU level.  An entry of that
list which lacks a field is passed over, and a later entry for the same app replaces an
earlier one.
-/

set_option autoImplicit false

namespace BgTaskMgr

/-! ## The file of the suspend manager -/

/-- A member that is no string throws, when those before it are on the list. -/
def parseTransientTaskExemptedQuatoList (jsonObj : Json) (self : BgtaskConfig) :
    BgtaskConfig.Outcome Unit :=
  if jsonObj.isNull || jsonObj.isEmpty then (.ok (), self)
  else if !jsonObj.contains "transient_err_delayed_frozen_list" ||
      !(jsonObj.member "transient_err_delayed_frozen_list").isArray then (.ok (), self)
  else
    let appArray := (jsonObj.member "transient_err_delayed_frozen_list").elements
    (if appArray.all Json.isString then .ok () else .error .typeError,
      { self with
        transientTaskExemptedQuatoList :=
          (appArray.takeWhile Json.isString).foldl (fun names app => insert app.toText names)
            self.transientTaskExemptedQuatoList })

def parseTransientTaskExemptedQuato (jsonObj : Json) (self : BgtaskConfig) : BgtaskConfig :=
  if jsonObj.isNull || jsonObj.isEmpty then self
  else if !jsonObj.contains "transient_exempted_quota" ||
      !(jsonObj.member "transient_exempted_quota").isInteger then self
  else
    { self with
      transientTaskExemptedQuato := getInt32 (jsonObj.member "transient_exempted_quota") }

def loadConfigFile (file : Option Json) (self : BgtaskConfig) : BgtaskConfig.Outcome Unit :=
  match file with
  | none => (.ok (), self)
  | some jsonObj =>
      match parseTransientTaskExemptedQuatoList jsonObj self with
      | (.error exception, self) => (.error exception, self)
      | (.ok (), self) => (.ok (), parseTransientTaskExemptedQuato jsonObj self)

def ListsStrings (file : Option Json) : Prop :=
  ∀ jsonObj ∈ file, ∀ app ∈ (jsonObj.member "transient_err_delayed_frozen_list").elements,
    app.isString = true

instance (file : Option Json) : Decidable (ListsStrings file) :=
  inferInstanceAs (Decidable (∀ _ ∈ file, ∀ _ ∈ _, _))

theorem loadConfigFile_eq_ok_iff {file : Option Json} {self : BgtaskConfig} :
    (loadConfigFile file self).1 = .ok () ↔ ListsStrings file := by
  cases file with
  | none => simp [loadConfigFile, ListsStrings]
  | some jsonObj =>
      have list : (parseTransientTaskExemptedQuatoList jsonObj self).1 = .ok () ↔
          ListsStrings (some jsonObj) := by
        unfold parseTransientTaskExemptedQuatoList ListsStrings
        by_cases array : (jsonObj.member "transient_err_delayed_frozen_list").isArray = true
        · have present := Json.contains_of_isArray_member array
          have filled : ¬ (jsonObj.isNull || jsonObj.isEmpty) = true := by
            intro nothing
            rw [Json.not_contains_of_isNull_or_isEmpty nothing] at present
            exact absurd present (by simp)
          rw [if_neg filled, if_neg (by simp [present, array])]
          simp
        · have none : (jsonObj.member "transient_err_delayed_frozen_list").elements = [] := by
            cases value : jsonObj.member "transient_err_delayed_frozen_list" with
            | array elements => exact absurd (by rw [value]; rfl) array
            | _ => rfl
          simp [array, none]
      rw [← list]
      unfold loadConfigFile
      cases outcome : parseTransientTaskExemptedQuatoList jsonObj self with
      | mk result read =>
          cases result with
          | error exception => simp [outcome]
          | ok value => simp [outcome]

/-! ## Apps that may ask for a CPU level -/

structure CpuLevelConfigInfo where
  bundleName : String
  appSignatures : List String
  cpuLevel : Int
  deriving DecidableEq, Repr

def smallCpu : Int := 0
def largeCpu : Int := 2

def cpuLevelConfigInfo (bundleInfoJsonObj : Json) : Option CpuLevelConfigInfo :=
  if !bundleInfoJsonObj.contains "bundleName" ||
      !(bundleInfoJsonObj.member "bundleName").isString then none
  else if !bundleInfoJsonObj.contains "cpuLevel" ||
      !(bundleInfoJsonObj.member "cpuLevel").isInteger then none
  else
    let cpuLevel := getInt32 (bundleInfoJsonObj.member "cpuLevel")
    if cpuLevel < smallCpu ∨ cpuLevel > largeCpu then none
    else if !bundleInfoJsonObj.contains "appSignatures" ||
        !(bundleInfoJsonObj.member "appSignatures").isArray then none
    else some
      { bundleName := (bundleInfoJsonObj.member "bundleName").toText
        appSignatures := ((bundleInfoJsonObj.member "appSignatures").elements.filter
          Json.isString).map Json.toText
        cpuLevel := cpuLevel }

/-- One entry in the loop of `ParseCpuEfficiencyResourceApplyBundleInfos`. -/
def addBundleInfo (newMap : KeyedMap String CpuLevelConfigInfo) (bundleInfoJsonObj : Json) :
    KeyedMap String CpuLevelConfigInfo :=
  match cpuLevelConfigInfo bundleInfoJsonObj with
  | none => newMap
  | some info => newMap.insert info.bundleName info

structure BgTaskConfigFileInfo where
  allowApplyCpuBundleInfoMap : KeyedMap String CpuLevelConfigInfo := ∅

namespace BgTaskConfigFileInfo

variable (bundleName : String) (self : BgTaskConfigFileInfo)

def checkBundleName : Bool := (self.allowApplyCpuBundleInfoMap.lookup bundleName).isSome

def checkAppSignatures (appId appIdentifier : String) : Bool :=
  match self.allowApplyCpuBundleInfoMap.lookup bundleName with
  | none => false
  | some info => info.appSignatures.any (fun sign => sign == appId || sign == appIdentifier)

def checkCpuLevel (cpuLevel : Int) : Bool :=
  match self.allowApplyCpuBundleInfoMap.lookup bundleName with
  | none => false
  | some info => decide (cpuLevel ≤ info.cpuLevel)

end BgTaskConfigFileInfo

def parseCpuEfficiencyResourceApplyBundleInfos (jsonObj : Json) (self : BgTaskConfigFileInfo) :
    BgTaskConfigFileInfo :=
  if jsonObj.isNull || jsonObj.isEmpty then self
  else if !jsonObj.contains "cpu_efficiency_resource_allow_apply_bundle_infos" ||
      !(jsonObj.member "cpu_efficiency_resource_allow_apply_bundle_infos").isArray then self
  else
    { allowApplyCpuBundleInfoMap :=
        (jsonObj.member "cpu_efficiency_resource_allow_apply_bundle_infos").elements.foldl
          addBundleInfo ∅ }

def loadBgTaskConfigFile (file : Option Json) (self : BgTaskConfigFileInfo) :
    BgTaskConfigFileInfo :=
  match file with
  | none => self
  | some jsonObj => parseCpuEfficiencyResourceApplyBundleInfos jsonObj self

/-! ## The list as it is read -/

def lastEntry (bundleName : String) (entries : List Json) : Option CpuLevelConfigInfo :=
  (entries.filterMap cpuLevelConfigInfo).reverse.find? (fun info => info.bundleName == bundleName)

theorem lookup_foldl_addBundleInfo (bundleName : String) (entries : List Json) :
    (entries.foldl addBundleInfo ∅).lookup bundleName = lastEntry bundleName entries := by
  unfold lastEntry
  induction entries using List.reverseRecOn with
  | nil => exact AList.lookup_empty bundleName
  | append_singleton earlier entry ih =>
      rw [List.foldl_append, List.foldl_cons, List.foldl_nil, addBundleInfo,
        List.filterMap_append, List.filterMap_cons, List.filterMap_nil]
      cases cpuLevelConfigInfo entry with
      | none => simpa using ih
      | some info =>
          rw [KeyedMap.lookup_insert, List.reverse_append, List.reverse_singleton,
            List.singleton_append, List.find?_cons]
          by_cases same : bundleName = info.bundleName
          · simp [same]
          · have apart : (info.bundleName == bundleName) = false :=
              beq_eq_false_iff_ne.mpr (fun equal => same equal.symm)
            rw [if_neg same, apart]
            exact ih

end BgTaskMgr
