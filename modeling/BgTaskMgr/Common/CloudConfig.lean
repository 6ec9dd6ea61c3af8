import BgTaskMgr.Common.JsonValue
import Mathlib.Data.Finset.Insert

/-!
# The cloud configuration

`BgtaskConfig` under `AddExemptedQuatoData` and `UpdateSusMgrCloudConfig`.  The lists are
guarded by the type of their member.  The guard of the quota is the wrong way round: an
integer is passed over, and what is no integer is converted to one.
-/

set_option autoImplicit false

namespace BgTaskMgr

namespace ConfigDataSourceType

def configCloud : Int := 1
def configSuspendManager : Int := 2

end ConfigDataSourceType

/-! ## The settings -/

structure BgtaskConfig where
  transientTaskExemptedQuatoList : Finset String := ∅
  transientTaskCloudExemptedQuatoList : Finset String := ∅
  taskKeepingExemptedQuatoList : Finset String := ∅
  maliciousAppBlocklist : Finset String := ∅
  specialExemptedQuatoList : Finset String := ∅
  transientTaskExemptedQuato : Int := 10 * 1000
  deriving DecidableEq

/-- `type_error`, which a conversion of the wrong type throws. -/
inductive JsonException where
  | typeError
  deriving DecidableEq, Repr

/-- `get<int>`, with `static_cast<int>` for the numbers that are no integers. -/
def getInt (castFloat : Rat → Int) : Json → Except JsonException Int
  | .integer value => .ok (toInt32 value)
  | .float value => .ok (castFloat value)
  | .boolean value => .ok value.toNat
  | _ => .error .typeError

def exemptedNames (appArray : Json) : Finset String :=
  appArray.elements.foldl (fun names app =>
    if !app.isString then names else insert app.toText names) ∅

/-- A list after the member `key` of the parameters: replaced by its array, if it is one. -/
def listParam (jsonObj : Json) (key : String) (names : Finset String) : Finset String :=
  if jsonObj.contains key && (jsonObj.member key).isArray then exemptedNames (jsonObj.member key)
  else names

namespace BgtaskConfig

def setContinuousTaskParam (jsonObj : Json) (self : BgtaskConfig) : BgtaskConfig :=
  { self with
    taskKeepingExemptedQuatoList :=
      listParam jsonObj "continuous_task_keeping_exemption_list" self.taskKeepingExemptedQuatoList
    maliciousAppBlocklist :=
      listParam jsonObj "malicious_app_blocklist" self.maliciousAppBlocklist
    specialExemptedQuatoList :=
      listParam jsonObj "special_exempted_list" self.specialExemptedQuatoList }

variable (castFloat : Rat → Int)

abbrev Outcome (α : Type) : Type := Except JsonException α × BgtaskConfig

def setTransientTaskParam (jsonObj : Json) (self : BgtaskConfig) : Outcome Unit :=
  let self := { self with
    transientTaskCloudExemptedQuatoList :=
      listParam jsonObj "transient_err_delayed_frozen_list"
        self.transientTaskCloudExemptedQuatoList }
  if jsonObj.contains "param" && (jsonObj.member "param").isObject then
    let param := jsonObj.member "param"
    if param.contains "transient_exempted_quota" &&
        !(param.member "transient_exempted_quota").isInteger then
      match getInt castFloat (param.member "transient_exempted_quota") with
      | .error exception => (.error exception, self)
      | .ok quota => (.ok (), { self with transientTaskExemptedQuato := quota })
    else (.ok (), self)
  else (.ok (), self)

/-- The signatures that `ParseBundleSignature` hands on are no setting of this class. -/
def setCloudConfigParam (jsonObj : Json) (self : BgtaskConfig) : Outcome Bool :=
  if !jsonObj.contains "params" || !(jsonObj.member "params").isObject then (.ok false, self)
  else
    let params := jsonObj.member "params"
    match self.setTransientTaskParam castFloat params with
    | (.error exception, self) => (.error exception, self)
    | (.ok (), self) => (.ok true, self.setContinuousTaskParam params)

def setSuspendManagerParam (jsonObj : Json) (self : BgtaskConfig) : Bool × BgtaskConfig :=
  if !jsonObj.contains "transient_err_delayed_frozen_list" ||
      !(jsonObj.member "transient_err_delayed_frozen_list").isArray then (false, self)
  else
    let self := { self with
      transientTaskExemptedQuatoList :=
        exemptedNames (jsonObj.member "transient_err_delayed_frozen_list") }
    if !jsonObj.contains "transient_err_delayed_frozen_time" ||
        !(jsonObj.member "transient_err_delayed_frozen_time").isInteger then (false, self)
    else
      (true, { self with
        transientTaskExemptedQuato :=
          getInt32 (jsonObj.member "transient_err_delayed_frozen_time") })

def addExemptedQuatoData (configData : Option Json) (sourceType : Int) (self : BgtaskConfig) :
    Outcome Bool :=
  match configData with
  | none => (.ok false, self)
  | some jsonObj =>
    if jsonObj.isNull || jsonObj.isEmpty then (.ok false, self)
    else if sourceType = ConfigDataSourceType.configCloud then
      self.setCloudConfigParam castFloat jsonObj
    else if sourceType = ConfigDataSourceType.configSuspendManager then
      let (result, self) := self.setSuspendManagerParam jsonObj
      (.ok result, self)
    else (.ok true, self)

def updateSusMgrCloudConfig (payload : Json) (self : BgtaskConfig) : Outcome Bool :=
  if payload.isNull then (.ok false, self)
  else
    match self.setCloudConfigParam castFloat payload with
    | (.error exception, self) => (.error exception, self)
    | (.ok _, self) => (.ok true, self)

end BgtaskConfig

/-! ## Applied as given -/

def quotaMember (params : Json) : Json :=
  (params.member "param").member "transient_exempted_quota"

/-- The list has the strings of the array, and is as before where there is no array. -/
def ListGiven (params : Json) (key : String) (before after : Finset String) : Prop :=
  ((params.member key).isArray = true →
    ∀ name, name ∈ after ↔ .string name ∈ (params.member key).elements) ∧
  ((params.member key).isArray = false → after = before)

def QuotaGiven (params : Json) (before after : Int) : Prop :=
  match quotaMember params with
  | .integer value => after = value
  | _ => after = before

structure ParamsGiven (params : Json) (before after : BgtaskConfig) : Prop where
  transient : ListGiven params "transient_err_delayed_frozen_list"
    before.transientTaskCloudExemptedQuatoList after.transientTaskCloudExemptedQuatoList
  taskKeeping : ListGiven params "continuous_task_keeping_exemption_list"
    before.taskKeepingExemptedQuatoList after.taskKeepingExemptedQuatoList
  malicious : ListGiven params "malicious_app_blocklist"
    before.maliciousAppBlocklist after.maliciousAppBlocklist
  special : ListGiven params "special_exempted_list"
    before.specialExemptedQuatoList after.specialExemptedQuatoList
  quota : QuotaGiven params before.transientTaskExemptedQuato after.transientTaskExemptedQuato

/-- Nothing is thrown, and parameters that are an object are applied as given. -/
def AppliedAsGiven (jsonObj : Json) (before : BgtaskConfig)
    (outcome : BgtaskConfig.Outcome Bool) : Prop :=
  (∃ result, outcome.1 = .ok result) ∧
    ((jsonObj.member "params").isObject = true →
      ParamsGiven (jsonObj.member "params") before outcome.2)

/-- There is no quota at its path, or one that makes no difference: an integer that is set
already, or a number or boolean that is converted to what is set. -/
def QuotaFits (castFloat : Rat → Int) (params : Json) (quota : Int) : Prop :=
  (params.member "param").contains "transient_exempted_quota" = true →
    match quotaMember params with
    | .integer value => quota = value
    | .float value => castFloat value = quota
    | .boolean value => (value.toNat : Int) = quota
    | _ => False

theorem mem_exemptedNames {appArray : Json} {name : String} :
    name ∈ exemptedNames appArray ↔ .string name ∈ appArray.elements := by
  have general (elements : List Json) (names : Finset String) :
      name ∈ elements.foldl (fun names app =>
        if !app.isString then names else insert app.toText names) names ↔
        name ∈ names ∨ .string name ∈ elements := by
    induction elements generalizing names with
    | nil => simp
    | cons app rest ih =>
        rw [List.foldl_cons, ih, List.mem_cons]
        cases app with
        | string text => simp [Json.isString, Json.toText, or_assoc, or_left_comm]
        | _ => simp [Json.isString]
  rw [exemptedNames, general]
  simp

theorem listGiven_listParam (params : Json) (key : String) (names : Finset String) :
    ListGiven params key names (listParam params key names) := by
  have guard : (params.contains key && (params.member key).isArray) =
      (params.member key).isArray := by
    cases present : params.contains key with
    | true => rfl
    | false => rw [Json.member_of_not_contains present]; rfl
  rw [listParam, guard]
  constructor
  · intro array name
    rw [if_pos array]
    exact mem_exemptedNames
  · intro other
    rw [other]
    rfl

def quotaOutcome (castFloat : Rat → Int) (params : Json) (quota : Int) :
    Except JsonException Int :=
  if (params.member "param").contains "transient_exempted_quota" &&
      !(quotaMember params).isInteger then getInt castFloat (quotaMember params)
  else .ok quota

theorem quotaOutcome_given_iff (castFloat : Rat → Int) (params : Json) (quota : Int) :
    (∃ after, quotaOutcome castFloat params quota = .ok after ∧ QuotaGiven params quota after) ↔
      QuotaFits castFloat params quota := by
  unfold quotaOutcome QuotaGiven QuotaFits
  cases present : (params.member "param").contains "transient_exempted_quota" with
  | false =>
      have nothing : quotaMember params = .null := Json.member_of_not_contains present
      simp [nothing]
  | true =>
      cases quotaMember params with
      | _ => simp [Json.isInteger, getInt]

theorem setTransientTaskParam_eq (castFloat : Rat → Int) (params : Json) (self : BgtaskConfig) :
    self.setTransientTaskParam castFloat params =
      ((quotaOutcome castFloat params self.transientTaskExemptedQuato).map (fun _ => ()),
        { self with
          transientTaskCloudExemptedQuatoList :=
            listParam params "transient_err_delayed_frozen_list"
              self.transientTaskCloudExemptedQuatoList
          transientTaskExemptedQuato :=
            (quotaOutcome castFloat params self.transientTaskExemptedQuato).toOption.getD
              self.transientTaskExemptedQuato }) := by
  unfold BgtaskConfig.setTransientTaskParam quotaOutcome
  cases present : (params.member "param").contains "transient_exempted_quota" with
  | false =>
      simp only [present, Bool.false_and]
      split
      · rfl
      · rfl
  | true =>
      have object := Json.isObject_of_contains present
      have named := Json.contains_of_isObject_member object
      have path : (params.member "param").member "transient_exempted_quota" =
          quotaMember params := rfl
      simp only [named, object, present, path, Bool.true_and, if_true]
      cases (quotaMember params).isInteger with
      | true => rfl
      | false =>
          cases getInt castFloat (quotaMember params) with
          | error exception => rfl
          | ok quota => rfl

theorem setCloudConfigParam_applied_iff (castFloat : Rat → Int) (jsonObj : Json)
    (self : BgtaskConfig) :
    AppliedAsGiven jsonObj self (self.setCloudConfigParam castFloat jsonObj) ↔
      ((jsonObj.member "params").isObject = true →
        QuotaFits castFloat (jsonObj.member "params") self.transientTaskExemptedQuato) := by
  unfold AppliedAsGiven BgtaskConfig.setCloudConfigParam
  cases object : (jsonObj.member "params").isObject with
  | false => simp
  | true =>
      have named := Json.contains_of_isObject_member object
      simp only [named, Bool.not_true, Bool.or_false, Bool.false_eq_true, if_false, true_imp_iff]
      rw [← quotaOutcome_given_iff, setTransientTaskParam_eq]
      cases quotaOutcome castFloat (jsonObj.member "params") self.transientTaskExemptedQuato with
      | error exception => simp [Except.map]
      | ok quota =>
          constructor
          · rintro ⟨-, given⟩
            exact ⟨quota, rfl, given.quota⟩
          · rintro ⟨after, same, given⟩
            obtain rfl := Except.ok.inj same
            exact ⟨⟨true, rfl⟩, listGiven_listParam _ _ _, listGiven_listParam _ _ _,
              listGiven_listParam _ _ _, listGiven_listParam _ _ _, given⟩

theorem addExemptedQuatoData_cloud (castFloat : Rat → Int) (jsonObj : Json)
    (self : BgtaskConfig) :
    self.addExemptedQuatoData castFloat (some jsonObj) ConfigDataSourceType.configCloud =
      self.setCloudConfigParam castFloat jsonObj := by
  simp only [BgtaskConfig.addExemptedQuatoData, if_true]
  split
  · rename_i nothing
    have missing : jsonObj.contains "params" = false :=
      Json.not_contains_of_isNull_or_isEmpty nothing
    simp [BgtaskConfig.setCloudConfigParam, missing]
  · rfl

theorem updateSusMgrCloudConfig_applied_iff (castFloat : Rat → Int) (payload : Json)
    (self : BgtaskConfig) :
    AppliedAsGiven payload self (self.updateSusMgrCloudConfig castFloat payload) ↔
      AppliedAsGiven payload self (self.setCloudConfigParam castFloat payload) := by
  unfold BgtaskConfig.updateSusMgrCloudConfig
  split
  · rename_i null
    cases payload with
    | null => simp [BgtaskConfig.setCloudConfigParam, AppliedAsGiven, Json.member, Json.isObject]
    | _ => exact absurd null (by simp [Json.isNull])
  · rcases self.setCloudConfigParam castFloat payload with ⟨result, after⟩
    cases result with
    | error exception => rfl
    | ok done => simp [AppliedAsGiven]

/-- A cloud configuration is applied as given exactly when the quota at its path, if there is
one, makes no difference. -/
theorem cloud_config_applied_iff (castFloat : Rat → Int) (jsonObj : Json) (self : BgtaskConfig) :
    (AppliedAsGiven jsonObj self (self.addExemptedQuatoData castFloat (some jsonObj)
        ConfigDataSourceType.configCloud) ↔
      ((jsonObj.member "params").isObject = true →
        QuotaFits castFloat (jsonObj.member "params") self.transientTaskExemptedQuato)) ∧
    (AppliedAsGiven jsonObj self (self.updateSusMgrCloudConfig castFloat jsonObj) ↔
      ((jsonObj.member "params").isObject = true →
        QuotaFits castFloat (jsonObj.member "params") self.transientTaskExemptedQuato)) := by
  rw [addExemptedQuatoData_cloud, updateSusMgrCloudConfig_applied_iff]
  exact ⟨setCloudConfigParam_applied_iff castFloat jsonObj self,
    setCloudConfigParam_applied_iff castFloat jsonObj self⟩

def truncate (value : Rat) : Int := value.num.tdiv value.den

def cloudQuota (quota : Json) : Json :=
  .object [("params", .object [("param", .object [("transient_exempted_quota", quota)])])]

/-- An integer is passed over, and a text throws. -/
theorem cloud_config_quota_ignored :
    ({} : BgtaskConfig).updateSusMgrCloudConfig truncate (cloudQuota (.integer 5000)) =
        (.ok true, {}) ∧
      ¬ AppliedAsGiven (cloudQuota (.integer 5000)) {}
        (({} : BgtaskConfig).updateSusMgrCloudConfig truncate (cloudQuota (.integer 5000))) ∧
      (({} : BgtaskConfig).updateSusMgrCloudConfig truncate (cloudQuota (.string "5000"))).1 =
        .error .typeError := by
  have ignored : ({} : BgtaskConfig).updateSusMgrCloudConfig truncate (cloudQuota (.integer 5000)) =
      (.ok true, {}) := rfl
  refine ⟨ignored, ?_, rfl⟩
  rw [ignored]
  rintro ⟨-, given⟩
  have quota : (10000 : Int) = 5000 := (given rfl).quota
  exact absurd quota (by decide)

end BgTaskMgr
