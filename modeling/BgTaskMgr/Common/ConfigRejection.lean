import BgTaskMgr.Common.ConfigFiles
import Mathlib.Data.Finset.Card

/-!
# Rejected configurations

`AddExemptedQuatoData` with the signatures that it hands on, and the two questions that the
transient tasks ask of the settings.  What comes from the suspend manager is stored while it
is checked: the list is in place when the time beside it turns out to be missing.
-/

set_option autoImplicit false

universe u

namespace BgTaskMgr

structure SignatureValidator (ν : Type u) where
  addSignatureConfig : List (String × String) → ν → ν
  /-- `CheckSignatureByBundleName` answers `CHECK_OK`. -/
  checkSignature : ν → String → Bool

/-- The settings, the signatures that the validator has been given, and the apps of the
service's own file. -/
structure ConfigState (ν : Type u) where
  config : BgtaskConfig
  signatures : ν
  bgTaskConfigFileInfo : BgTaskConfigFileInfo := {}

namespace ConfigState

variable {ν : Type u} (validator : SignatureValidator ν)

/-! ## Questions -/

def isTransientTaskExemptedQuatoApp (bundleName : String) (self : ConfigState ν) : Bool :=
  let isExempt :=
    if self.config.transientTaskCloudExemptedQuatoList.card > 0 then
      decide (bundleName ∈ self.config.transientTaskCloudExemptedQuatoList)
    else decide (bundleName ∈ self.config.transientTaskExemptedQuatoList)
  isExempt && validator.checkSignature self.signatures bundleName

def getTransientTaskExemptedQuato (self : ConfigState ν) : Int :=
  self.config.transientTaskExemptedQuato

/-! ## Updates -/

def parseBundleSignature (jsonObj : Json) (signatures : ν) : ν :=
  if !jsonObj.contains "bundle_signature" || !(jsonObj.member "bundle_signature").isObject then
    signatures
  else
    validator.addSignatureConfig
      ((jsonObj.member "bundle_signature").members.filterMap (fun info =>
        if info.2.isString then some (info.1, info.2.toText) else none)) signatures

variable (castFloat : Rat → Int)

/-- The signatures come last, where `true` is returned. -/
def setCloudConfigParam (jsonObj : Json) (self : ConfigState ν) :
    Except JsonException Bool × ConfigState ν :=
  match self.config.setCloudConfigParam castFloat jsonObj with
  | (.ok true, config) =>
      (.ok true, { self with
        config := config
        signatures := parseBundleSignature validator (jsonObj.member "params") self.signatures })
  | (result, config) => (result, { self with config := config })

def addExemptedQuatoData (configData : Option Json) (sourceType : Int) (self : ConfigState ν) :
    Except JsonException Bool × ConfigState ν :=
  match configData with
  | none => (.ok false, self)
  | some jsonObj =>
    if jsonObj.isNull || jsonObj.isEmpty then (.ok false, self)
    else if sourceType = ConfigDataSourceType.configCloud then
      self.setCloudConfigParam validator castFloat jsonObj
    else if sourceType = ConfigDataSourceType.configSuspendManager then
      let (result, config) := self.config.setSuspendManagerParam jsonObj
      (.ok result, { self with config := config })
    else (.ok true, self)

/-- The settings are those of the update without signatures, and so is the result. -/
theorem addExemptedQuatoData_config (configData : Option Json) (sourceType : Int)
    (self : ConfigState ν) :
    ((self.addExemptedQuatoData validator castFloat configData sourceType).1,
      (self.addExemptedQuatoData validator castFloat configData sourceType).2.config) =
      self.config.addExemptedQuatoData castFloat configData sourceType := by
  cases configData with
  | none => rfl
  | some jsonObj =>
      unfold addExemptedQuatoData BgtaskConfig.addExemptedQuatoData
      dsimp only
      split
      · rfl
      split
      · unfold setCloudConfigParam
        rcases self.config.setCloudConfigParam castFloat jsonObj with ⟨result, config⟩
        cases result with
        | error exception => rfl
        | ok done =>
            cases done with
            | false => rfl
            | true => rfl
      split
      · rfl
      · rfl

/-! ## What a rejection leaves -/

/-- The settings and the apps of the file are as before, and so are the answers for every
bundle. -/
structure Untouched (before after : ConfigState ν) : Prop where
  settings : after.config = before.config
  apps : after.bgTaskConfigFileInfo = before.bgTaskConfigFileInfo
  exempted : ∀ bundleName, after.isTransientTaskExemptedQuatoApp validator bundleName =
    before.isTransientTaskExemptedQuatoApp validator bundleName
  quota : after.getTransientTaskExemptedQuato = before.getTransientTaskExemptedQuato

/-- Where `false` is returned, nothing is touched. -/
def RejectsUntouched (before : ConfigState ν)
    (outcome : Except JsonException Bool × ConfigState ν) : Prop :=
  outcome.1 = .ok false → Untouched validator before outcome.2

theorem untouched_refl (self : ConfigState ν) : Untouched validator self self :=
  ⟨rfl, rfl, fun _ => rfl, rfl⟩

def LacksTime (jsonObj : Json) : Prop :=
  (jsonObj.member "transient_err_delayed_frozen_list").isArray = true ∧
    (jsonObj.member "transient_err_delayed_frozen_time").isInteger = false

theorem setCloudConfigParam_rejected {jsonObj : Json} {self : BgtaskConfig}
    (rejected : (self.setCloudConfigParam castFloat jsonObj).1 = .ok false) :
    (self.setCloudConfigParam castFloat jsonObj).2 = self := by
  unfold BgtaskConfig.setCloudConfigParam at rejected ⊢
  cases missing : (!jsonObj.contains "params" || !(jsonObj.member "params").isObject) with
  | true => rfl
  | false =>
      rw [missing] at rejected
      rcases applied : self.setTransientTaskParam castFloat (jsonObj.member "params")
        with ⟨result, config⟩
      cases result with
      | error exception => simp [applied] at rejected
      | ok done => simp [applied] at rejected

theorem setSuspendManagerParam_rejected_iff (jsonObj : Json) (self : BgtaskConfig) :
    ((self.setSuspendManagerParam jsonObj).1 = false →
        (self.setSuspendManagerParam jsonObj).2 = self) ↔
      (LacksTime jsonObj → exemptedNames (jsonObj.member "transient_err_delayed_frozen_list") =
        self.transientTaskExemptedQuatoList) := by
  unfold BgtaskConfig.setSuspendManagerParam LacksTime
  cases listed : (jsonObj.member "transient_err_delayed_frozen_list").isArray with
  | false => simp
  | true =>
      have named := Json.contains_of_isArray_member listed
      simp only [named, Bool.not_true, Bool.or_self, Bool.false_eq_true, if_false, true_and]
      cases timed : (jsonObj.member "transient_err_delayed_frozen_time").isInteger with
      | false =>
          simp only [Bool.not_false, Bool.or_true, if_true, true_imp_iff]
          constructor
          · intro same
            exact congrArg BgtaskConfig.transientTaskExemptedQuatoList same
          · intro same
            rw [same]
      | true =>
          have stated := Json.contains_of_isInteger_member timed
          simp [stated]

theorem addExemptedQuatoData_rejected_iff (configData : Option Json) (sourceType : Int)
    (self : BgtaskConfig) :
    ((self.addExemptedQuatoData castFloat configData sourceType).1 = .ok false →
        (self.addExemptedQuatoData castFloat configData sourceType).2 = self) ↔
      (sourceType = ConfigDataSourceType.configSuspendManager → ∀ jsonObj ∈ configData,
        LacksTime jsonObj →
          exemptedNames (jsonObj.member "transient_err_delayed_frozen_list") =
            self.transientTaskExemptedQuatoList) := by
  unfold BgtaskConfig.addExemptedQuatoData
  cases configData with
  | none => simp
  | some jsonObj =>
      simp only [Option.mem_def, Option.some.injEq, forall_eq']
      split
      · rename_i nothing
        have empty : ¬ LacksTime jsonObj := by
          rintro ⟨listed, -⟩
          have named := Json.contains_of_isArray_member listed
          rw [Json.not_contains_of_isNull_or_isEmpty nothing] at named
          exact absurd named (by simp)
        simp [empty]
      split
      · rename_i cloud
        have other : sourceType ≠ ConfigDataSourceType.configSuspendManager := by
          rw [cloud]
          decide
        simp only [other, false_imp_iff, iff_true]
        exact setCloudConfigParam_rejected castFloat
      split
      · rename_i suspend
        simp [suspend, ← setSuspendManagerParam_rejected_iff]
      · rename_i other
        simp [other]

/-- The signatures change only where `true` is returned, and the apps of the file never. -/
theorem addExemptedQuatoData_rest {configData : Option Json} {sourceType : Int}
    {self : ConfigState ν}
    (rejected : (self.addExemptedQuatoData validator castFloat configData sourceType).1 =
      .ok false) :
    (self.addExemptedQuatoData validator castFloat configData sourceType).2.signatures =
        self.signatures ∧
      (self.addExemptedQuatoData validator castFloat configData sourceType).2.bgTaskConfigFileInfo =
        self.bgTaskConfigFileInfo := by
  unfold addExemptedQuatoData at rejected ⊢
  cases configData with
  | none => exact ⟨rfl, rfl⟩
  | some jsonObj =>
      dsimp only at rejected ⊢
      split at rejected
      · rename_i nothing
        rw [if_pos nothing]
        exact ⟨rfl, rfl⟩
      rename_i something
      rw [if_neg something]
      split at rejected
      · rename_i cloud
        rw [if_pos cloud]
        unfold setCloudConfigParam at rejected ⊢
        split at rejected
        · exact absurd rejected (by simp)
        · exact ⟨rfl, rfl⟩
      rename_i notCloud
      rw [if_neg notCloud]
      split
      · exact ⟨rfl, rfl⟩
      · exact ⟨rfl, rfl⟩

theorem untouched_iff {before after : ConfigState ν}
    (rest : after.signatures = before.signatures ∧
      after.bgTaskConfigFileInfo = before.bgTaskConfigFileInfo) :
    Untouched validator before after ↔ after.config = before.config := by
  constructor
  · intro untouched
    exact untouched.settings
  · intro settings
    obtain ⟨signatures, apps⟩ := rest
    have same : after = before := by
      cases after
      cases before
      simp_all
    rw [same]
    exact untouched_refl validator before

/-- A rejected configuration leaves everything as it was, unless it is one of the suspend
manager with a list that is not the present one and without an integer time. -/
theorem rejected_config_untouched_iff (configData : Option Json) (sourceType : Int)
    (before : ConfigState ν) :
    RejectsUntouched validator before
        (before.addExemptedQuatoData validator castFloat configData sourceType) ↔
      (sourceType = ConfigDataSourceType.configSuspendManager → ∀ jsonObj ∈ configData,
        LacksTime jsonObj →
          exemptedNames (jsonObj.member "transient_err_delayed_frozen_list") =
            before.config.transientTaskExemptedQuatoList) := by
  have same := addExemptedQuatoData_config validator castFloat configData sourceType before
  obtain ⟨result, config⟩ := Prod.ext_iff.mp same
  rw [← addExemptedQuatoData_rejected_iff castFloat, ← result, ← config]
  unfold RejectsUntouched
  exact forall_congr' (fun rejected =>
    untouched_iff validator (addExemptedQuatoData_rest validator castFloat rejected))

def passingValidator : SignatureValidator Unit where
  addSignatureConfig _ signatures := signatures
  checkSignature _ _ := true

def listWithoutTime : Json :=
  .object [("transient_err_delayed_frozen_list", .array [.string "com.example.game"])]

def newState : ConfigState Unit := { config := {}, signatures := () }

/-- The update is rejected, and the bundle is exempted from then on. -/
theorem rejected_config_stores_list :
    (addExemptedQuatoData passingValidator truncate (some listWithoutTime)
        ConfigDataSourceType.configSuspendManager newState).1 = .ok false ∧
      isTransientTaskExemptedQuatoApp passingValidator "com.example.game" newState = false ∧
      isTransientTaskExemptedQuatoApp passingValidator "com.example.game"
        (addExemptedQuatoData passingValidator truncate (some listWithoutTime)
          ConfigDataSourceType.configSuspendManager newState).2 = true ∧
      ¬ RejectsUntouched passingValidator newState
        (addExemptedQuatoData passingValidator truncate (some listWithoutTime)
          ConfigDataSourceType.configSuspendManager newState) := by
  have rejected : (addExemptedQuatoData passingValidator truncate (some listWithoutTime)
      ConfigDataSourceType.configSuspendManager newState).1 = .ok false := rfl
  have before : isTransientTaskExemptedQuatoApp passingValidator "com.example.game"
      newState = false := by
    decide
  have after : isTransientTaskExemptedQuatoApp passingValidator "com.example.game"
      (addExemptedQuatoData passingValidator truncate (some listWithoutTime)
        ConfigDataSourceType.configSuspendManager newState).2 = true := by
    decide
  refine ⟨rejected, before, after, ?_⟩
  intro untouched
  have same := (untouched rejected).exempted "com.example.game"
  rw [after, before] at same
  exact absurd same (by simp)

end ConfigState

end BgTaskMgr
