import BgTaskMgr.Continuous.Requests

/-!
# Asking which modes are supported

`IsModeSupported` lets an app ask in advance whether it may use a list of modes.  It repeats
the checks that a start makes of the two restricted modes, in its own order and words: for
`TASK_KEEPING` it asks for one of the two permissions that a start takes, and for
`SPECIAL_SCENARIO_PROCESSING` it does not look at the list of malicious apps.
-/

set_option autoImplicit false

namespace BgTaskMgr.Continuous

open BgContinuousTaskMgr

structure ModeEnv extends Env where
  /-- `CheckACLPermission(BGMODE_PERMISSION_SYSTEM)`. -/
  systemACLPermission : Nat → Bool := fun _ => false
  /-- `CheckACLPermission(BGMODE_PERMISSION_SPECIAL_SCENARIO)`. -/
  specialACLPermission : Nat → Bool := fun _ => false
  specialScenarioACLPermission := fun callingTokenId =>
    systemACLPermission callingTokenId || specialACLPermission callingTokenId
  /-- `CheckSpecialScenarioACLPermission` takes either of them. -/
  either : ∀ callingTokenId, specialScenarioACLPermission callingTokenId =
    (systemACLPermission callingTokenId || specialACLPermission callingTokenId) := by
      intros; rfl

/-! ## The query -/

def checkModeSupportedPermission (env : ModeEnv) (callingUid : Int)
    (taskParam : ContinuousTaskParam) : ErrCode :=
  let specialModeSize := taskParam.bgModeIds.count BackgroundMode.specialScenarioProcessing
  let exempted := env.isSpecialExemptedQuatoApp (env.clientBundleName callingUid)
  if 1 < specialModeSize then .specialScenarioProcessingOnlyAllowOneApplication
  else if specialModeSize = 1 ∧ 1 < taskParam.bgModeIds.length then
    .specialScenarioProcessingConflictsWithOtherTask
  else if !env.bgmodePermission then .permissionDenied
  else if specialModeSize = 1 ∧ taskParam.bgModeIds.length = 1 then
    if !exempted && !env.specialScenarioACLPermission env.callingTokenId then
      .continuousAppNotHaveBgmodePermissionSystem
    else if !exempted && env.isSystemApp env.callingFullTokenId then
      .continuousSystemAppNotSupportAcl
    else if !env.supportAuth then .specialScenarioProcessingNotsupportDevice
    else .ok
  else .ok

def checkTaskkeepingPermission (env : ModeEnv) (taskParam : ContinuousTaskParam)
    (callingTokenId : Nat) (bundleName : String) (fullTokenId : Nat) : ErrCode :=
  if env.isTaskKeepingExemptedQuatoApp bundleName || env.supportTaskKeeping then .ok
  else if !checkExistMode taskParam.bgModeIds BackgroundMode.taskKeeping then .ok
  else if env.isSystemApp fullTokenId then
    if env.systemACLPermission callingTokenId then .continuousSystemAppNotSupportAcl
    else .keepingTaskVerifyErr
  else if !env.systemACLPermission callingTokenId then
    .continuousAppNotHaveBgmodePermissionSystem
  else .ok

def BgContinuousTaskMgr.isModeSupported (env : ModeEnv) (callingUid : Int)
    (taskParam : ContinuousTaskParam) (self : BgContinuousTaskMgr) : ErrCode :=
  if !self.isSysReady then .sysNotReady
  else if checkModeSupportedPermission env callingUid taskParam ≠ .ok then
    checkModeSupportedPermission env callingUid taskParam
  else
    checkTaskkeepingPermission env taskParam env.callingTokenId (env.clientBundleName callingUid)
      env.callingFullTokenId

/-! ## The checks of a start -/

/-- The record of a request before its sub-mode is looked at. -/
def requestedRecord (env : Env) (callingUid : Int) (taskParam : ContinuousTaskParam) :
    ContinuousTaskRecord :=
  initRecordParam env taskParam (env.osAccountLocalId callingUid)
    (ContinuousTaskRecord.make (env.clientBundleName callingUid) taskParam.abilityName callingUid
      env.callingPid taskParam.bgModeId taskParam.isBatchApi taskParam.bgModeIds
      taskParam.abilityId)

def StartPermits (env : Env) (callingUid : Int) (taskParam : ContinuousTaskParam) : Prop :=
  ∀ mode ∈ taskParam.bgModeIds,
    mode = BackgroundMode.taskKeeping ∨ mode = BackgroundMode.specialScenarioProcessing →
      checkRestrictedMode env mode (requestedRecord env callingUid taskParam) = .ok

/-- What a start looks at in its record is there from the beginning. -/
theorem checkRestrictedMode_startRecord {env : Env} {callingUid : Int}
    {taskParam : ContinuousTaskParam} {record : ContinuousTaskRecord}
    (built : startRecord env callingUid taskParam = some record) (mode : Nat) :
    checkRestrictedMode env mode record =
      checkRestrictedMode env mode (requestedRecord env callingUid taskParam) := by
  unfold startRecord checkSubMode at built
  dsimp only at built
  split at built
  · obtain rfl := Option.some.inj built
    rfl
  · split at built
    · obtain rfl := Option.some.inj built
      rfl
    · split at built
      · obtain rfl := Option.some.inj built
        rfl
      · exact absurd built (by simp)

/-- For an ability that declares its modes, `CheckBgmodeType` decides so on the restricted ones. -/
theorem startPermits_iff_checkBgmodeType {env : Env} {callingUid : Int}
    {taskParam : ContinuousTaskParam} {record : ContinuousTaskRecord}
    {configuredBgMode : BitVec 32} (built : startRecord env callingUid taskParam = some record)
    (declared : ∀ mode ∈ taskParam.bgModeIds, configuredBgMode &&& modeBit mode ≠ 0#32) :
    StartPermits env callingUid taskParam ↔ ∀ mode ∈ taskParam.bgModeIds,
      mode = BackgroundMode.taskKeeping ∨ mode = BackgroundMode.specialScenarioProcessing →
        checkBgmodeType env configuredBgMode true record mode = .ok := by
  refine forall₃_congr (fun mode listed restricted => ?_)
  have positive : mode ≠ 0 := by
    rcases restricted with rfl | rfl <;> decide
  rw [← checkRestrictedMode_startRecord built mode]
  unfold checkBgmodeType
  simp [positive, declared mode listed]

/-! ## Where the query agrees with a start -/

def SpecialAlone (bgModeIds : List Nat) : Prop :=
  BackgroundMode.specialScenarioProcessing ∈ bgModeIds →
    bgModeIds = [BackgroundMode.specialScenarioProcessing]

def PassesGate (env : ModeEnv) (self : BgContinuousTaskMgr) : Prop :=
  self.isSysReady = true ∧ env.bgmodePermission = true

instance (env : ModeEnv) (self : BgContinuousTaskMgr) : Decidable (PassesGate env self) :=
  inferInstanceAs (Decidable (_ ∧ _))

/-- The app is exempted, or a third-party app with one of the two permissions. -/
def MayUseSpecial (env : ModeEnv) (callingUid : Int) : Prop :=
  env.isSpecialExemptedQuatoApp (env.clientBundleName callingUid) = true ∨
    env.specialScenarioACLPermission env.callingTokenId = true ∧
      env.isSystemApp env.callingFullTokenId = false

/-- Neither the device nor the configuration lets the app keep tasks without a permission. -/
def NeedsKeepingPermission (env : ModeEnv) (callingUid : Int) : Prop :=
  env.supportTaskKeeping = false ∧
    env.isTaskKeepingExemptedQuatoApp (env.clientBundleName callingUid) = false

instance (env : ModeEnv) (callingUid : Int) : Decidable (NeedsKeepingPermission env callingUid) :=
  inferInstanceAs (Decidable (_ ∧ _))

/-- An app that passes the gate is not malicious where it could use the special mode, and does not
hold the permission for special scenarios alone where it needs one to keep tasks. -/
def QueryFaithful (env : ModeEnv) (callingUid : Int) (bgModeIds : List Nat)
    (self : BgContinuousTaskMgr) : Prop :=
  if BackgroundMode.specialScenarioProcessing ∈ bgModeIds then
    MayUseSpecial env callingUid ∧ env.supportAuth = true →
      env.isMaliciousAppConfig (env.clientBundleName callingUid) = !decide (PassesGate env self)
  else if BackgroundMode.taskKeeping ∈ bgModeIds ∧ NeedsKeepingPermission env callingUid then
    env.isSystemApp env.callingFullTokenId = true ∨
      if PassesGate env self then
        env.specialACLPermission env.callingTokenId = true →
          env.systemACLPermission env.callingTokenId = true
      else
        env.systemACLPermission env.callingTokenId = false ∧
          env.specialACLPermission env.callingTokenId = false
  else PassesGate env self

/-- A check that fails with an error passes where its condition is false. -/
theorem ite_error_eq_ok {failed : Prop} [Decidable failed] {error next : ErrCode}
    (bad : error ≠ .ok) : (if failed then error else next) = .ok ↔ ¬ failed ∧ next = .ok := by
  split
  · simp [*]
  · simp [*]

section Agreement

variable {env : ModeEnv} {callingUid : Int} {taskParam : ContinuousTaskParam}
  {self : BgContinuousTaskMgr}

theorem checkRestrictedMode_taskKeeping (record : ContinuousTaskRecord) :
    checkRestrictedMode env.toEnv BackgroundMode.taskKeeping record = .ok ↔
      allowUseTaskKeeping env.toEnv record = true := by
  have wifi : ¬ modeBit BackgroundMode.taskKeeping = modeBit BackgroundMode.wifiInteraction := by
    decide
  have special : ¬ modeBit BackgroundMode.taskKeeping =
      modeBit BackgroundMode.specialScenarioProcessing := by
    decide
  unfold checkRestrictedMode
  simp [wifi, special]

theorem checkRestrictedMode_special (record : ContinuousTaskRecord) :
    checkRestrictedMode env.toEnv BackgroundMode.specialScenarioProcessing record =
      allowUseSpecial env.toEnv record := by
  have wifi : ¬ modeBit BackgroundMode.specialScenarioProcessing =
      modeBit BackgroundMode.wifiInteraction := by
    decide
  have keeping : ¬ modeBit BackgroundMode.specialScenarioProcessing =
      modeBit BackgroundMode.taskKeeping := by
    decide
  unfold checkRestrictedMode
  simp [wifi, keeping]

theorem allowUseTaskKeeping_requestedRecord :
    allowUseTaskKeeping env.toEnv (requestedRecord env.toEnv callingUid taskParam) = true ↔
      (NeedsKeepingPermission env callingUid →
        (env.systemACLPermission env.callingTokenId = true ∨
          env.specialACLPermission env.callingTokenId = true) ∧
          env.isSystemApp env.callingFullTokenId = false) := by
  cases supported : env.supportTaskKeeping <;>
    cases exempted : env.isTaskKeepingExemptedQuatoApp (env.clientBundleName callingUid) <;>
    simp [allowUseTaskKeeping, requestedRecord, initRecordParam, ContinuousTaskRecord.make,
      NeedsKeepingPermission, env.either, supported, exempted]

theorem mayUseSpecial_iff :
    MayUseSpecial env callingUid ↔
      (env.isSpecialExemptedQuatoApp (env.clientBundleName callingUid) = false →
        env.specialScenarioACLPermission env.callingTokenId = true) ∧
      (env.isSpecialExemptedQuatoApp (env.clientBundleName callingUid) = false →
        env.isSystemApp env.callingFullTokenId = false) := by
  unfold MayUseSpecial
  cases env.isSpecialExemptedQuatoApp (env.clientBundleName callingUid) <;> simp

theorem allowUseSpecial_requestedRecord :
    allowUseSpecial env.toEnv (requestedRecord env.toEnv callingUid taskParam) = .ok ↔
      MayUseSpecial env callingUid ∧
        env.isMaliciousAppConfig (env.clientBundleName callingUid) = false ∧
          env.supportAuth = true := by
  simp [allowUseSpecial, requestedRecord, initRecordParam, ContinuousTaskRecord.make,
    mayUseSpecial_iff, ite_error_eq_ok, and_assoc]

theorem checkModeSupportedPermission_special
    (alone : taskParam.bgModeIds = [BackgroundMode.specialScenarioProcessing]) :
    checkModeSupportedPermission env callingUid taskParam = .ok ↔
      env.bgmodePermission = true ∧ MayUseSpecial env callingUid ∧ env.supportAuth = true := by
  simp [checkModeSupportedPermission, alone, mayUseSpecial_iff, ite_error_eq_ok, and_assoc]

theorem checkModeSupportedPermission_notSpecial
    (absent : BackgroundMode.specialScenarioProcessing ∉ taskParam.bgModeIds) :
    checkModeSupportedPermission env callingUid taskParam = .ok ↔ env.bgmodePermission = true := by
  have none : taskParam.bgModeIds.count BackgroundMode.specialScenarioProcessing = 0 :=
    List.count_eq_zero.mpr absent
  simp [checkModeSupportedPermission, none]

theorem checkTaskkeepingPermission_eq_ok :
    checkTaskkeepingPermission env taskParam env.callingTokenId (env.clientBundleName callingUid)
        env.callingFullTokenId = .ok ↔
      (BackgroundMode.taskKeeping ∈ taskParam.bgModeIds → NeedsKeepingPermission env callingUid →
        env.systemACLPermission env.callingTokenId = true ∧
          env.isSystemApp env.callingFullTokenId = false) := by
  unfold checkTaskkeepingPermission
  by_cases needs : NeedsKeepingPermission env callingUid
  · rw [if_neg (by simp [needs.1, needs.2])]
    by_cases asked : BackgroundMode.taskKeeping ∈ taskParam.bgModeIds
    · rw [if_neg (by simp [checkExistMode, asked])]
      split
      · rename_i isSystem
        split
        · simp [asked, needs, isSystem]
        · simp [asked, needs, isSystem]
      · rename_i notSystem
        simp [asked, needs, notSystem]
    · rw [if_pos (by simp [checkExistMode, asked])]
      simp [asked]
  · have exempted : (env.isTaskKeepingExemptedQuatoApp (env.clientBundleName callingUid) ||
        env.supportTaskKeeping) = true := by
      rw [← Bool.not_eq_false, Bool.or_eq_false_iff]
      exact fun both => needs both.symm
    rw [if_pos exempted]
    simp [needs]

theorem isModeSupported_eq_ok :
    self.isModeSupported env callingUid taskParam = .ok ↔
      self.isSysReady = true ∧ checkModeSupportedPermission env callingUid taskParam = .ok ∧
        checkTaskkeepingPermission env taskParam env.callingTokenId
          (env.clientBundleName callingUid) env.callingFullTokenId = .ok := by
  unfold BgContinuousTaskMgr.isModeSupported
  split
  · simp_all
  · split
    · simp_all
    · simp_all

theorem startPermits_special
    (alone : taskParam.bgModeIds = [BackgroundMode.specialScenarioProcessing]) :
    StartPermits env.toEnv callingUid taskParam ↔
      MayUseSpecial env callingUid ∧
        env.isMaliciousAppConfig (env.clientBundleName callingUid) = false ∧
          env.supportAuth = true := by
  have allowed := @allowUseSpecial_requestedRecord env callingUid taskParam
  rw [← allowed, ← checkRestrictedMode_special]
  constructor
  · intro permits
    exact permits _ (by simp [alone]) (Or.inr rfl)
  · intro accepted mode listed _
    obtain rfl : mode = BackgroundMode.specialScenarioProcessing := by simpa [alone] using listed
    exact accepted

theorem startPermits_notSpecial
    (absent : BackgroundMode.specialScenarioProcessing ∉ taskParam.bgModeIds) :
    StartPermits env.toEnv callingUid taskParam ↔
      (BackgroundMode.taskKeeping ∈ taskParam.bgModeIds → NeedsKeepingPermission env callingUid →
        (env.systemACLPermission env.callingTokenId = true ∨
          env.specialACLPermission env.callingTokenId = true) ∧
          env.isSystemApp env.callingFullTokenId = false) := by
  have allowed := @allowUseTaskKeeping_requestedRecord env callingUid taskParam
  rw [← allowed, ← checkRestrictedMode_taskKeeping]
  constructor
  · intro permits listed
    exact permits _ listed (Or.inl rfl)
  · rintro accepted mode listed (rfl | rfl)
    · exact accepted listed
    · exact absurd listed absent

theorem isModeSupported_iff_startPermits_iff (alone : SpecialAlone taskParam.bgModeIds) :
    (self.isModeSupported env callingUid taskParam = .ok ↔
        StartPermits env.toEnv callingUid taskParam) ↔
      QueryFaithful env callingUid taskParam.bgModeIds self := by
  rw [isModeSupported_eq_ok, checkTaskkeepingPermission_eq_ok]
  by_cases special : BackgroundMode.specialScenarioProcessing ∈ taskParam.bgModeIds
  · have modes := alone special
    have notKeeping : BackgroundMode.taskKeeping ∉ taskParam.bgModeIds := by
      rw [modes]
      decide
    rw [checkModeSupportedPermission_special modes, startPermits_special modes]
    simp only [QueryFaithful, special, notKeeping, PassesGate]
    grind
  · rw [checkModeSupportedPermission_notSpecial special, startPermits_notSpecial special]
    by_cases needed : BackgroundMode.taskKeeping ∈ taskParam.bgModeIds ∧
        NeedsKeepingPermission env callingUid
    · obtain ⟨keeping, needs⟩ := needed
      simp only [QueryFaithful, special, keeping, needs, PassesGate]
      grind
    · simp only [QueryFaithful, special, needed, PassesGate]
      grind

/-- The query answers as a start would decide exactly where the condition holds; and a start
decides so by `CheckBgmodeType`, for an ability that declares its modes. -/
theorem isModeSupported_faithful_iff (alone : SpecialAlone taskParam.bgModeIds) :
    ((self.isModeSupported env callingUid taskParam = .ok ↔
        StartPermits env.toEnv callingUid taskParam) ↔
      QueryFaithful env callingUid taskParam.bgModeIds self) ∧
    ∀ record configuredBgMode, startRecord env.toEnv callingUid taskParam = some record →
      (∀ mode ∈ taskParam.bgModeIds, configuredBgMode &&& modeBit mode ≠ 0#32) →
      (StartPermits env.toEnv callingUid taskParam ↔ ∀ mode ∈ taskParam.bgModeIds,
        mode = BackgroundMode.taskKeeping ∨ mode = BackgroundMode.specialScenarioProcessing →
          checkBgmodeType env.toEnv configuredBgMode true record mode = .ok) :=
  ⟨isModeSupported_iff_startPermits_iff alone,
    fun _ _ built declared => startPermits_iff_checkBgmodeType built declared⟩

end Agreement

/-- The query agrees with a start for an app that holds the permission that the query asks for. -/
theorem isModeSupported_faithful_permitted :
    (BgContinuousTaskMgr.isModeSupported { systemACLPermission := fun _ => true } 7
        { bgModeIds := [BackgroundMode.taskKeeping] } { isSysReady := true } = .ok ↔
      StartPermits (ModeEnv.toEnv { systemACLPermission := fun _ => true }) 7
        { bgModeIds := [BackgroundMode.taskKeeping] }) ↔
      QueryFaithful { systemACLPermission := fun _ => true } 7 [BackgroundMode.taskKeeping]
        { isSysReady := true } :=
  (isModeSupported_faithful_iff (by unfold SpecialAlone; decide)).1

/-- An app with the permission for special scenarios may start keeping a task, which the query
denies it. -/
theorem isModeSupported_denies_taskKeeping :
    BgContinuousTaskMgr.isModeSupported { specialACLPermission := fun _ => true } 7
        { bgModeIds := [BackgroundMode.taskKeeping] } { isSysReady := true } =
      .continuousAppNotHaveBgmodePermissionSystem ∧
    StartPermits (ModeEnv.toEnv { specialACLPermission := fun _ => true }) 7
        { bgModeIds := [BackgroundMode.taskKeeping] } := by
  unfold StartPermits
  decide

/-- An exempted app that turned malicious is promised a mode that it cannot start. -/
example :
    BgContinuousTaskMgr.isModeSupported
        { isSpecialExemptedQuatoApp := fun _ => true, isMaliciousAppConfig := fun _ => true } 7
        { bgModeIds := [BackgroundMode.specialScenarioProcessing] } { isSysReady := true } = .ok ∧
    allowUseSpecial
        { isSpecialExemptedQuatoApp := fun _ => true, isMaliciousAppConfig := fun _ => true } {} =
      .appDetectedMaliciousBehavior := by
  decide

end BgTaskMgr.Continuous
