import BgTaskMgr.Core.Service
import BgTaskMgr.Lib.Histories
import BgTaskMgr.Lib.Register

/-!
# Policy lists

The exempted apps, the malicious apps and the apps that may ask for a CPU level come from files,
from the cloud and from calls.  Each name is a register: what the service holds of it is what
the last source that speaks of it has left, and no call but those of a system service speaks.
-/

set_option autoImplicit false

namespace BgTaskMgr

def updateBgMgrCloudConfig (payload : Json) (self : BgTaskConfigFileInfo) :
    Bool × BgTaskConfigFileInfo :=
  if payload.isNull then (false, self)
  else if !payload.contains "params" || !(payload.member "params").isObject then (false, self)
  else (true, parseCpuEfficiencyResourceApplyBundleInfos (payload.member "params") self)

end BgTaskMgr

namespace BgTaskMgr.Core

open StepSystem BackgroundTaskMgrService

/-! ## Settings -/

inductive PolicyList where
  | transientExempted
  | transientCloudExempted
  | taskKeepingExempted
  | malicious
  | specialExempted
  deriving DecidableEq, Repr

namespace PolicyList

def names (config : BgtaskConfig) : PolicyList → Finset String
  | transientExempted => config.transientTaskExemptedQuatoList
  | transientCloudExempted => config.transientTaskCloudExemptedQuatoList
  | taskKeepingExempted => config.taskKeepingExemptedQuatoList
  | malicious => config.maliciousAppBlocklist
  | specialExempted => config.specialExemptedQuatoList

def cloudKey : PolicyList → Option String
  | transientExempted => none
  | transientCloudExempted => some "transient_err_delayed_frozen_list"
  | taskKeepingExempted => some "continuous_task_keeping_exemption_list"
  | malicious => some "malicious_app_blocklist"
  | specialExempted => some "special_exempted_list"

end PolicyList

structure Settings where
  config : BgtaskConfig := {}
  configFileInfo : BgTaskConfigFileInfo := {}

inductive SettingsOp where
  | keep
  /-- A new process starts without settings. -/
  | restart
  | loadFiles (suspendManagerConfigFile backgroundTaskConfigFile : Option Json)
  | addExemptedQuatoData (configData : Option Json) (sourceType : Int)
  | updateSusMgrCloudConfig (payload : Json)
  | updateBgMgrCloudConfig (payload : Json)
  | addNames (list : PolicyList) (names : Finset String)

namespace Settings

def addNames (self : Settings) (names : Finset String) : PolicyList → Settings
  | .transientExempted => { self with config := { self.config with
      transientTaskExemptedQuatoList := self.config.transientTaskExemptedQuatoList ∪ names } }
  | .transientCloudExempted => { self with config := { self.config with
      transientTaskCloudExemptedQuatoList :=
        self.config.transientTaskCloudExemptedQuatoList ∪ names } }
  | .taskKeepingExempted => { self with config := { self.config with
      taskKeepingExemptedQuatoList := self.config.taskKeepingExemptedQuatoList ∪ names } }
  | .malicious => { self with config := { self.config with
      maliciousAppBlocklist := self.config.maliciousAppBlocklist ∪ names } }
  | .specialExempted => { self with config := { self.config with
      specialExemptedQuatoList := self.config.specialExemptedQuatoList ∪ names } }

def apply (self : Settings) : SettingsOp → Settings
  | .keep => self
  | .restart => {}
  | .loadFiles suspendManagerConfigFile backgroundTaskConfigFile =>
      match loadConfigFile suspendManagerConfigFile self.config with
      | (.error _, config) => { self with config := config }
      | (.ok (), config) =>
          { config := config
            configFileInfo := loadBgTaskConfigFile backgroundTaskConfigFile self.configFileInfo }
  | .addExemptedQuatoData configData sourceType =>
      { self with config := (self.config.addExemptedQuatoData truncate configData sourceType).2 }
  | .updateSusMgrCloudConfig payload =>
      { self with config := (self.config.updateSusMgrCloudConfig truncate payload).2 }
  | .updateBgMgrCloudConfig payload =>
      { self with configFileInfo := (BgTaskMgr.updateBgMgrCloudConfig payload
          self.configFileInfo).2 }
  | .addNames list names => self.addNames names list

end Settings

/-! ## What an operation says of a name -/

/-- The conversion of the quota throws, and the parameters behind it are not read. -/
def quotaThrows (params : Json) : Bool :=
  params.contains "param" && (params.member "param").isObject &&
    (params.member "param").contains "transient_exempted_quota" &&
    !(quotaMember params).isInteger && (getInt truncate (quotaMember params)).toOption.isNone

def arrayEvent (jsonObj : Json) (key name : String) : Register.Event Unit :=
  if jsonObj.contains key && (jsonObj.member key).isArray then
    if name ∈ exemptedNames (jsonObj.member key) then .put () else .drop (fun _ => true)
  else .keep

def cloudEvent (jsonObj : Json) (list : PolicyList) (name : String) : Register.Event Unit :=
  if !jsonObj.contains "params" || !(jsonObj.member "params").isObject then .keep
  else
    let params := jsonObj.member "params"
    match list.cloudKey with
    | none => .keep
    | some key =>
        if list ≠ .transientCloudExempted ∧ quotaThrows params = true then .keep
        else arrayEvent params key name

/-- A file adds the names up to the first member that is none. -/
def fileNames (file : Option Json) : List String :=
  let jsonObj := file.getD .null
  if (jsonObj.member "transient_err_delayed_frozen_list").isArray then
    ((jsonObj.member "transient_err_delayed_frozen_list").elements.takeWhile Json.isString).map
      Json.toText
  else []

def SettingsOp.nameEvent (list : PolicyList) (name : String) : SettingsOp → Register.Event Unit
  | .keep => .keep
  | .restart => .drop (fun _ => true)
  | .loadFiles file _ =>
      if list = .transientExempted ∧ name ∈ fileNames file then .put () else .keep
  | .addExemptedQuatoData configData sourceType =>
      match configData with
      | none => .keep
      | some jsonObj =>
          if jsonObj.isNull || jsonObj.isEmpty then .keep
          else if sourceType = ConfigDataSourceType.configCloud then cloudEvent jsonObj list name
          else if sourceType = ConfigDataSourceType.configSuspendManager ∧
              list = .transientExempted then
            arrayEvent jsonObj "transient_err_delayed_frozen_list" name
          else .keep
  | .updateSusMgrCloudConfig payload =>
      if payload.isNull then .keep else cloudEvent payload list name
  | .updateBgMgrCloudConfig _ => .keep
  | .addNames added names => if added = list ∧ name ∈ names then .put () else .keep

def bundleInfosEvent (jsonObj : Json) (bundleName : String) : Register.Event CpuLevelConfigInfo :=
  if jsonObj.isNull || jsonObj.isEmpty then .keep
  else if !jsonObj.contains "cpu_efficiency_resource_allow_apply_bundle_infos" ||
      !(jsonObj.member "cpu_efficiency_resource_allow_apply_bundle_infos").isArray then .keep
  else
    match lastEntry bundleName
        (jsonObj.member "cpu_efficiency_resource_allow_apply_bundle_infos").elements with
    | none => .drop (fun _ => true)
    | some info => .put info

def SettingsOp.cpuEvent (bundleName : String) : SettingsOp → Register.Event CpuLevelConfigInfo
  | .restart => .drop (fun _ => true)
  | .loadFiles first file =>
      -- what the first file throws leaves the second one unread
      if ListsStrings first then bundleInfosEvent (file.getD .null) bundleName else .keep
  | .updateBgMgrCloudConfig payload =>
      if payload.isNull then .keep
      else if !payload.contains "params" || !(payload.member "params").isObject then .keep
      else bundleInfosEvent (payload.member "params") bundleName
  | _ => .keep

/-! ## Names under one operation -/

section Names

variable {config : BgtaskConfig} {params : Json} {list : PolicyList} {name : String}

theorem mark_listParam (key : String) (names : Finset String) :
    Register.mark (name ∈ listParam params key names) =
      (arrayEvent params key name).apply (Register.mark (name ∈ names)) := by
  unfold listParam arrayEvent
  split
  · split
    · rename_i given
      exact (Register.apply_put_mark given).symm
    · rename_i left
      exact (Register.apply_drop_mark left).symm
  · rfl

/-- What the parameters of transient tasks leave of the lists, and when they throw. -/
theorem setTransientTaskParam_lists :
    ((config.setTransientTaskParam truncate params).1 = .ok () ↔ quotaThrows params = false) ∧
      list.names (config.setTransientTaskParam truncate params).2 =
        if list = .transientCloudExempted then
          listParam params "transient_err_delayed_frozen_list" (list.names config)
        else list.names config := by
  unfold BgtaskConfig.setTransientTaskParam quotaThrows quotaMember
  dsimp only
  have lists (quota : Int) : list.names { config with
        transientTaskCloudExemptedQuatoList :=
          listParam params "transient_err_delayed_frozen_list"
            config.transientTaskCloudExemptedQuatoList
        transientTaskExemptedQuato := quota } =
      if list = .transientCloudExempted then
        listParam params "transient_err_delayed_frozen_list" (list.names config)
      else list.names config := by
    cases list with
    | transientCloudExempted => rfl
    | _ => rfl
  split
  · rename_i param
    split
    · rename_i noInteger
      rw [param, Bool.true_and, noInteger, Bool.true_and]
      split
      · rename_i exception thrown
        rw [thrown]
        exact ⟨by simp [Except.toOption], lists _⟩
      · rename_i quota converted
        rw [converted]
        exact ⟨by simp [Except.toOption], lists _⟩
    · rename_i integer
      refine ⟨iff_of_true rfl ?_, lists _⟩
      rw [Bool.not_eq_true] at integer
      rw [param, Bool.true_and, integer, Bool.false_and]
  · rename_i missing
    refine ⟨iff_of_true rfl ?_, lists _⟩
    rw [Bool.not_eq_true] at missing
    simp [missing]

/-- The cloud replaces the lists it has an array for.  What throws leaves the lists of continuous
tasks as they are. -/
theorem setCloudConfigParam_lists {jsonObj : Json} :
    list.names (config.setCloudConfigParam truncate jsonObj).2 =
      if !jsonObj.contains "params" || !(jsonObj.member "params").isObject then list.names config
      else
        match list.cloudKey with
        | none => list.names config
        | some key =>
            if list ≠ .transientCloudExempted ∧ quotaThrows (jsonObj.member "params") = true then
              list.names config
            else listParam (jsonObj.member "params") key (list.names config) := by
  unfold BgtaskConfig.setCloudConfigParam
  split
  · rfl
  dsimp only
  obtain ⟨throws, lists⟩ := @setTransientTaskParam_lists config (jsonObj.member "params") list
  cases outcome : config.setTransientTaskParam truncate (jsonObj.member "params") with
  | mk result after =>
      rw [outcome] at throws lists
      cases result with
      | error exception =>
          have thrown : quotaThrows (jsonObj.member "params") = true := by
            rw [← Bool.not_eq_false]
            exact fun converted => absurd (throws.mpr converted) (by simp)
          dsimp only at lists ⊢
          rw [lists, thrown]
          cases list with
          | transientCloudExempted => rfl
          | _ => rfl
      | ok value =>
          have converted : quotaThrows (jsonObj.member "params") = false := throws.mp rfl
          dsimp only at lists ⊢
          rw [converted]
          cases list with
          | transientExempted => exact lists
          | transientCloudExempted => exact lists
          | taskKeepingExempted => exact congrArg (listParam _ _) lists
          | malicious => exact congrArg (listParam _ _) lists
          | specialExempted => exact congrArg (listParam _ _) lists

theorem mark_setCloudConfigParam {jsonObj : Json} :
    Register.mark (name ∈ list.names (config.setCloudConfigParam truncate jsonObj).2) =
      (cloudEvent jsonObj list name).apply (Register.mark (name ∈ list.names config)) := by
  rw [setCloudConfigParam_lists]
  unfold cloudEvent
  split
  · rfl
  dsimp only
  cases list.cloudKey with
  | none => rfl
  | some key =>
      dsimp only
      split
      · rfl
      · exact mark_listParam key _

theorem setSuspendManagerParam_lists {jsonObj : Json} :
    list.names (config.setSuspendManagerParam jsonObj).2 =
      if list = .transientExempted then
        listParam jsonObj "transient_err_delayed_frozen_list" (list.names config)
      else list.names config := by
  have lists (names : Finset String) (quota : Int) : list.names { config with
        transientTaskExemptedQuatoList := names
        transientTaskExemptedQuato := quota } =
      if list = .transientExempted then names else list.names config := by
    cases list with
    | transientExempted => rfl
    | _ => rfl
  unfold BgtaskConfig.setSuspendManagerParam listParam
  split
  · rename_i missing
    have noArray : ¬ (jsonObj.contains "transient_err_delayed_frozen_list" &&
        (jsonObj.member "transient_err_delayed_frozen_list").isArray) = true := by
      simpa [or_iff_not_imp_left] using missing
    rw [if_neg noArray, ite_self]
  · rename_i present
    have array : (jsonObj.contains "transient_err_delayed_frozen_list" &&
        (jsonObj.member "transient_err_delayed_frozen_list").isArray) = true := by
      simpa using present
    rw [if_pos array]
    dsimp only
    split
    · exact lists _ config.transientTaskExemptedQuato
    · exact lists _ _

theorem mark_addExemptedQuatoData (configData : Option Json) (sourceType : Int) :
    Register.mark (name ∈ list.names
        (config.addExemptedQuatoData truncate configData sourceType).2) =
      ((SettingsOp.addExemptedQuatoData configData sourceType).nameEvent list name).apply
        (Register.mark (name ∈ list.names config)) := by
  cases configData with
  | none => rfl
  | some jsonObj =>
      unfold BgtaskConfig.addExemptedQuatoData SettingsOp.nameEvent
      dsimp only
      split
      · rfl
      split
      · exact mark_setCloudConfigParam
      by_cases suspend : sourceType = ConfigDataSourceType.configSuspendManager
      · rw [if_pos suspend]
        dsimp only
        rw [setSuspendManagerParam_lists]
        simp only [suspend, true_and]
        split
        · exact mark_listParam _ _
        · rfl
      · rw [if_neg suspend, if_neg (fun both => suspend both.1)]
        rfl

theorem mem_foldl_insert (elements : List Json) (names : Finset String) :
    name ∈ elements.foldl (fun names app => insert app.toText names) names ↔
      name ∈ names ∨ name ∈ elements.map Json.toText := by
  induction elements generalizing names with
  | nil => simp
  | cons app rest ih =>
      rw [List.foldl_cons, ih, Finset.mem_insert, List.map_cons, List.mem_cons, or_assoc,
        or_left_comm]

theorem mem_loadConfigFile (file : Option Json) :
    name ∈ list.names (loadConfigFile file config).2 ↔
      name ∈ list.names config ∨ list = .transientExempted ∧ name ∈ fileNames file := by
  have quota (jsonObj : Json) (config : BgtaskConfig) :
      list.names (parseTransientTaskExemptedQuato jsonObj config) = list.names config := by
    unfold parseTransientTaskExemptedQuato
    split
    · rfl
    split
    · rfl
    · cases list with
      | _ => rfl
  cases file with
  | none =>
      have nothing : fileNames none = [] := rfl
      rw [nothing]
      simp [loadConfigFile]
  | some jsonObj =>
      have listed : list.names (loadConfigFile (some jsonObj) config).2 =
          list.names (parseTransientTaskExemptedQuatoList jsonObj config).2 := by
        unfold loadConfigFile
        dsimp only
        split
        · rename_i outcome
          rw [outcome]
        · rename_i outcome
          rw [outcome]
          exact quota _ _
      rw [listed]
      unfold parseTransientTaskExemptedQuatoList fileNames
      dsimp only [Option.getD_some]
      by_cases array : (jsonObj.member "transient_err_delayed_frozen_list").isArray = true
      · have present := Json.contains_of_isArray_member array
        have filled : ¬ (jsonObj.isNull || jsonObj.isEmpty) = true := by
          intro nothing
          rw [Json.not_contains_of_isNull_or_isEmpty nothing] at present
          exact absurd present (by simp)
        rw [if_neg filled, if_neg (by simp [present, array]), if_pos array]
        cases list with
        | transientExempted =>
            rw [and_iff_right rfl]
            exact mem_foldl_insert _ _
        | _ => exact (or_iff_left (fun both => by injection both.1)).symm
      · have other : (!jsonObj.contains "transient_err_delayed_frozen_list" ||
            !(jsonObj.member "transient_err_delayed_frozen_list").isArray) = true := by
          simp [array]
        rw [if_pos other, ite_self, if_neg array]
        exact (or_iff_left (fun both => List.not_mem_nil both.2)).symm

theorem config_loadFiles (settings : Settings) (file other : Option Json) :
    (settings.apply (.loadFiles file other)).config = (loadConfigFile file settings.config).2 := by
  unfold Settings.apply
  dsimp only
  split
  · rename_i outcome
    rw [outcome]
  · rename_i outcome
    rw [outcome]

theorem mark_apply (settings : Settings) (op : SettingsOp) :
    Register.mark (name ∈ list.names (settings.apply op).config) =
      (op.nameEvent list name).apply (Register.mark (name ∈ list.names settings.config)) := by
  cases op with
  | keep => rfl
  | restart =>
      refine (Register.apply_drop_mark ?_).symm
      cases list with
      | _ => exact Finset.notMem_empty name
  | loadFiles file other =>
      have loaded := @mem_loadConfigFile settings.config list name file
      rw [config_loadFiles]
      show Register.mark (name ∈ list.names (loadConfigFile file settings.config).2) =
        (if list = .transientExempted ∧ name ∈ fileNames file then Register.Event.put ()
          else .keep).apply _
      split
      · rename_i given
        exact (Register.apply_put_mark (loaded.mpr (.inr given))).symm
      · rename_i missing
        exact Register.mark_congr (loaded.trans (or_iff_left missing))
  | addExemptedQuatoData configData sourceType => exact mark_addExemptedQuatoData _ _
  | updateSusMgrCloudConfig payload =>
      show Register.mark (name ∈ list.names
        (settings.config.updateSusMgrCloudConfig truncate payload).2) = _
      have same : (settings.config.updateSusMgrCloudConfig truncate payload).2 =
          if payload.isNull then settings.config
          else (settings.config.setCloudConfigParam truncate payload).2 := by
        unfold BgtaskConfig.updateSusMgrCloudConfig
        split
        · rfl
        · split
          · rename_i outcome
            rw [outcome]
          · rename_i outcome
            rw [outcome]
      rw [same]
      show _ = (if payload.isNull then Register.Event.keep
        else cloudEvent payload list name).apply _
      split
      · rfl
      · exact mark_setCloudConfigParam
  | updateBgMgrCloudConfig payload => rfl
  | addNames added names =>
      have joined : name ∈ list.names (settings.addNames names added).config ↔
          name ∈ list.names settings.config ∨ added = list ∧ name ∈ names := by
        cases added with
        | _ =>
            cases list with
            | _ => simp [Settings.addNames, PolicyList.names]
      show Register.mark (name ∈ list.names (settings.addNames names added).config) =
        (if added = list ∧ name ∈ names then Register.Event.put () else .keep).apply _
      split
      · rename_i given
        exact (Register.apply_put_mark (joined.mpr (.inr given))).symm
      · rename_i missing
        exact Register.mark_congr (joined.trans (or_iff_left missing))

end Names

/-! ## CPU levels under one operation -/

theorem lookup_bundleInfos (jsonObj : Json) (self : BgTaskConfigFileInfo) (bundleName : String) :
    (parseCpuEfficiencyResourceApplyBundleInfos jsonObj self).allowApplyCpuBundleInfoMap.lookup
        bundleName =
      (bundleInfosEvent jsonObj bundleName).apply
        (self.allowApplyCpuBundleInfoMap.lookup bundleName) := by
  unfold parseCpuEfficiencyResourceApplyBundleInfos bundleInfosEvent
  split
  · rfl
  split
  · rfl
  · rw [lookup_foldl_addBundleInfo]
    cases lastEntry bundleName _ with
    | none => exact (Register.Event.apply_drop_all _).symm
    | some info => rfl

theorem cpuLevel_apply (settings : Settings) (op : SettingsOp) (bundleName : String) :
    (settings.apply op).configFileInfo.allowApplyCpuBundleInfoMap.lookup bundleName =
      (op.cpuEvent bundleName).apply
        (settings.configFileInfo.allowApplyCpuBundleInfoMap.lookup bundleName) := by
  cases op with
  | keep => rfl
  | restart => exact (Register.Event.apply_drop_all _).symm
  | loadFiles first file =>
      show _ = (if ListsStrings first then bundleInfosEvent (file.getD .null) bundleName
        else .keep).apply _
      have reads := @loadConfigFile_eq_ok_iff first settings.config
      unfold Settings.apply
      dsimp only
      cases outcome : loadConfigFile first settings.config with
      | mk result config =>
          rw [outcome] at reads
          cases result with
          | error exception =>
              rw [if_neg (fun listed => nomatch reads.mpr listed)]
              rfl
          | ok value =>
              rw [if_pos (reads.mp rfl)]
              cases file with
              | none => rfl
              | some jsonObj => exact lookup_bundleInfos _ _ _
  | addExemptedQuatoData configData sourceType => rfl
  | updateSusMgrCloudConfig payload => rfl
  | updateBgMgrCloudConfig payload =>
      show ((updateBgMgrCloudConfig payload settings.configFileInfo).2).allowApplyCpuBundleInfoMap.lookup
        bundleName = (if payload.isNull then Register.Event.keep
          else if !payload.contains "params" || !(payload.member "params").isObject then .keep
          else bundleInfosEvent (payload.member "params") bundleName).apply _
      unfold updateBgMgrCloudConfig
      split
      · rfl
      split
      · rfl
      · exact lookup_bundleInfos _ _ _
  | addNames added names =>
      cases added with
      | _ => rfl

/-! ## The service and the cloud -/

/-- What reaches the service, and what the plugin hands to its configuration. -/
inductive PolicyEvent where
  | service (event : ServiceEvent)
  | updateSusMgrCloudConfig (payload : Json)
  | updateBgMgrCloudConfig (payload : Json)

def settingsOf (s : BackgroundTaskMgrService) : Settings := ⟨s.config, s.configFileInfo⟩

def policyStep (params : Transient.Params) (s : BackgroundTaskMgrService) :
    ServiceEnv × PolicyEvent → BackgroundTaskMgrService
  | (env, .service event) => s.step params (env, event)
  | (_, .updateSusMgrCloudConfig payload) =>
      { s with config := (s.config.updateSusMgrCloudConfig truncate payload).2 }
  | (_, .updateBgMgrCloudConfig payload) =>
      { s with configFileInfo := (updateBgMgrCloudConfig payload s.configFileInfo).2 }

def maySetConfig (env : ServiceEnv) (s : BackgroundTaskMgrService) : Bool :=
  env.caller.checkCallingToken && s.transient.isReady &&
    Transient.BgTransientTaskMgr.checkProcessName env.transient

def requestSettingsOp (env : ServiceEnv) (s : BackgroundTaskMgrService) : Request → SettingsOp
  | .setBgTaskConfig configData sourceType =>
      if maySetConfig env s then .addExemptedQuatoData configData sourceType else .keep
  | .setSupportedTaskKeepingProcesses processSet =>
      if checkResourceSchedule env then .addNames .taskKeepingExempted processSet else .keep
  | .setMaliciousAppConfig maliciousAppSet =>
      if checkResourceSchedule env then .addNames .malicious maliciousAppSet else .keep
  | .setSpecialExemptedProcess bundleNameSet =>
      if checkResourceSchedule env then .addNames .specialExempted bundleNameSet else .keep
  | _ => .keep

/-- The last of the three managers reports, and the files are read. -/
def readsFiles (params : Transient.Params) (s : BackgroundTaskMgrService)
    (label : ServiceEnv × ServiceEvent) : Prop :=
  s.dependsReady ≠ allReady ∧ (s.step params label).dependsReady = allReady

instance (params : Transient.Params) (s : BackgroundTaskMgrService)
    (label : ServiceEnv × ServiceEvent) : Decidable (readsFiles params s label) :=
  inferInstanceAs (Decidable (_ ∧ _))

def settingsOp (params : Transient.Params) (s : BackgroundTaskMgrService) :
    ServiceEnv × PolicyEvent → SettingsOp
  | (_, .updateSusMgrCloudConfig payload) => .updateSusMgrCloudConfig payload
  | (_, .updateBgMgrCloudConfig payload) => .updateBgMgrCloudConfig payload
  | (_, .service .restart) => .restart
  | (env, .service (.request request)) =>
      if s.publications = 0 then .keep else requestSettingsOp env s request
  | (env, .service event) =>
      if readsFiles params s (env, event) then
        .loadFiles env.suspendManagerConfigFile env.backgroundTaskConfigFile
      else .keep

section Frames

variable {env : ServiceEnv} {params : Transient.Params} {s after : BackgroundTaskMgrService}

def SameSettings (s after : BackgroundTaskMgrService) : Prop :=
  settingsOf after = settingsOf s ∧ after.dependsReady = s.dependsReady

theorem SameSettings.refl (s : BackgroundTaskMgrService) : SameSettings s s := ⟨rfl, rfl⟩

/-- An event that the managers take only when it is one of theirs. -/
theorem SameSettings.whenever {after : BackgroundTaskMgrService} {p : Prop} [Decidable p]
    (same : SameSettings s after) : SameSettings s (if p then after else s) := by
  split
  · exact same
  · exact .refl s

theorem sameSettings_gated {allowed : Bool} {call : ServiceErrCode × BackgroundTaskMgrService}
    (same : SameSettings s call.2) : SameSettings s (s.gated allowed call).2 := by
  unfold gated
  split
  · exact same
  · exact .refl s

theorem sameSettings_checkedBy {code : ErrCode} {call : ServiceErrCode × BackgroundTaskMgrService}
    (same : SameSettings s call.2) : SameSettings s (s.checkedBy code call).2 := by
  unfold checkedBy
  split
  · exact same
  · exact .refl s

theorem sameSettings_subscribe (subscriber : Option Nat) (flag : BitVec 32) :
    SameSettings s (s.subscribeBackgroundTask env subscriber flag).2 := by
  have added (info : Continuous.SubscriberInfo) :
      SameSettings s (s.addContinuousSubscriber env info) := by
    unfold addContinuousSubscriber
    dsimp only
    split
    · exact ⟨rfl, rfl⟩
    · exact ⟨rfl, rfl⟩
  unfold subscribeBackgroundTask
  split
  · exact .refl s
  · exact .refl s
  dsimp only
  split
  · exact added _
  · exact added _

theorem sameSettings_unsubscribe (subscriber : Option Nat) (flag : BitVec 32) :
    SameSettings s (s.unsubscribeBackgroundTask env subscriber flag).2 := by
  have removed (remote : Nat) :
      SameSettings s (s.removeContinuousSubscriber env remote flag) := by
    unfold removeContinuousSubscriber
    dsimp only
    split
    · exact ⟨rfl, rfl⟩
    · exact ⟨rfl, rfl⟩
  unfold unsubscribeBackgroundTask
  split
  · exact .refl s
  · exact .refl s
  dsimp only
  split
  · exact removed _
  · exact removed _

theorem sameSettings_dump (command : DumpCommand) : SameSettings s (s.dump env params command) := by
  cases command with
  | taskTime pause uid =>
      unfold dump
      dsimp only
      split
      · exact ⟨rfl, rfl⟩
      · exact .refl s
  | _ => exact ⟨rfl, rfl⟩

theorem sameSettings_proceed (index : Nat) : SameSettings s (s.proceed index) := by
  have transient (call : SubscriptionCall) : SameSettings s
      (if call.subscribes then s.addTransientSubscriber call.remote
        else s.removeTransientSubscriber call.remote) := by
    unfold addTransientSubscriber removeTransientSubscriber
    grind [SameSettings, settingsOf]
  have efficiency (call : SubscriptionCall) : SameSettings s
      (if call.subscribes then s.addResourceSubscriber call.remote
        else s.removeResourceSubscriber call.remote) := by
    unfold addResourceSubscriber removeResourceSubscriber
    grind [SameSettings, settingsOf]
  unfold proceed
  split
  · exact .refl s
  dsimp only
  split
  · exact transient _
  · exact efficiency _

theorem sameSettings_subscriberDied (owner : SubscriberOwner) (remote : Nat) :
    SameSettings s (s.subscriberDied env owner remote) := by
  cases owner with
  | _ =>
      unfold subscriberDied
      dsimp only
      split
      · exact ⟨rfl, rfl⟩
      · exact .refl s

theorem settings_setBgTaskConfig (configData : Option Json) (sourceType : Int) :
    settingsOf (s.request env params (.setBgTaskConfig configData sourceType)).2 =
      (settingsOf s).apply (requestSettingsOp env s (.setBgTaskConfig configData sourceType)) := by
  show settingsOf (s.gated _ (s.setBgTaskConfig env configData sourceType)).2 =
    (settingsOf s).apply (if maySetConfig env s then _ else _)
  unfold gated setBgTaskConfig maySetConfig
  cases env.caller.checkCallingToken with
  | false => rfl
  | true =>
      cases s.transient.isReady with
      | false => rfl
      | true =>
          cases Transient.BgTransientTaskMgr.checkProcessName env.transient with
          | false => rfl
          | true =>
              dsimp only [Bool.not_true, Bool.and_self]
              rw [if_pos rfl, if_neg (by simp), if_neg (by simp)]
              split
              · rfl
              · rfl

theorem settings_addNames (list : PolicyList) (names : Finset String)
    {call : ServiceErrCode × BackgroundTaskMgrService}
    (adds : settingsOf call.2 = (settingsOf s).addNames names list) :
    settingsOf (s.gated (checkResourceSchedule env) call).2 =
      (settingsOf s).apply
        (if checkResourceSchedule env then .addNames list names else .keep) := by
  unfold gated
  split
  · exact adds
  · rfl

theorem settings_request (call : Request) :
    settingsOf (s.request env params call).2 =
      (settingsOf s).apply (requestSettingsOp env s call) := by
  have gate {allowed : Bool} {code : ServiceErrCode} {after : BackgroundTaskMgrService}
      (same : SameSettings s after) :
      settingsOf (s.gated allowed (code, after)).2 = settingsOf s :=
    (sameSettings_gated same).1
  have check {refusal : ErrCode} {code : ServiceErrCode} {after : BackgroundTaskMgrService}
      (same : SameSettings s after) :
      settingsOf (s.checkedBy refusal (code, after)).2 = settingsOf s :=
    (sameSettings_checkedBy same).1
  cases call with
  | setBgTaskConfig configData sourceType => exact settings_setBgTaskConfig configData sourceType
  | setSupportedTaskKeepingProcesses processSet =>
      exact settings_addNames .taskKeepingExempted processSet rfl
  | setMaliciousAppConfig maliciousAppSet => exact settings_addNames .malicious maliciousAppSet rfl
  | setSpecialExemptedProcess bundleNameSet =>
      exact settings_addNames .specialExempted bundleNameSet rfl
  | subscribeBackgroundTask subscriber flag => exact (sameSettings_subscribe subscriber flag).1
  | unsubscribeBackgroundTask subscriber flag => exact (sameSettings_unsubscribe subscriber flag).1
  | requestAuthFromUser taskParam requestAuthApiVersion callback => exact check ⟨rfl, rfl⟩
  | setBackgroundTaskState taskParam => exact check ⟨rfl, rfl⟩
  | dump command => exact gate (sameSettings_dump command)
  | cancelSuspendDelay requestId => rfl
  | getAllTransientTasks => rfl
  | pauseTransientTaskTimeForInner uid => rfl
  | startTransientTaskTimeForInner uid => rfl
  | requestBackgroundRunningForInner taskParam => rfl
  | stopBackgroundRunning abilityName abilityId continuousTaskId => rfl
  | applyEfficiencyResources resourceInfo => rfl
  | resetAllEfficiencyResources => rfl
  | _ => exact gate ⟨rfl, rfl⟩

theorem settings_setReady (flag : BitVec 32) (before : BackgroundTaskMgrService)
    (same : SameSettings before s) :
    settingsOf (s.setReady env flag) =
      if before.dependsReady ≠ allReady ∧ (s.setReady env flag).dependsReady = allReady then
        (settingsOf before).apply
          (.loadFiles env.suspendManagerConfigFile env.backgroundTaskConfigFile)
      else settingsOf before := by
  obtain ⟨settings, reports⟩ := same
  rw [← settings, ← reports]
  unfold setReady
  split
  · rename_i complete
    rw [if_neg (fun both => both.1 complete)]
  rename_i incomplete
  dsimp only
  split
  · rename_i waiting
    rw [if_neg (fun both => waiting both.2)]
    rfl
  rename_i complete
  rw [not_not] at complete
  cases outcome : loadConfigFile env.suspendManagerConfigFile s.config with
  | mk result config =>
      cases result with
      | error exception =>
          rw [if_pos ⟨incomplete, complete⟩]
          simp only [Settings.apply, settingsOf, outcome]
      | ok value =>
          dsimp only
          split
          · rw [if_pos ⟨incomplete, complete⟩]
            simp only [Settings.apply, settingsOf, outcome]
          · rw [if_pos ⟨incomplete, complete⟩]
            simp only [Settings.apply, settingsOf, outcome]

theorem settings_of_same {event : ServiceEvent}
    (same : SameSettings s (s.step params (env, event))) :
    settingsOf (s.step params (env, event)) = (settingsOf s).apply
      (if readsFiles params s (env, event) then
        .loadFiles env.suspendManagerConfigFile env.backgroundTaskConfigFile else .keep) := by
  have silent : ¬ readsFiles params s (env, event) :=
    fun reads => reads.1 (same.2.symm.trans reads.2)
  rw [if_neg silent]
  exact same.1

theorem settings_of_report {event : ServiceEvent} {middle : BackgroundTaskMgrService}
    {flag : BitVec 32} (is : s.step params (env, event) = middle.setReady env flag)
    (same : SameSettings s middle) :
    settingsOf (s.step params (env, event)) = (settingsOf s).apply
      (if readsFiles params s (env, event) then
        .loadFiles env.suspendManagerConfigFile env.backgroundTaskConfigFile else .keep) := by
  have settings := @settings_setReady env middle flag s same
  rw [← is] at settings
  by_cases reads : readsFiles params s (env, event)
  · rw [if_pos reads]
    exact settings.trans (if_pos reads)
  · rw [if_neg reads]
    exact settings.trans (if_neg reads)

theorem settings_of_added {event : ServiceEvent} (ability : Efficiency.DependedAbility)
    (is : s.step params (env, event) = s.onAddSystemAbility env ability) :
    settingsOf (s.step params (env, event)) = (settingsOf s).apply
      (if readsFiles params s (env, event) then
        .loadFiles env.suspendManagerConfigFile env.backgroundTaskConfigFile else .keep) := by
  unfold onAddSystemAbility at is
  dsimp only at is
  split at is
  · exact settings_of_report is ⟨rfl, rfl⟩
  · exact settings_of_same (by rw [is]; exact ⟨rfl, rfl⟩)

theorem settings_step (label : ServiceEnv × PolicyEvent) :
    settingsOf (policyStep params s label) = (settingsOf s).apply (settingsOp params s label) := by
  obtain ⟨env, event⟩ := label
  cases event with
  | updateSusMgrCloudConfig payload => rfl
  | updateBgMgrCloudConfig payload => rfl
  | service event =>
      cases event with
      | restart => rfl
      | request call =>
          show settingsOf (if s.publications = 0 then s else (s.request env params call).2) =
            (settingsOf s).apply (if s.publications = 0 then .keep else requestSettingsOp env s call)
          split
          · rfl
          · exact settings_request call
      | proceed index => exact settings_of_same (sameSettings_proceed index)
      | initTransient servicesUp =>
          by_cases ready : s.transient.isReady = true
          · have is : s.step params (env, .initTransient servicesUp) = s := if_pos ready
            exact settings_of_same (by rw [is]; exact .refl s)
          · have is : s.step params (env, .initTransient servicesUp) =
                if servicesUp then
                  (s.transientStep env params (.initNecessaryState servicesUp)).setReady env
                    transientServiceReady
                else s.transientStep env params (.initNecessaryState servicesUp) := if_neg ready
            split at is
            · exact settings_of_report is ⟨rfl, rfl⟩
            · exact settings_of_same (by rw [is]; exact ⟨rfl, rfl⟩)
      | initContinuous =>
          by_cases ready : s.continuous.mgr.isSysReady = true
          · have is : s.step params (env, .initContinuous) = s := if_pos ready
            exact settings_of_same (by rw [is]; exact .refl s)
          · have is : s.step params (env, .initContinuous) =
                (s.continuousStep env (.service .initRequiredResourceInfo)).setReady env
                  continuousServiceReady := if_neg ready
            exact settings_of_report is ⟨rfl, rfl⟩
      | addSystemAbility ability =>
          cases ability with
          | appMgr => exact settings_of_added .appMgr rfl
          | bundleMgr => exact settings_of_added .bundleMgr rfl
          | resSched => exact settings_of_added .resSched rfl
          | _ => exact settings_of_same (.refl s)
      | removeSystemAbility ability =>
          cases ability with
          | _ => exact settings_of_same ⟨rfl, rfl⟩
      | transient op => exact settings_of_same (.whenever ⟨rfl, rfl⟩)
      | continuous op => exact settings_of_same (.whenever ⟨rfl, rfl⟩)
      | efficiency op => exact settings_of_same (.whenever ⟨rfl, rfl⟩)
      | remoteDies remote => exact settings_of_same ⟨rfl, rfl⟩
      | subscriberDied owner remote =>
          exact settings_of_same (sameSettings_subscriberDied owner remote)
      | expiredCallbackDied remote => exact settings_of_same ⟨rfl, rfl⟩
      | stop => exact settings_of_same ⟨rfl, rfl⟩

end Frames

/-! ## Runs -/

/-- The event may put names on the list: the cloud, the file that is read at the start, and
calls that pass their gates once the service is published. -/
def MayAddNames (params : Transient.Params) (list : PolicyList) (s : BackgroundTaskMgrService) :
    ServiceEnv × PolicyEvent → Prop
  | (_, .updateSusMgrCloudConfig _) => list ≠ .transientExempted
  | (_, .updateBgMgrCloudConfig _) => False
  | (_, .service .restart) => False
  | (env, .service (.request request)) =>
      s.publications ≠ 0 ∧
        match request with
        | .setBgTaskConfig _ _ => maySetConfig env s = true
        | .setSupportedTaskKeepingProcesses _ =>
            list = .taskKeepingExempted ∧ checkResourceSchedule env = true
        | .setMaliciousAppConfig _ => list = .malicious ∧ checkResourceSchedule env = true
        | .setSpecialExemptedProcess _ =>
            list = .specialExempted ∧ checkResourceSchedule env = true
        | _ => False
  | (env, .service event) => list = .transientExempted ∧ readsFiles params s (env, event)

section Runs

variable {params : Transient.Params} {list : PolicyList} {name : String}
  {s : BackgroundTaskMgrService}

theorem cloudEvent_transientExempted (jsonObj : Json) :
    cloudEvent jsonObj .transientExempted name = .keep := by
  unfold cloudEvent
  split
  · rfl
  · rfl

theorem rises_addNames {allowed : Bool} {added : PolicyList} {names : Finset String}
    (rises : (SettingsOp.nameEvent list name
      (if allowed then .addNames added names else .keep)).apply none = some ()) :
    list = added ∧ allowed = true := by
  cases allowed with
  | false => exact absurd rises (by simp [SettingsOp.nameEvent, Register.Event.apply])
  | true =>
      by_cases same : added = list ∧ name ∈ names
      · exact ⟨same.1.symm, rfl⟩
      · have still : SettingsOp.nameEvent list name (.addNames added names) = .keep := if_neg same
        rw [if_pos rfl, still] at rises
        exact absurd rises (by simp [Register.Event.apply])

theorem rises_loadFiles {reads : Prop} [Decidable reads] {file other : Option Json}
    (rises : (SettingsOp.nameEvent list name
      (if reads then .loadFiles file other else .keep)).apply none = some ()) :
    list = .transientExempted ∧ reads := by
  by_cases read : reads
  · by_cases given : list = .transientExempted ∧ name ∈ fileNames file
    · exact ⟨given.1, read⟩
    · have still : SettingsOp.nameEvent list name (.loadFiles file other) = .keep := if_neg given
      rw [if_pos read, still] at rises
      exact absurd rises (by simp [Register.Event.apply])
  · rw [if_neg read] at rises
    exact absurd rises (by simp [SettingsOp.nameEvent, Register.Event.apply])

/-- A name comes to a list by an event that may add to it. -/
theorem mayAddNames_of_rises (label : ServiceEnv × PolicyEvent)
    (rises : ((settingsOp params s label).nameEvent list name).apply none = some ()) :
    MayAddNames params list s label := by
  obtain ⟨env, event⟩ := label
  have keeps : ¬ (SettingsOp.nameEvent list name .keep).apply none = some () := by
    simp [SettingsOp.nameEvent, Register.Event.apply]
  cases event with
  | updateSusMgrCloudConfig payload =>
      rintro rfl
      have still : SettingsOp.nameEvent .transientExempted name
          (.updateSusMgrCloudConfig payload) = .keep := by
        show (if payload.isNull then Register.Event.keep
          else cloudEvent payload .transientExempted name) = .keep
        rw [cloudEvent_transientExempted, ite_self]
      refine keeps ?_
      exact (congrArg (fun event => Register.Event.apply event none) still).symm.trans rises
  | updateBgMgrCloudConfig payload => exact absurd rises keeps
  | service event =>
      cases event with
      | restart => exact absurd rises (by simp [settingsOp, SettingsOp.nameEvent])
      | request request =>
          have rises : ((if s.publications = 0 then SettingsOp.keep
            else requestSettingsOp env s request).nameEvent list name).apply none = some () := rises
          by_cases unpublished : s.publications = 0
          · rw [if_pos unpublished] at rises
            exact absurd rises keeps
          · rw [if_neg unpublished] at rises
            refine ⟨unpublished, ?_⟩
            cases request with
            | setBgTaskConfig configData sourceType =>
                show maySetConfig env s = true
                cases gate : maySetConfig env s with
                | true => rfl
                | false =>
                    simp only [requestSettingsOp, gate] at rises
                    exact absurd rises keeps
            | setSupportedTaskKeepingProcesses processSet => exact rises_addNames rises
            | setMaliciousAppConfig maliciousAppSet => exact rises_addNames rises
            | setSpecialExemptedProcess bundleNameSet => exact rises_addNames rises
            | _ => exact absurd rises keeps
      | _ => exact rises_loadFiles rises

end Runs

/-- Along every run a name is on a list exactly if the events of the run leave it there, and an
app has the CPU level that they leave.  A name that has come to a list came by an event that
may add to it, and has been there since. -/
theorem policies_fold (params : Transient.Params) (s : BackgroundTaskMgrService)
    (labels : List (ServiceEnv × PolicyEvent)) (list : PolicyList) (name : String) :
    (name ∈ list.names (run (policyStep params) s labels).config ↔
      (Register.after (Register.events (policyStep params)
        (fun s label => (settingsOp params s label).nameEvent list name) s labels)
          (Register.mark (name ∈ list.names s.config))).isSome = true) ∧
      (run (policyStep params) s labels).configFileInfo.allowApplyCpuBundleInfoMap.lookup name =
        Register.after (Register.events (policyStep params)
          (fun s label => (settingsOp params s label).cpuEvent name) s labels)
            (s.configFileInfo.allowApplyCpuBundleInfoMap.lookup name) ∧
      (name ∉ list.names s.config →
        name ∈ list.names (run (policyStep params) s labels).config →
          ∃ earlier label later, labels = earlier ++ label :: later ∧
            MayAddNames params list (run (policyStep params) s earlier) label ∧
            ∀ middle rest, later = middle ++ rest →
              name ∈ list.names
                (run (policyStep params) s (earlier ++ label :: middle)).config) := by
  have named (s : BackgroundTaskMgrService) (label : ServiceEnv × PolicyEvent) :
      Register.mark (name ∈ list.names (policyStep params s label).config) =
        ((settingsOp params s label).nameEvent list name).apply
          (Register.mark (name ∈ list.names s.config)) := by
    refine Eq.trans ?_ (mark_apply (settingsOf s) _)
    rw [← settings_step label]
    rfl
  have level (s : BackgroundTaskMgrService) (label : ServiceEnv × PolicyEvent) :
      (policyStep params s label).configFileInfo.allowApplyCpuBundleInfoMap.lookup name =
        ((settingsOp params s label).cpuEvent name).apply
          (s.configFileInfo.allowApplyCpuBundleInfoMap.lookup name) := by
    refine Eq.trans ?_ (cpuLevel_apply (settingsOf s) _ name)
    rw [← settings_step label]
    rfl
  refine ⟨?_, ?_, fun missing present => ?_⟩
  · have held := @Register.held_run_always _ _ _ (policyStep params)
      (fun s label => (settingsOp params s label).nameEvent list name) (fun _ => True)
      (fun s => Register.mark (name ∈ list.names s.config))
      (fun s label _ => ⟨trivial, named s label⟩) labels s trivial
    rw [← held, Register.isSome_mark]
  · exact @Register.held_run_always _ _ _ (policyStep params)
      (fun s label => (settingsOp params s label).cpuEvent name) (fun _ => True)
      (fun s => s.configFileInfo.allowApplyCpuBundleInfoMap.lookup name)
      (fun s label _ => ⟨trivial, level s label⟩) labels s trivial
  · obtain ⟨earlier, label, later, split, before, since⟩ :=
      last_rise (policyStep params) (fun s => name ∈ list.names s.config) s missing labels present
    refine ⟨earlier, label, later, split, ?_, since⟩
    have now : name ∈ list.names
        (policyStep params (run (policyStep params) s earlier) label).config := by
      have here := since [] later rfl
      rwa [run_append, run_cons, run_nil] at here
    have rises := named (run (policyStep params) s earlier) label
    have none : Register.mark (name ∈ list.names (run (policyStep params) s earlier).config) =
        none := if_neg before
    have some : Register.mark (name ∈ list.names
        (policyStep params (run (policyStep params) s earlier) label).config) = some () :=
      if_pos now
    rw [none, some] at rises
    exact mayAddNames_of_rises label rises.symm

def namedApps : List (ServiceEnv × PolicyEvent) :=
  [(nativeEnv 1096, .service (.request (.setMaliciousAppConfig {"app"}))),
    (nativeEnv 0, .updateSusMgrCloudConfig (.object [("params", .object
      [("malicious_app_blocklist", .array [.string "other"])])]))]

theorem policies_fold_named_apps :
    "other" ∈ (run (policyStep {}) { publications := 1 } namedApps).config.maliciousAppBlocklist ∧
      "app" ∉
        (run (policyStep {}) { publications := 1 } namedApps).config.maliciousAppBlocklist ∧
      ∃ earlier label later, namedApps.take 1 = earlier ++ label :: later ∧
        MayAddNames {} .malicious (run (policyStep {}) { publications := 1 } earlier) label := by
  refine ⟨?_, ?_, ?_⟩
  · exact ((policies_fold {} { publications := 1 } namedApps .malicious "other").1).mpr (by decide)
  · intro named
    exact absurd
      (((policies_fold {} { publications := 1 } namedApps .malicious "app").1).mp named) (by decide)
  · obtain ⟨earlier, label, later, split, may, -⟩ :=
      (policies_fold {} { publications := 1 } (namedApps.take 1) .malicious "app").2.2 (by decide)
        (by decide)
    exact ⟨earlier, label, later, split, may⟩

end BgTaskMgr.Core
