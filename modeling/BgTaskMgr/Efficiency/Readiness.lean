import BgTaskMgr.Efficiency.Manager

/-!
# Readiness of the efficiency resources manager

No operation on resources changes whether the manager is ready; the abilities it depends on
do, by coming and going.
-/

set_option autoImplicit false

namespace BgTaskMgr.Efficiency.BgEfficiencyResourcesMgr

section

variable (self : BgEfficiencyResourcesMgr) (env : Env) (isProcess : Bool)

@[simp]
theorem isSysReady_setInfoMap (records : ResourceRecordMap) :
    (self.setInfoMap isProcess records).isSysReady = self.isSysReady := by
  cases isProcess with
  | true => rfl
  | false => rfl

@[simp]
theorem isSysReady_refreshResourceRecord :
    (self.refreshResourceRecord env).isSysReady = self.isSysReady := by
  unfold refreshResourceRecord
  split
  · rfl
  · rfl

@[simp]
theorem isSysReady_eraseBits (mapKey : Int) (record : ResourceApplicationRecord)
    (eraseBit : ResourceNumber) (cpuLevel : Int) :
    (self.eraseBits isProcess mapKey record eraseBit cpuLevel).isSysReady = self.isSysReady := by
  unfold eraseBits
  dsimp only
  split
  · rw [isSysReady_setInfoMap]
    rfl
  · rw [isSysReady_setInfoMap]
    rfl

theorem isSysReady_applyEfficiencyResourcesInner (callbackInfo : ResourceCallbackInfo)
    (resourceInfo : EfficiencyResourceInfo) :
    (self.applyEfficiencyResourcesInner env callbackInfo resourceInfo).isSysReady =
      self.isSysReady := by
  have posted (mapKey : Int) : (self.postTimeOut env mapKey resourceInfo).isSysReady =
      self.isSysReady := by
    unfold postTimeOut
    split
    · rfl
    · rfl
  unfold applyEfficiencyResourcesInner
  dsimp only
  split
  · rw [isSysReady_refreshResourceRecord, isSysReady_setInfoMap, posted]
  · rw [isSysReady_refreshResourceRecord, isSysReady_setInfoMap]
    exact posted _

@[simp]
theorem isSysReady_removeTargetResourceRecord (mapKey : Int) (callbackInfo : ResourceCallbackInfo) :
    (self.removeTargetResourceRecord isProcess mapKey callbackInfo).isSysReady =
      self.isSysReady := by
  unfold removeTargetResourceRecord
  dsimp only
  split
  · rfl
  split
  · rfl
  · exact isSysReady_eraseBits _ _ _ _ _ _

@[simp]
theorem isSysReady_removeRelativeProcessRecord (uid : Int) (resourceNumber : ResourceNumber) :
    (self.removeRelativeProcessRecord env uid resourceNumber).isSysReady = self.isSysReady := by
  unfold removeRelativeProcessRecord
  generalize KeyedMap.vals self.procResourceApplyMap = records
  induction records generalizing self with
  | nil => rfl
  | cons record rest ih =>
      rw [List.foldl_cons, ih]
      unfold postRelativeReset
      split
      · rfl
      · rfl

theorem isSysReady_runTask (task : HandlerTask) :
    (self.runTask env task).isSysReady = self.isSysReady := by
  cases task with
  | applyEfficiencyResourcesInner callbackInfo resourceInfo =>
      exact isSysReady_applyEfficiencyResourcesInner self env callbackInfo resourceInfo
  | resetEfficiencyResourcesInner callbackInfo isProcess =>
      show (self.resetEfficiencyResourcesInner env callbackInfo isProcess).isSysReady = _
      unfold resetEfficiencyResourcesInner
      cases isProcess with
      | true => simp
      | false => simp
  | resetTimeOutResource mapKey isProcess =>
      show (self.resetTimeOutResource env mapKey isProcess).isSysReady = _
      unfold resetTimeOutResource
      split
      · rfl
      dsimp only
      split
      · rfl
      · exact isSysReady_eraseBits _ _ _ _ _ _

theorem isSysReady_applyResourceForPkgAndProc (uid pid : Int) (bundleName : String)
    (resourceInfo : EfficiencyResourceInfo) :
    (self.applyResourceForPkgAndProc env uid pid bundleName resourceInfo).isSysReady =
      self.isSysReady := by
  have sent (info : EfficiencyResourceInfo) (mgr : BgEfficiencyResourcesMgr) :
      (mgr.sendResourceApplyTask env uid pid bundleName info).isSysReady = mgr.isSysReady := by
    unfold sendResourceApplyTask
    dsimp only
    split
    · rfl
    · rfl
  unfold applyResourceForPkgAndProc
  split
  · exact sent resourceInfo self
  dsimp only
  split
  · rw [sent]
    split
    · exact sent _ self
    · rfl
  · split
    · exact sent _ self
    · rfl

theorem isSysReady_applyEfficiencyResources (uid pid : Int)
    (resourceInfo : EfficiencyResourceInfo) :
    (self.applyEfficiencyResources env uid pid resourceInfo).2.isSysReady = self.isSysReady := by
  unfold applyEfficiencyResources
  split
  · rfl
  split
  · rfl
  split
  · rfl
  dsimp only
  split
  · rfl
  split
  · rfl
  split
  · rfl
  split
  · rfl
  · exact isSysReady_applyResourceForPkgAndProc self env uid pid _ _

theorem isSysReady_shellDump (dumpOption : DumpOption) :
    (self.shellDump env dumpOption).isSysReady = self.isSysReady := by
  have cleared (isProcess : Bool) (mgr : BgEfficiencyResourcesMgr) :
      (mgr.dumpResetMap isProcess).isSysReady = mgr.isSysReady := by
    unfold dumpResetMap
    rw [isSysReady_setInfoMap]
    generalize KeyedMap.vals (mgr.infoMap isProcess) = records
    induction records generalizing mgr with
    | nil => rfl
    | cons record rest ih => exact ih (announceReset isProcess mgr record)
  have reset (isProcess : Bool) (mapKey : Int) (number : ResourceNumber) :
      (self.dumpResetOne isProcess mapKey number).isSysReady = self.isSysReady := by
    unfold dumpResetOne
    split
    · rfl
    · exact isSysReady_removeTargetResourceRecord _ _ _ _
  unfold shellDump
  split
  · rfl
  rw [isSysReady_refreshResourceRecord]
  cases dumpOption with
  | resetAll => exact (cleared true _).trans (cleared false self)
  | other => rfl
  | reset isProcess target =>
      cases target with
      | none => rfl
      | some pair => exact reset isProcess pair.1 pair.2

theorem isSysReady_resourceStep (op : ResourceOp) :
    (self.resourceStep (env, op)).isSysReady = self.isSysReady := by
  cases op with
  | applyEfficiencyResources uid pid resourceInfo =>
      exact isSysReady_applyEfficiencyResources self env uid pid resourceInfo
  | resetAllEfficiencyResources uid pid =>
      show (self.resetAllEfficiencyResources env uid pid).2.isSysReady = _
      unfold resetAllEfficiencyResources postTask
      grind
  | removeAppRecord uid bundleName resetAll =>
      show (self.removeAppRecord env uid bundleName resetAll).2.isSysReady = _
      unfold removeAppRecord
      split
      · rfl
      · rfl
  | removeProcessRecord uid pid bundleName =>
      show (self.removeProcessRecord env uid pid bundleName).2.isSysReady = _
      unfold removeProcessRecord
      split
      · rfl
      · rfl
  | shellDump dumpOption => exact isSysReady_shellDump self env dumpOption
  | runPending index =>
      unfold resourceStep
      dsimp only
      split
      · rfl
      · exact isSysReady_runTask _ env _

end

end BgTaskMgr.Efficiency.BgEfficiencyResourcesMgr
