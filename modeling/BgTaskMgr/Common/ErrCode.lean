import Mathlib.Algebra.Group.Int.Defs
import Mathlib.Algebra.Group.Nat.Defs
import Mathlib.Data.Int.Order.Basic

/-!
# Result codes and machine integers

The result codes the three managers return, under the names of
`bgtaskmgr_inner_errors.h`, and the 32-bit conversion of the source's
`static_cast<int32_t>`.
-/

set_option autoImplicit false

namespace BgTaskMgr

/-- `ErrCode`, restricted to the values a modelled function returns. -/
inductive ErrCode where
  | ok
  | permissionDenied
  | notSystemApp
  | invalidParam
  | noMemory
  | sysNotReady
  | objectExists
  | objectNotExist
  | keepingTaskVerifyErr
  | invalidBgmode
  | invalidUid
  | continuousModeOrSubmodeIsEmpty
  | continuousModeOrSubmodeLengthMismatch
  | continuousModeOrSubmodeCrossBorder
  | continuousModeOrSubmodeTypeMismatch
  | continuousNotUpdateByOldInterface
  | continuousTaskidInvalid
  | continuousDataTransferNotMergeNotification
  | continuousSpecialScenarioProcessingNotMergeNotification
  | continuousNotMergeNotificationNotExist
  | continuousNotMergeCombinedFalse
  | continuousNotUpdateBecauseMerge
  | continuousNotMergeCurrenttaskCombinedFalse
  | continuousUpdateFailSameModeAndMerged
  | continuousSystemAppNotSupportAcl
  | continuousAppNotHaveBgmodePermissionSystem
  | continuousNotApplyMaxTask
  | continuousDataTransferNotUpdate
  | continuousNotApplyOnbackground
  | specialScenarioProcessingOnlyAllowOneApplication
  | specialScenarioProcessingConflictsWithOtherTask
  | getAppIndexFail
  | appDetectedMaliciousBehavior
  | specialScenarioProcessingEmpty
  | continuousCallbackNullOrTypeErr
  | continuousCallbackExists
  | maliciousContinuoustask
  | specialScenarioProcessingNotsupportDevice
  | continuousBannerNotificationExistOrAuthorized
  | continuousNotApplyAuthRecord
  | continuousAuthNotPermitted
  | continuousNotDeploySpecialScenarioProcessing
  | continuousBackgroundTaskParamInvalid
  | continuousBannerNotificationFail
  | continuousApiVersionFail
  | continuousTriggerCallback
  | continuousNotApplyPreloadState
  | notificationVerifyFailed
  | notificationErr
  | checkTaskParam
  | continuousUpdateNotificationFail
  | continuousNotDataTransfer
  | continuousProgressInfoInvalid
  | createFileErr
  | getActualFileErr
  | openFileErr
  | invalidPidOrUid
  | invalidBundleName
  | invalidRequestId
  | invalidCallback
  | callbackExists
  | callbackNotExist
  | notInPresetTime
  | exceedsThreshold
  | timeInsufficient
  | norequestTask
  | foreground
  | transientSysNotReady
  | resourcesExceedsMax
  | resourcesInvalidPidOrUid
  | serviceInnerError
  | invalidProcessName
  | efficiencyResourcesCpuLevelInvalid
  | efficiencyResourcesCpuLevelNotAllowApply
  | efficiencyResourcesInvalidBundleInfo
  | efficiencyResourcesCpuLevelAppSignaturesInvalid
  | efficiencyResourcesCpuLevelTooLarge
  | resourcesSysNotReady
  | bgmodeNullOrTypeErr
  | dataStorageErr
  | invalidOperation
  deriving DecidableEq, Repr

/-- Where the writing of a file stops: it is created when there is none, its real path is
taken, and it is opened. -/
inductive SaveFailure where
  | createFile
  | getActualFile
  | openFile
  deriving DecidableEq, Repr

def SaveFailure.code : SaveFailure → ErrCode
  | .createFile => .createFileErr
  | .getActualFile => .getActualFileErr
  | .openFile => .openFileErr

@[simp] theorem SaveFailure.code_ne_ok (failure : SaveFailure) : failure.code ≠ .ok := by
  cases failure <;> simp [code]

/-- `static_cast<int32_t>`. -/
def toInt32 (x : Int) : Int := x.bmod (2 ^ 32)

def intMax : Int := 2 ^ 31 - 1

end BgTaskMgr
