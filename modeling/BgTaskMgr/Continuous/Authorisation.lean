import BgTaskMgr.Continuous.Asides

/-!
# Authorisation of special scenarios

An app asks the user to authorise its special scenario tasks, by a banner or by a dialog.
The records of the answers are kept in a file beside that of the tasks; a callback waits for
the answer to each request.
-/

set_option autoImplicit false

namespace BgTaskMgr.Continuous

open BgContinuousTaskMgr

namespace UserAuthResult

def notSupported : Int := 0
def denied : Int := 2

/-- `UserAuthResult::END`. -/
def bound : Int := 5

end UserAuthResult

def apiVersionRequestSpecialUserAuth : Int := 22

def apiVersionRequestSpecialUserAuthByDialog : Int := 26

def apiVersionCheckSpecialUserAuthResult : Int := 26

/-- The sub-modes that `GetSubModeTypeMatching` maps to `MODE_SPECIAL_SCENARIO_PROCESSING`. -/
def specialScenarioSubModes : List Nat := [9, 10, 11]

def createBannerNotificationLabel (bundleName : String) (userId appIndex : Int) : String :=
  "bgbanner_" ++ (toString userId ++ "_" ++ (toString appIndex ++ "_" ++ bundleName))

structure AuthEnv extends Env where
  /-- `FormatBannerNotificationContext` for the name of an app, when there is a text. -/
  bannerContent : String → Option String := fun _ => none
  /-- `bannerNotificationBtn_` has the names of both buttons. -/
  bannerButtons : Bool := true
  /-- `SetActionButton` succeeds for both buttons. -/
  bannerActions : Bool := true

/-- The manager with the callbacks that wait for an answer. -/
structure AuthMgr where
  mgr : BgContinuousTaskMgr := {}
  /-- The remote object of each callback. -/
  expiredCallbackMap : KeyedMap String Nat := ∅
  /-- The calls of `OnExpiredAuth`, oldest first. -/
  answers : List (Nat × Int) := []

structure BackgroundTaskStateInfo where
  userId : Int := -1
  bundleName : String := ""
  appIndex : Int := -1
  userAuthResult : Int := -1
  deriving DecidableEq, Repr

/-- What `GetAuthRecord` makes of a backup: nothing is read, the file is written only in
part, its text is no object, or it is one of records. -/
inductive Backup where
  | unreadable
  | torn
  | malformed
  | records (root : KeyedMap String BannerNotificationRecord)

namespace AuthMgr

/-! ## Elementary updates -/

def setMgr (mgr : BgContinuousTaskMgr) (self : AuthMgr) : AuthMgr := { self with mgr := mgr }

def setRecords (records : KeyedMap String BannerNotificationRecord) (self : AuthMgr) : AuthMgr :=
  self.setMgr { self.mgr with bannerNotificationRecord := records }

def refreshAuthRecord (env : AuthEnv) (self : AuthMgr) : ErrCode × AuthMgr :=
  (if env.saveOk then .ok else env.saveFailure.code,
    self.setMgr (self.mgr.refreshAuthRecord env.toEnv))

def onExpiredAuth (callback : Nat) (authResult : Int) (self : AuthMgr) : AuthMgr :=
  { self with answers := self.answers ++ [(callback, authResult)] }

def triggerCallback (key : String) (authResult : Int) (self : AuthMgr) : AuthMgr :=
  match self.expiredCallbackMap.lookup key with
  | none => self
  | some callback =>
      let answered := self.onExpiredAuth callback authResult
      { answered with expiredCallbackMap := self.expiredCallbackMap.erase key }

/-! ## Requests -/

def checkSpecialModePermission (env : AuthEnv) (taskParam : ContinuousTaskParam) : ErrCode :=
  let specialModeSize := taskParam.bgModeIds.count BackgroundMode.specialScenarioProcessing
  if taskParam.bgModeIds = [] ∨ taskParam.bgSubModeIds = [] then .continuousModeOrSubmodeIsEmpty
  else if specialModeSize = 0 then .specialScenarioProcessingEmpty
  else if specialModeSize > 1 then .specialScenarioProcessingOnlyAllowOneApplication
  else if taskParam.bgModeIds.length > 1 then .specialScenarioProcessingConflictsWithOtherTask
  else if taskParam.bgSubModeIds.any (fun subMode => subMode ∉ specialScenarioSubModes) then
    .continuousModeOrSubmodeTypeMismatch
  else if !env.bgmodePermission then .permissionDenied
  else .ok

/-- `CheckApplySpecial` without a check of permissions: an ability declares the mode. -/
def checkApplySpecial (env : AuthEnv) (bundleName : String) (userId : Int) : Bool :=
  match env.bundleInfo bundleName userId with
  | none => false
  | some abilities => abilities.any (fun ability =>
      ability.2 &&& modeBit BackgroundMode.specialScenarioProcessing != 0#32)

def callerRecord (env : AuthEnv) (callingUid : Int) (taskParam : ContinuousTaskParam) :
    ContinuousTaskRecord :=
  initRecordParam env.toEnv taskParam (env.osAccountLocalId callingUid)
    (ContinuousTaskRecord.make (env.clientBundleName callingUid) "" callingUid env.callingPid
      taskParam.bgModeId true taskParam.bgModeIds (-1))

/-- `CheckAuthParam`; the record gets the name of the app for a banner. -/
def checkAuthParam (env : AuthEnv) (record : ContinuousTaskRecord) (callback : Nat)
    (apiVersion : Int) (self : AuthMgr) : ErrCode × ContinuousTaskRecord × AuthMgr :=
  if (KeyedMap.vals self.expiredCallbackMap).contains callback then
    (.continuousCallbackExists, record, self)
  else
    match findAuthRecord record.bundleName record.userId record.appIndex
        self.mgr.bannerNotificationRecord with
    | some found =>
        let authResult := found.2.authResult
        if authResult = UserAuthResult.notSupported then
          (.continuousNotDeploySpecialScenarioProcessing, record, self)
        else if authResult = UserAuthResult.grantedOnce ∨
            authResult = UserAuthResult.grantedAlways ∨
            (apiVersion = apiVersionRequestSpecialUserAuthByDialog ∧
              authResult = UserAuthResult.denied) then
          (.continuousTriggerCallback, record, self.onExpiredAuth callback authResult)
        else (.continuousBannerNotificationExistOrAuthorized, record, self)
    | none =>
        if apiVersion = apiVersionRequestSpecialUserAuth then
          let appName := env.mainAbilityLabel record.bundleName record.userId
          if appName = "" then (.continuousBannerNotificationFail, record, self)
          else (.ok, { record with appName := appName }, self)
        else (.ok, record, self)

def requestedAuth (record : ContinuousTaskRecord) : BannerNotificationRecord :=
  { bundleName := record.bundleName
    uid := record.uid
    userId := record.userId
    appIndex := record.appIndex }

def publishBannerNotification (env : AuthEnv) (banner : BannerNotificationRecord)
    (self : AuthMgr) : ErrCode × BannerNotificationRecord × AuthMgr :=
  if !env.bannerButtons then (.notificationErr, banner, self)
  else
    let taken := self.setMgr (self.mgr.setTools self.mgr.tools.publishBannerNotification)
    let label := createBannerNotificationLabel banner.bundleName banner.userId banner.appIndex
    let id := taken.mgr.tools.notificationIdIndex
    if !env.bannerActions || !env.publishOk label id then (.notificationErr, banner, taken)
    else (.ok, { banner with notificationId := id, notificationLabel := label }, taken)

def registerRequest (env : AuthEnv) (banner : BannerNotificationRecord) (callback : Nat)
    (self : AuthMgr) : ErrCode × AuthMgr :=
  let key := createBannerNotificationLabel banner.bundleName banner.userId banner.appIndex
  let registered := { self with expiredCallbackMap := self.expiredCallbackMap.insert key callback }
  (registered.setRecords (KeyedMap.emplace key banner
    registered.mgr.bannerNotificationRecord)).refreshAuthRecord env

/-- `RequestAuthFromUserInner`, without the notification id it hands out. -/
def requestAuthFromUserInner (env : AuthEnv) (record : ContinuousTaskRecord) (callback : Nat)
    (apiVersion : Int) (self : AuthMgr) : ErrCode × AuthMgr :=
  let checked := self.checkAuthParam env record callback apiVersion
  if checked.1 ≠ .ok then (checked.1, checked.2.2)
  else
    let record := checked.2.1
    let banner := requestedAuth record
    if apiVersion = apiVersionRequestSpecialUserAuthByDialog then
      if !checkApplySpecial env record.bundleName record.userId then
        (.continuousNotDeploySpecialScenarioProcessing,
          checked.2.2.onExpiredAuth callback UserAuthResult.notSupported)
      else checked.2.2.registerRequest env banner callback
    else
      match env.bannerContent record.appName with
      | none => (.continuousBannerNotificationFail, checked.2.2)
      | some _ =>
          let published := checked.2.2.publishBannerNotification env
            { banner with appName := record.appName }
          if published.1 ≠ .ok then (.continuousBannerNotificationFail, published.2.2)
          else published.2.2.registerRequest env published.2.1 callback

def requestAuthFromUser (env : AuthEnv) (callingUid : Int)
    (taskParam : Option ContinuousTaskParam) (requestAuthApiVersion : Int)
    (callback : Option Nat) (self : AuthMgr) : ErrCode × AuthMgr :=
  if !self.mgr.isSysReady then (.sysNotReady, self)
  else
    match taskParam, callback with
    | none, _ => (.checkTaskParam, self)
    | some _, none => (.continuousCallbackNullOrTypeErr, self)
    | some taskParam, some callback =>
        let ret := checkSpecialModePermission env taskParam
        let record := callerRecord env callingUid taskParam
        let exempted := env.isSpecialExemptedQuatoApp record.bundleName
        if ret ≠ .ok then (ret, self)
        else if !exempted && !env.specialScenarioACLPermission env.callingTokenId then
          (.continuousAppNotHaveBgmodePermissionSystem, self)
        else if !exempted && record.isSystem then (.continuousSystemAppNotSupportAcl, self)
        else if !env.supportAuth then (.specialScenarioProcessingNotsupportDevice, self)
        else self.requestAuthFromUserInner env record callback requestAuthApiVersion

/-! ## Queries -/

def checkSpecialScenarioAuthInner (env : AuthEnv) (bundleName : String) (userId appIndex : Int)
    (apiVersion : Int) (self : AuthMgr) : ErrCode × Option Int :=
  if apiVersion = apiVersionCheckSpecialUserAuthResult ∧
      checkApplySpecial env bundleName userId = false then
    (.ok, some UserAuthResult.notSupported)
  else
    match findAuthRecord bundleName userId appIndex self.mgr.bannerNotificationRecord with
    | none =>
        if apiVersion = apiVersionCheckSpecialUserAuthResult then
          (.ok, some UserAuthResult.notDetermined)
        else (.continuousNotApplyAuthRecord, none)
    | some found => (.ok, some found.2.authResult)

def checkSpecialScenarioAuth (env : AuthEnv) (callingUid appIndex apiVersion : Int)
    (self : AuthMgr) : ErrCode × Option Int :=
  let bundleName := env.clientBundleName callingUid
  let exempted := env.isSpecialExemptedQuatoApp bundleName
  if !self.mgr.isSysReady then (.sysNotReady, none)
  else if !env.bgmodePermission then (.permissionDenied, none)
  else if !exempted && !env.specialScenarioACLPermission env.callingTokenId then
    (.continuousAppNotHaveBgmodePermissionSystem, none)
  else if !exempted && env.isSystemApp env.callingFullTokenId then
    (.continuousSystemAppNotSupportAcl, none)
  else if !env.supportAuth then (.specialScenarioProcessingNotsupportDevice, none)
  else self.checkSpecialScenarioAuthInner env bundleName (env.osAccountLocalId callingUid) appIndex
    apiVersion

/-! ## Decisions -/

def setBackgroundTaskStateInner (env : AuthEnv) (taskParam : BackgroundTaskStateInfo)
    (self : AuthMgr) : ErrCode × AuthMgr :=
  let records := self.mgr.bannerNotificationRecord
  let updated :=
    match findAuthRecord taskParam.bundleName taskParam.userId taskParam.appIndex records with
    | none =>
        KeyedMap.emplace
          (createBannerNotificationLabel taskParam.bundleName taskParam.userId taskParam.appIndex)
          { bundleName := taskParam.bundleName
            userId := taskParam.userId
            appIndex := taskParam.appIndex
            authResult := taskParam.userAuthResult } records
    | some found =>
        KeyedMap.adjust found.1
          (fun record => { record with authResult := taskParam.userAuthResult }) records
  (.ok, ((self.setRecords updated).refreshAuthRecord env).2)

def setBackgroundTaskState (env : AuthEnv) (taskParam : Option BackgroundTaskStateInfo)
    (self : AuthMgr) : ErrCode × AuthMgr :=
  if !self.mgr.isSysReady then (.sysNotReady, self)
  else
    match taskParam with
    | none => (.checkTaskParam, self)
    | some taskParam =>
        if taskParam.userId = -1 ∨ taskParam.appIndex = -1 ∨ taskParam.bundleName = "" ∨
            taskParam.userAuthResult ≥ UserAuthResult.bound ∨
            taskParam.userAuthResult < UserAuthResult.notSupported then
          (.continuousBackgroundTaskParamInvalid, self)
        else self.setBackgroundTaskStateInner env taskParam

def onPermissionDialogButtonClick (env : AuthEnv) (authResult bundleUid : Int)
    (bundleName : String) (appIndex : Int) (self : AuthMgr) : AuthMgr :=
  let key := createBannerNotificationLabel bundleName (env.osAccountLocalId bundleUid) appIndex
  if !self.mgr.isSysReady then self
  else if authResult < UserAuthResult.denied ∨ authResult ≥ UserAuthResult.bound then self
  else if (self.mgr.bannerNotificationRecord.lookup key).isNone then self
  else
    ((self.setRecords (KeyedMap.adjust key (fun record => { record with authResult := authResult })
      self.mgr.bannerNotificationRecord)).refreshAuthRecord env).2.triggerCallback key authResult

def bannerButtonResult (buttonType : Int) : Option Int :=
  if buttonType = 0 then some UserAuthResult.grantedOnce
  else if buttonType = 1 then some UserAuthResult.grantedAlways
  else none

/-- `OnBannerNotificationActionButtonClick`: the callback is looked up under the label of the
record. -/
def onBannerNotificationActionButtonClick (env : AuthEnv) (buttonType : Int) (label : String)
    (self : AuthMgr) : AuthMgr :=
  if !self.mgr.isSysReady then self
  else
    match self.mgr.bannerNotificationRecord.lookup label, bannerButtonResult buttonType with
    | some record, some authResult =>
        let refreshed := ((self.setRecords (KeyedMap.adjust label
          (fun record => { record with authResult := authResult })
            self.mgr.bannerNotificationRecord)).refreshAuthRecord env).2
        let cancelled :=
          if record.notificationId ≠ -1 ∧ record.notificationLabel ≠ "" then
            refreshed.setMgr (refreshed.mgr.cancelPair env.toEnv
              (record.notificationLabel, record.notificationId))
          else refreshed
        cancelled.triggerCallback record.notificationLabel authResult
    | _, _ => self

/-! ## Ends -/

def removeAuthRecordInner (env : AuthEnv) (record : ContinuousTaskRecord) (self : AuthMgr) :
    ErrCode × AuthMgr :=
  let key := createBannerNotificationLabel record.bundleName record.userId record.appIndex
  let removed :=
    if (self.mgr.bannerNotificationRecord.lookup key).isSome then
      ((self.setRecords (self.mgr.bannerNotificationRecord.erase key)).refreshAuthRecord env).2
    else self
  (.ok, { removed with expiredCallbackMap := self.expiredCallbackMap.erase key })

def removeAuthRecord (env : AuthEnv) (callingUid : Int) (taskParam : Option ContinuousTaskParam)
    (self : AuthMgr) : ErrCode × AuthMgr :=
  if !self.mgr.isSysReady then (.sysNotReady, self)
  else
    match taskParam with
    | none => (.checkTaskParam, self)
    | some taskParam => self.removeAuthRecordInner env (callerRecord env callingUid taskParam)

def findCallback (remote : Nat) (self : AuthMgr) : Option String :=
  (self.expiredCallbackMap.entries.find? (fun entry => entry.2 == remote)).map
    (fun entry => entry.1)

/-- `HandleAuthExpiredCallbackDeath`: the record under the key of the callback goes with it. -/
def handleAuthExpiredCallbackDeath (env : AuthEnv) (remote : Nat) (self : AuthMgr) : AuthMgr :=
  if !self.mgr.isSysReady then self
  else
    match self.findCallback remote with
    | none => self
    | some key =>
        let erased := { self with expiredCallbackMap := self.expiredCallbackMap.erase key }
        match erased.mgr.bannerNotificationRecord.lookup key with
        | none => erased
        | some record =>
            let cancelled :=
              if record.notificationId ≠ -1 then
                erased.setMgr (erased.mgr.cancelPair env.toEnv (key, record.notificationId))
              else erased
            ((cancelled.setRecords
              (cancelled.mgr.bannerNotificationRecord.erase key)).refreshAuthRecord env).2

/-! ## Restoration from a backup -/

def setAuthFile (file : KeyedMap String BannerNotificationRecord) (self : AuthMgr) : AuthMgr :=
  self.setMgr { self.mgr with authFile := file }

/-- `OnRestore`: the file is replaced by the backup before the records are taken in from it
and the file is written again. -/
def onRestore (env : AuthEnv) (backup : Backup) (replyOk : Bool) (self : AuthMgr) :
    ErrCode × AuthMgr :=
  if !self.mgr.isSysReady then (.sysNotReady, self)
  else
    match backup with
    | .unreadable => (.invalidOperation, self)
    | .torn => (.invalidOperation, self.setAuthFile ∅)
    | .malformed =>
        (if replyOk then .dataStorageErr else .invalidOperation, self.setAuthFile ∅)
    | .records root =>
        let replaced := self.setAuthFile root
        if !replyOk then (.invalidOperation, replaced)
        else if !env.fileReadable then (.dataStorageErr, replaced)
        else
          (.ok, ((replaced.setMgr
            (replaced.mgr.restoreAuthRecord env.toEnv)).refreshAuthRecord env).2)

end AuthMgr

/-! ## Runs -/

inductive AuthOp where
  | service (op : ServiceOp)
  | requestAuthFromUser (callingUid : Int) (taskParam : Option ContinuousTaskParam)
      (requestAuthApiVersion : Int) (callback : Option Nat)
  | setBackgroundTaskState (taskParam : Option BackgroundTaskStateInfo)
  | onPermissionDialogButtonClick (authResult bundleUid : Int) (bundleName : String)
      (appIndex : Int)
  | onBannerNotificationActionButtonClick (buttonType : Int) (label : String)
  | removeAuthRecord (callingUid : Int) (taskParam : Option ContinuousTaskParam)
  | handleAuthExpiredCallbackDeath (remote : Nat)
  | onRestore (backup : Backup) (replyOk : Bool)
  /-- The unordered maps change their iteration order. -/
  | rehash (rank : String → Nat)

namespace AuthMgr

/-- A step of the service; a new process has no callbacks. -/
def serviceOp (env : AuthEnv) (op : ServiceOp) (self : AuthMgr) : AuthMgr :=
  { self with
    mgr := self.mgr.serviceStep (env.toEnv, op)
    expiredCallbackMap :=
      match op with
      | .restart => ∅
      | _ => self.expiredCallbackMap }

def rehash (rank : String → Nat) (self : AuthMgr) : AuthMgr :=
  let reordered := self.setRecords
    (KeyedMap.reorder rank self.mgr.bannerNotificationRecord)
  { reordered with expiredCallbackMap := KeyedMap.reorder rank self.expiredCallbackMap }

def authStep (self : AuthMgr) (label : AuthEnv × AuthOp) : AuthMgr :=
  let env := label.1
  match label.2 with
  | .service op => self.serviceOp env op
  | .requestAuthFromUser callingUid taskParam requestAuthApiVersion callback =>
      (self.requestAuthFromUser env callingUid taskParam requestAuthApiVersion callback).2
  | .setBackgroundTaskState taskParam => (self.setBackgroundTaskState env taskParam).2
  | .onPermissionDialogButtonClick authResult bundleUid bundleName appIndex =>
      self.onPermissionDialogButtonClick env authResult bundleUid bundleName appIndex
  | .onBannerNotificationActionButtonClick buttonType label =>
      self.onBannerNotificationActionButtonClick env buttonType label
  | .removeAuthRecord callingUid taskParam => (self.removeAuthRecord env callingUid taskParam).2
  | .handleAuthExpiredCallbackDeath remote => self.handleAuthExpiredCallbackDeath env remote
  | .onRestore backup replyOk => (self.onRestore env backup replyOk).2
  | .rehash rank => self.rehash rank

def installed (hash : String → Nat) : AuthMgr := { mgr := BgContinuousTaskMgr.installed hash }

end AuthMgr

end BgTaskMgr.Continuous
