import BgTaskMgr.Common.JsonValue
import BgTaskMgr.Continuous.AuthRegister

/-!
# Authorisations that move to another device

`OnBackup` hands over the record file of a device, and `OnRestore` reads it on another.  The
text of the file is that of a JSON object with one member for each record; what the new device
answers afterwards is said by the registers of both.
-/

set_option autoImplicit false

namespace BgTaskMgr.Continuous

open BgContinuousTaskMgr StepSystem

/-! ## Records as JSON -/

namespace BannerNotificationRecord

/-- `ParseToJsonStr`, before the dump. -/
def parseToJson (record : BannerNotificationRecord) : Json :=
  let root := Json.null
  let root := root.set "bundleName" (.string record.bundleName)
  let root := root.set "uid" (.integer record.uid)
  let root := root.set "notificationId" (.integer record.notificationId)
  let root := root.set "notificationLabel" (.string record.notificationLabel)
  let root := root.set "appName" (.string record.appName)
  let root := root.set "authResult" (.integer record.authResult)
  let root := root.set "userId" (.integer record.userId)
  root.set "appIndex" (.integer record.appIndex)

def requiredMembers : List String :=
  ["bundleName", "uid", "notificationId", "notificationLabel", "appName", "authResult", "userId",
    "appIndex"]

/-- `CheckRecordKey`: some member is not of its type. -/
def checkRecordKey (value : Json) : Bool :=
  !(value.member "bundleName").isString || !(value.member "uid").isInteger ||
    !(value.member "notificationId").isInteger || !(value.member "notificationLabel").isString ||
    !(value.member "appName").isString || !(value.member "authResult").isInteger ||
    !(value.member "userId").isInteger || !(value.member "appIndex").isInteger

def setRecordValue (value : Json) : BannerNotificationRecord where
  bundleName := (value.member "bundleName").toText
  uid := getInt32 (value.member "uid")
  notificationId := getInt32 (value.member "notificationId")
  notificationLabel := (value.member "notificationLabel").toText
  appName := (value.member "appName").toText
  authResult := getInt32 (value.member "authResult")
  userId := getInt32 (value.member "userId")
  appIndex := getInt32 (value.member "appIndex")

def parseFromJson (value : Json) : Option BannerNotificationRecord :=
  if value.isNull || !value.isObject || !checkJsonValue value requiredMembers then none
  else if checkRecordKey value then none
  else some (setRecordValue value)

structure InRange (record : BannerNotificationRecord) : Prop where
  userId : IsInt32 record.userId
  appIndex : IsInt32 record.appIndex
  authResult : IsInt32 record.authResult

def reread (record : BannerNotificationRecord) : BannerNotificationRecord :=
  { record with
    uid := toInt32 record.uid
    notificationId := toInt32 record.notificationId }

theorem checkJsonValue_parseToJson (record : BannerNotificationRecord) :
    checkJsonValue record.parseToJson requiredMembers = true := by
  simp [checkJsonValue, requiredMembers, parseToJson]

theorem checkRecordKey_parseToJson (record : BannerNotificationRecord) :
    checkRecordKey record.parseToJson = false := by
  simp [checkRecordKey, parseToJson, Json.isString, Json.isInteger]

theorem setRecordValue_parseToJson {record : BannerNotificationRecord} (range : record.InRange) :
    setRecordValue record.parseToJson = record.reread := by
  simp [setRecordValue, parseToJson, reread, Json.toText, getInt32_integer range.userId,
    getInt32_integer range.appIndex, getInt32_integer range.authResult]
  exact ⟨rfl, rfl⟩

theorem parseFromJson_parseToJson {record : BannerNotificationRecord} (range : record.InRange) :
    parseFromJson record.parseToJson = some record.reread := by
  unfold parseFromJson
  rw [checkJsonValue_parseToJson, checkRecordKey_parseToJson, setRecordValue_parseToJson range]
  rfl

end BannerNotificationRecord

/-! ## The text of the file -/

/-- How a JSON value is written as a text and a text is parsed; a text that is no JSON is
discarded. -/
structure JsonText where
  dump : Json → String
  parse : String → Option Json

namespace DataStorageHelper

def refreshAuthRecord (authRecord : KeyedMap String BannerNotificationRecord) : Json :=
  Json.ofMap id BannerNotificationRecord.parseToJson authRecord

def authRecordText (text : JsonText) (authRecord : KeyedMap String BannerNotificationRecord) :
    String :=
  text.dump (refreshAuthRecord authRecord) ++ "\n"

/-- `RestoreAuthRecord` up to the merge: the records of a text that is one of an object. -/
def authRecords (text : JsonText) (data : String) :
    Option (KeyedMap String BannerNotificationRecord) :=
  match text.parse data with
  | none => none
  | some root =>
      if root.isNull || !root.isObject then none
      else some (Json.readMap id BannerNotificationRecord.parseFromJson root ∅)

/-! ## Handing over the file -/

def extensionSuccessCode : Int := 0
def extensionErrorCode : Int := 13500099

def maxAuthRecordSize : Int := 400 * 1000

def setReplyCode (replyCode : Int) : Json :=
  let errorInfo := Json.null
  let errorInfo := errorInfo.set "type" (.string "AuthRecord")
  let errorInfo := errorInfo.set "errorCode" (.string (toString replyCode))
  let errorInfo := errorInfo.set "errorInfo" (.string "")
  Json.null.set "resultInfo" (.array [errorInfo])

structure BackupEnv where
  fopen : Bool := true
  writeFileDescriptor : Bool := true
  writeString : Bool := true
  fclose : Bool := true

/-- `OnBackup` of a file, where there is one: the descriptor stands for what it opens. -/
def onBackup (env : BackupEnv) (authRecordFile : Option String) :
    ErrCode × Option String × Json :=
  let file := if env.fopen then authRecordFile else none
  let replyCode := setReplyCode (if file.isNone then extensionErrorCode else extensionSuccessCode)
  if !env.writeFileDescriptor || !env.writeString then (.invalidOperation, none, replyCode)
  else
    let closed := file.isSome && env.fclose
    (if closed then .ok else .invalidOperation, file, replyCode)

structure RestoreEnv where
  /-- What the descriptor of the parcel opens. -/
  srcFd : Option String
  /-- The file of this device has a path. -/
  fileExists : Bool := true
  read : Bool := true
  fopen : Bool := true
  /-- The whole text is written, and the file closed. -/
  fwrite : Bool := true

/-- `GetAuthRecord`, and what is read again from the file that it writes. -/
def getAuthRecord (text : JsonText) (env : RestoreEnv) : Backup :=
  match env.srcFd with
  | none => .unreadable
  | some authRecordStr =>
      if maxAuthRecordSize < toInt32 authRecordStr.utf8ByteSize then .unreadable
      else if !env.read then .unreadable
      else if !env.fileExists then .unreadable
      else if !env.fopen then .unreadable
      else if !env.fwrite then .torn
      else
        match authRecords text authRecordStr with
        | none => .malformed
        | some root => .records root

end DataStorageHelper

def AuthMgr.onBackup (env : DataStorageHelper.BackupEnv) (authRecordFile : Option String)
    (self : AuthMgr) : ErrCode × Option String :=
  if !self.mgr.isSysReady then (.sysNotReady, none)
  else
    let answer := DataStorageHelper.onBackup env authRecordFile
    (answer.1, answer.2.1)

/-! ## What a file holds -/

section Text

open DataStorageHelper

variable {text : JsonText} {records : KeyedMap String BannerNotificationRecord}

theorem lookup_authRecords
    (parsed : text.parse (authRecordText text records) = some (refreshAuthRecord records))
    (ranges : ∀ key record, records.lookup key = some record → record.InRange)
    {root : KeyedMap String BannerNotificationRecord}
    (read : authRecords text (authRecordText text records) = some root) (key : String) :
    root.lookup key = (records.lookup key).map BannerNotificationRecord.reread := by
  unfold authRecords at read
  rw [parsed] at read
  dsimp only at read
  split at read
  · exact absurd read (by simp)
  · obtain rfl := Option.some.inj read
    apply Json.lookup_readMap_ofMap
    · intro key stored
      rfl
    · intro key record found
      exact BannerNotificationRecord.parseFromJson_parseToJson (ranges key record found)

theorem getAuthRecord_records {env : RestoreEnv} {root : KeyedMap String BannerNotificationRecord}
    (taken : getAuthRecord text env = .records root) :
    ∃ authRecordStr, env.srcFd = some authRecordStr ∧
      authRecords text authRecordStr = some root := by
  unfold getAuthRecord at taken
  cases received : env.srcFd with
  | none => simp [received] at taken
  | some authRecordStr =>
      refine ⟨authRecordStr, rfl, ?_⟩
      rw [received] at taken
      dsimp only at taken
      -- A text that is too long or does not reach the file of this device is given up.
      split at taken
      · cases taken
      split at taken
      · cases taken
      split at taken
      · cases taken
      split at taken
      · cases taken
      split at taken
      · cases taken
      cases read : authRecords text authRecordStr with
      | none =>
          rw [read] at taken
          cases taken
      | some records =>
          rw [read] at taken
          exact congrArg some (Backup.records.inj taken)

theorem file_of_onBackup {env : BackupEnv} {file : Option String}
    (ok : (onBackup env file).1 = .ok) :
    ∃ contents, file = some contents ∧ (onBackup env file).2.1 = some contents := by
  obtain ⟨fopen, writeFileDescriptor, writeString, fclose⟩ := env
  unfold onBackup at ok ⊢
  dsimp only at ok ⊢
  split at ok
  · exact absurd ok (by simp)
  · rename_i written
    rw [if_neg written]
    cases fopen with
    | false => exact absurd ok (by simp)
    | true =>
        cases file with
        | none => exact absurd ok (by simp)
        | some contents => exact ⟨contents, rfl, rfl⟩

theorem AuthMgr.onBackup_ok {env : BackupEnv} {file : Option String} {s : AuthMgr}
    (ok : (s.onBackup env file).1 = .ok) :
    ∃ contents, file = some contents ∧ (s.onBackup env file).2 = some contents := by
  unfold AuthMgr.onBackup at ok ⊢
  split at ok
  · exact absurd ok (by simp)
  · rename_i running
    rw [if_neg running]
    exact file_of_onBackup ok

end Text

/-! ## What a register brings into the file -/

def AuthApp.InRange (app : AuthApp) : Prop := IsInt32 app.userId ∧ IsInt32 app.appIndex

def Typed : AuthEnv × AuthOp → Prop
  | (env, .requestAuthFromUser callingUid (some taskParam) _ _) =>
      IsInt32 (env.osAccountLocalId callingUid) ∧ IsInt32 taskParam.appIndex
  | (_, .setBackgroundTaskState (some taskParam)) =>
      IsInt32 taskParam.userId ∧ IsInt32 taskParam.appIndex ∧ IsInt32 taskParam.userAuthResult
  | (_, .onRestore (.records root) _) =>
      ∀ key record, root.lookup key = some record → record.InRange
  | _ => True

section Ranges

variable {s : AuthMgr} {app : AuthApp}

def HeldInRange (app : AuthApp) (held : Option Int) : Prop :=
  ∀ authResult ∈ held, app.InRange ∧ IsInt32 authResult

section Events

variable {held : Option Int} (range : HeldInRange app held)

include range

theorem HeldInRange.change {authResult : Int} (fits : IsInt32 authResult) :
    HeldInRange app ((Register.Event.change authResult).apply held) := by
  intro value there
  obtain ⟨former, was, rfl⟩ := Option.map_eq_some_iff.mp there
  exact ⟨(range former was).1, fits⟩

theorem HeldInRange.drop (chosen : Int → Bool) :
    HeldInRange app ((Register.Event.drop chosen).apply held) :=
  fun value there => range value (Option.filter_eq_some_iff.mp there).1

theorem HeldInRange.takeIn {saved : Option Int} (fits : HeldInRange app saved) :
    HeldInRange app ((Register.Event.takeIn saved).apply held) := by
  intro value there
  rcases Option.or_eq_some_iff.mp there with old | ⟨-, new⟩
  · exact range value old
  · exact fits value new

theorem HeldInRange.keepUnless {p : Prop} [Decidable p] {event : Register.Event Int}
    (fits : p → HeldInRange app (event.apply held)) :
    HeldInRange app ((if p then event else .keep).apply held) := by
  split
  · rename_i holds
    exact fits holds
  · exact range

theorem heldInRange_event {label : AuthEnv × AuthOp} (typed : Typed label)
    (lawful : Lawful s label) : HeldInRange app ((authEvent app s label).apply held) := by
  obtain ⟨env, op⟩ := label
  cases op with
  | service op =>
      cases op with
      | task op => exact range.drop _
      | initRequiredResourceInfo => exact range
      | restart => exact range
  | requestAuthFromUser callingUid taskParam requestAuthApiVersion callback =>
      cases taskParam with
      | none => exact range
      | some taskParam =>
          refine range.keepUnless fun ⟨_, isApp⟩ => range.takeIn ?_
          rintro _ ⟨⟩
          subst isApp
          exact ⟨typed, by decide⟩
  | setBackgroundTaskState taskParam =>
      cases taskParam with
      | none => exact range
      | some taskParam =>
          refine range.keepUnless fun ⟨_, isApp⟩ => ?_
          rintro _ ⟨⟩
          subst isApp
          exact ⟨⟨typed.1, typed.2.1⟩, typed.2.2⟩
  | onPermissionDialogButtonClick authResult bundleUid bundleName appIndex =>
      refine range.keepUnless fun ⟨_, least, most, _⟩ => range.change ?_
      simp only [UserAuthResult.denied, UserAuthResult.bound] at least most
      constructor
      · omega
      · omega
  | onBannerNotificationActionButtonClick buttonType label =>
      refine range.keepUnless fun _ => ?_
      unfold authEvent.pressed AuthMgr.bannerButtonResult
      by_cases once : buttonType = 0
      · rw [if_pos once]
        exact range.change (by decide)
      by_cases always : buttonType = 1
      · rw [if_neg once, if_pos always]
        exact range.change (by decide)
      · rw [if_neg once, if_neg always]
        exact range
  | removeAuthRecord callingUid taskParam =>
      cases taskParam with
      | none => exact range
      | some taskParam => exact range.keepUnless fun _ => range.drop _
  | handleAuthExpiredCallbackDeath remote => exact range.keepUnless fun _ => range.drop _
  | onRestore backup replyOk =>
      cases backup with
      | unreadable => exact range
      | torn => exact range
      | malformed => exact range
      | records root =>
          cases replyOk with
          | false => exact range
          | true =>
              refine range.keepUnless fun _ => range.takeIn ?_
              intro authResult saved
              obtain ⟨record, found, rfl⟩ := Option.map_eq_some_iff.mp saved
              have isApp : record.app = app :=
                (AuthApp.label_injective (lawful.own root true rfl _ _ found)).symm
              subst isApp
              have fits := typed _ _ found
              exact ⟨⟨fits.userId, fits.appIndex⟩, fits.authResult⟩
  | rehash rank => exact range

end Events

/-- The file holds what the register does, whether the service runs or not. -/
theorem under_authFile (mirrored : AuthMirrored s) :
    Register.under BannerNotificationRecord.authResult app.label s.mgr.authFile = s.held app := by
  cases ready : s.mgr.isSysReady with
  | true => exact held_file mirrored ready
  | false => exact (held_unready ready).symm

/-- What a run of such operations leaves in the file fits the types of the members. -/
theorem inRange_authFile {hash : String → Nat} {labels : List (AuthEnv × AuthOp)}
    (lawful : Admissible AuthMgr.authStep Lawful (AuthMgr.installed hash) labels)
    (typed : ∀ label ∈ labels, Typed label) {key : String} {record : BannerNotificationRecord}
    (found : (run AuthMgr.authStep (AuthMgr.installed hash) labels).mgr.authFile.lookup key =
      some record) : record.InRange := by
  have kept : ∀ (s : AuthMgr) label, AuthMirrored s ∧ HeldInRange record.app (s.held record.app) →
      Typed label ∧ Lawful s label →
      AuthMirrored (s.authStep label) ∧
        HeldInRange record.app ((s.authStep label).held record.app) := by
    rintro s label ⟨mirrored, range⟩ ⟨typed, lawful⟩
    refine ⟨mirrored_of_effect (authStep_effect label.2) lawful mirrored, ?_⟩
    rw [held_authStep mirrored lawful]
    exact heldInRange_event range typed lawful
  obtain ⟨mirrored, range⟩ := run_invariant kept labels _
    ⟨mirrored_installed hash, fun authResult held => absurd held (Option.not_mem_none _)⟩
    (lawful.and_forall typed)
  have stored : (run AuthMgr.authStep (AuthMgr.installed hash) labels).held record.app =
      some record.authResult := by
    rw [← under_authFile mirrored, Register.under, ← mirrored.fileFiled key record found, found]
    rfl
  obtain ⟨⟨user, index⟩, result⟩ := range _ stored
  exact ⟨user, index, result⟩

end Ranges

/-! ## The move -/

section Move

open DataStorageHelper

variable {env : AuthEnv} {s : AuthMgr} {backup : Backup} {replyOk : Bool}

theorem onRestore_ok (ok : (s.onRestore env backup replyOk).1 = .ok) :
    s.mgr.isSysReady = true ∧ env.fileReadable = true ∧ replyOk = true ∧
      ∃ root, backup = .records root := by
  unfold AuthMgr.onRestore at ok
  split at ok
  · exact absurd ok (by simp)
  rename_i running
  refine ⟨by simpa using running, ?_⟩
  cases backup with
  | unreadable => exact absurd ok (by simp)
  | torn => exact absurd ok (by simp)
  | malformed =>
      dsimp only at ok
      split at ok
      · exact absurd ok (by simp)
      · exact absurd ok (by simp)
  | records root =>
      dsimp only at ok
      split at ok
      · exact absurd ok (by simp)
      rename_i replied
      split at ok
      · exact absurd ok (by simp)
      rename_i readable
      exact ⟨by simpa using readable, by simpa using replied, root, rfl⟩

theorem onRestore_ready :
    (s.onRestore env backup replyOk).2.mgr.isSysReady = s.mgr.isSysReady := by
  unfold AuthMgr.onRestore
  split
  · rfl
  cases backup with
  | unreadable => rfl
  | torn => rfl
  | malformed => rfl
  | records root =>
      dsimp only
      split
      · rfl
      split
      · rfl
      refine (refreshAuthRecord_ready _ env.toEnv).trans ?_
      unfold AuthMgr.setMgr restoreAuthRecord
      split
      · rfl
      · rfl

theorem onRestore_failed (failed : (s.onRestore env backup replyOk).1 ≠ .ok) :
    (s.onRestore env backup replyOk).2.mgr.bannerNotificationRecord =
      s.mgr.bannerNotificationRecord := by
  unfold AuthMgr.onRestore at failed ⊢
  split
  · rfl
  rename_i running
  rw [if_neg running] at failed
  cases backup with
  | unreadable => rfl
  | torn => rfl
  | malformed => rfl
  | records root =>
      dsimp only at failed ⊢
      split
      · rfl
      rename_i replied
      rw [if_neg replied] at failed
      split
      · rfl
      rename_i readable
      rw [if_neg readable] at failed
      exact absurd rfl failed

/-- What the new device holds of an app is its own result, or else that of the old one. -/
theorem held_moved {text : JsonText} {old new : AuthMgr} (oldMirrored : AuthMirrored old)
    (newMirrored : AuthMirrored new)
    (ranges : ∀ key record, old.mgr.authFile.lookup key = some record → record.InRange)
    (parsed : text.parse (authRecordText text old.mgr.authFile) =
      some (refreshAuthRecord old.mgr.authFile))
    {restoreEnv : RestoreEnv}
    (received : restoreEnv.srcFd = some (authRecordText text old.mgr.authFile))
    (restored : (new.onRestore env (getAuthRecord text restoreEnv) replyOk).1 = .ok)
    (saveOk : env.saveOk = true) (app : AuthApp) :
    Lawful new (env, .onRestore (getAuthRecord text restoreEnv) replyOk) ∧
      (new.onRestore env (getAuthRecord text restoreEnv) replyOk).2.held app =
        (new.held app).or (old.held app) := by
  obtain ⟨running, readable, rfl, root, taken⟩ := onRestore_ok restored
  obtain ⟨contents, received', read⟩ := getAuthRecord_records taken
  obtain rfl := Option.some.inj (received.symm.trans received')
  have lookup := lookup_authRecords parsed ranges read
  rw [taken]
  have lawful : Lawful new (env, .onRestore (.records root) true) := by
    refine ⟨saveOk, fun starts => absurd starts (by simp), ?_, ?_⟩
    · rintro _ _ ⟨⟩ _
      simp [Backup.cut, readable]
    · rintro _ _ ⟨⟩ key record found
      rw [lookup] at found
      obtain ⟨former, was, rfl⟩ := Option.map_eq_some_iff.mp found
      exact oldMirrored.fileFiled key former was
  refine ⟨lawful, ?_⟩
  rw [held_onRestore newMirrored running lawful]
  have event : authEvent app new (env, .onRestore (.records root) true) =
      .takeIn (Register.under BannerNotificationRecord.authResult app.label root) :=
    if_pos ⟨running, readable⟩
  have same : Register.under BannerNotificationRecord.authResult app.label root =
      Register.under BannerNotificationRecord.authResult app.label old.mgr.authFile := by
    unfold Register.under
    rw [lookup, Option.map_map]
    rfl
  rw [event, same, under_authFile oldMirrored]
  rfl

/-- The process is replaced, and the new one starts with the file of the former. -/
def restartLabels (stop start : AuthEnv) : List (AuthEnv × AuthOp) :=
  [(stop, .service .restart), (start, .service .initRequiredResourceInfo)]

theorem held_restarted (mirrored : AuthMirrored s) {stop start : AuthEnv}
    (stopped : stop.saveOk = true) (started : start.saveOk = true) (loads : Loads start)
    (app : AuthApp) :
    let after := run AuthMgr.authStep s (restartLabels stop start)
    AuthMirrored after ∧ after.mgr.isSysReady = true ∧ after.held app = s.held app := by
  intro after
  have stops : Lawful s (stop, .service .restart) :=
    ⟨stopped, fun starts => absurd starts (by simp), fun _ _ isOp => absurd isOp (by simp),
      fun _ _ isOp => absurd isOp (by simp)⟩
  have starts : Lawful (s.authStep (stop, .service .restart))
      (start, .service .initRequiredResourceInfo) :=
    ⟨started, fun _ _ => loads, fun _ _ isOp => absurd isOp (by simp),
      fun _ _ isOp => absurd isOp (by simp)⟩
  have down := mirrored_of_effect (authStep_effect (.service .restart)) stops mirrored
  have up := mirrored_of_effect (authStep_effect (.service .initRequiredResourceInfo)) starts down
  exact ⟨up, rfl, (held_authStep down starts).trans (held_authStep mirrored stops)⟩

/-- The manager answers `CheckTaskAuthResult` and `GetBackgroundTaskState` for the app by this
result. -/
structure AnswersBy (s : AuthMgr) (app : AuthApp) (held : Option Int) : Prop where
  taskAuthResult : s.checkTaskAuthResult app.bundleName app.userId app.appIndex =
    taskAuthReply held
  taskState : ∀ env, app.bundleName ≠ "" → app.userId ≠ -1 → app.appIndex ≠ -1 →
    s.getBackgroundTaskState env (some
      { userId := app.userId, bundleName := app.bundleName, appIndex := app.appIndex }) =
      (.ok, some (taskStateReply env app held))

theorem answersBy_held (filed : s.Filed) (ready : s.mgr.isSysReady = true) (app : AuthApp) :
    AnswersBy s app (s.held app) where
  taskAuthResult := checkTaskAuthResult_held filed ready
  taskState env named user index := getBackgroundTaskState_held env filed ready named user index

/-- A device that restores what another has backed up answers for each app as it did before,
or, where it held nothing of the app, as the other device does, also after a restart.  A
restoration that fails changes no answer. -/
theorem authorisations_move {oldHash newHash : String → Nat}
    {oldLabels newLabels : List (AuthEnv × AuthOp)}
    (oldLawful : Admissible AuthMgr.authStep Lawful (AuthMgr.installed oldHash) oldLabels)
    (typed : ∀ label ∈ oldLabels, Typed label)
    (newLawful : Admissible AuthMgr.authStep Lawful (AuthMgr.installed newHash) newLabels)
    {text : JsonText} {file : Option String} {backupEnv : BackupEnv} {restoreEnv : RestoreEnv}
    (saved : ∀ contents ∈ file, contents = authRecordText text
      (run AuthMgr.authStep (AuthMgr.installed oldHash) oldLabels).mgr.authFile)
    (parsed : ∀ contents ∈ file, text.parse contents = some (refreshAuthRecord
      (run AuthMgr.authStep (AuthMgr.installed oldHash) oldLabels).mgr.authFile))
    (sent : ((run AuthMgr.authStep (AuthMgr.installed oldHash) oldLabels).onBackup
      backupEnv file).1 = .ok)
    (received : restoreEnv.srcFd =
      ((run AuthMgr.authStep (AuthMgr.installed oldHash) oldLabels).onBackup backupEnv file).2)
    (saveOk : env.saveOk = true)
    (ready : (run AuthMgr.authStep (AuthMgr.installed newHash) newLabels).mgr.isSysReady = true)
    (app : AuthApp) :
    let new := run AuthMgr.authStep (AuthMgr.installed newHash) newLabels
    let heldOld := Register.after (Register.events AuthMgr.authStep (authEvent app)
      (AuthMgr.installed oldHash) oldLabels) none
    let heldNew := Register.after (Register.events AuthMgr.authStep (authEvent app)
      (AuthMgr.installed newHash) newLabels) none
    let restored := new.onRestore env (getAuthRecord text restoreEnv) replyOk
    AnswersBy new app heldNew ∧ (restored.1 ≠ .ok → AnswersBy restored.2 app heldNew) ∧
      (restored.1 = .ok → AnswersBy restored.2 app (heldNew.or heldOld) ∧
        ∀ stop start, stop.saveOk = true → start.saveOk = true → Loads start →
          AnswersBy (run AuthMgr.authStep restored.2 (restartLabels stop start)) app
            (heldNew.or heldOld)) := by
  intro new heldOld heldNew restored
  obtain ⟨oldMirrored, oldHeld⟩ := held_fold oldLawful app
  obtain ⟨newMirrored, newHeld⟩ := held_fold newLawful app
  have running : restored.2.mgr.isSysReady = true := onRestore_ready.trans ready
  have before := answersBy_held newMirrored.filed ready app
  rw [newHeld] at before
  refine ⟨before, ?_, ?_⟩
  · intro failed
    have records := onRestore_failed failed
    have filed : restored.2.Filed := by
      intro key record found
      unfold AuthMgr.recordAt at found
      rw [records] at found
      exact newMirrored.filed key record found
    have same : restored.2.held app = heldNew := by
      rw [held_ready running, records, ← held_ready ready, newHeld]
    exact same ▸ answersBy_held filed running app
  · intro ok
    obtain ⟨contents, rfl, sentFile⟩ := AuthMgr.onBackup_ok sent
    have text_eq := saved contents rfl
    subst text_eq
    obtain ⟨lawful, moved⟩ := held_moved oldMirrored newMirrored
      (fun _ _ found => inRange_authFile oldLawful typed found) (parsed _ rfl)
      (received.trans sentFile) ok saveOk app
    have mirrored : AuthMirrored restored.2 :=
      mirrored_of_effect (authStep_effect (.onRestore (getAuthRecord text restoreEnv) replyOk))
        lawful newMirrored
    rw [newHeld, oldHeld] at moved
    refine ⟨moved ▸ answersBy_held mirrored.filed running app, ?_⟩
    intro stop start stopped started loads
    obtain ⟨restarted, up, same⟩ := held_restarted mirrored stopped started loads app
    exact (same.trans moved) ▸ answersBy_held restarted.filed up app

def grantedValue : Json :=
  .object [("bgbanner_0_0_app", .object [("appIndex", .integer 0), ("appName", .string ""),
    ("authResult", .integer 3), ("bundleName", .string "app"), ("notificationId", .integer (-1)),
    ("notificationLabel", .string ""), ("uid", .integer 0), ("userId", .integer 0)])]

def grantedText : JsonText where
  dump _ := dumped
  parse data := if data = dumped ++ "\n" then some grantedValue else none
where
  dumped : String :=
    "\x7b\n    \"bgbanner_0_0_app\": \x7b\n        \"appIndex\": 0,\n" ++
    "        \"appName\": \"\",\n        \"authResult\": 3,\n" ++
    "        \"bundleName\": \"app\",\n        \"notificationId\": -1,\n" ++
    "        \"notificationLabel\": \"\",\n        \"uid\": 0,\n        \"userId\": 0\n" ++
    "    \x7d\n\x7d"

def grantedFile : String := authRecordText grantedText
  (run AuthMgr.authStep (AuthMgr.installed (fun _ => 0)) grantedOnceRun).mgr.authFile

theorem authorisations_move_granted :
    let new := run AuthMgr.authStep (AuthMgr.installed (fun _ => 0))
      [(authDevice, .service .initRequiredResourceInfo)]
    (new.onRestore authDevice (getAuthRecord grantedText ⟨some grantedFile, true, true, true, true⟩)
      true).2.checkTaskAuthResult "app" 0 0 = .ok := by
  have plain : ∀ (s : AuthMgr) op, (∀ backup replyOk, op ≠ .onRestore backup replyOk) →
      Lawful s (authDevice, op) :=
    fun s op other => ⟨rfl, fun _ _ => ⟨rfl, rfl⟩,
      fun backup replyOk isOp => absurd isOp (other backup replyOk),
      fun root replyOk isOp => absurd isOp (other (.records root) replyOk)⟩
  have oldLawful : Admissible AuthMgr.authStep Lawful (AuthMgr.installed (fun _ => 0))
      grantedOnceRun :=
    ⟨plain _ _ (by simp), plain _ _ (by simp), plain _ _ (by simp), plain _ _ (by simp), trivial⟩
  have newLawful : Admissible AuthMgr.authStep Lawful (AuthMgr.installed (fun _ => 0))
      [(authDevice, .service .initRequiredResourceInfo)] := ⟨plain _ _ (by simp), trivial⟩
  have typed : ∀ label ∈ grantedOnceRun, Typed label := by
    simp [grantedOnceRun, Typed]
    decide
  have parsed : grantedText.parse grantedFile = some (refreshAuthRecord
      (run AuthMgr.authStep (AuthMgr.installed (fun _ => 0)) grantedOnceRun).mgr.authFile) := by
    have file :
        (run AuthMgr.authStep (AuthMgr.installed (fun _ => 0)) grantedOnceRun).mgr.authFile =
          AList.singleton "bgbanner_0_0_app"
            { bundleName := "app", authResult := UserAuthResult.grantedOnce, appIndex := 0 } :=
      AList.ext (by decide)
    have dumped : grantedFile = grantedText.dumped ++ "\n" := rfl
    have value : grantedText.parse grantedFile = some grantedValue := by
      rw [dumped]
      simp only [grantedText, if_true]
    rw [value, file]
    rfl
  have moves := @authorisations_move authDevice true _ _ _ _ oldLawful typed newLawful grantedText
    (some grantedFile) {} ⟨some grantedFile, true, true, true, true⟩
    (by rintro _ ⟨⟩; rfl) (by rintro _ ⟨⟩; exact parsed) (by decide) rfl rfl (by decide) deviceApp
  exact (moves.2.2 (by decide +kernel)).1.taskAuthResult.trans (by decide +kernel)

end Move

end BgTaskMgr.Continuous
