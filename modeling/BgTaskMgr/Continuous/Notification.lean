import BgTaskMgr.Continuous.Record

/-!
# Continuous-task notifications

`NotificationTools` over a notification service that shows what was published and not
cancelled under a label and an id, and the decoding of labels in
`TaskNotificationSubscriber`.  Only continuous-task notifications are kept; the banner
of an authorisation request takes an id from the same counter.
-/

set_option autoImplicit false

namespace BgTaskMgr.Continuous

structure Notification where
  label : String
  id : Int
  /-- The extra parameter `abilityName`. -/
  abilityName : String
  title : String
  text : String
  wantAgent : Option WantAgent
  deriving DecidableEq, Repr

def Notification.pair (notification : Notification) : String × Int :=
  (notification.label, notification.id)

structure NotificationEnv where
  publishOk : String → Int → Bool := fun _ _ => true
  cancelOk : String → Int → Bool := fun _ _ => true
  getActiveOk : Bool := true
  /-- `PublishContinuousTaskNotification` of a notification that is shown. -/
  republishOk : String → Int → Bool := fun _ _ => true

structure NotificationTools where
  /-- `std::hash<std::string>`. -/
  hash : String → Nat := fun _ => 0
  notificationIdIndex : Int := -1
  /-- What is shown. -/
  published : List Notification := []

/-- `newPromptInfos`: title and text for a label, the first one given. -/
abbrev PromptInfos := List (String × String × String)

structure Sent where
  ret : ErrCode
  record : ContinuousTaskRecord
  tools : NotificationTools

def createNotificationLabel (hash : String → Nat) (record : ContinuousTaskRecord) : String :=
  let label := "bgmode_" ++ toString record.uid ++ "_" ++ toString (hash record.abilityName) ++
    "_" ++ toString record.abilityId
  if record.isByRequestObject then label ++ "_" ++ toString record.continuousTaskId else label

def createSubNotificationLabel (hash : String → Nat) (record : ContinuousTaskRecord) : String :=
  "bgmode_" ++ toString record.uid ++ "_" ++ toString (hash record.abilityName) ++ "_" ++
    toString record.abilityId ++ "_" ++ toString record.continuousTaskId ++ "_" ++
    toString record.pid

namespace NotificationTools

def Shown (pair : String × Int) (self : NotificationTools) : Prop :=
  pair ∈ self.published.map Notification.pair

instance (pair : String × Int) (self : NotificationTools) : Decidable (Shown pair self) :=
  inferInstanceAs (Decidable (_ ∈ _))

/-- The service shows the notification in place of one with the same label and id. -/
def display (notification : Notification) (self : NotificationTools) : NotificationTools :=
  { self with
    published := self.published.filter (fun old => old.pair ≠ notification.pair) ++
      [notification] }

def withdraw (pair : String × Int) (self : NotificationTools) : NotificationTools :=
  { self with published := self.published.filter (fun old => old.pair ≠ pair) }

def cancelNotification (env : NotificationEnv) (pair : String × Int) (self : NotificationTools) :
    ErrCode × NotificationTools :=
  if env.cancelOk pair.1 pair.2 then (.ok, self.withdraw pair) else (.notificationErr, self)

/-- The id of a publication: the record's own, or the next one. -/
def chosenId (currentId : Int) (self : NotificationTools) : Int :=
  if currentId = -1 then self.notificationIdIndex + 1 else currentId

def takeId (currentId : Int) (self : NotificationTools) : NotificationTools :=
  if currentId = -1 then { self with notificationIdIndex := self.notificationIdIndex + 1 }
  else self

def requestWantAgent (record : ContinuousTaskRecord) : Option WantAgent :=
  if record.needNotificationForInnerApi && record.isFromComponent then
    some ⟨some { bundleName := record.bundleName, abilityName := record.bundleName }⟩
  else record.wantAgent

def publishNotification (env : NotificationEnv) (record : ContinuousTaskRecord)
    (appName prompt : String) (self : NotificationTools) : Sent :=
  let label := createNotificationLabel self.hash record
  let id := self.chosenId record.notificationId
  let taken := self.takeId record.notificationId
  if env.publishOk label id then
    ⟨.ok, { record with notificationLabel := label, notificationId := id },
      taken.display ⟨label, id, record.abilityName, appName, prompt, requestWantAgent record⟩⟩
  else ⟨.notificationErr, record, taken⟩

/-- `PublishMainNotification`: the contents are those of `subRecord`, label and id go to
`mainRecord`. -/
def publishMainNotification (env : NotificationEnv) (subRecord : ContinuousTaskRecord)
    (appName prompt : String) (mainRecord : ContinuousTaskRecord) (self : NotificationTools) :
    Sent :=
  let label := createNotificationLabel self.hash subRecord
  let id := self.chosenId mainRecord.notificationId
  let taken := self.takeId mainRecord.notificationId
  if env.publishOk label id then
    ⟨.ok, { mainRecord with notificationLabel := label, notificationId := id },
      taken.display ⟨label, id, subRecord.abilityName, appName, prompt, subRecord.wantAgent⟩⟩
  else ⟨.notificationErr, mainRecord, taken⟩

def publishSubNotification (env : NotificationEnv) (subRecord : ContinuousTaskRecord)
    (appName prompt : String) (mainRecord : ContinuousTaskRecord) (self : NotificationTools) :
    Sent :=
  let label := createSubNotificationLabel self.hash subRecord
  let id := self.chosenId mainRecord.subNotificationId
  let taken := self.takeId mainRecord.subNotificationId
  if env.publishOk label id then
    ⟨.ok, { mainRecord with subNotificationLabel := label, subNotificationId := id },
      taken.display ⟨label, id, subRecord.abilityName, appName, prompt, subRecord.wantAgent⟩⟩
  else ⟨.notificationErr, mainRecord, taken⟩

def refreshed (env : NotificationEnv) (newPromptInfos : PromptInfos)
    (notification : Notification) : Notification :=
  match newPromptInfos.lookup notification.label with
  | none => notification
  | some (title, text) =>
      if env.republishOk notification.label notification.id then
        { notification with title := title, text := text }
      else notification

def refreshContinuousNotifications (env : NotificationEnv) (newPromptInfos : PromptInfos)
    (self : NotificationTools) : NotificationTools :=
  if newPromptInfos = [] ∨ !env.getActiveOk then self
  else { self with published := self.published.map (refreshed env newPromptInfos) }

/-- The loop of `RefreshContinuousNotificationWantAndContext`, which ends at the first
notification that cannot be published again. -/
def refreshWantAndContext (env : NotificationEnv) (newPromptInfos : PromptInfos)
    (wantAgent : Option WantAgent) (updateContent : Bool) :
    List Notification → ErrCode × List Notification
  | [] => (.ok, [])
  | notification :: rest =>
      match newPromptInfos.lookup notification.label with
      | none =>
          let later := refreshWantAndContext env newPromptInfos wantAgent updateContent rest
          (later.1, notification :: later.2)
      | some (title, text) =>
          if env.republishOk notification.label notification.id then
            let later := refreshWantAndContext env newPromptInfos wantAgent updateContent rest
            (later.1, { notification with
              wantAgent := wantAgent
              title := if updateContent then title else notification.title
              text := if updateContent then text else notification.text } :: later.2)
          else (.continuousUpdateNotificationFail, notification :: rest)

def refreshContinuousNotificationWantAndContext (env : NotificationEnv)
    (newPromptInfos : PromptInfos) (record : ContinuousTaskRecord) (updateContent : Bool)
    (self : NotificationTools) : ErrCode × NotificationTools :=
  if !env.getActiveOk then (.continuousUpdateNotificationFail, self)
  else
    let result := refreshWantAndContext env newPromptInfos record.wantAgent updateContent
      self.published
    (result.1, { self with published := result.2 })

def publishBannerNotification (self : NotificationTools) : NotificationTools :=
  { self with notificationIdIndex := self.notificationIdIndex + 1 }

end NotificationTools

/-! ## Labels of deleted notifications -/

/-- The `getline` loop: a token ends at the delimiter, and what follows the last one
counts only when it is not empty. -/
def splitTokens (delim : Char) : List Char → List Char → List (List Char)
  | token, [] => if token = [] then [] else [token.reverse]
  | token, c :: rest =>
      if c = delim then token.reverse :: splitTokens delim [] rest
      else splitTokens delim (c :: token) rest

def stringSplit (str : String) (delim : Char) : List String :=
  (splitTokens delim [] str.toList).map String.ofList

def isBannerLabel (label : String) : Bool :=
  let labelSplits := stringSplit label '_'
  labelSplits.length = 4 && labelSplits[0]? = some "bgbanner"

/-- The key and whether the label is that of a sub-notification, as
`CancelNotificationByBgTask` takes them from a label. -/
def keyOfLabel (label abilityName : String) : Option (String × Bool) :=
  match stringSplit label '_' with
  | ["bgmode", uid, _, abilityId] => some (uid ++ "_" ++ abilityName ++ "_" ++ abilityId, false)
  | ["bgmode", uid, _, abilityId, taskId] =>
      some (uid ++ "_" ++ abilityName ++ "_" ++ abilityId ++ "_" ++ taskId, false)
  | ["bgmode", uid, _, abilityId, taskId, _] =>
      some (uid ++ "_" ++ abilityName ++ "_" ++ abilityId ++ "_" ++ taskId, true)
  | _ => none

end BgTaskMgr.Continuous
