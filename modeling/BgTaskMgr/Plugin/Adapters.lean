import BgTaskMgr.Lib.Json
import BgTaskMgr.Lib.KeyedMap

/-!
# The plugin adapters

What the adapters of the resource schedule plugin make of the payload of a resource: the audio
adapter keeps the sessions that play, the others hand on what they read to the managers.  The
parsers of a payload and the numbers of its resources are those of the platform.
-/

set_option autoImplicit false

namespace BgTaskMgr.Plugin

/-! ## The platform -/

/-- `ResCommonUtil` and the constants of the platform, which the repository does not hold. -/
structure Platform where
  /-- `ParseIntParameterFromJson`. -/
  parseInt : String → Json → Option Int
  /-- `ParseStringParameterFromJson`. -/
  parseString : String → Json → Option String
  /-- `ParseStringJsonPayloadToNumber`. -/
  parseNumber : String → Json → Option Int
  rendererRunning : Int
  audioPolicyServiceId : Int
  suspendManagerSystemAbilityId : Int
  backgroundTaskManagerServiceId : Int
  appStateForeground : Int
  appStateBackground : Int
  appStateCached : Int
  abilityStateTerminated : Int
  preloadModeGamePrelaunch : Int
  gamePreLaunchEnable : Bool

structure PluginEnv where
  /-- `GetDecisionMaker` of the transient task manager is not null. -/
  decisionMaker : Bool := true
  /-- `GetHandler` of the continuous task manager is not null. -/
  handler : Bool := true
  /-- `clientUID`, `sessionId` and `rendererState` of `GetCurrentRendererChangeInfos`. -/
  currentRendererChangeInfos : List (Option (Int × Int × Int)) := []

/-! ## Playing sessions -/

structure AudioInfo where
  uid : Int := -1
  sessionId : Int := -1
  deriving DecidableEq, Repr

structure AudioRendererInfoPluginData where
  audioPlayerInfos : List AudioInfo := []
  deriving DecidableEq, Repr

namespace AudioRendererInfoPluginData

variable (self : AudioRendererInfoPluginData)

def checkAppIsPlaying (uid : Int) : Bool :=
  self.audioPlayerInfos.any (fun target => target.uid == uid)

/-- Whether the session is new, and the sessions with it. -/
def addAudioPlayerInfo (audioInfo : AudioInfo) : Bool × AudioRendererInfoPluginData :=
  if self.audioPlayerInfos.any (fun target =>
      target.uid == audioInfo.uid && target.sessionId == audioInfo.sessionId) then (false, self)
  else (true, { self with audioPlayerInfos := self.audioPlayerInfos ++ [audioInfo] })

def removeAudioPlayerInfo (uid sessionId : Int) : AudioRendererInfoPluginData :=
  { self with
    audioPlayerInfos := self.audioPlayerInfos.eraseP (fun target =>
      target.uid == uid && target.sessionId == sessionId) }

def clearAudioPlayerInfo (_self : AudioRendererInfoPluginData) : AudioRendererInfoPluginData := {}

/-- One report of the audio service; a session that does not run is passed over. -/
def takeReport (platform : Platform) (self : AudioRendererInfoPluginData)
    (info : Option (Int × Int × Int)) : AudioRendererInfoPluginData :=
  match info with
  | none => self
  | some (clientUid, sessionId, rendererState) =>
      if rendererState ≠ platform.rendererRunning then self
      else (self.addAudioPlayerInfo ⟨clientUid, sessionId⟩).2

/-- The sessions are read anew, without a word to the managers. -/
def afterAddSaListener (platform : Platform) (env : PluginEnv) : AudioRendererInfoPluginData :=
  env.currentRendererChangeInfos.foldl (takeReport platform) self.clearAudioPlayerInfo

end AudioRendererInfoPluginData

/-! ## Payloads -/

structure ProcessData where
  bundleName : String
  pid : Int
  uid : Int
  processType : Int
  state : Int
  extensionType : Int
  preloadMode : Int
  deriving DecidableEq, Repr

structure AppStateData where
  bundleName : String
  pid : Int
  uid : Int
  state : Int
  extensionType : Int
  preloadMode : Int
  deriving DecidableEq, Repr

structure AbilityStateData where
  pid : Int
  uid : Int
  abilityRecordId : Int
  abilityType : Int
  abilityName : String
  abilityState : Int
  extensionAbilityType : Int
  deriving DecidableEq, Repr

namespace Platform

variable (platform : Platform) (payload : Json)

def unmarshallingProcessData : Option ProcessData := do
  let bundleName ← platform.parseString "bundleName" payload
  let pid ← platform.parseNumber "pid" payload
  let uid ← platform.parseNumber "uid" payload
  let processType ← platform.parseNumber "processType" payload
  let state ← platform.parseNumber "state" payload
  let extensionType ← platform.parseNumber "extensionType" payload
  let preloadMode ← platform.parseNumber "preloadMode" payload
  return { bundleName, pid, uid, processType, state, extensionType, preloadMode }

def unmarshallingAppStateData : Option AppStateData := do
  let bundleName ← platform.parseString "bundleName" payload
  let pid ← platform.parseInt "pid" payload
  let uid ← platform.parseInt "uid" payload
  let state ← platform.parseInt "state" payload
  let extensionType ← platform.parseInt "extensionType" payload
  let preloadMode ← platform.parseInt "preloadMode" payload
  return { bundleName, pid, uid, state, extensionType, preloadMode }

/-- An extension has its state and its type under other names than an ability. -/
def unmarshallingAbilityStateData : Option AbilityStateData := do
  let pid ← platform.parseInt "pid" payload
  let uid ← platform.parseInt "uid" payload
  let abilityRecordId ← platform.parseInt "recordId" payload
  let abilityType ← platform.parseInt "abilityType" payload
  let abilityName ← platform.parseString "abilityName" payload
  let (abilityState, extensionAbilityType) ←
    match (platform.parseInt "extensionState" payload).orElse
        (fun _ => platform.parseInt "uiExtensionState" payload) with
    | some extensionState =>
        (platform.parseInt "extensionAbilityType" payload).map (extensionState, ·)
    | none =>
        (platform.parseInt "abilityState" payload).bind (fun abilityState =>
          (platform.parseInt "extType" payload).map (abilityState, ·))
  return { pid, uid, abilityRecordId, abilityType, abilityName, abilityState,
           extensionAbilityType }

end Platform

/-! ## Calls of the managers -/

/-- What the adapters ask of the managers; a post is a task for their handler. -/
inductive ManagerCall where
  | notifyAudioStart (uid : Int)
  | updateSusMgrCloudConfig (payload : Json)
  | updateBgMgrCloudConfig (payload : Json)
  | onProcessDied (processData : ProcessData)
  | onProcessStateChanged (processData : ProcessData)
  | addGamePreLaunchApp (uid : Int)
  | removeGamePreLaunchApp (uid : Int)
  | removeProcessRecord (uid pid : Int) (bundleName : String)
  | removeAppRecord (uid : Int) (bundleName : String) (resetAll : Bool)
  | postAppStateChanged (uid state preloadMode : Int)
  | postAbilityStateChanged (uid : Int) (abilityName : String) (abilityId : Int)
  | postAppCacheStateChanged (uid pid : Int) (bundleName : String)
  | postAppStopped (uid : Int)

structure AppStateObserver where
  handler : Bool := false
  deriving DecidableEq, Repr

namespace AppStateObserver

variable (platform : Platform) (self : AppStateObserver)

def postTask (call : ManagerCall) : List ManagerCall := if self.handler then [call] else []

def onAppStateChanged (appStateData : AppStateData) : List ManagerCall :=
  if appStateData.state ≠ platform.appStateBackground ∧
      appStateData.state ≠ platform.appStateForeground then []
  else
    self.postTask (.postAppStateChanged appStateData.uid appStateData.state
      appStateData.preloadMode)

def onAbilityStateChanged (abilityStateData : AbilityStateData) : List ManagerCall :=
  if abilityStateData.abilityState ≠ platform.abilityStateTerminated then []
  else
    self.postTask (.postAbilityStateChanged abilityStateData.uid abilityStateData.abilityName
      abilityStateData.abilityRecordId)

def onAppCacheStateChanged (appStateData : AppStateData) : List ManagerCall :=
  if appStateData.state ≠ platform.appStateCached then []
  else
    self.postTask (.postAppCacheStateChanged appStateData.uid appStateData.pid
      appStateData.bundleName)

def onProcessCreated (processData : ProcessData) : List ManagerCall :=
  if platform.gamePreLaunchEnable ∧ processData.preloadMode = platform.preloadModeGamePrelaunch
  then [.addGamePreLaunchApp processData.uid] else []

/-- A uid that is no game leaves the set of games as it is. -/
def onProcessDied (processData : ProcessData) : List ManagerCall :=
  .removeProcessRecord processData.uid processData.pid processData.bundleName ::
    (if platform.gamePreLaunchEnable then [.removeGamePreLaunchApp processData.uid] else [])

def validateAppStateData (appStateData : AppStateData) : Bool :=
  0 < appStateData.uid && appStateData.bundleName ≠ ""

def onAppStopped (appStateData : AppStateData) : List ManagerCall :=
  if !validateAppStateData appStateData then []
  else
    self.postTask (.postAppStopped appStateData.uid) ++
      [.removeAppRecord appStateData.uid appStateData.bundleName false]

end AppStateObserver

/-! ## Adapters -/

inductive AdapterKind where
  | audioStream
  | eventMsgHandler
  | appStateObserver
  deriving DecidableEq, Repr

inductive Callback where
  | rendererStateChange
  | afterAddSaListener
  | handleCloudConfigUpdateEvent
  | onProcessDied
  | onProcessStateChanged
  | onProcessCreated
  | onAppStateChanged
  | onAppStopped
  | onAppCacheStateChanged
  | onAbilityStateChanged
  deriving DecidableEq, Repr

structure Adapters where
  audio : AudioRendererInfoPluginData := {}
  /-- `appStateObserver_` and `decisionMaker_` of the adapter of the app states. -/
  appStateObserver : Option AppStateObserver := none
  decisionMaker : Bool := false
  calls : List ManagerCall := []

namespace Adapters

variable (platform : Platform) (env : PluginEnv) (payload : Json) (self : Adapters)

def call (calls : List ManagerCall) : Adapters := { self with calls := self.calls ++ calls }

def rendererChange : Option (AudioInfo × Bool) :=
  if payload.isNull then none
  else do
    let uid ← platform.parseInt "uid" payload
    let rendererState ← platform.parseInt "rendererState" payload
    let sessionId ← platform.parseInt "sessionId" payload
    return (⟨uid, sessionId⟩, rendererState == platform.rendererRunning)

def rendererStateChange : Adapters :=
  match rendererChange platform payload with
  | none => self
  | some (session, true) =>
      let added := self.audio.addAudioPlayerInfo session
      if added.1 then { self with audio := added.2 }.call [.notifyAudioStart session.uid]
      else { self with audio := added.2 }
  | some (session, false) =>
      { self with audio := self.audio.removeAudioPlayerInfo session.uid session.sessionId }

def afterAddSaListener : Adapters :=
  match platform.parseInt "saId" payload with
  | none => self
  | some saId =>
      if saId = platform.audioPolicyServiceId then
        { self with audio := self.audio.afterAddSaListener platform env }
      else self

def handleCloudConfigUpdateEvent (stateType : Int) : Adapters :=
  if stateType = platform.suspendManagerSystemAbilityId then
    self.call [.updateSusMgrCloudConfig payload]
  else if stateType = platform.backgroundTaskManagerServiceId then
    self.call [.updateBgMgrCloudConfig payload]
  else self

def observed {α : Type} (data : Option α) (calls : AppStateObserver → α → List ManagerCall) :
    Adapters :=
  match data, self.appStateObserver with
  | some data, some observer => self.call (calls observer data)
  | _, _ => self

def onProcessDied : Adapters :=
  match platform.unmarshallingProcessData payload with
  | none => self
  | some processData =>
      let told := if self.decisionMaker then self.call [.onProcessDied processData] else self
      told.observed (some processData)
        (fun _ processData => AppStateObserver.onProcessDied platform processData)

def onProcessStateChanged : Adapters :=
  match platform.unmarshallingProcessData payload with
  | none => self
  | some processData =>
      if self.decisionMaker then self.call [.onProcessStateChanged processData] else self

def invoke (stateType : Int) : Callback → Adapters
  | .rendererStateChange => self.rendererStateChange platform payload
  | .afterAddSaListener => self.afterAddSaListener platform env payload
  | .handleCloudConfigUpdateEvent => self.handleCloudConfigUpdateEvent platform payload stateType
  | .onProcessDied => self.onProcessDied platform payload
  | .onProcessStateChanged => self.onProcessStateChanged platform payload
  | .onProcessCreated =>
      self.observed (platform.unmarshallingProcessData payload)
        (fun _ processData => AppStateObserver.onProcessCreated platform processData)
  | .onAppStateChanged =>
      self.observed (platform.unmarshallingAppStateData payload)
        (fun observer => observer.onAppStateChanged platform)
  | .onAppStopped =>
      self.observed (platform.unmarshallingAppStateData payload)
        (fun observer => observer.onAppStopped)
  | .onAppCacheStateChanged =>
      self.observed (platform.unmarshallingAppStateData payload)
        (fun observer => observer.onAppCacheStateChanged platform)
  | .onAbilityStateChanged =>
      self.observed (platform.unmarshallingAbilityStateData payload)
        (fun observer => observer.onAbilityStateChanged platform)

def init : AdapterKind → Adapters
  | .appStateObserver =>
      { self with
        appStateObserver := some ⟨env.decisionMaker && env.handler⟩
        decisionMaker := env.decisionMaker }
  | _ => self

def uninit : AdapterKind → Adapters
  | .audioStream => { self with audio := self.audio.clearAudioPlayerInfo }
  | _ => self

end Adapters

end BgTaskMgr.Plugin
