import BgTaskMgr.Common.ErrCode
import BgTaskMgr.Plugin.Adapters
import BgTaskMgr.Lib.StepSystem

/-!
# The plugin of the resource schedule service

`BgtaskPluginMgr` between the plugin manager of the resource schedule service and the adapters.
A resource is let in by a flag that is read without the lock; what is done with it happens
under the lock, which other events may take first.
-/

set_option autoImplicit false

namespace BgTaskMgr.Plugin

open StepSystem

def resValueForAll : Int := -1

def libName : String := "libbgtaskmgr_service.z.so"

/-- An adapter with its table of callbacks, by type of resource and by value. -/
structure BgtaskPlugin where
  kind : AdapterKind
  cbMap : KeyedMap Nat (KeyedMap Int Callback)

namespace BgtaskPlugin

variable (self : BgtaskPlugin)

/-- The callback that `DispatchResource` runs.  One that is there for all values, and is the only
one, gets every value; beside others it gets its own. -/
def callback (resType : Nat) (stateType : Int) : Option Callback :=
  (self.cbMap.lookup resType).bind (fun stateTypeCbMap =>
    if stateTypeCbMap.entries.length = 1 ∧ (stateTypeCbMap.lookup resValueForAll).isSome then
      stateTypeCbMap.lookup resValueForAll
    else stateTypeCbMap.lookup stateType)

def getPluginValue (resType : Nat) : List Int :=
  match self.cbMap.lookup resType with
  | none => []
  | some stateTypeCbMap => stateTypeCbMap.keys

end BgtaskPlugin

/-! ## The tables of the adapters -/

/-- The types of resource and their values, which are numbers of the platform. -/
structure ResTypes where
  audioRenderStateChange : Nat
  observerManagerStatusChange : Nat
  addSystemAbility : Int
  rssCloudConfigUpdate : Nat
  processStateChange : Nat
  processCreated : Int
  processForeground : Int
  processBackground : Int
  processDied : Int
  onAppStateChanged : Nat
  appStopped : Nat
  abilityStateChange : Nat
  abilityStateCreate : Int
  abilityStateTerminated : Int

def resTypeExtOnAppCachedStateChanged : Nat := 10008

section Tables

variable (types : ResTypes)

def audioStreamPluginAdapter : BgtaskPlugin where
  kind := .audioStream
  cbMap := AList.singleton types.audioRenderStateChange
    (AList.singleton resValueForAll .rendererStateChange)

def eventMsgHandlerPluginAdapter : BgtaskPlugin where
  kind := .eventMsgHandler
  cbMap := AList.insert types.rssCloudConfigUpdate
    (AList.singleton resValueForAll .handleCloudConfigUpdateEvent)
    (AList.singleton types.observerManagerStatusChange
      (AList.singleton types.addSystemAbility .afterAddSaListener))

/-- `InitCbMap` and `InitAbilityCbMap`. -/
def appStateObserverPluginAdapter : BgtaskPlugin where
  kind := .appStateObserver
  cbMap :=
    let processes : KeyedMap Int Callback := List.toAList
      [⟨types.processDied, .onProcessDied⟩, ⟨types.processForeground, .onProcessStateChanged⟩,
        ⟨types.processBackground, .onProcessStateChanged⟩,
        ⟨types.processCreated, .onProcessCreated⟩]
    let abilities : KeyedMap Int Callback := List.toAList
      [⟨types.abilityStateCreate, .onAbilityStateChanged⟩,
        ⟨types.abilityStateTerminated, .onAbilityStateChanged⟩]
    let cbMap : KeyedMap Nat (KeyedMap Int Callback) :=
      AList.singleton types.processStateChange processes
    let cbMap := cbMap.insert types.onAppStateChanged
      (AList.singleton resValueForAll .onAppStateChanged)
    let cbMap := cbMap.insert types.appStopped (AList.singleton resValueForAll .onAppStopped)
    let cbMap := cbMap.insert resTypeExtOnAppCachedStateChanged
      (AList.singleton resValueForAll .onAppCacheStateChanged)
    cbMap.insert types.abilityStateChange abilities

end Tables

structure ResData where
  resType : Nat
  value : Int
  payload : Json

/-- What the plugin manager can be subscribed to: a type of resource, or one value of it. -/
structure Subscription where
  resType : Nat
  value : Option Int
  deriving DecidableEq, Repr

structure BgtaskPluginMgr where
  pluginEnable : Bool := false
  asyncCbMap : KeyedMap Nat BgtaskPlugin := ∅
  adapters : Adapters := {}
  /-- The calls to the plugin manager: what is subscribed, and what is given up. -/
  subscriptionCalls : List (Subscription × Bool) := []
  /-- The resources let in that still wait for the lock. -/
  letIn : List ResData := []

inductive PluginOp where
  | onPluginInit (libName : String)
  | onPluginDisable
  | registerAsyncPlugin (resType : Nat) (plugin : Option BgtaskPlugin)
  /-- `OnDispatchResource` up to the lock. -/
  | onDispatchResource (resData : Option ResData)
  /-- A resource let in gets the lock. -/
  | deliver (index : Nat)

/-- `SelfRegister`: an adapter is registered for every type of its table. -/
def selfRegister (plugin : BgtaskPlugin) : List PluginOp :=
  plugin.cbMap.keys.map (fun resType => .registerAsyncPlugin resType (some plugin))

namespace BgtaskPluginMgr

def subscriptionOf (resType : Nat) (value : Int) : Subscription :=
  ⟨resType, if value ≠ resValueForAll then some value else none⟩

def valueCalls (resType : Nat) (plugin : BgtaskPlugin) (subscribes : Bool) :
    List (Subscription × Bool) :=
  (plugin.getPluginValue resType).map (fun value => (subscriptionOf resType value, subscribes))

def allCalls (asyncCbMap : KeyedMap Nat BgtaskPlugin) (subscribes : Bool) :
    List (Subscription × Bool) :=
  asyncCbMap.entries.flatMap (fun entry => valueCalls entry.1 entry.2 subscribes)

variable (platform : Platform) (env : PluginEnv) (self : BgtaskPluginMgr)

def registerAsyncPluginByValue (resType : Nat) (plugin : BgtaskPlugin) : BgtaskPluginMgr :=
  { self with
    subscriptionCalls := self.subscriptionCalls ++ valueCalls resType plugin true }

def init : BgtaskPluginMgr :=
  { self with
    pluginEnable := true
    adapters := self.asyncCbMap.entries.foldl (fun adapters entry =>
      adapters.init env entry.2.kind) self.adapters
    subscriptionCalls := self.subscriptionCalls ++ allCalls self.asyncCbMap true }

def disable : BgtaskPluginMgr :=
  { self with
    pluginEnable := false
    adapters := self.asyncCbMap.entries.foldl (fun adapters entry =>
      adapters.uninit entry.2.kind) self.adapters
    subscriptionCalls := self.subscriptionCalls ++ allCalls self.asyncCbMap false }

/-- The first plugin of a type stays.  One that comes while the plugin runs is subscribed at
once, and not initialised. -/
def registerAsyncPlugin (resType : Nat) (plugin : Option BgtaskPlugin) : BgtaskPluginMgr :=
  match plugin with
  | none => self
  | some plugin =>
      let registered :=
        if (self.asyncCbMap.lookup resType).isSome then self
        else if self.pluginEnable then self.registerAsyncPluginByValue resType plugin
        else self
      { registered with asyncCbMap := KeyedMap.emplace resType plugin self.asyncCbMap }

/-- The callback for a resource; its value is taken as 32 bits. -/
def callbackOf (resData : ResData) : Option Callback :=
  (self.asyncCbMap.lookup resData.resType).bind (fun plugin =>
    plugin.callback resData.resType (toInt32 resData.value))

/-- `DispatchResource` from the lock on. -/
def dispatchResource (resData : ResData) : BgtaskPluginMgr :=
  match self.callbackOf resData with
  | none => self
  | some callback =>
      { self with
        adapters :=
          self.adapters.invoke platform env resData.payload (toInt32 resData.value) callback }

def step (self : BgtaskPluginMgr) : PluginEnv × PluginOp → BgtaskPluginMgr
  | (env, .onPluginInit name) => if name ≠ libName then self else self.init env
  | (_, .onPluginDisable) => self.disable
  | (_, .registerAsyncPlugin resType plugin) => self.registerAsyncPlugin resType plugin
  | (_, .onDispatchResource resData) =>
      match resData with
      | none => self
      | some resData =>
          if !self.pluginEnable then self else { self with letIn := self.letIn ++ [resData] }
  | (env, .deliver index) =>
      match self.letIn[index]? with
      | none => self
      | some resData =>
          { self with letIn := self.letIn.eraseIdx index }.dispatchResource platform env resData

end BgtaskPluginMgr

end BgTaskMgr.Plugin
