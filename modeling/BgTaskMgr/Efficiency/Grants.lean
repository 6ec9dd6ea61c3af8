import BgTaskMgr.Efficiency.Mirror
import BgTaskMgr.Efficiency.Timeouts

/-!
# Bits that a step sets and reports

Bits are taken from a record by exclusive or, so a bit that is taken twice comes back.
This cannot happen while every unit that can time out still has its bit in the mask; a
restore that masks the number of a record and keeps such a unit breaks it.
-/

set_option autoImplicit false

namespace BgTaskMgr.Efficiency

open Bitmask StepSystem

/-! ## Units that can time out -/

/-- Every unit that is not persistent has its bit in the mask. -/
def TimedHeld (number : ResourceNumber) (units : List PersistTime) : Prop :=
  ∀ unit ∈ units, unit.isPersist = false → number.getLsbD unit.resourceIndex = true

section

variable {number : ResourceNumber} {units : List PersistTime}

theorem TimedHeld.timeOutBits (held : TimedHeld number units) (now : Int) :
    number &&& timeOutBits now units = timeOutBits now units := by
  rw [timeOutBits_eq]
  refine BitVec.eq_of_getLsbD_eq (fun i inBounds => ?_)
  rw [BitVec.getLsbD_and, getLsbD_maskOf _ inBounds]
  by_cases expired : i ∈ unitIndices (units.filter (PersistTime.isTimeOut now))
  · obtain ⟨unit, filtered, rfl⟩ := List.mem_map.mp expired
    obtain ⟨member, ended⟩ := List.mem_filter.mp filtered
    have notPersist : unit.isPersist = false := by
      simp only [PersistTime.isTimeOut, Bool.and_eq_true, Bool.not_eq_true'] at ended
      exact ended.1
    rw [held unit member notPersist]
    simp [expired]
  · simp [expired]

theorem TimedHeld.mono (held : TimedHeld number units) (more : ResourceNumber) :
    TimedHeld (number ||| more) units := by
  intro unit member notPersist
  rw [BitVec.getLsbD_or, held unit member notPersist, Bool.true_or]

theorem TimedHeld.and {mask : ResourceNumber} (held : TimedHeld number units)
    (inMask : TimedHeld mask units) : TimedHeld (number &&& mask) units := by
  intro unit member notPersist
  rw [BitVec.getLsbD_and, held unit member notPersist, inMask unit member notPersist,
    Bool.true_and]

theorem timedHeld_modifyUnit (resourceIndex : Nat) (now : Int)
    (resourceInfo : EfficiencyResourceInfo) (held : TimedHeld number units) :
    TimedHeld number (modifyUnit resourceIndex (PersistTime.extend now resourceInfo) units) := by
  induction units with
  | nil => exact held
  | cons first rest ih =>
      have restHeld : TimedHeld number rest :=
        fun unit member => held unit (List.mem_cons_of_mem first member)
      have firstHeld := held first (by simp)
      unfold modifyUnit
      split
      · intro unit member
        rcases List.mem_cons.mp member with rfl | later
        · intro notPersist
          have flags : first.isPersist = false ∧ resourceInfo.isPersist = false := by
            simpa [PersistTime.extend] using notPersist
          exact firstHeld flags.1
        · exact restHeld unit later
      · intro unit member
        rcases List.mem_cons.mp member with rfl | later
        · exact firstHeld
        · exact ih restHeld unit later

/-- One round of the loop, once the requested bits are in the mask. -/
theorem timedHeld_updateUnit (now : Int) (resourceInfo : EfficiencyResourceInfo)
    {requested : ResourceNumber} (granted : number &&& requested = requested)
    (held : TimedHeld number units) {resourceIndex : Nat}
    (known : resourceIndex < maxResourcesTypeNum) :
    TimedHeld number (updateUnit now resourceInfo requested units resourceIndex) := by
  have inside : resourceIndex < 32 := lt_of_lt_of_le known (by decide)
  unfold updateUnit
  split
  · exact held
  · rename_i asked
    split
    · exact timedHeld_modifyUnit resourceIndex now resourceInfo held
    · intro unit member
      rcases List.mem_append.mp member with old | new
      · exact held unit old
      · rw [List.mem_singleton.mp new]
        intro _
        rw [and_bit_eq_zero_iff inside, Bool.not_eq_false] at asked
        rw [← granted, BitVec.getLsbD_and, Bool.and_eq_true] at asked
        exact asked.1

theorem timedHeld_updateUnits (now : Int) (resourceInfo : EfficiencyResourceInfo)
    {requested : ResourceNumber} (granted : number &&& requested = requested)
    (held : TimedHeld number units) :
    TimedHeld number (updateUnits now resourceInfo requested units) := by
  have each : ∀ indices : List Nat, (∀ index ∈ indices, index < maxResourcesTypeNum) →
      ∀ units, TimedHeld number units →
        TimedHeld number (indices.foldl (updateUnit now resourceInfo requested) units) := by
    intro indices
    induction indices with
    | nil => exact fun _ _ held => held
    | cons index rest ih =>
        intro known units held
        exact ih (fun later member => known later (by simp [member])) _
          (timedHeld_updateUnit now resourceInfo granted held (known index (by simp)))
  exact each _ (fun index member => List.mem_range.mp member) units held

theorem timedHeld_removeListRecord {eraseBit : ResourceNumber} (held : TimedHeld number units)
    (subset : number &&& eraseBit = eraseBit) :
    TimedHeld (number ^^^ eraseBit) (removeListRecord eraseBit units) := by
  intro unit member notPersist
  obtain ⟨stored, clear⟩ := mem_removeListRecord.mp member
  have isSet := held unit stored notPersist
  have inside : unit.resourceIndex < 32 := BitVec.lt_of_getLsbD isSet
  rw [BitVec.and_comm, and_bit_eq_zero_iff inside] at clear
  rw [xor_eq_and_not subset, BitVec.getLsbD_and, isSet, BitVec.getLsbD_not, clear]
  simp [inside]

end

/-! ## Where the records of a step come from -/

namespace BgEfficiencyResourcesMgr

section

variable {self : BgEfficiencyResourcesMgr} {env : Env}

def erasedRecord (eraseBit : ResourceNumber) (held : ResourceApplicationRecord) :
    ResourceApplicationRecord :=
  { held with
    resourceNumber := held.resourceNumber ^^^ eraseBit
    resourceUnitList := removeListRecord eraseBit held.resourceUnitList }

/-- A record after a step that is no apply: an old one, or an old one less held bits. -/
inductive Descends (before : BgEfficiencyResourcesMgr) (isProcess : Bool) (key : Int)
    (record : ResourceApplicationRecord) : Prop where
  | kept (found : (before.infoMap isProcess).lookup key = some record)
  | erased {held : ResourceApplicationRecord} {eraseBit : ResourceNumber}
      (found : (before.infoMap isProcess).lookup key = some held)
      (subset : held.resourceNumber &&& eraseBit = eraseBit)
      (result : record = erasedRecord eraseBit held)

def Shrinks (before after : BgEfficiencyResourcesMgr) : Prop :=
  ∀ isProcess key record, (after.infoMap isProcess).lookup key = some record →
    Descends before isProcess key record

def Reports (before : BgEfficiencyResourcesMgr)
    (event : EfficiencyResourcesEventType × ResourceCallbackInfo) : Prop :=
  ∃ isProcess key held, event.1 = resetType isProcess ∧
    (before.infoMap isProcess).lookup key = some held ∧
    event.2.uid = held.uid ∧ event.2.pid = held.pid ∧
    held.resourceNumber &&& event.2.resourceNumber = event.2.resourceNumber

structure TakesHeld (before after : BgEfficiencyResourcesMgr) : Prop where
  records : Shrinks before after
  events : ∃ told, after.events = before.events ++ told ∧ ∀ event ∈ told, Reports before event

theorem TakesHeld.of_same {after : BgEfficiencyResourcesMgr}
    (maps : ∀ isProcess, after.infoMap isProcess = self.infoMap isProcess)
    (events : after.events = self.events) : TakesHeld self after := by
  refine ⟨fun isProcess key record found => ?_, [], by rw [events, List.append_nil], ?_⟩
  · rw [maps] at found
    exact .kept found
  · exact fun event member => absurd member List.not_mem_nil

theorem TakesHeld.refl (self : BgEfficiencyResourcesMgr) : TakesHeld self self :=
  .of_same (fun _ => rfl) rfl

theorem TakesHeld.then_same {middle after : BgEfficiencyResourcesMgr}
    (takes : TakesHeld self middle)
    (maps : ∀ isProcess, after.infoMap isProcess = middle.infoMap isProcess)
    (events : after.events = middle.events) : TakesHeld self after := by
  refine ⟨fun isProcess key record found => ?_, ?_⟩
  · rw [maps] at found
    exact takes.records isProcess key record found
  · rw [events]
    exact takes.events

theorem TakesHeld.then_refresh {middle : BgEfficiencyResourcesMgr} (takes : TakesHeld self middle) :
    TakesHeld self (middle.refreshResourceRecord env) :=
  takes.then_same (fun _ => infoMap_refreshResourceRecord _ _ env)
    (events_refreshResourceRecord _ env)

theorem OnlyPosts.takesHeld {after : BgEfficiencyResourcesMgr} (posts : OnlyPosts self after) :
    TakesHeld self after := by
  obtain ⟨posted, _, rfl⟩ := posts
  exact .of_same (fun _ => rfl) rfl

theorem takesHeld_eraseBits {isProcess : Bool} {mapKey : Int} {record : ResourceApplicationRecord}
    {eraseBit : ResourceNumber} (found : (self.infoMap isProcess).lookup mapKey = some record)
    (subset : record.resourceNumber &&& eraseBit = eraseBit) (cpuLevel : Int) :
    TakesHeld self (self.eraseBits isProcess mapKey record eraseBit cpuLevel) := by
  refine ⟨fun other key after afterFound => ?_, ?_⟩
  · rw [lookup_eraseBits found] at afterFound
    split at afterFound
    · rename_i here
      obtain ⟨rfl, rfl⟩ := here
      split at afterFound
      · cases afterFound
      · exact .erased found subset (Option.some.inj afterFound).symm
    · exact .kept afterFound
  · refine ⟨[(resetType isProcess,
      ⟨record.uid, record.pid, eraseBit, record.bundleName, cpuLevel⟩)], ?_, ?_⟩
    · simp only [eraseBits]
      split
      · rw [events_setInfoMap, events_onResourceChanged]
      · rw [events_setInfoMap, events_onResourceChanged]
    · intro event member
      rw [List.mem_singleton.mp member]
      exact ⟨isProcess, mapKey, record, rfl, found, rfl, rfl, subset⟩

theorem takesHeld_removeTargetResourceRecord (isProcess : Bool) (mapKey : Int)
    (callbackInfo : ResourceCallbackInfo) :
    TakesHeld self (self.removeTargetResourceRecord isProcess mapKey callbackInfo) := by
  unfold removeTargetResourceRecord
  dsimp only
  split
  · exact .refl self
  · rename_i record found
    split
    · exact .refl self
    · exact takesHeld_eraseBits found (and_and_self _ _) _

theorem takesHeld_resetEfficiencyResourcesInner (callbackInfo : ResourceCallbackInfo)
    (isProcess : Bool) :
    TakesHeld self (self.resetEfficiencyResourcesInner env callbackInfo isProcess) := by
  unfold resetEfficiencyResourcesInner
  refine TakesHeld.then_refresh ?_
  split
  · exact takesHeld_removeTargetResourceRecord true _ callbackInfo
  · have removed : TakesHeld self
        (self.removeTargetResourceRecord false callbackInfo.uid callbackInfo) :=
      takesHeld_removeTargetResourceRecord false callbackInfo.uid callbackInfo
    have relative : OnlyPosts (self.removeTargetResourceRecord false callbackInfo.uid callbackInfo)
        _ :=
      onlyPosts_removeRelativeProcessRecord env callbackInfo.uid callbackInfo.resourceNumber
    obtain ⟨posted, -, posts⟩ := relative
    rw [posts]
    exact removed.then_same (fun _ => rfl) rfl

theorem takesHeld_resetTimeOutResource {isProcess : Bool} {mapKey : Int}
    (timed : ∀ record, (self.infoMap isProcess).lookup mapKey = some record →
      TimedHeld record.resourceNumber record.resourceUnitList) :
    TakesHeld self (self.resetTimeOutResource env mapKey isProcess) := by
  unfold resetTimeOutResource
  split
  · exact .refl self
  · rename_i record found
    dsimp only
    split
    · exact .refl self
    · exact takesHeld_eraseBits found ((timed record found).timeOutBits env.now) _

def announced (isProcess : Bool) (record : ResourceApplicationRecord) :
    EfficiencyResourcesEventType × ResourceCallbackInfo :=
  (resetType isProcess,
    ⟨record.uid, record.pid, record.resourceNumber, record.bundleName, record.cpuLevel⟩)

theorem events_dumpResetMap (isProcess : Bool) : (self.dumpResetMap isProcess).events =
    self.events ++ (KeyedMap.vals (self.infoMap isProcess)).map (announced isProcess) := by
  unfold dumpResetMap
  rw [events_setInfoMap]
  generalize KeyedMap.vals (self.infoMap isProcess) = records
  induction records generalizing self with
  | nil => simp
  | cons record rest ih =>
      rw [List.foldl_cons, ih, announceReset, events_onResourceChanged, List.append_assoc]
      rfl

theorem infoMap_dumpResetMap (isProcess other : Bool) : (self.dumpResetMap isProcess).infoMap other =
    if other = isProcess then ∅ else self.infoMap other := by
  unfold dumpResetMap
  rw [infoMap_setInfoMap, infoMap_announceReset]

theorem reports_announced {isProcess : Bool}
    {event : EfficiencyResourcesEventType × ResourceCallbackInfo}
    (member : event ∈ (KeyedMap.vals (self.infoMap isProcess)).map (announced isProcess)) :
    Reports self event := by
  obtain ⟨record, stored, rfl⟩ := List.mem_map.mp member
  obtain ⟨key, found⟩ := KeyedMap.mem_vals.mp stored
  exact ⟨isProcess, key, record, rfl, found, rfl, rfl, BitVec.and_self⟩

/-- The process map is as it was when the app map is gone. -/
theorem takesHeld_dumpResetBoth : TakesHeld self ((self.dumpResetMap false).dumpResetMap true) := by
  have processes : (self.dumpResetMap false).infoMap true = self.infoMap true := by
    rw [infoMap_dumpResetMap, if_neg (by simp)]
  refine ⟨fun isProcess key record found => ?_,
    (KeyedMap.vals (self.infoMap false)).map (announced false) ++
      (KeyedMap.vals (self.infoMap true)).map (announced true), ?_, ?_⟩
  · rw [infoMap_dumpResetMap, infoMap_dumpResetMap] at found
    cases isProcess with
    | true =>
        rw [if_pos rfl] at found
        cases found
    | false =>
        rw [if_neg (by simp), if_pos rfl] at found
        cases found
  · rw [events_dumpResetMap, events_dumpResetMap, processes, List.append_assoc]
  · intro event member
    rcases List.mem_append.mp member with early | late
    · exact reports_announced early
    · exact reports_announced late

theorem takesHeld_shellDump (dumpOption : DumpOption) :
    TakesHeld self (self.shellDump env dumpOption) := by
  unfold shellDump
  split
  · exact .refl self
  · refine TakesHeld.then_refresh ?_
    split
    · exact takesHeld_dumpResetBoth
    · unfold dumpResetOne
      split
      · exact .refl self
      · exact takesHeld_removeTargetResourceRecord _ _ _
    · exact .refl self
    · exact .refl self

/-! ## Restores -/

theorem lookup_onAddSystemAbility {ability : DependedAbility} {isProcess : Bool} {key : Int}
    {record : ResourceApplicationRecord}
    (found : ((self.onAddSystemAbility env ability).infoMap isProcess).lookup key = some record) :
    (self.infoMap isProcess).lookup key = some record ∨
      Restores self env ability ∧
        ∃ held, ((self.restoreResourceRecord env).infoMap isProcess).lookup key = some held ∧
          outlivesCheck env isProcess key held = true ∧
          record = recoveredRecord env isProcess held := by
  unfold onAddSystemAbility at found
  dsimp only at found
  split at found
  · rename_i allUp
    unfold initNecessaryState at found
    split at found
    · exact Or.inl found
    · rename_i notReady
      have restores : ∀ connected : self.appMgrClient = true ∨ env.connectAppMgr = true,
          Restores self env ability :=
        fun connected => ⟨Bool.eq_false_iff.mpr notReady, allUp, connected⟩
      have handled : ((handlePersistenceData env
          { self with dependsReady := self.dependsReady.insert ability }).infoMap
            isProcess).lookup key = some record := found
      unfold handlePersistenceData at handled
      split at handled
      · dsimp only at handled
        split at handled
        · rw [infoMap_refreshResourceRecord] at handled
          exact Or.inl handled
        · rename_i reached
          have connected : env.connectAppMgr = true := by simpa using reached
          have restored := lookup_restoreData handled
          rw [infoMap_restoreResourceRecord_flags] at restored
          exact Or.inr ⟨restores (Or.inr connected), restored⟩
      · rename_i client
        have known : self.appMgrClient = true := by simpa using client
        have restored := lookup_restoreData handled
        have same : (restoreResourceRecord env { self with
            dependsReady := self.dependsReady.insert ability }).infoMap isProcess =
              (self.restoreResourceRecord env).infoMap isProcess :=
          infoMap_restoreResourceRecord_flags _ self.appMgrClient isProcess
        rw [same] at restored
        exact Or.inr ⟨restores (Or.inl known), restored⟩
  · exact Or.inl found

theorem events_restoreResourceRecord :
    (self.restoreResourceRecord env).events = self.events := by
  unfold restoreResourceRecord
  split
  · rfl
  · rfl

theorem events_restoreData : (self.restoreData env).events = self.events := by
  unfold restoreData
  rw [events_refreshResourceRecord]
  have restored : (self.restoreResourceRecord env).events = self.events :=
    events_restoreResourceRecord
  refine Eq.trans ?_ restored
  change (((self.restoreResourceRecord env).checkPersistenceData env).recoverResourceNumber
    env).events = _
  unfold recoverResourceNumber
  split
  · rfl
  · rfl

theorem events_onAddSystemAbility (ability : DependedAbility) :
    (self.onAddSystemAbility env ability).events = self.events := by
  unfold onAddSystemAbility
  dsimp only
  split
  · unfold initNecessaryState
    split
    · rfl
    · change (handlePersistenceData env
        { self with dependsReady := self.dependsReady.insert ability }).events = self.events
      unfold handlePersistenceData
      split
      · dsimp only
        split
        · rw [events_refreshResourceRecord]
        · rw [events_restoreData]
      · rw [events_restoreData]
  · rfl

/-- The file after a restore is that before it, or what is in memory then. -/
theorem fileFollows_onAddSystemAbility (ability : DependedAbility) :
    FileFollows self (self.onAddSystemAbility env ability) := by
  unfold onAddSystemAbility
  dsimp only
  split
  · unfold initNecessaryState
    split
    · exact Or.inl rfl
    · have restored : ∀ mgr : BgEfficiencyResourcesMgr, FileFollows mgr (mgr.restoreData env) := by
        intro mgr
        have same : (((((mgr.restoreResourceRecord env).checkPersistenceData
            env).recoverResourceNumber env).recoverDelayedTask env true).recoverDelayedTask env
              false).file = mgr.file := by
          unfold recoverDelayedTask recoverResourceNumber restoreResourceRecord
          split
          · split
            · rfl
            · rfl
          · split
            · rfl
            · rfl
        exact fileFollows_refreshResourceRecord same env
      have handled : FileFollows { self with dependsReady := self.dependsReady.insert ability }
          (handlePersistenceData env
            { self with dependsReady := self.dependsReady.insert ability }) := by
        unfold handlePersistenceData
        split
        · dsimp only
          split
          · exact fileFollows_refreshResourceRecord rfl env
          · exact restored _
        · exact restored _
      exact handled
  · exact Or.inl rfl

/-! ## Runs -/

def Applies (mgr : BgEfficiencyResourcesMgr) (label : Env × ServiceOp) : Prop :=
  ∃ env index callbackInfo resourceInfo due, label = (env, .resource (.runPending index)) ∧
    mgr.pending[index]? = some (.applyEfficiencyResourcesInner callbackInfo resourceInfo, due)

/-- The record under the key before the step; a recovery takes it from the file when memory
has none. -/
def recordBefore (mgr : BgEfficiencyResourcesMgr) (label : Env × ServiceOp) (isProcess : Bool)
    (key : Int) : Option ResourceApplicationRecord :=
  match label with
  | (env, .addSystemAbility _) => ((mgr.restoreResourceRecord env).infoMap isProcess).lookup key
  | _ => (mgr.infoMap isProcess).lookup key

def SetsNoBit (mgr : BgEfficiencyResourcesMgr) (label : Env × ServiceOp) : Prop :=
  ∀ isProcess key record, ((mgr.step label).infoMap isProcess).lookup key = some record →
    ∃ held, recordBefore mgr label isProcess key = some held ∧
      held.resourceNumber &&& record.resourceNumber = record.resourceNumber

def ReportsHeld (mgr : BgEfficiencyResourcesMgr) (label : Env × ServiceOp) : Prop :=
  ∀ event ∈ (mgr.step label).events.drop mgr.events.length, ∀ isProcess,
    event.1 = resetType isProcess → ∃ key held, (mgr.infoMap isProcess).lookup key = some held ∧
      event.2.uid = held.uid ∧ event.2.pid = held.pid ∧
      held.resourceNumber &&& event.2.resourceNumber = event.2.resourceNumber

/-- Only an apply sets bits, and only held bits are reported as reset. -/
def GrantsByApply (mgr : BgEfficiencyResourcesMgr) (label : Env × ServiceOp) : Prop :=
  (¬ Applies mgr label → SetsNoBit mgr label) ∧ ReportsHeld mgr label

/-- A recovery masks no record that has a unit with a time out of a resource it takes
away. -/
def MasksNoTimedUnit (mgr : BgEfficiencyResourcesMgr) : Env × ServiceOp → Prop
  | (env, .addSystemAbility ability) => Restores mgr env ability →
      env.systemUpDurationMs > systemUpMaxDurationMs ∨
        ∀ uid record, (mgr.restoreResourceRecord env).appResourceApplyMap.lookup uid =
          some record → survivesCheck env uid record = true →
            TimedHeld workSchedulerAndTimerResourceNumber record.resourceUnitList
  | _ => True

structure AllTimedHeld (mgr : BgEfficiencyResourcesMgr) : Prop where
  maps : ∀ isProcess key record, (mgr.infoMap isProcess).lookup key = some record →
    TimedHeld record.resourceNumber record.resourceUnitList
  fileApp : ∀ key record, mgr.file.appResourceRecord.lookup key = some record →
    TimedHeld record.resourceNumber record.resourceUnitList
  fileProcess : ∀ key record, mgr.file.processResourceRecord.lookup key = some record →
    TimedHeld record.resourceNumber record.resourceUnitList

theorem timedHeld_of_descends {before : BgEfficiencyResourcesMgr} {isProcess : Bool} {key : Int}
    {record : ResourceApplicationRecord} (held : AllTimedHeld before)
    (descends : Descends before isProcess key record) :
    TimedHeld record.resourceNumber record.resourceUnitList := by
  cases descends with
  | kept found => exact held.maps isProcess key record found
  | erased found subset result =>
      rw [result]
      exact timedHeld_removeListRecord (held.maps isProcess key _ found) subset

theorem AllTimedHeld.of_maps {after : BgEfficiencyResourcesMgr} (held : AllTimedHeld self)
    (follows : FileFollows self after)
    (maps : ∀ isProcess key record, (after.infoMap isProcess).lookup key = some record →
      TimedHeld record.resourceNumber record.resourceUnitList) : AllTimedHeld after := by
  rcases follows with same | written
  · refine ⟨maps, ?_, ?_⟩
    · rw [same]
      exact held.fileApp
    · rw [same]
      exact held.fileProcess
  · refine ⟨maps, ?_, ?_⟩
    · rw [written]
      exact maps false
    · rw [written]
      exact maps true

theorem timedHeld_restoreResourceRecord (held : AllTimedHeld self) {isProcess : Bool} {key : Int}
    {record : ResourceApplicationRecord}
    (found : ((self.restoreResourceRecord env).infoMap isProcess).lookup key = some record) :
    TimedHeld record.resourceNumber record.resourceUnitList := by
  unfold restoreResourceRecord at found
  split at found
  · cases isProcess with
    | false =>
        rcases AList.lookup_union_eq_some.mp found with inMemory | ⟨-, stored⟩
        · exact held.maps false key record inMemory
        · exact held.fileApp key record stored
    | true =>
        rcases AList.lookup_union_eq_some.mp found with inMemory | ⟨-, stored⟩
        · exact held.maps true key record inMemory
        · exact held.fileProcess key record stored
  · exact held.maps isProcess key record found

theorem allTimedHeld_onAddSystemAbility (held : AllTimedHeld self) {ability : DependedAbility}
    (masks : MasksNoTimedUnit self (env, .addSystemAbility ability)) :
    AllTimedHeld (self.onAddSystemAbility env ability) := by
  refine held.of_maps (fileFollows_onAddSystemAbility ability) ?_
  intro isProcess key record found
  rcases lookup_onAddSystemAbility found with kept | ⟨restores, stored, storedFound, outlives, rfl⟩
  · exact held.maps isProcess key record kept
  · have storedHeld := timedHeld_restoreResourceRecord held storedFound
    unfold recoveredRecord
    split
    · exact storedHeld
    · rename_i early
      rw [not_or] at early
      cases isProcess with
      | true => exact absurd rfl early.1
      | false =>
          have inMask := (masks restores).resolve_left early.2 key stored storedFound outlives
          exact storedHeld.and inMask

theorem timedHeld_appliedRecord (callbackInfo : ResourceCallbackInfo)
    (resourceInfo : EfficiencyResourceInfo) {found : Option ResourceApplicationRecord}
    (held : ∀ record, found = some record →
      TimedHeld record.resourceNumber record.resourceUnitList) :
    TimedHeld (appliedRecord env callbackInfo resourceInfo found).resourceNumber
      (appliedRecord env callbackInfo resourceInfo found).resourceUnitList := by
  cases found with
  | none =>
      refine timedHeld_updateUnits env.now resourceInfo BitVec.and_self ?_
      exact fun unit member => absurd member List.not_mem_nil
  | some record =>
      refine timedHeld_updateUnits env.now resourceInfo ?_
        ((held record rfl).mono callbackInfo.resourceNumber)
      change (record.resourceNumber ||| callbackInfo.resourceNumber) &&&
        callbackInfo.resourceNumber = callbackInfo.resourceNumber
      rw [BitVec.or_comm, BitVec.and_comm]
      exact and_or_self _ _

theorem allTimedHeld_applyEfficiencyResourcesInner (held : AllTimedHeld self)
    (callbackInfo : ResourceCallbackInfo) (resourceInfo : EfficiencyResourceInfo) :
    AllTimedHeld (self.applyEfficiencyResourcesInner env callbackInfo resourceInfo) := by
  refine held.of_maps (fileFollows_runTask env
    (.applyEfficiencyResourcesInner callbackInfo resourceInfo)) ?_
  intro isProcess key record found
  obtain ⟨cpuLevel, lookups⟩ := exists_lookup_applied self env callbackInfo resourceInfo
  rw [lookups] at found
  split at found
  · cases Option.some.inj found
    exact timedHeld_appliedRecord callbackInfo resourceInfo (held.maps _ _)
  · exact held.maps isProcess key record found

/-- A step on a running service that is no apply takes away held bits. -/
theorem takesHeld_resourceStep (held : AllTimedHeld self) {op : ResourceOp}
    (other : ¬ Applies self (env, .resource op)) : TakesHeld self (self.resourceStep (env, op)) := by
  cases op with
  | applyEfficiencyResources uid pid resourceInfo =>
      exact (onlyPosts_applyEfficiencyResources env uid pid resourceInfo).takesHeld
  | resetAllEfficiencyResources uid pid =>
      exact (onlyPosts_resetAllEfficiencyResources env uid pid).takesHeld
  | removeAppRecord uid bundleName resetAll =>
      exact (onlyPosts_removeAppRecord env uid bundleName resetAll).takesHeld
  | removeProcessRecord uid pid bundleName =>
      exact (onlyPosts_removeProcessRecord env uid pid bundleName).takesHeld
  | shellDump dumpOption => exact takesHeld_shellDump dumpOption
  | runPending index =>
      simp only [resourceStep]
      split
      · exact .refl self
      · rename_i task due taken
        let popped := { self with pending := self.pending.eraseIdx index }
        have fromPopped : ∀ {after : BgEfficiencyResourcesMgr}, TakesHeld popped after →
            TakesHeld self after := by
          intro after takes
          refine ⟨fun isProcess key record found => ?_, takes.events⟩
          cases takes.records isProcess key record found with
          | kept kept => exact .kept kept
          | erased erased subset result => exact .erased erased subset result
        cases task with
        | applyEfficiencyResourcesInner callbackInfo resourceInfo =>
            exact absurd ⟨env, index, callbackInfo, resourceInfo, due, rfl, taken⟩ other
        | resetEfficiencyResourcesInner callbackInfo isProcess =>
            exact fromPopped (takesHeld_resetEfficiencyResourcesInner callbackInfo isProcess)
        | resetTimeOutResource mapKey isProcess =>
            exact fromPopped (takesHeld_resetTimeOutResource
              (fun record found => held.maps isProcess mapKey record found))

theorem allTimedHeld_step (held : AllTimedHeld self) (label : Env × ServiceOp)
    (masks : MasksNoTimedUnit self label) : AllTimedHeld (self.step label) := by
  obtain ⟨env, op⟩ := label
  cases op with
  | resource op =>
      by_cases applies : Applies self (env, .resource op)
      · obtain ⟨at_, index, callbackInfo, resourceInfo, due, same, taken⟩ := applies
        obtain ⟨rfl, sameOp⟩ := Prod.mk.inj same
        cases sameOp
        have popped : AllTimedHeld { self with pending := self.pending.eraseIdx index } :=
          ⟨held.maps, held.fileApp, held.fileProcess⟩
        simp only [step, resourceStep]
        rw [taken]
        exact allTimedHeld_applyEfficiencyResourcesInner popped callbackInfo resourceInfo
      · refine held.of_maps (fileFollows_resourceStep (env, op)) ?_
        intro isProcess key record found
        exact timedHeld_of_descends held
          ((takesHeld_resourceStep held applies).records isProcess key record found)
  | addSystemAbility ability => exact allTimedHeld_onAddSystemAbility held masks
  | removeSystemAbility ability =>
      simp only [step, onRemoveSystemAbility]
      split
      · exact ⟨held.maps, held.fileApp, held.fileProcess⟩
      · exact ⟨held.maps, held.fileApp, held.fileProcess⟩
  | restart =>
      refine ⟨fun isProcess key record found => ?_, held.fileApp, held.fileProcess⟩
      cases isProcess with
      | false => cases found
      | true => cases found

theorem allTimedHeld_init : AllTimedHeld {} := by
  refine ⟨fun isProcess key record found => ?_, fun _ _ found => ?_, fun _ _ found => ?_⟩
  · cases isProcess with
    | false => cases found
    | true => cases found
  · cases found
  · cases found

theorem subset_of_descends {isProcess : Bool} {key : Int} {record : ResourceApplicationRecord}
    (descends : Descends self isProcess key record) :
    ∃ held, (self.infoMap isProcess).lookup key = some held ∧
      held.resourceNumber &&& record.resourceNumber = record.resourceNumber := by
  cases descends with
  | kept found => exact ⟨record, found, BitVec.and_self⟩
  | @erased held eraseBit found subset result =>
      refine ⟨held, found, ?_⟩
      rw [result]
      change held.resourceNumber &&& (held.resourceNumber ^^^ eraseBit) =
        held.resourceNumber ^^^ eraseBit
      rw [xor_eq_and_not subset]
      exact and_and_self _ _

theorem setsNoBit_of_takesHeld {label : Env × ServiceOp} (takes : TakesHeld self (self.step label))
    (fromMemory : ∀ isProcess key,
      recordBefore self label isProcess key = (self.infoMap isProcess).lookup key) :
    SetsNoBit self label := by
  intro isProcess key record found
  rw [fromMemory]
  exact subset_of_descends (takes.records isProcess key record found)

theorem reportsHeld_of_takesHeld {label : Env × ServiceOp}
    (takes : TakesHeld self (self.step label)) : ReportsHeld self label := by
  obtain ⟨told, events, reports⟩ := takes.events
  intro event member isProcess isReset
  rw [events, List.drop_left] at member
  obtain ⟨reset, key, held, type, found, uid, pid, subset⟩ := reports event member
  have sameMap : reset = isProcess := by
    rw [isReset] at type
    revert type
    cases reset <;> cases isProcess <;> decide
  subst sameMap
  exact ⟨key, held, found, uid, pid, subset⟩

theorem applyType_ne_resetType (isProcess other : Bool) :
    applyType isProcess ≠ resetType other := by
  cases isProcess <;> cases other <;> decide

theorem reportsHeld_of_applies {label : Env × ServiceOp} (applies : Applies self label) :
    ReportsHeld self label := by
  obtain ⟨env, index, callbackInfo, resourceInfo, due, rfl, taken⟩ := applies
  intro event member isProcess isReset
  simp only [step, resourceStep] at member
  rw [taken] at member
  simp only [runTask, applyEfficiencyResourcesInner] at member
  split at member
  · rw [events_refreshResourceRecord, events_setInfoMap, events_postTimeOut, List.drop_length]
      at member
    cases member
  · rw [events_refreshResourceRecord, events_setInfoMap, events_onResourceChanged,
      events_postTimeOut, List.drop_left] at member
    rw [List.mem_singleton.mp member] at isReset
    exact absurd isReset (applyType_ne_resetType _ _)

/-- A record that comes back has no more bits than it has in memory or in the file. -/
theorem setsNoBit_onAddSystemAbility (ability : DependedAbility) :
    SetsNoBit self (env, .addSystemAbility ability) := by
  intro isProcess key record found
  rcases lookup_onAddSystemAbility found with kept | ⟨-, stored, storedFound, -, rfl⟩
  · refine ⟨record, ?_, BitVec.and_self⟩
    change ((self.restoreResourceRecord env).infoMap isProcess).lookup key = some record
    unfold restoreResourceRecord
    split
    · cases isProcess with
      | false => exact AList.lookup_union_eq_some.mpr (Or.inl kept)
      | true => exact AList.lookup_union_eq_some.mpr (Or.inl kept)
    · exact kept
  · refine ⟨stored, storedFound, ?_⟩
    rw [BitVec.and_comm]
    exact (restoredFrom_recoveredRecord isProcess stored).2

theorem grantsByApply_step (held : AllTimedHeld self) (label : Env × ServiceOp) :
    GrantsByApply self label := by
  obtain ⟨env, op⟩ := label
  cases op with
  | resource op =>
      by_cases applies : Applies self (env, .resource op)
      · exact ⟨fun other => absurd applies other, reportsHeld_of_applies applies⟩
      · have takes := takesHeld_resourceStep held applies
        exact ⟨fun _ => setsNoBit_of_takesHeld takes (fun _ _ => rfl),
          reportsHeld_of_takesHeld takes⟩
  | addSystemAbility ability =>
      refine ⟨fun _ => setsNoBit_onAddSystemAbility ability, ?_⟩
      intro event member
      change event ∈ (self.onAddSystemAbility env ability).events.drop self.events.length at member
      rw [events_onAddSystemAbility, List.drop_length] at member
      cases member
  | removeSystemAbility ability =>
      have same : TakesHeld self (self.step (env, .removeSystemAbility ability)) := by
        simp only [step, onRemoveSystemAbility]
        split
        · exact .of_same (fun _ => rfl) rfl
        · exact .of_same (fun _ => rfl) rfl
      exact ⟨fun _ => setsNoBit_of_takesHeld same (fun _ _ => rfl), reportsHeld_of_takesHeld same⟩
  | restart =>
      refine ⟨fun _ isProcess key record found => ?_, fun event member => ?_⟩
      · cases isProcess with
        | false => cases found
        | true => cases found
      · rw [show (self.step (env, .restart)).events = [] from rfl, List.drop_nil] at member
        cases member

end

/-- In a run whose recoveries mask no record under a unit with a time out, only an apply
sets bits of a record, and every reported reset is of bits the record had. -/
theorem granted_only_by_apply (labels : List (Env × ServiceOp))
    (masks : Admissible step MasksNoTimedUnit {} labels) :
    Admissible step GrantsByApply {} labels := by
  have holds : ∀ (mgr : BgEfficiencyResourcesMgr) (label : Env × ServiceOp),
      AllTimedHeld mgr → GrantsByApply mgr label :=
    fun mgr label held => grantsByApply_step held label
  refine admissible_of_invariant holds ?_ labels {} allTimedHeld_init masks
  exact fun mgr label held masks => allTimedHeld_step held label masks

instance (number : ResourceNumber) (units : List PersistTime) : Decidable (TimedHeld number units) :=
  inferInstanceAs (Decidable (∀ unit ∈ units, unit.isPersist = false →
    number.getLsbD unit.resourceIndex = true))

instance (mgr : BgEfficiencyResourcesMgr) (label : Env × ServiceOp) :
    Decidable (MasksNoTimedUnit mgr label) :=
  match label with
  | (env, .addSystemAbility _) =>
      have : Decidable (∀ uid record,
          (mgr.restoreResourceRecord env).appResourceApplyMap.lookup uid = some record →
            survivesCheck env uid record = true →
              TimedHeld workSchedulerAndTimerResourceNumber record.resourceUnitList) :=
        decidable_of_iff (∀ entry ∈ (mgr.restoreResourceRecord env).appResourceApplyMap.entries,
            survivesCheck env entry.1 entry.2 = true →
              TimedHeld workSchedulerAndTimerResourceNumber entry.2.resourceUnitList)
          ⟨fun each uid record found => each ⟨uid, record⟩ (KeyedMap.mem_entries_iff.mpr found),
            fun each entry member => each entry.1 entry.2 (KeyedMap.mem_entries_iff.mp member)⟩
      inferInstanceAs (Decidable (_ → _ ∨ _))
  | (_, .resource _) => isTrue trivial
  | (_, .removeSystemAbility _) => isTrue trivial
  | (_, .restart) => isTrue trivial

/-- Uid 100 holds `kept` for good and `timed` for a second when the service restarts early
after boot; the recovered timeout task runs last. -/
def earlyRestartLabels (kept timed : ResourceNumber) : List (Env × ServiceOp) :=
  bootLabels 1000 100000 ++
    [(quietEnv 2000 101000, .resource (.applyEfficiencyResources 100 200
        { resourceNumber := kept, isApply := true, timeOut := 0, reason := "sync"
          isPersist := true })),
      runAt 2000 0,
      (quietEnv 2000 101000, .resource (.applyEfficiencyResources 100 200
        { resourceNumber := timed, isApply := true, timeOut := 1000, reason := "sync" })),
      runAt 2000 0, (quietEnv 2100 101100, .restart)] ++ bootLabels 2500 200000

/-- The CPU is masked under its persistent unit, and the timer times out. -/
theorem granted_only_by_apply_early_restart :
    Admissible step GrantsByApply {}
      (earlyRestartLabels ResourceType.cpu ResourceType.timer ++ [runAt 3000 0]) :=
  granted_only_by_apply _ (by decide)

/-- The CPU is masked under its unit with a time out, and comes back with the time out. -/
theorem timed_out_bit_comes_back :
    ¬ Admissible step GrantsByApply {}
      (earlyRestartLabels ResourceType.timer ResourceType.cpu ++ [runAt 3000 0]) := by
  intro admissible
  have last := admissible.last.1
  have taken : (run step {} (earlyRestartLabels ResourceType.timer ResourceType.cpu)).pending[0]? =
      some (.resetTimeOutResource 100 false, 3000) := by decide
  have noApply : ¬ Applies (run step {} (earlyRestartLabels ResourceType.timer ResourceType.cpu))
      (runAt 3000 0) := by
    rintro ⟨env, index, callbackInfo, resourceInfo, due, same, isApply⟩
    cases same
    rw [taken] at isApply
    cases isApply
  have after : ((((run step {} (earlyRestartLabels ResourceType.timer ResourceType.cpu)).step
      (runAt 3000 0)).infoMap false).lookup 100).map (fun record => record.resourceNumber) =
        some (ResourceType.timer ||| ResourceType.cpu) := by decide
  have before : (recordBefore (run step {} (earlyRestartLabels ResourceType.timer
      ResourceType.cpu)) (runAt 3000 0) false 100).map (fun record => record.resourceNumber) =
        some ResourceType.timer := by decide
  obtain ⟨record, recordFound, number⟩ := Option.map_eq_some_iff.mp after
  obtain ⟨held, found, subset⟩ := last noApply false 100 record recordFound
  rw [found, Option.map_some] at before
  rw [Option.some.inj before, number] at subset
  revert subset
  decide

end BgEfficiencyResourcesMgr

end BgTaskMgr.Efficiency
