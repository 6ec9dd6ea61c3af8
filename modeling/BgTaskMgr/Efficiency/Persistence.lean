import BgTaskMgr.Efficiency.Representation

/-!
# The record file and memory

Every handler task that changes a record refreshes the file, except the timeout task.
The file therefore follows memory as long as no timeout task finds a unit whose time is
up, and a restart then restores nothing that memory had given up.
-/

set_option autoImplicit false

namespace BgTaskMgr.Efficiency

open Bitmask StepSystem

namespace BgEfficiencyResourcesMgr

def FileCurrent (mgr : BgEfficiencyResourcesMgr) : Prop :=
  mgr.file = ⟨mgr.appResourceApplyMap, mgr.procResourceApplyMap⟩

/-- `record` is `held` as it stands, at most with fewer bits in its mask. -/
def RestoredFrom (record held : ResourceApplicationRecord) : Prop :=
  record.resourceUnitList = held.resourceUnitList ∧
    record.resourceNumber &&& held.resourceNumber = record.resourceNumber

/-- A process started now restores records only that are in memory, and of these only
the units that they still hold. -/
def RestartRestoresHeld (mgr : BgEfficiencyResourcesMgr) : Prop :=
  ∀ (env : Env) (isProcess : Bool) (key : Int) (record : ResourceApplicationRecord),
    ((handlePersistenceData env { file := mgr.file }).infoMap isProcess).lookup key = some record →
      ∃ held, (mgr.infoMap isProcess).lookup key = some held ∧ RestoredFrom record held

/-- The step is a handler task that runs, a dump of a ready service included. -/
def CompletesTask (mgr : BgEfficiencyResourcesMgr) : Env × ServiceOp → Prop
  | (_, .resource (.runPending index)) => index < mgr.pending.length
  | (_, .resource (.shellDump _)) => mgr.isSysReady = true
  | _ => False

/-- The task takes units from a record because their time is up. -/
def ErasesTimeOut (env : Env) (mgr : BgEfficiencyResourcesMgr) : HandlerTask → Prop
  | .resetTimeOutResource mapKey isProcess => ∃ record,
      (mgr.infoMap isProcess).lookup mapKey = some record ∧
        timeOutBits env.now record.resourceUnitList ≠ 0#32
  | _ => False

def NothingTimesOut (mgr : BgEfficiencyResourcesMgr) : Env × ServiceOp → Prop
  | (env, .resource (.runPending index)) =>
      ∀ entry, mgr.pending[index]? = some entry → ¬ ErasesTimeOut env mgr entry.1
  | _ => True

instance (env : Env) (mgr : BgEfficiencyResourcesMgr) (task : HandlerTask) :
    Decidable (ErasesTimeOut env mgr task) :=
  match task with
  | .resetTimeOutResource mapKey isProcess =>
      inferInstanceAs (Decidable (∃ record ∈ (mgr.infoMap isProcess).lookup mapKey,
        timeOutBits env.now record.resourceUnitList ≠ 0#32))
  | .applyEfficiencyResourcesInner _ _ => isFalse id
  | .resetEfficiencyResourcesInner _ _ => isFalse id

instance (mgr : BgEfficiencyResourcesMgr) (label : Env × ServiceOp) :
    Decidable (NothingTimesOut mgr label) :=
  match label with
  | (env, .resource (.runPending index)) =>
      inferInstanceAs (Decidable (∀ entry ∈ mgr.pending[index]?, ¬ ErasesTimeOut env mgr entry.1))
  | (_, .resource (.applyEfficiencyResources _ _ _)) => isTrue trivial
  | (_, .resource (.resetAllEfficiencyResources _ _)) => isTrue trivial
  | (_, .resource (.removeAppRecord _ _ _)) => isTrue trivial
  | (_, .resource (.removeProcessRecord _ _ _)) => isTrue trivial
  | (_, .resource (.shellDump _)) => isTrue trivial
  | (_, .addSystemAbility _) => isTrue trivial
  | (_, .removeSystemAbility _) => isTrue trivial
  | (_, .restart) => isTrue trivial

/-! ## What a restart restores -/

section

variable {self : BgEfficiencyResourcesMgr} {env : Env}

def outlivesCheck (env : Env) (isProcess : Bool) (key : Int)
    (record : ResourceApplicationRecord) : Bool :=
  if isProcess then key ∈ env.allRunningProcesses.map Prod.snd else survivesCheck env key record

theorem restoredFrom_refl (record : ResourceApplicationRecord) : RestoredFrom record record :=
  ⟨rfl, BitVec.and_self⟩

def recoveredRecord (env : Env) (isProcess : Bool) (held : ResourceApplicationRecord) :
    ResourceApplicationRecord :=
  if isProcess = true ∨ env.systemUpDurationMs > systemUpMaxDurationMs then held
  else { held with
    resourceNumber := held.resourceNumber &&& workSchedulerAndTimerResourceNumber }

theorem restoredFrom_recoveredRecord (isProcess : Bool) (held : ResourceApplicationRecord) :
    RestoredFrom (recoveredRecord env isProcess held) held := by
  unfold recoveredRecord
  split
  · exact restoredFrom_refl held
  · refine ⟨rfl, ?_⟩
    dsimp only
    rw [BitVec.and_assoc, BitVec.and_comm workSchedulerAndTimerResourceNumber,
      ← BitVec.and_assoc, BitVec.and_self]

theorem lookup_restoreData {isProcess : Bool} {key : Int} {record : ResourceApplicationRecord}
    (found : ((self.restoreData env).infoMap isProcess).lookup key = some record) :
    ∃ held, ((self.restoreResourceRecord env).infoMap isProcess).lookup key = some held ∧
      outlivesCheck env isProcess key held = true ∧
      record = recoveredRecord env isProcess held := by
  unfold restoreData at found
  rw [infoMap_refreshResourceRecord] at found
  generalize self.restoreResourceRecord env = restored at found ⊢
  have recovered : (((restored.checkPersistenceData env).recoverResourceNumber env).infoMap
      isProcess).lookup key = some record := found
  have checked : ∃ held, ((restored.checkPersistenceData env).infoMap isProcess).lookup key =
      some held ∧ record = recoveredRecord env isProcess held := by
    unfold recoverResourceNumber at recovered
    split at recovered
    · rename_i late
      exact ⟨record, recovered, (if_pos (Or.inr late)).symm⟩
    · rename_i early
      cases isProcess with
      | true => exact ⟨record, recovered, (if_pos (Or.inl rfl)).symm⟩
      | false =>
          have masked : (KeyedMap.mapVal (fun _ record => { record with
              resourceNumber := record.resourceNumber &&& workSchedulerAndTimerResourceNumber })
                (restored.checkPersistenceData env).appResourceApplyMap).lookup key =
              some record := recovered
          rw [KeyedMap.lookup_mapVal] at masked
          obtain ⟨held, heldFound, rfl⟩ := Option.map_eq_some_iff.mp masked
          exact ⟨held, heldFound, (if_neg (by simpa using early)).symm⟩
  obtain ⟨held, kept, same⟩ := checked
  cases isProcess with
  | true =>
      have running : (KeyedMap.filterVal
          (fun pid _ => decide (pid ∈ env.allRunningProcesses.map Prod.snd))
            restored.procResourceApplyMap).lookup key = some held := kept
      rw [KeyedMap.lookup_filterVal, Option.filter_eq_some_iff] at running
      exact ⟨held, running.1, running.2, same⟩
  | false =>
      have survives : (KeyedMap.filterVal (survivesCheck env)
          restored.appResourceApplyMap).lookup key = some held := kept
      rw [KeyedMap.lookup_filterVal, Option.filter_eq_some_iff] at survives
      exact ⟨held, survives.1, survives.2, same⟩

theorem restoreData_from {isProcess : Bool} {key : Int} {record : ResourceApplicationRecord}
    (found : ((self.restoreData env).infoMap isProcess).lookup key = some record) :
    ∃ held, ((self.restoreResourceRecord env).infoMap isProcess).lookup key = some held ∧
      outlivesCheck env isProcess key held = true ∧ RestoredFrom record held := by
  obtain ⟨held, heldFound, outlives, rfl⟩ := lookup_restoreData found
  exact ⟨held, heldFound, outlives, restoredFrom_recoveredRecord isProcess held⟩

theorem restartRestoresHeld_of_fileCurrent (current : FileCurrent self) :
    RestartRestoresHeld self := by
  intro env isProcess key record found
  simp only [handlePersistenceData, Bool.not_false, ↓reduceIte] at found
  split at found
  · rw [infoMap_refreshResourceRecord] at found
    cases isProcess <;> cases found
  · obtain ⟨held, heldFound, _, same⟩ := restoreData_from found
    refine ⟨held, ?_, same⟩
    unfold restoreResourceRecord at heldFound
    split at heldFound
    · rw [current] at heldFound
      cases isProcess with
      | false =>
          have united : (∅ ∪ self.appResourceApplyMap : ResourceRecordMap).lookup key = some held :=
            heldFound
          rwa [AList.empty_union] at united
      | true =>
          have united : (∅ ∪ self.procResourceApplyMap : ResourceRecordMap).lookup key =
              some held := heldFound
          rwa [AList.empty_union] at united
    · cases isProcess <;> cases heldFound

/-! ## One step -/

theorem fileCurrent_refreshResourceRecord (writable : env.fileWritable = true) :
    FileCurrent (self.refreshResourceRecord env) := by
  unfold refreshResourceRecord
  rw [if_pos writable]
  rfl

theorem OnlyPosts.fileCurrent {after : BgEfficiencyResourcesMgr} (posts : OnlyPosts self after)
    (current : FileCurrent self) : FileCurrent after := by
  obtain ⟨posted, _, rfl⟩ := posts
  exact current

theorem resetTimeOutResource_eq_self {mapKey : Int} {isProcess : Bool}
    (nothing : ¬ ErasesTimeOut env self (.resetTimeOutResource mapKey isProcess)) :
    self.resetTimeOutResource env mapKey isProcess = self := by
  unfold resetTimeOutResource
  split
  · rfl
  · rename_i record found
    have noBits : timeOutBits env.now record.resourceUnitList = 0#32 := by
      by_contra bits
      exact nothing ⟨record, found, bits⟩
    rw [if_pos noBits]

theorem fileCurrent_runTask (current : FileCurrent self) (writable : env.fileWritable = true)
    {task : HandlerTask} (nothing : ¬ ErasesTimeOut env self task) :
    FileCurrent (self.runTask env task) := by
  cases task with
  | applyEfficiencyResourcesInner callbackInfo resourceInfo =>
      simp only [runTask, applyEfficiencyResourcesInner]
      split
      · exact fileCurrent_refreshResourceRecord writable
      · exact fileCurrent_refreshResourceRecord writable
  | resetEfficiencyResourcesInner callbackInfo isProcess =>
      exact fileCurrent_refreshResourceRecord writable
  | resetTimeOutResource mapKey isProcess =>
      rw [runTask, resetTimeOutResource_eq_self nothing]
      exact current

/-- The timeout task changes a record and leaves the file as it is. -/
theorem not_fileCurrent_runTask (current : FileCurrent self) {task : HandlerTask}
    (erases : ErasesTimeOut env self task) : ¬ FileCurrent (self.runTask env task) := by
  cases task with
  | applyEfficiencyResourcesInner callbackInfo resourceInfo => exact erases.elim
  | resetEfficiencyResourcesInner callbackInfo isProcess => exact erases.elim
  | resetTimeOutResource mapKey isProcess =>
      obtain ⟨record, found, bits⟩ := erases
      have ran : self.runTask env (.resetTimeOutResource mapKey isProcess) =
          self.eraseBits isProcess mapKey record (timeOutBits env.now record.resourceUnitList)
            record.cpuLevel := by
        simp only [runTask, resetTimeOutResource, found]
        rw [if_neg bits]
      rw [ran]
      intro after
      have sameFile : (self.eraseBits isProcess mapKey record
          (timeOutBits env.now record.resourceUnitList) record.cpuLevel).file = self.file :=
        file_eraseBits _ _ _ _ _
      have sameMap : (self.eraseBits isProcess mapKey record
          (timeOutBits env.now record.resourceUnitList) record.cpuLevel).infoMap isProcess =
          self.infoMap isProcess := by
        rw [after, current] at sameFile
        cases isProcess with
        | false => exact congrArg RecordFile.appResourceRecord sameFile
        | true => exact congrArg RecordFile.processResourceRecord sameFile
      have stays : ((self.eraseBits isProcess mapKey record
          (timeOutBits env.now record.resourceUnitList) record.cpuLevel).infoMap
            isProcess).lookup mapKey = some record := by
        rw [sameMap]
        exact found
      generalize timeOutBits env.now record.resourceUnitList = eraseBit at bits stays
      simp only [eraseBits] at stays
      split at stays
      · rw [infoMap_setInfoMap, if_pos rfl, KeyedMap.lookup_erase, if_pos rfl] at stays
        cases stays
      · rw [infoMap_setInfoMap, if_pos rfl, KeyedMap.lookup_adjust, if_pos rfl,
          infoMap_onResourceChanged, found] at stays
        have number : record.resourceNumber ^^^ eraseBit = record.resourceNumber :=
          congrArg ResourceApplicationRecord.resourceNumber (Option.some.inj stays)
        have cleared : record.resourceNumber ^^^ (record.resourceNumber ^^^ eraseBit) =
            record.resourceNumber ^^^ record.resourceNumber := by rw [number]
        rw [← BitVec.xor_assoc, BitVec.xor_self, BitVec.zero_xor] at cleared
        exact bits cleared

/-- No task is queued and none can be: the service has not restored its records since
it was started. -/
def Unrestored (mgr : BgEfficiencyResourcesMgr) : Prop :=
  mgr.pending = [] ∧ mgr.isSysReady = false

/-- The file is current, but between a start and the restore. -/
def FileSettled (mgr : BgEfficiencyResourcesMgr) : Prop :=
  FileCurrent mgr ∨ Unrestored mgr

theorem fileCurrent_handlePersistenceData (writable : env.fileWritable = true) :
    FileCurrent (self.handlePersistenceData env) := by
  unfold handlePersistenceData
  split
  · dsimp only
    split
    · exact fileCurrent_refreshResourceRecord writable
    · exact fileCurrent_refreshResourceRecord writable
  · exact fileCurrent_refreshResourceRecord writable

theorem fileSettled_onAddSystemAbility (settled : FileSettled self)
    (writable : env.fileWritable = true) (ability : DependedAbility) :
    FileSettled (self.onAddSystemAbility env ability) := by
  simp only [onAddSystemAbility, initNecessaryState]
  split
  · split
    · exact settled
    · left
      exact fileCurrent_handlePersistenceData writable
  · exact settled

theorem fileSettled_onRemoveSystemAbility (settled : FileSettled self)
    (ability : DependedAbility) : FileSettled (self.onRemoveSystemAbility ability) := by
  simp only [onRemoveSystemAbility]
  split
  · exact settled
  · rcases settled with current | unrestored
    · exact Or.inl current
    · exact Or.inr ⟨unrestored.1, rfl⟩

theorem fileSettled_shellDump (settled : FileSettled self) (writable : env.fileWritable = true)
    (dumpOption : DumpOption) : FileSettled (self.shellDump env dumpOption) := by
  unfold shellDump
  split
  · exact settled
  · left
    exact fileCurrent_refreshResourceRecord writable

/-- A call that a service refuses while it is not ready keeps the file settled. -/
theorem fileSettled_of_onlyPosts {after : BgEfficiencyResourcesMgr} (settled : FileSettled self)
    (posts : OnlyPosts self after) (refused : self.isSysReady = false → after = self) :
    FileSettled after := by
  rcases settled with current | unrestored
  · exact Or.inl (posts.fileCurrent current)
  · rw [refused unrestored.2]
    exact Or.inr unrestored

theorem fileCurrent_runPending (settled : FileSettled self) (writable : env.fileWritable = true)
    {index : Nat} {entry : HandlerTask × Int} (taken : self.pending[index]? = some entry)
    (nothing : ¬ ErasesTimeOut env self entry.1) :
    FileCurrent (self.resourceStep (env, .runPending index)) := by
  have current : FileCurrent self := by
    rcases settled with current | unrestored
    · exact current
    · rw [unrestored.1] at taken
      cases taken
  simp only [resourceStep, taken]
  have popped : FileCurrent { self with pending := self.pending.eraseIdx index } := current
  exact fileCurrent_runTask popped writable nothing

theorem fileSettled_step (settled : FileSettled self) {label : Env × ServiceOp}
    (writable : label.1.fileWritable = true) (nothing : NothingTimesOut self label) :
    FileSettled (self.step label) := by
  obtain ⟨env, op⟩ := label
  cases op with
  | resource op =>
      cases op with
      | applyEfficiencyResources uid pid resourceInfo =>
          refine fileSettled_of_onlyPosts settled
            (onlyPosts_applyEfficiencyResources env uid pid resourceInfo) ?_
          intro notReady
          simp [step, resourceStep, applyEfficiencyResources, notReady]
      | resetAllEfficiencyResources uid pid =>
          refine fileSettled_of_onlyPosts settled
            (onlyPosts_resetAllEfficiencyResources env uid pid) ?_
          intro notReady
          simp [step, resourceStep, resetAllEfficiencyResources, notReady]
      | removeAppRecord uid bundleName resetAll =>
          refine fileSettled_of_onlyPosts settled
            (onlyPosts_removeAppRecord env uid bundleName resetAll) ?_
          intro notReady
          simp [step, resourceStep, removeAppRecord, notReady]
      | removeProcessRecord uid pid bundleName =>
          refine fileSettled_of_onlyPosts settled
            (onlyPosts_removeProcessRecord env uid pid bundleName) ?_
          intro notReady
          simp [step, resourceStep, removeProcessRecord, notReady]
      | shellDump dumpOption => exact fileSettled_shellDump settled writable dumpOption
      | runPending index =>
          cases taken : self.pending[index]? with
          | none =>
              simp only [step, resourceStep, taken]
              exact settled
          | some entry =>
              exact Or.inl (fileCurrent_runPending settled writable taken (nothing entry taken))
  | addSystemAbility ability => exact fileSettled_onAddSystemAbility settled writable ability
  | removeSystemAbility ability => exact fileSettled_onRemoveSystemAbility settled ability
  | restart => exact Or.inr ⟨rfl, rfl⟩

/-- What is promised of a completed task: the file is current, so that a restart brings
back nothing that is gone. -/
def PersistsMemory (mgr : BgEfficiencyResourcesMgr) (label : Env × ServiceOp) : Prop :=
  CompletesTask mgr label →
    FileCurrent (mgr.step label) ∧ RestartRestoresHeld (mgr.step label)

theorem persistsMemory_iff (settled : FileSettled self) {label : Env × ServiceOp}
    (writable : label.1.fileWritable = true) :
    PersistsMemory self label ↔ NothingTimesOut self label := by
  constructor
  · intro persists
    obtain ⟨env, op⟩ := label
    cases op with
    | resource op =>
        cases op with
        | runPending index =>
            intro entry taken erases
            have inQueue : index < self.pending.length := by
              obtain ⟨bound, _⟩ := List.getElem?_eq_some_iff.mp taken
              exact bound
            have current : FileCurrent { self with pending := self.pending.eraseIdx index } := by
              rcases settled with current | unrestored
              · exact current
              · rw [unrestored.1] at taken
                cases taken
            have stale := not_fileCurrent_runTask current erases
            have after := (persists inQueue).1
            simp only [step, resourceStep, taken] at after
            exact stale after
        | applyEfficiencyResources _ _ _ => trivial
        | resetAllEfficiencyResources _ _ => trivial
        | removeAppRecord _ _ _ => trivial
        | removeProcessRecord _ _ _ => trivial
        | shellDump _ => trivial
    | addSystemAbility _ => trivial
    | removeSystemAbility _ => trivial
    | restart => trivial
  · intro nothing completes
    have current : FileCurrent (self.step label) := by
      obtain ⟨env, op⟩ := label
      cases op with
      | resource op =>
          cases op with
          | runPending index =>
              have taken := List.getElem?_eq_getElem completes
              exact fileCurrent_runPending settled writable taken (nothing _ taken)
          | shellDump dumpOption =>
              have ready : self.isSysReady = true := completes
              simp only [step, resourceStep, shellDump, ready]
              exact fileCurrent_refreshResourceRecord writable
          | _ => exact completes.elim
      | _ => exact completes.elim
    exact ⟨current, restartRestoresHeld_of_fileCurrent current⟩

end

/-- In a run whose writes succeed, every completed task leaves the file current if and
only if no timeout task of the run finds a unit whose time is up. -/
theorem file_follows_memory_iff (labels : List (Env × ServiceOp))
    (writable : ∀ label ∈ labels, label.1.fileWritable = true) :
    Admissible step PersistsMemory {} labels ↔ Admissible step NothingTimesOut {} labels := by
  have agree : ∀ (mgr : BgEfficiencyResourcesMgr) (label : Env × ServiceOp), FileSettled mgr →
      label.1.fileWritable = true → (PersistsMemory mgr label ↔ NothingTimesOut mgr label) :=
    fun _ _ settled writable => persistsMemory_iff settled writable
  have preserve : ∀ (mgr : BgEfficiencyResourcesMgr) (label : Env × ServiceOp), FileSettled mgr →
      label.1.fileWritable = true → NothingTimesOut mgr label → FileSettled (mgr.step label) :=
    fun _ _ settled writable nothing => fileSettled_step settled writable nothing
  exact admissible_iff_of_invariant agree preserve labels {} (Or.inl rfl) writable

def timedApply (now up : Int) (timeOut : Nat) : Env × ServiceOp :=
  (quietEnv now up, .resource (.applyEfficiencyResources 100 200
    { resourceNumber := ResourceType.timer, isApply := true, timeOut := timeOut
      reason := "sync" }))

def runAt (now : Int) (index : Nat) : Env × ServiceOp :=
  (quietEnv now now, .resource (.runPending index))

def extendedLabels : List (Env × ServiceOp) :=
  bootLabels 1000 100000 ++
    [timedApply 2000 101000 1000, runAt 2000 0, timedApply 2500 101500 5000, runAt 2500 1,
      runAt 3000 0]

def expiredLabels : List (Env × ServiceOp) :=
  bootLabels 1000 100000 ++ [timedApply 2000 101000 1000, runAt 2000 0]

theorem file_follows_memory_extended :
    Admissible step NothingTimesOut {} extendedLabels ∧
      Admissible step PersistsMemory {} extendedLabels := by
  have nothing : Admissible step NothingTimesOut {} extendedLabels := by decide
  exact ⟨nothing, (file_follows_memory_iff extendedLabels (by decide)).mpr nothing⟩

/-- The record of uid 100 times out, stays in the file, and the next start brings it
back. -/
theorem timed_out_record_restored :
    (∀ label ∈ expiredLabels ++ [runAt 3000 0], label.1.fileWritable = true) ∧
      ¬ PersistsMemory (run step {} expiredLabels) (runAt 3000 0) ∧
      ((run step {} (expiredLabels ++ [runAt 3000 0])).infoMap false).lookup 100 = none ∧
      ((run step {} (expiredLabels ++ [runAt 3000 0, (quietEnv 4000 102000, .restart)] ++
        bootLabels 5000 103000)).infoMap false).lookup 100 ≠ none := by
  refine ⟨by decide, ?_, by decide, by decide⟩
  intro persists
  have current := (persists (show 0 < _ by decide)).1
  have entries := congrArg (fun file => file.appResourceRecord.entries) current
  revert entries
  decide

end BgEfficiencyResourcesMgr

end BgTaskMgr.Efficiency
