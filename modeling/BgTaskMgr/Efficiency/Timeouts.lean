import BgTaskMgr.Efficiency.Persistence

/-!
# Timeout tasks and end times

Each apply posts its own timeout task while the end times of the units are merged by
`max`; a restore posts one task for each unit again.  Every unit that is not persistent is
covered by some queued task, and a timeout task takes away only what has ended.  Both fail
after a restore that narrows a remaining time of `2 ^ 31` milliseconds or more, or that
masks a record and keeps its units.
-/

set_option autoImplicit false

namespace BgTaskMgr.Efficiency

open Bitmask StepSystem

/-! ## End times of a unit list -/

def EndsCovered (covered : Int → Prop) (units : List PersistTime) : Prop :=
  ∀ unit ∈ units, unit.isPersist = false → covered unit.endTime

section

variable {covered : Int → Prop} {units : List PersistTime}

theorem endsCovered_modifyUnit (resourceIndex : Nat) {f : PersistTime → PersistTime}
    (keeps : ∀ unit, (unit.isPersist = false → covered unit.endTime) →
      (f unit).isPersist = false → covered (f unit).endTime)
    (ends : EndsCovered covered units) : EndsCovered covered (modifyUnit resourceIndex f units) := by
  induction units with
  | nil => exact ends
  | cons first rest ih =>
      have firstEnds : first.isPersist = false → covered first.endTime := ends first (by simp)
      have restEnds : EndsCovered covered rest :=
        fun unit member => ends unit (List.mem_cons_of_mem first member)
      unfold modifyUnit
      split
      · intro unit member
        rcases List.mem_cons.mp member with rfl | later
        · exact keeps first firstEnds
        · exact restEnds unit later
      · intro unit member
        rcases List.mem_cons.mp member with rfl | later
        · exact firstEnds
        · exact ih restEnds unit later

/-- One round of the loop: an end time is kept, or is the one of the request. -/
theorem endsCovered_updateUnit {now : Int} {resourceInfo : EfficiencyResourceInfo}
    (timer : resourceInfo.isPersist = false → covered (now + resourceInfo.timeOut))
    (number : ResourceNumber) (ends : EndsCovered covered units) (resourceIndex : Nat) :
    EndsCovered covered (updateUnit now resourceInfo number units resourceIndex) := by
  unfold updateUnit
  split
  · exact ends
  · split
    · refine endsCovered_modifyUnit resourceIndex ?_ ends
      intro unit old notPersist
      have flags : unit.isPersist = false ∧ resourceInfo.isPersist = false := by
        simpa [PersistTime.extend] using notPersist
      have merged : (PersistTime.extend now resourceInfo unit).endTime =
          max unit.endTime (now + resourceInfo.timeOut) := by
        simp [PersistTime.extend, flags]
      rw [merged]
      rcases max_choice unit.endTime (now + resourceInfo.timeOut) with kept | extended
      · rw [kept]
        exact old flags.1
      · rw [extended]
        exact timer flags.2
    · intro unit member
      rcases List.mem_append.mp member with old | new
      · exact ends unit old
      · rw [List.mem_singleton.mp new]
        intro notPersist
        have fresh : resourceInfo.isPersist = false := notPersist
        simpa [fresh] using timer fresh

theorem endsCovered_updateUnits {now : Int} {resourceInfo : EfficiencyResourceInfo}
    (timer : resourceInfo.isPersist = false → covered (now + resourceInfo.timeOut))
    (number : ResourceNumber) (ends : EndsCovered covered units) :
    EndsCovered covered (updateUnits now resourceInfo number units) := by
  unfold updateUnits
  apply List.foldlRecOn (motive := EndsCovered covered) _ _ ends
  intro units ends index _
  exact endsCovered_updateUnit timer number ends index

end

theorem mem_removeListRecord {eraseBit : ResourceNumber} {units : List PersistTime}
    {unit : PersistTime} : unit ∈ removeListRecord eraseBit units ↔
      unit ∈ units ∧ bit 32 unit.resourceIndex &&& eraseBit = 0#32 := by
  unfold removeListRecord
  split
  · rename_i nothing
    simp [nothing]
  · simp

/-- Of units with distinct known indices a timeout takes away those whose time is up. -/
theorem mem_removeListRecord_timeOutBits {number : ResourceNumber} {units : List PersistTime}
    (represents : Represents number units) (now : Int) {unit : PersistTime} :
    unit ∈ removeListRecord (timeOutBits now units) units ↔
      unit ∈ units ∧ unit.isTimeOut now = false := by
  rw [mem_removeListRecord]
  refine and_congr_right (fun member => ?_)
  have inside : unit.resourceIndex < 32 := by
    have known := represents.below _ (List.mem_map_of_mem member)
    have few : maxResourcesTypeNum ≤ 32 := by decide
    omega
  rw [BitVec.and_comm, and_bit_eq_zero_iff inside, timeOutBits_eq, getLsbD_maskOf _ inside]
  constructor
  · intro clear
    by_contra ended
    have expired : unit.resourceIndex ∈
        unitIndices (units.filter (PersistTime.isTimeOut now)) :=
      List.mem_map_of_mem (List.mem_filter.mpr ⟨member, by simpa using ended⟩)
    simp [expired] at clear
  · intro alive
    have absent : unit.resourceIndex ∉
        unitIndices (units.filter (PersistTime.isTimeOut now)) := by
      intro expired
      obtain ⟨other, filtered, sameIndex⟩ := List.mem_map.mp expired
      obtain ⟨otherMember, ended⟩ := List.mem_filter.mp filtered
      have same : other = unit :=
        List.inj_on_of_nodup_map represents.distinct otherMember member sameIndex
      rw [same, alive] at ended
      cases ended
    simp [absent]

namespace BgEfficiencyResourcesMgr

/-- A queued timeout task of the key fires at `endTime` or later. -/
def TimerCovers (mgr : BgEfficiencyResourcesMgr) (isProcess : Bool) (key endTime : Int) : Prop :=
  ∃ due, (HandlerTask.resetTimeOutResource key isProcess, due) ∈ mgr.pending ∧ endTime ≤ due

/-- Every unit that is not persistent has its timeout task. -/
def UnitsTimed (mgr : BgEfficiencyResourcesMgr) : Prop :=
  ∀ isProcess key record, (mgr.infoMap isProcess).lookup key = some record →
    EndsCovered (TimerCovers mgr isProcess key) record.resourceUnitList

/-- Every unit of `after` is one of `before`, under the same key. -/
def UnitsFrom (before after : BgEfficiencyResourcesMgr) : Prop :=
  ∀ isProcess key record, (after.infoMap isProcess).lookup key = some record →
    ∃ held, (before.infoMap isProcess).lookup key = some held ∧
      record.resourceUnitList ⊆ held.resourceUnitList

section

variable {self : BgEfficiencyResourcesMgr} {env : Env}

/-! ## Steps that only take away -/

theorem unitsFrom_of_infoMap {after : BgEfficiencyResourcesMgr}
    (same : ∀ isProcess, after.infoMap isProcess = self.infoMap isProcess) :
    UnitsFrom self after := by
  intro isProcess key record found
  rw [same] at found
  exact ⟨record, found, List.Subset.refl _⟩

theorem UnitsTimed.of_unitsFrom {after : BgEfficiencyResourcesMgr} (timed : UnitsTimed self)
    (units : UnitsFrom self after) (queue : self.pending ⊆ after.pending) :
    UnitsTimed after := by
  intro isProcess key record found unit member notPersist
  obtain ⟨held, heldFound, subset⟩ := units isProcess key record found
  obtain ⟨due, queued, late⟩ := timed isProcess key held heldFound unit (subset member) notPersist
  exact ⟨due, queue queued, late⟩

theorem unitsTimed_refreshResourceRecord (timed : UnitsTimed self) :
    UnitsTimed (self.refreshResourceRecord env) := by
  refine timed.of_unitsFrom ?_ ?_
  · exact unitsFrom_of_infoMap (fun isProcess => infoMap_refreshResourceRecord self isProcess env)
  · rw [pending_refreshResourceRecord]
    exact List.Subset.refl _

theorem OnlyPosts.unitsTimed {after : BgEfficiencyResourcesMgr} (posts : OnlyPosts self after)
    (timed : UnitsTimed self) : UnitsTimed after := by
  obtain ⟨posted, _, rfl⟩ := posts
  refine timed.of_unitsFrom ?_ ?_
  · exact unitsFrom_of_infoMap (fun _ => rfl)
  · exact List.subset_append_left _ _

theorem pending_eraseBits (isProcess : Bool) (mapKey : Int) (record : ResourceApplicationRecord)
    (eraseBit : ResourceNumber) (cpuLevel : Int) :
    (self.eraseBits isProcess mapKey record eraseBit cpuLevel).pending = self.pending := by
  simp only [eraseBits]
  split
  · rw [pending_setInfoMap]
    rfl
  · rw [pending_setInfoMap]
    rfl

/-- The record under the key loses the units of the erased bits, or goes away when no
bit is left; the others stay. -/
theorem lookup_eraseBits {isProcess : Bool} {mapKey : Int} {record : ResourceApplicationRecord}
    (found : (self.infoMap isProcess).lookup mapKey = some record) (eraseBit : ResourceNumber)
    (cpuLevel : Int) (other : Bool) (key : Int) :
    ((self.eraseBits isProcess mapKey record eraseBit cpuLevel).infoMap other).lookup key =
      if other = isProcess ∧ key = mapKey then
        if record.resourceNumber ^^^ eraseBit = 0#32 then none
        else some { record with
          resourceNumber := record.resourceNumber ^^^ eraseBit
          resourceUnitList := removeListRecord eraseBit record.resourceUnitList }
      else (self.infoMap other).lookup key := by
  simp only [eraseBits]
  by_cases sameMap : other = isProcess
  · subst sameMap
    by_cases sameKey : key = mapKey
    · subst sameKey
      split
      · simp
      · simp [KeyedMap.lookup_adjust, found]
    · split
      · simp [sameKey]
      · simp [sameKey, KeyedMap.lookup_adjust]
  · split
    · simp [sameMap]
    · simp [sameMap]

theorem unitsFrom_eraseBits {isProcess : Bool} {mapKey : Int} {record : ResourceApplicationRecord}
    (found : (self.infoMap isProcess).lookup mapKey = some record) (eraseBit : ResourceNumber)
    (cpuLevel : Int) : UnitsFrom self (self.eraseBits isProcess mapKey record eraseBit cpuLevel) := by
  intro other key after afterFound
  rw [lookup_eraseBits found] at afterFound
  split at afterFound
  · rename_i here
    obtain ⟨rfl, rfl⟩ := here
    split at afterFound
    · cases afterFound
    · rw [← Option.some.inj afterFound]
      refine ⟨record, found, ?_⟩
      intro unit member
      exact (mem_removeListRecord.mp member).1
  · exact ⟨after, afterFound, List.Subset.refl _⟩

theorem unitsTimed_removeTargetResourceRecord (timed : UnitsTimed self) (isProcess : Bool)
    (mapKey : Int) (callbackInfo : ResourceCallbackInfo) :
    UnitsTimed (self.removeTargetResourceRecord isProcess mapKey callbackInfo) := by
  unfold removeTargetResourceRecord
  dsimp only
  split
  · exact timed
  · rename_i record found
    split
    · exact timed
    · refine timed.of_unitsFrom (unitsFrom_eraseBits found _ _) ?_
      rw [pending_eraseBits]
      exact List.Subset.refl _

theorem unitsTimed_resetEfficiencyResourcesInner (timed : UnitsTimed self)
    (callbackInfo : ResourceCallbackInfo) (isProcess : Bool) :
    UnitsTimed (self.resetEfficiencyResourcesInner env callbackInfo isProcess) := by
  unfold resetEfficiencyResourcesInner
  refine unitsTimed_refreshResourceRecord ?_
  split
  · exact unitsTimed_removeTargetResourceRecord timed true _ callbackInfo
  · exact (onlyPosts_removeRelativeProcessRecord env _ _).unitsTimed
      (unitsTimed_removeTargetResourceRecord timed false _ callbackInfo)

theorem unitsTimed_dumpResetMap (timed : UnitsTimed self) (isProcess : Bool) :
    UnitsTimed (self.dumpResetMap isProcess) := by
  have announced : ∀ (records : List ResourceApplicationRecord) (mgr : BgEfficiencyResourcesMgr),
      (∀ other, (records.foldl (announceReset isProcess) mgr).infoMap other =
        mgr.infoMap other) ∧
      (records.foldl (announceReset isProcess) mgr).pending = mgr.pending := by
    intro records
    induction records with
    | nil => exact fun _ => ⟨fun _ => rfl, rfl⟩
    | cons record rest ih => exact fun mgr => ih (announceReset isProcess mgr record)
  unfold dumpResetMap
  obtain ⟨maps, queue⟩ := announced (KeyedMap.vals (self.infoMap isProcess)) self
  refine timed.of_unitsFrom ?_ ?_
  · intro other key record found
    rw [infoMap_setInfoMap] at found
    split at found
    · cases found
    · rw [maps] at found
      exact ⟨record, found, List.Subset.refl _⟩
  · rw [pending_setInfoMap, queue]
    exact List.Subset.refl _

theorem unitsTimed_shellDump (timed : UnitsTimed self) (dumpOption : DumpOption) :
    UnitsTimed (self.shellDump env dumpOption) := by
  unfold shellDump
  split
  · exact timed
  · refine unitsTimed_refreshResourceRecord ?_
    split
    · exact unitsTimed_dumpResetMap (unitsTimed_dumpResetMap timed false) true
    · unfold dumpResetOne
      split
      · exact timed
      · exact unitsTimed_removeTargetResourceRecord timed _ _ _
    · exact timed
    · exact timed

/-! ## Apply -/

theorem unitsTimed_insert (timed : UnitsTimed self) {isProcess : Bool} {mapKey : Int}
    {record : ResourceApplicationRecord}
    (ends : EndsCovered (TimerCovers self isProcess mapKey) record.resourceUnitList) :
    UnitsTimed (self.setInfoMap isProcess ((self.infoMap isProcess).insert mapKey record)) := by
  intro other key after found
  have covers : TimerCovers (self.setInfoMap isProcess
      ((self.infoMap isProcess).insert mapKey record)) = TimerCovers self := by
    unfold TimerCovers
    rw [pending_setInfoMap]
  rw [covers]
  rw [infoMap_setInfoMap] at found
  split at found
  · rename_i same
    subst same
    rw [KeyedMap.lookup_insert] at found
    split at found
    · rename_i here
      subst here
      rw [← Option.some.inj found]
      exact ends
    · exact timed _ key after found
  · exact timed other key after found

/-- The apply posts its task before it stores the units that need it. -/
theorem unitsTimed_applyEfficiencyResourcesInner (timed : UnitsTimed self)
    (callbackInfo : ResourceCallbackInfo) (resourceInfo : EfficiencyResourceInfo) :
    UnitsTimed (self.applyEfficiencyResourcesInner env callbackInfo resourceInfo) := by
  have posted : UnitsTimed (self.postTimeOut env (callbackInfo.mapKey resourceInfo.isProcess)
      resourceInfo) := (onlyPosts_postTimeOut env _ resourceInfo).unitsTimed timed
  have timer : resourceInfo.isPersist = false →
      TimerCovers (self.postTimeOut env (callbackInfo.mapKey resourceInfo.isProcess) resourceInfo)
        resourceInfo.isProcess (callbackInfo.mapKey resourceInfo.isProcess)
        (env.now + resourceInfo.timeOut) := by
    intro timedRequest
    refine ⟨env.now + resourceInfo.timeOut, ?_, Int.le_refl _⟩
    simp [postTimeOut, timedRequest, postTask]
  have applied : EndsCovered
      (TimerCovers (self.postTimeOut env (callbackInfo.mapKey resourceInfo.isProcess) resourceInfo)
        resourceInfo.isProcess (callbackInfo.mapKey resourceInfo.isProcess))
      (appliedRecord env callbackInfo resourceInfo
        ((self.infoMap resourceInfo.isProcess).lookup
          (callbackInfo.mapKey resourceInfo.isProcess))).resourceUnitList := by
    unfold appliedRecord
    refine endsCovered_updateUnits timer callbackInfo.resourceNumber ?_
    split
    · intro unit member
      cases member
    · rename_i record found
      rw [← infoMap_postTimeOut self resourceInfo.isProcess env
        (callbackInfo.mapKey resourceInfo.isProcess) resourceInfo] at found
      exact posted _ _ record found
  simp only [applyEfficiencyResourcesInner]
  split
  · exact unitsTimed_refreshResourceRecord (unitsTimed_insert posted applied)
  · refine unitsTimed_refreshResourceRecord (unitsTimed_insert ?_ ?_)
    · exact posted
    · exact applied

/-! ## Timeout tasks -/

/-- A unit that has not ended holds its bit in the mask that a timeout leaves. -/
theorem xor_timeOutBits_ne_zero {number : ResourceNumber} {units : List PersistTime}
    (represents : Represents number units) {now : Int} {unit : PersistTime}
    (member : unit ∈ units) (alive : unit.isTimeOut now = false) :
    number ^^^ timeOutBits now units ≠ 0#32 := by
  intro nothingLeft
  have left := represents_removeListRecord represents (timeOutBits_held represents now)
  rw [nothingLeft] at left
  have stays : unit ∈ removeListRecord (timeOutBits now units) units :=
    (mem_removeListRecord_timeOutBits represents now).mpr ⟨member, alive⟩
  have listed := List.mem_map_of_mem (f := fun unit : PersistTime => unit.resourceIndex) stays
  have inside : unit.resourceIndex < 32 := by
    have known := left.below _ listed
    have few : maxResourcesTypeNum ≤ 32 := by decide
    omega
  have set := getLsbD_maskOf (w := 32)
    (unitIndices (removeListRecord (timeOutBits now units) units)) inside
  rw [← left.mask] at set
  simp [unitIndices, listed] at set

/-- What a timeout leaves under each key: the units of before, at its own key those that
have not ended. -/
theorem resetTimeOutResource_units (memory : MemoryOk self) (mapKey : Int) (isProcess : Bool)
    {other : Bool} {key : Int} {after : ResourceApplicationRecord}
    (found : ((self.resetTimeOutResource env mapKey isProcess).infoMap other).lookup key =
      some after) :
    ∃ held, (self.infoMap other).lookup key = some held ∧
      after.resourceUnitList ⊆ held.resourceUnitList ∧
      (other = isProcess ∧ key = mapKey →
        ∀ unit ∈ after.resourceUnitList, unit.isTimeOut env.now = false) := by
  unfold resetTimeOutResource at found
  split at found
  · rename_i missing
    refine ⟨after, found, List.Subset.refl _, ?_⟩
    rintro ⟨rfl, rfl⟩
    rw [missing] at found
    cases found
  · rename_i record recordFound
    have represents := (memory.maps isProcess mapKey record recordFound).represents
    have left : ∀ unit, unit ∈ removeListRecord (timeOutBits env.now record.resourceUnitList)
        record.resourceUnitList ↔
          unit ∈ record.resourceUnitList ∧ unit.isTimeOut env.now = false :=
      fun _ => mem_removeListRecord_timeOutBits represents env.now
    dsimp only at found
    split at found
    · rename_i nothing
      refine ⟨after, found, List.Subset.refl _, ?_⟩
      rintro ⟨rfl, rfl⟩ unit member
      rw [recordFound] at found
      obtain rfl := Option.some.inj found
      refine ((left unit).mp ?_).2
      rw [nothing]
      exact mem_removeListRecord.mpr ⟨member, by simp⟩
    · rw [lookup_eraseBits recordFound] at found
      split at found
      · rename_i here
        obtain ⟨rfl, rfl⟩ := here
        split at found
        · cases found
        · rw [← Option.some.inj found]
          refine ⟨record, recordFound, ?_, ?_⟩
          · intro unit member
            exact ((left unit).mp member).1
          · intro _ unit member
            exact ((left unit).mp member).2
      · rename_i elsewhere
        exact ⟨after, found, List.Subset.refl _, fun here => (elsewhere here).elim⟩

theorem resetTimeOutResource_keeps (memory : MemoryOk self) (mapKey : Int) (isProcess : Bool)
    {other : Bool} {key : Int} {held : ResourceApplicationRecord}
    (found : (self.infoMap other).lookup key = some held) {unit : PersistTime}
    (member : unit ∈ held.resourceUnitList) (alive : unit.isTimeOut env.now = false) :
    ∃ after, ((self.resetTimeOutResource env mapKey isProcess).infoMap other).lookup key =
      some after ∧ unit ∈ after.resourceUnitList := by
  unfold resetTimeOutResource
  split
  · exact ⟨held, found, member⟩
  · rename_i record recordFound
    dsimp only
    split
    · exact ⟨held, found, member⟩
    · rw [lookup_eraseBits recordFound]
      split
      · rename_i here
        obtain ⟨rfl, rfl⟩ := here
        obtain rfl : record = held := Option.some.inj (recordFound.symm.trans found)
        have represents := (memory.maps other key record recordFound).represents
        rw [if_neg (xor_timeOutBits_ne_zero represents member alive)]
        exact ⟨_, rfl, (mem_removeListRecord_timeOutBits represents env.now).mpr ⟨member, alive⟩⟩
      · exact ⟨held, found, member⟩

theorem mem_eraseIdx_of_ne {index : Nat} {taken entry : HandlerTask × Int}
    (atIndex : self.pending[index]? = some taken) (member : entry ∈ self.pending)
    (differs : entry ≠ taken) : entry ∈ self.pending.eraseIdx index := by
  obtain ⟨place, here⟩ := List.mem_iff_getElem?.mp member
  refine List.mem_eraseIdx_iff_getElem?.mpr ⟨place, ?_, here⟩
  rintro rfl
  exact differs (Option.some.inj (here.symm.trans atIndex))

theorem unitsTimed_popOther (timed : UnitsTimed self) {index : Nat} {taken : HandlerTask × Int}
    (atIndex : self.pending[index]? = some taken)
    (otherKind : ∀ mapKey isProcess, taken.1 ≠ .resetTimeOutResource mapKey isProcess) :
    UnitsTimed { self with pending := self.pending.eraseIdx index } := by
  intro isProcess key record found unit member notPersist
  obtain ⟨due, queued, late⟩ := timed isProcess key record found unit member notPersist
  refine ⟨due, mem_eraseIdx_of_ne atIndex queued ?_, late⟩
  intro same
  exact otherKind key isProcess (congrArg Prod.fst same).symm

/-- A timeout task that is due leaves no unit behind that it was the only one to cover. -/
theorem unitsTimed_popTimeOut (timed : UnitsTimed self) (memory : MemoryOk self) {index : Nat}
    {mapKey : Int} {isProcess : Bool} {due : Int}
    (atIndex : self.pending[index]? = some (.resetTimeOutResource mapKey isProcess, due))
    (onTime : due ≤ env.now) :
    UnitsTimed ({ self with pending := self.pending.eraseIdx index }.resetTimeOutResource env
      mapKey isProcess) := by
  have popped := memoryOk_eraseIdx memory index
  have queue : ({ self with pending := self.pending.eraseIdx index }.resetTimeOutResource env
      mapKey isProcess).pending = self.pending.eraseIdx index := by
    unfold resetTimeOutResource
    split
    · rfl
    · dsimp only
      split
      · rfl
      · exact pending_eraseBits _ _ _ _ _
  intro other key after found unit member notPersist
  obtain ⟨held, heldFound, subset, alive⟩ := resetTimeOutResource_units popped mapKey isProcess found
  obtain ⟨later, queued, late⟩ := timed other key held heldFound unit (subset member) notPersist
  refine ⟨later, ?_, late⟩
  rw [queue]
  refine mem_eraseIdx_of_ne atIndex queued ?_
  -- The task that has run was due before this unit ends.
  intro same
  obtain ⟨sameTask, sameDue⟩ := Prod.mk.inj same
  obtain ⟨sameKey, sameMap⟩ := HandlerTask.resetTimeOutResource.inj sameTask
  have running := alive ⟨sameMap, sameKey⟩ unit member
  have left : ¬ env.now ≥ unit.endTime := by
    simpa [PersistTime.isTimeOut, notPersist] using running
  omega

/-! ## Restores -/

/-- The delay of `RecoverDelayedTask` reaches the end time unless the cast wraps. -/
theorem le_max_toInt32_iff (remaining : Int) :
    remaining ≤ max 0 (toInt32 remaining) ↔ remaining < 2 ^ 31 := by
  unfold toInt32
  rw [Int.bmod_def]
  split <;> omega

def RemainingFits (now : Int) (units : List PersistTime) : Prop :=
  EndsCovered (fun endTime => endTime - now < 2 ^ 31) units

theorem mem_recoverDelayedTask {isProcess : Bool} {key : Int} {record : ResourceApplicationRecord}
    (found : (self.infoMap isProcess).lookup key = some record) {unit : PersistTime}
    (member : unit ∈ record.resourceUnitList) (notPersist : unit.isPersist = false) :
    (HandlerTask.resetTimeOutResource key isProcess,
      env.now + max 0 (toInt32 (unit.endTime - env.now))) ∈
        (self.recoverDelayedTask env isProcess).pending := by
  refine List.mem_append_right _ (List.mem_flatMap.mpr ⟨⟨key, record⟩, ?_, ?_⟩)
  · exact KeyedMap.mem_entries_iff.mpr found
  · refine List.mem_map.mpr ⟨unit, List.mem_filter.mpr ⟨member, ?_⟩, rfl⟩
    rw [notPersist]
    rfl

/-- A restore posts a task for every unit that it leaves in memory. -/
theorem unitsTimed_restoreData
    (fits : ∀ isProcess key record,
      ((self.restoreResourceRecord env).infoMap isProcess).lookup key = some record →
        outlivesCheck env isProcess key record = true →
          RemainingFits env.now record.resourceUnitList) :
    UnitsTimed (self.restoreData env) := by
  intro isProcess key record found unit member notPersist
  obtain ⟨held, heldFound, outlives, sameUnits, _⟩ := restoreData_from found
  have remaining := fits isProcess key held heldFound outlives unit (sameUnits ▸ member) notPersist
  refine ⟨env.now + max 0 (toInt32 (unit.endTime - env.now)), ?_, ?_⟩
  · unfold restoreData at found ⊢
    rw [infoMap_refreshResourceRecord] at found
    rw [pending_refreshResourceRecord]
    generalize ((self.restoreResourceRecord env).checkPersistenceData env).recoverResourceNumber
      env = recovered at found ⊢
    have inMemory : (recovered.infoMap isProcess).lookup key = some record := found
    cases isProcess with
    | true => exact List.mem_append_left _ (mem_recoverDelayedTask inMemory member notPersist)
    | false =>
        have posted : ((recovered.recoverDelayedTask env true).infoMap false).lookup key =
            some record := inMemory
        exact mem_recoverDelayedTask posted member notPersist
  · have reaches := (le_max_toInt32_iff (unit.endTime - env.now)).mpr remaining
    omega

/-- At a restore every unit that it brings through the check has a remaining time that
`int32_t` holds. -/
def RecoveryFits (mgr : BgEfficiencyResourcesMgr) : Env × ServiceOp → Prop
  | (env, .addSystemAbility ability) => Restores mgr env ability →
      ∀ isProcess key record,
        ((mgr.restoreResourceRecord env).infoMap isProcess).lookup key = some record →
          outlivesCheck env isProcess key record = true →
            RemainingFits env.now record.resourceUnitList
  | _ => True

def RunsWhenDue (mgr : BgEfficiencyResourcesMgr) : Env × ServiceOp → Prop
  | (env, .resource (.runPending index)) =>
      ∀ entry, mgr.pending[index]? = some entry → entry.2 ≤ env.now
  | _ => True

theorem infoMap_restoreResourceRecord_flags (dependsReady : List DependedAbility)
    (appMgrClient isProcess : Bool) :
    (restoreResourceRecord env { self with
      dependsReady := dependsReady
      appMgrClient := appMgrClient }).infoMap isProcess =
      (self.restoreResourceRecord env).infoMap isProcess := by
  unfold restoreResourceRecord
  split <;> rfl

theorem unitsTimed_onAddSystemAbility (timed : UnitsTimed self) (ability : DependedAbility)
    (fits : RecoveryFits self (env, .addSystemAbility ability)) :
    UnitsTimed (self.onAddSystemAbility env ability) := by
  unfold onAddSystemAbility
  dsimp only
  split
  · rename_i allUp
    unfold initNecessaryState
    split
    · exact timed
    · rename_i notReady
      have restores : ∀ connected : self.appMgrClient = true ∨ env.connectAppMgr = true,
          Restores self env ability :=
        fun connected => ⟨Bool.eq_false_iff.mpr notReady, allUp, connected⟩
      have handled : UnitsTimed (handlePersistenceData env
          { self with dependsReady := self.dependsReady.insert ability }) := by
        unfold handlePersistenceData
        split
        · dsimp only
          split
          · exact unitsTimed_refreshResourceRecord timed
          · rename_i reached
            have connected : env.connectAppMgr = true := by simpa using reached
            refine unitsTimed_restoreData (fun isProcess key record found => ?_)
            rw [infoMap_restoreResourceRecord_flags] at found
            exact fits (restores (Or.inr connected)) isProcess key record found
        · rename_i client
          have known : self.appMgrClient = true := by simpa using client
          refine unitsTimed_restoreData (fun isProcess key record found => ?_)
          rw [infoMap_restoreResourceRecord_flags] at found
          exact fits (restores (Or.inl known)) isProcess key record found
      exact handled
  · exact timed

/-! ## Runs -/

theorem unitsTimed_runPending (timed : UnitsTimed self) (memory : MemoryOk self) {index : Nat}
    (onTime : ∀ entry, self.pending[index]? = some entry → entry.2 ≤ env.now) :
    UnitsTimed (self.resourceStep (env, .runPending index)) := by
  simp only [resourceStep]
  split
  · exact timed
  · rename_i task due taken
    have dueNow : due ≤ env.now := onTime _ taken
    cases task with
    | applyEfficiencyResourcesInner callbackInfo resourceInfo =>
        exact unitsTimed_applyEfficiencyResourcesInner
          (unitsTimed_popOther timed taken (by simp)) callbackInfo resourceInfo
    | resetEfficiencyResourcesInner callbackInfo isProcess =>
        exact unitsTimed_resetEfficiencyResourcesInner
          (unitsTimed_popOther timed taken (by simp)) callbackInfo isProcess
    | resetTimeOutResource mapKey isProcess =>
        exact unitsTimed_popTimeOut timed memory taken dueNow

theorem unitsTimed_step (timed : UnitsTimed self) (memory : MemoryOk self)
    {label : Env × ServiceOp} (onTime : RunsWhenDue self label)
    (fits : RecoveryFits self label) : UnitsTimed (self.step label) := by
  obtain ⟨env, op⟩ := label
  cases op with
  | resource op =>
      cases op with
      | applyEfficiencyResources uid pid resourceInfo =>
          exact (onlyPosts_applyEfficiencyResources env uid pid resourceInfo).unitsTimed timed
      | resetAllEfficiencyResources uid pid =>
          exact (onlyPosts_resetAllEfficiencyResources env uid pid).unitsTimed timed
      | removeAppRecord uid bundleName resetAll =>
          exact (onlyPosts_removeAppRecord env uid bundleName resetAll).unitsTimed timed
      | removeProcessRecord uid pid bundleName =>
          exact (onlyPosts_removeProcessRecord env uid pid bundleName).unitsTimed timed
      | shellDump dumpOption => exact unitsTimed_shellDump timed dumpOption
      | runPending index => exact unitsTimed_runPending timed memory onTime
  | addSystemAbility ability => exact unitsTimed_onAddSystemAbility timed ability fits
  | removeSystemAbility ability =>
      simp only [step, onRemoveSystemAbility]
      split
      · exact timed
      · exact timed
  | restart =>
      intro isProcess key record found
      cases isProcess <;> cases found

/-- A timeout task that runs next takes away no unit that is persistent or has time
left. -/
def TimeOutsTakeEnded (mgr : BgEfficiencyResourcesMgr) : Prop :=
  ∀ (env : Env) (index : Nat) (mapKey : Int) (isProcess : Bool) (due : Int),
    mgr.pending[index]? = some (.resetTimeOutResource mapKey isProcess, due) →
      ∀ other key held, (mgr.infoMap other).lookup key = some held →
        ∀ unit ∈ held.resourceUnitList, unit.isPersist = true ∨ env.now < unit.endTime →
          ∃ after, ((mgr.step (env, .resource (.runPending index))).infoMap other).lookup key =
            some after ∧ unit ∈ after.resourceUnitList

theorem timeOutsTakeEnded_of_memoryOk (memory : MemoryOk self) : TimeOutsTakeEnded self := by
  intro env index mapKey isProcess due taken other key held found unit member lasting
  have alive : unit.isTimeOut env.now = false := by
    rcases lasting with persist | left
    · simp [PersistTime.isTimeOut, persist]
    · simp [PersistTime.isTimeOut, left]
  have popped := memoryOk_eraseIdx memory index
  simp only [step, resourceStep, taken, runTask]
  exact resetTimeOutResource_keeps popped mapKey isProcess found member alive

end

/-- When queued tasks run at their due time or later, no restore narrows a remaining time
and no restore masks a record, every unit that is not persistent has its timeout task in
every state, and no timeout task takes a unit before its end. -/
theorem units_timed_and_kept (labels : List (Env × ServiceOp))
    (onTime : Admissible step RunsWhenDue {} labels)
    (fits : Admissible step RecoveryFits {} labels)
    (keeps : Admissible step RestoreKeepsMasks {} labels) :
    UnitsTimed (run step {} labels) ∧ TimeOutsTakeEnded (run step {} labels) := by
  have preserve : ∀ (mgr : BgEfficiencyResourcesMgr) (label : Env × ServiceOp),
      Invariant mgr ∧ UnitsTimed mgr →
      (RunsWhenDue mgr label ∧ RecoveryFits mgr label) ∧ RestoreKeepsMasks mgr label →
      Invariant (mgr.step label) ∧ UnitsTimed (mgr.step label) := by
    rintro mgr label ⟨invariant, timed⟩ ⟨⟨dueNow, narrow⟩, masks⟩
    exact ⟨invariant_step invariant label masks,
      unitsTimed_step timed invariant.toMemoryOk dueNow narrow⟩
  have start : UnitsTimed {} := by
    intro isProcess key record found
    cases isProcess <;> cases found
  obtain ⟨invariant, timed⟩ := run_invariant preserve labels {} ⟨invariant_init, start⟩
    ((onTime.and fits).and keeps)
  exact ⟨timed, timeOutsTakeEnded_of_memoryOk invariant.toMemoryOk⟩

instance (mgr : BgEfficiencyResourcesMgr) (label : Env × ServiceOp) :
    Decidable (RunsWhenDue mgr label) :=
  match label with
  | (env, .resource (.runPending index)) =>
      inferInstanceAs (Decidable (∀ entry ∈ mgr.pending[index]?, entry.2 ≤ env.now))
  | (_, .resource (.applyEfficiencyResources _ _ _)) => isTrue trivial
  | (_, .resource (.resetAllEfficiencyResources _ _)) => isTrue trivial
  | (_, .resource (.removeAppRecord _ _ _)) => isTrue trivial
  | (_, .resource (.removeProcessRecord _ _ _)) => isTrue trivial
  | (_, .resource (.shellDump _)) => isTrue trivial
  | (_, .addSystemAbility _) => isTrue trivial
  | (_, .removeSystemAbility _) => isTrue trivial
  | (_, .restart) => isTrue trivial

instance (now : Int) (units : List PersistTime) : Decidable (RemainingFits now units) :=
  inferInstanceAs (Decidable (∀ unit ∈ units, unit.isPersist = false →
    unit.endTime - now < 2 ^ 31))

instance (mgr : BgEfficiencyResourcesMgr) (label : Env × ServiceOp) :
    Decidable (RecoveryFits mgr label) :=
  match label with
  | (env, .addSystemAbility _) =>
      have : Decidable (∀ isProcess key record,
          ((mgr.restoreResourceRecord env).infoMap isProcess).lookup key = some record →
            outlivesCheck env isProcess key record = true →
              RemainingFits env.now record.resourceUnitList) :=
        decidable_of_iff (∀ isProcess,
            ∀ entry ∈ ((mgr.restoreResourceRecord env).infoMap isProcess).entries,
              outlivesCheck env isProcess entry.1 entry.2 = true →
                RemainingFits env.now entry.2.resourceUnitList)
          ⟨fun each isProcess key record found =>
              each isProcess ⟨key, record⟩ (KeyedMap.mem_entries_iff.mpr found),
            fun each isProcess entry member =>
              each isProcess entry.1 entry.2 (KeyedMap.mem_entries_iff.mp member)⟩
      inferInstanceAs (Decidable (_ → _))
  | (_, .resource _) => isTrue trivial
  | (_, .removeSystemAbility _) => isTrue trivial
  | (_, .restart) => isTrue trivial

def recoveredLabels (timeOut : Nat) : List (Env × ServiceOp) :=
  bootLabels 1000 300000 ++
    [timedApply 2000 301000 timeOut, runAt 2000 0, (quietEnv 2100 301100, .restart)] ++
    bootLabels 2500 301500 ++ [runAt 3000 0]

theorem units_timed_and_kept_recovered :
    UnitsTimed (run step {} (recoveredLabels 1000)) ∧
      TimeOutsTakeEnded (run step {} (recoveredLabels 1000)) :=
  units_timed_and_kept (recoveredLabels 1000) (by decide) (by decide) (by decide)

def maskedLabels : List (Env × ServiceOp) :=
  bootLabels 1000 100000 ++
    [(quietEnv 2000 101000, .resource (.applyEfficiencyResources 100 200
        { resourceNumber := ResourceType.cpu, isApply := true, timeOut := 0, reason := "sync"
          isPersist := true })),
      runAt 2000 0, timedApply 2000 101000 1000, runAt 2000 0,
      (quietEnv 2100 101100, .restart)] ++ bootLabels 2500 200000

/-- About 35 days are recovered as a time that is over, and the unit stays without a task;
a masked record goes away with its persistent unit when its timer ends. -/
theorem recovered_units_leak_and_end_early :
    (Admissible step RunsWhenDue {} (recoveredLabels 3000000000) ∧
      ¬ UnitsTimed (run step {} (recoveredLabels 3000000000))) ∧
    (Admissible step RunsWhenDue {} maskedLabels ∧
      ¬ TimeOutsTakeEnded (run step {} maskedLabels)) := by
  refine ⟨⟨by decide, ?_⟩, ⟨by decide, ?_⟩⟩
  · intro timed
    obtain ⟨due, queued, _⟩ := timed false 100 _ rfl _ (List.mem_singleton_self _) rfl
    have empty : (run step {} (recoveredLabels 3000000000)).pending = [] := by decide
    rw [empty] at queued
    cases queued
  · intro takesEnded
    have taken : (run step {} maskedLabels).pending[0]? =
        some (.resetTimeOutResource 100 false, 3000) := by decide
    obtain ⟨after, found, _⟩ := takesEnded (quietEnv 3000 200500) 0 100 false 3000 taken
      false 100 _ rfl _ (List.mem_cons_self ..) (Or.inl rfl)
    have gone : (((run step {} maskedLabels).step
        (quietEnv 3000 200500, .resource (.runPending 0))).infoMap false).lookup 100 = none := by
      decide
    rw [gone] at found
    cases found

end BgEfficiencyResourcesMgr

end BgTaskMgr.Efficiency
