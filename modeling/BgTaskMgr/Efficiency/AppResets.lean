import BgTaskMgr.Efficiency.CpuLevels

/-!
# Resets of an app

`ResetEfficiencyResourcesInner` takes the bits from the app record at once and posts a task for
each process record of the uid that holds some of them.  What the tasks take was read when they
were posted; here they run later, in any order and between other steps.
-/

set_option autoImplicit false

namespace BgTaskMgr.Efficiency

open Bitmask StepSystem

namespace BgEfficiencyResourcesMgr

/-- The task that `RemoveRelativeProcessRecord` posts for a process record. -/
def relativeReset (uid : Int) (mask : ResourceNumber) (record : ResourceApplicationRecord) :
    HandlerTask :=
  .resetEfficiencyResourcesInner
    { uid := uid, pid := record.pid, resourceNumber := mask &&& record.resourceNumber
      bundleName := record.bundleName, cpuLevel := record.cpuLevel } true

def relativeResets (env : Env) (uid : Int) (mask : ResourceNumber)
    (self : BgEfficiencyResourcesMgr) : List (HandlerTask × Int) :=
  ((KeyedMap.vals self.procResourceApplyMap).filter
    (fun record => record.uid = uid ∧ mask &&& record.resourceNumber ≠ 0#32)).map
      (fun record => (relativeReset uid mask record, env.now))

def resetRecord (mask : ResourceNumber) (record : ResourceApplicationRecord) :
    Option ResourceApplicationRecord :=
  let eraseBit := record.resourceNumber &&& mask
  if eraseBit = 0#32 then some record
  else if record.resourceNumber ^^^ eraseBit = 0#32 then none
  else some (erasedRecord eraseBit record)

/-- Between the two states nothing happened but that records of the uid lost bits of the mask,
with their units. -/
def ResetOnly (uid : Int) (mask : ResourceNumber) (before after : BgEfficiencyResourcesMgr) :
    Prop :=
  ∀ isProcess key, (after.infoMap isProcess).lookup key = (before.infoMap isProcess).lookup key ∨
    ∃ record part, (before.infoMap isProcess).lookup key = some record ∧ record.uid = uid ∧
      part &&& mask = part ∧ (after.infoMap isProcess).lookup key = resetRecord part record

/-- No record of the uid holds a bit of the mask, and none is empty. -/
def ResetComplete (uid : Int) (mask : ResourceNumber) (mgr : BgEfficiencyResourcesMgr) : Prop :=
  ∀ isProcess key record, (mgr.infoMap isProcess).lookup key = some record → record.uid = uid →
    record.resourceNumber &&& mask = 0#32 ∧ record.resourceNumber ≠ 0#32

def Takes (mgr : BgEfficiencyResourcesMgr) (label : Env × ServiceOp)
    (entry : HandlerTask × Int) : Prop :=
  ∃ env index, label = (env, .resource (.runPending index)) ∧ mgr.pending[index]? = some entry

def TakenIn (mgr : BgEfficiencyResourcesMgr) (labels : List (Env × ServiceOp))
    (entry : HandlerTask × Int) : Prop :=
  ∃ earlier label later, labels = earlier ++ label :: later ∧
    Takes (run step mgr earlier) label entry

/-- A task that leaves a reset of the uid alone: an apply is for another uid and goes to no
record of this one, and a reset of one of its processes finds no record of another uid. -/
def TaskUndisturbing (uid : Int) (mgr : BgEfficiencyResourcesMgr) : HandlerTask → Prop
  | .applyEfficiencyResourcesInner callbackInfo resourceInfo =>
      callbackInfo.uid ≠ uid ∧
        ∀ record, (mgr.infoMap resourceInfo.isProcess).lookup
          (callbackInfo.mapKey resourceInfo.isProcess) = some record → record.uid ≠ uid
  | .resetEfficiencyResourcesInner callbackInfo isProcess =>
      isProcess = true → callbackInfo.uid = uid →
        ∀ record, (mgr.infoMap true).lookup callbackInfo.pid = some record → record.uid = uid
  | .resetTimeOutResource _ _ => True

/-- A step that leaves a reset of the uid alone.  A restore brings no bit of the mask back from
the file. -/
def Undisturbing (uid : Int) (mask : ResourceNumber) (mgr : BgEfficiencyResourcesMgr) :
    Env × ServiceOp → Prop
  | (_, .resource (.runPending index)) =>
      ∀ entry, mgr.pending[index]? = some entry → TaskUndisturbing uid mgr entry.1
  | (env, .addSystemAbility ability) => Restores mgr env ability →
      ∀ isProcess key record, ((mgr.restoreResourceRecord env).infoMap isProcess).lookup key =
        some record → record.uid = uid →
          (mgr.infoMap isProcess).lookup key = some record ∨
            record.resourceNumber &&& mask = 0#32
  | _ => True

/-! ## What a reset does -/

section

variable {self : BgEfficiencyResourcesMgr} {env : Env}

theorem removeRelativeProcessRecord_eq (uid : Int) (mask : ResourceNumber) :
    self.removeRelativeProcessRecord env uid mask =
      { self with pending := self.pending ++ relativeResets env uid mask self } := by
  have loop : ∀ (records : List ResourceApplicationRecord) (mgr : BgEfficiencyResourcesMgr),
      records.foldl (postRelativeReset env uid mask) mgr =
        { mgr with
          pending := mgr.pending ++ (records.filter (fun record =>
            record.uid = uid ∧ mask &&& record.resourceNumber ≠ 0#32)).map
              (fun record => (relativeReset uid mask record, env.now)) } := by
    intro records
    induction records with
    | nil => simp
    | cons record rest ih =>
        intro mgr
        rw [List.foldl_cons, ih]
        unfold postRelativeReset
        by_cases relative : record.uid = uid ∧ mask &&& record.resourceNumber ≠ 0#32
        · rw [if_pos relative, List.filter_cons_of_pos (by simpa using relative)]
          simp [postTask, relativeReset]
        · rw [if_neg relative, List.filter_cons_of_neg (by simpa using relative)]
  exact loop _ self

theorem lookup_removeTargetResourceRecord (isProcess : Bool) (mapKey : Int)
    (callbackInfo : ResourceCallbackInfo) (other : Bool) (key : Int) :
    ((self.removeTargetResourceRecord isProcess mapKey callbackInfo).infoMap other).lookup key =
      if other = isProcess ∧ key = mapKey then
        ((self.infoMap isProcess).lookup mapKey).bind (resetRecord callbackInfo.resourceNumber)
      else (self.infoMap other).lookup key := by
  unfold removeTargetResourceRecord resetRecord
  dsimp only
  by_cases here : other = isProcess ∧ key = mapKey
  · rw [if_pos here]
    obtain ⟨rfl, rfl⟩ := here
    cases found : (self.infoMap other).lookup key with
    | none => exact found
    | some record =>
        by_cases nothing : record.resourceNumber &&& callbackInfo.resourceNumber = 0#32
        · simp [nothing, found]
        · simp only [nothing, if_false, Option.bind_some]
          rw [lookup_eraseBits found, if_pos ⟨rfl, rfl⟩]
          rfl
  · rw [if_neg here]
    split
    · rfl
    · rename_i record found
      split
      · rfl
      · rw [lookup_eraseBits found, if_neg here]

theorem infoMap_removeTargetResourceRecord_other {isProcess other : Bool}
    (differ : other ≠ isProcess) (mapKey : Int) (callbackInfo : ResourceCallbackInfo) :
    (self.removeTargetResourceRecord isProcess mapKey callbackInfo).infoMap other =
      self.infoMap other := by
  unfold removeTargetResourceRecord
  dsimp only
  split
  · rfl
  · split
    · rfl
    · simp only [eraseBits]
      split
      · rw [infoMap_setInfoMap, if_neg differ, infoMap_onResourceChanged]
      · rw [infoMap_setInfoMap, if_neg differ, infoMap_onResourceChanged]

theorem pending_resetEfficiencyResourcesInner_app (callbackInfo : ResourceCallbackInfo) :
    (self.resetEfficiencyResourcesInner env callbackInfo false).pending = self.pending ++
      relativeResets env callbackInfo.uid callbackInfo.resourceNumber self := by
  have processes := @infoMap_removeTargetResourceRecord_other self false true (by decide)
    callbackInfo.uid callbackInfo
  unfold resetEfficiencyResourcesInner
  simp only [Bool.false_eq_true, if_false]
  rw [pending_refreshResourceRecord, removeRelativeProcessRecord_eq]
  dsimp only
  rw [pending_removeTargetResourceRecord]
  unfold relativeResets
  have sameMap : (self.removeTargetResourceRecord false callbackInfo.uid
      callbackInfo).procResourceApplyMap = self.procResourceApplyMap := processes
  rw [sameMap]

theorem lookup_resetEfficiencyResourcesInner (callbackInfo : ResourceCallbackInfo)
    (isProcess other : Bool) (key : Int) :
    ((self.resetEfficiencyResourcesInner env callbackInfo isProcess).infoMap other).lookup key =
      if other = isProcess ∧ key = callbackInfo.mapKey isProcess then
        ((self.infoMap isProcess).lookup key).bind (resetRecord callbackInfo.resourceNumber)
      else (self.infoMap other).lookup key := by
  have removed := @lookup_removeTargetResourceRecord self isProcess
    (callbackInfo.mapKey isProcess) callbackInfo other key
  have target : ((self.resetEfficiencyResourcesInner env callbackInfo isProcess).infoMap
      other).lookup key = ((self.removeTargetResourceRecord isProcess
        (callbackInfo.mapKey isProcess) callbackInfo).infoMap other).lookup key := by
    unfold resetEfficiencyResourcesInner
    rw [infoMap_refreshResourceRecord]
    cases isProcess with
    | true => rfl
    | false =>
        simp only [Bool.false_eq_true, if_false]
        rw [removeRelativeProcessRecord_eq]
        rfl
  rw [target, removed]
  by_cases here : other = isProcess ∧ key = callbackInfo.mapKey isProcess
  · rw [if_pos here, if_pos here, here.2]
  · rw [if_neg here, if_neg here]

/-! ## What stays bounded -/

def Bounded (uid : Int) (mask : ResourceNumber) (isProcess : Bool) (key : Int)
    (bits : ResourceNumber) (mgr : BgEfficiencyResourcesMgr) : Prop :=
  ∀ record, (mgr.infoMap isProcess).lookup key = some record → record.uid = uid →
    bits &&& (record.resourceNumber &&& mask) = record.resourceNumber &&& mask

def BringsNone (uid : Int) (mask : ResourceNumber) (before after : BgEfficiencyResourcesMgr) :
    Prop :=
  ∀ isProcess key record, (after.infoMap isProcess).lookup key = some record →
    record.uid = uid → record.resourceNumber &&& mask = 0#32 ∨
      ∃ held, (before.infoMap isProcess).lookup key = some held ∧ held.uid = uid ∧
        held.resourceNumber &&& record.resourceNumber = record.resourceNumber

theorem subset_mask {bits held number mask : ResourceNumber}
    (bounded : bits &&& (held &&& mask) = held &&& mask) (subset : held &&& number = number) :
    bits &&& (number &&& mask) = number &&& mask := by
  have inHeld : (held &&& mask) &&& (number &&& mask) = number &&& mask := by
    calc (held &&& mask) &&& (number &&& mask)
        = (held &&& number) &&& (mask &&& mask) := by
          rw [BitVec.and_assoc, BitVec.and_assoc, ← BitVec.and_assoc mask,
            BitVec.and_comm mask number, BitVec.and_assoc number]
      _ = number &&& mask := by rw [subset, BitVec.and_self]
  rw [← inHeld, ← BitVec.and_assoc, bounded]

theorem Bounded.step {uid : Int} {mask bits : ResourceNumber} {isProcess : Bool} {key : Int}
    {after : BgEfficiencyResourcesMgr} (bounded : Bounded uid mask isProcess key bits self)
    (brings : BringsNone uid mask self after) : Bounded uid mask isProcess key bits after := by
  intro record found own
  rcases brings isProcess key record found own with clear | ⟨held, heldFound, heldOwn, subset⟩
  · rw [clear, BitVec.and_zero]
  · exact subset_mask (bounded held heldFound heldOwn) subset

theorem uid_of_descends {isProcess : Bool} {key : Int} {record held : ResourceApplicationRecord}
    (descends : Descends self isProcess key record)
    (heldFound : (self.infoMap isProcess).lookup key = some held) : held.uid = record.uid := by
  cases descends with
  | kept found => rw [Option.some.inj (heldFound.symm.trans found)]
  | erased found _ result =>
      rw [result, Option.some.inj (heldFound.symm.trans found)]
      rfl

theorem bringsNone_of_shrinks {after : BgEfficiencyResourcesMgr} (shrinks : Shrinks self after)
    (uid : Int) (mask : ResourceNumber) : BringsNone uid mask self after := by
  intro isProcess key record found own
  obtain ⟨held, heldFound, subset⟩ := subset_of_descends (shrinks isProcess key record found)
  have sameUid := uid_of_descends (shrinks isProcess key record found) heldFound
  exact Or.inr ⟨held, heldFound, sameUid.trans own, subset⟩

theorem bringsNone_of_same {after : BgEfficiencyResourcesMgr}
    (maps : ∀ isProcess, after.infoMap isProcess = self.infoMap isProcess) (uid : Int)
    (mask : ResourceNumber) : BringsNone uid mask self after := by
  intro isProcess key record found own
  rw [maps] at found
  exact Or.inr ⟨record, found, own, BitVec.and_self⟩

/-! ## Undisturbing steps -/

theorem timedHeld_of_represents {number : ResourceNumber} {units : List PersistTime}
    (represents : Represents number units) : TimedHeld number units := by
  intro unit member _
  have listed : unit.resourceIndex ∈ unitIndices units := List.mem_map_of_mem member
  have known := represents.below _ listed
  have inside : unit.resourceIndex < 32 := by
    have most : maxResourcesTypeNum = 9 := rfl
    omega
  rw [represents.mask, getLsbD_maskOf _ inside]
  exact decide_eq_true listed

theorem Invariant.allTimedHeld (invariant : Invariant self) : AllTimedHeld self where
  maps isProcess key record found :=
    timedHeld_of_represents (invariant.maps isProcess key record found).represents
  fileApp key record found :=
    timedHeld_of_represents (invariant.fileApp key record found).represents
  fileProcess key record found :=
    timedHeld_of_represents (invariant.fileProcess key record found).represents

theorem uid_appliedRecord (callbackInfo : ResourceCallbackInfo)
    (resourceInfo : EfficiencyResourceInfo) (found : Option ResourceApplicationRecord) :
    (appliedRecord env callbackInfo resourceInfo found).uid =
      (found.map (fun record => record.uid)).getD callbackInfo.uid := by
  cases found with
  | none => rfl
  | some record => rfl

/-- A record after an apply is an old one, or the addressed one with its old owner or the
caller. -/
theorem lookup_applyEfficiencyResourcesInner_cases {callbackInfo : ResourceCallbackInfo}
    {resourceInfo : EfficiencyResourceInfo} {isProcess : Bool} {key : Int}
    {record : ResourceApplicationRecord}
    (found : ((self.applyEfficiencyResourcesInner env callbackInfo resourceInfo).infoMap
      isProcess).lookup key = some record) :
    (self.infoMap isProcess).lookup key = some record ∨
      isProcess = resourceInfo.isProcess ∧ key = callbackInfo.mapKey resourceInfo.isProcess ∧
        record.uid = (((self.infoMap isProcess).lookup key).map
          (fun held => held.uid)).getD callbackInfo.uid := by
  obtain ⟨cpuLevel, lookups⟩ := exists_lookup_applied self env callbackInfo resourceInfo
  rw [lookups] at found
  split at found
  · rename_i here
    refine Or.inr ⟨here.1, here.2, ?_⟩
    rw [← Option.some.inj found, here.1, here.2]
    exact @uid_appliedRecord env callbackInfo resourceInfo _
  · exact Or.inl found

theorem bringsNone_applyEfficiencyResourcesInner {uid : Int} (mask : ResourceNumber)
    {callbackInfo : ResourceCallbackInfo} {resourceInfo : EfficiencyResourceInfo}
    (other : callbackInfo.uid ≠ uid)
    (elsewhere : ∀ record, (self.infoMap resourceInfo.isProcess).lookup
      (callbackInfo.mapKey resourceInfo.isProcess) = some record → record.uid ≠ uid) :
    BringsNone uid mask self
      (self.applyEfficiencyResourcesInner env callbackInfo resourceInfo) := by
  intro isProcess key record found own
  rcases lookup_applyEfficiencyResourcesInner_cases found with kept | ⟨rfl, rfl, owner⟩
  · exact Or.inr ⟨record, kept, own, BitVec.and_self⟩
  · rw [own] at owner
    cases heldFound : (self.infoMap resourceInfo.isProcess).lookup
        (callbackInfo.mapKey resourceInfo.isProcess) with
    | none =>
        rw [heldFound] at owner
        exact absurd owner.symm other
    | some held =>
        rw [heldFound] at owner
        exact absurd owner.symm (elsewhere held heldFound)

/-- Such a step gives no record of the uid a bit of the mask. -/
theorem bringsNone_step (invariant : Invariant self) {uid : Int} {mask : ResourceNumber}
    {label : Env × ServiceOp} (undisturbing : Undisturbing uid mask self label) :
    BringsNone uid mask self (self.step label) := by
  obtain ⟨env, op⟩ := label
  cases op with
  | resource op =>
      by_cases applies : Applies self (env, .resource op)
      · obtain ⟨_, index, callbackInfo, resourceInfo, due, same, taken⟩ := applies
        obtain ⟨rfl, sameOp⟩ := Prod.mk.inj same
        cases sameOp
        obtain ⟨other, elsewhere⟩ := undisturbing _ taken
        have popped : BringsNone uid mask { self with pending := self.pending.eraseIdx index }
            (applyEfficiencyResourcesInner env callbackInfo resourceInfo
              { self with pending := self.pending.eraseIdx index }) :=
          bringsNone_applyEfficiencyResourcesInner mask other elsewhere
        simp only [step, resourceStep]
        rw [taken]
        exact popped
      · exact bringsNone_of_shrinks (takesHeld_resourceStep invariant.allTimedHeld applies).records
          uid mask
  | addSystemAbility ability =>
      intro isProcess key record found own
      rcases lookup_onAddSystemAbility found with kept | ⟨restores, held, heldFound, _, recovered⟩
      · exact Or.inr ⟨record, kept, own, BitVec.and_self⟩
      · obtain ⟨sameUid, subset⟩ : held.uid = record.uid ∧
            held.resourceNumber &&& record.resourceNumber = record.resourceNumber := by
          rw [recovered]
          unfold recoveredRecord
          split
          · exact ⟨rfl, BitVec.and_self⟩
          · exact ⟨rfl, and_and_self _ _⟩
        rcases undisturbing restores isProcess key held heldFound (sameUid.trans own) with
          known | clear
        · exact Or.inr ⟨held, known, sameUid.trans own, subset⟩
        · left
          rw [← subset, BitVec.and_comm held.resourceNumber, BitVec.and_assoc, clear,
            BitVec.and_zero]
  | removeSystemAbility ability =>
      apply bringsNone_of_same
      intro isProcess
      simp only [step, onRemoveSystemAbility]
      split <;> rfl
  | restart =>
      intro isProcess key record found
      cases isProcess with
      | false => cases found
      | true => cases found

/-! ## The reset and its tasks -/

/-- What is left of a record has the bits besides the mask and the same owner. -/
theorem resetRecord_spec {mask : ResourceNumber} {record after : ResourceApplicationRecord}
    (left : resetRecord mask record = some after) :
    after.uid = record.uid ∧ after.resourceNumber = record.resourceNumber &&& ~~~mask := by
  unfold resetRecord at left
  dsimp only at left
  split at left
  · rename_i nothing
    rw [← Option.some.inj left]
    refine ⟨rfl, ?_⟩
    have whole := BitVec.and_or_distrib_left (x := record.resourceNumber) (y := mask)
      (z := ~~~mask)
    rw [BitVec.or_not_self, BitVec.and_allOnes, nothing, BitVec.zero_or] at whole
    exact whole
  · split at left
    · cases left
    · rw [← Option.some.inj left]
      refine ⟨rfl, ?_⟩
      unfold erasedRecord
      dsimp only
      rw [xor_eq_and_not (and_and_self _ _)]
      refine BitVec.eq_of_getLsbD_eq (fun i inBounds => ?_)
      simp only [BitVec.getLsbD_and, BitVec.getLsbD_not, inBounds, decide_true, Bool.true_and]
      cases record.resourceNumber.getLsbD i <;> simp

theorem resetOnly_resetEfficiencyResourcesInner {mask : ResourceNumber} {uid : Int}
    (callbackInfo : ResourceCallbackInfo) (isProcess : Bool)
    (within : callbackInfo.resourceNumber &&& mask = callbackInfo.resourceNumber)
    (owned : ∀ record, (self.infoMap isProcess).lookup (callbackInfo.mapKey isProcess) =
      some record → record.uid = uid) :
    ResetOnly uid mask self (self.resetEfficiencyResourcesInner env callbackInfo isProcess) := by
  intro other key
  rw [lookup_resetEfficiencyResourcesInner]
  split
  · rename_i here
    obtain ⟨rfl, rfl⟩ := here
    cases found : (self.infoMap other).lookup (callbackInfo.mapKey other) with
    | none => exact Or.inl rfl
    | some record =>
        exact Or.inr ⟨record, callbackInfo.resourceNumber, rfl, owned record found, within, rfl⟩
  · exact Or.inl rfl

/-- When the task for a process has run, its record has no bit of the mask left. -/
theorem bounded_relativeReset {uid : Int} {mask : ResourceNumber}
    {record : ResourceApplicationRecord}
    (bounded : Bounded uid mask true record.pid (mask &&& record.resourceNumber) self) :
    Bounded uid mask true record.pid 0#32 (self.runTask env (relativeReset uid mask record)) := by
  intro after found own
  unfold relativeReset at found
  simp only [runTask] at found
  rw [lookup_resetEfficiencyResourcesInner, if_pos ⟨rfl, rfl⟩] at found
  obtain ⟨held, heldFound, left⟩ := Option.bind_eq_some_iff.mp found
  obtain ⟨sameUid, number⟩ := resetRecord_spec left
  dsimp only at number
  have within := bounded held heldFound (sameUid.symm.trans own)
  rw [BitVec.zero_and, number]
  symm
  calc held.resourceNumber &&& ~~~(mask &&& record.resourceNumber) &&& mask
      = held.resourceNumber &&& mask &&& ~~~(mask &&& record.resourceNumber) := by
        rw [BitVec.and_assoc, BitVec.and_comm _ mask, ← BitVec.and_assoc]
    _ = 0#32 := by
        rw [← within, BitVec.and_comm (mask &&& record.resourceNumber), BitVec.and_assoc,
          BitVec.and_not_self]
        exact BitVec.and_zero

theorem invariant_resetEfficiencyResourcesInner (invariant : Invariant self)
    (callbackInfo : ResourceCallbackInfo) (isProcess : Bool) :
    Invariant (self.resetEfficiencyResourcesInner env callbackInfo isProcess) :=
  invariant_of_memoryOk invariant
    (memoryOk_resetEfficiencyResourcesInner invariant.toMemoryOk env callbackInfo isProcess)
    (fileFollows_runTask env (.resetEfficiencyResourcesInner callbackInfo isProcess))

/-! ## Runs after the reset -/

def Calm (uid : Int) (mask : ResourceNumber) (mgr : BgEfficiencyResourcesMgr)
    (label : Env × ServiceOp) : Prop :=
  RestoreKeepsMasks mgr label ∧ Undisturbing uid mask mgr label

theorem invariant_run {uid : Int} {mask : ResourceNumber} {labels : List (Env × ServiceOp)}
    (invariant : Invariant self) (calm : Admissible step (Calm uid mask) self labels) :
    Invariant (run step self labels) := by
  refine @run_invariant _ _ step (Calm uid mask) Invariant ?_ labels self invariant calm
  intro mgr label holds okStep
  exact invariant_step holds label okStep.1

theorem bounded_run {uid : Int} {mask bits : ResourceNumber} {isProcess : Bool} {key : Int}
    {labels : List (Env × ServiceOp)} (invariant : Invariant self)
    (calm : Admissible step (Calm uid mask) self labels)
    (bounded : Bounded uid mask isProcess key bits self) :
    Bounded uid mask isProcess key bits (run step self labels) := by
  have both : Invariant (run step self labels) ∧
      Bounded uid mask isProcess key bits (run step self labels) := by
    refine @run_invariant _ _ step (Calm uid mask)
      (fun mgr => Invariant mgr ∧ Bounded uid mask isProcess key bits mgr) ?_ labels self
      ⟨invariant, bounded⟩ calm
    intro mgr label holds okStep
    exact ⟨invariant_step holds.1 label okStep.1,
      holds.2.step (bringsNone_step holds.1 okStep.2)⟩
  exact both.2

/-- A run that takes the task for a process leaves its record without the bits. -/
theorem bounded_of_taken {uid : Int} {mask : ResourceNumber}
    {record : ResourceApplicationRecord} {due : Int} {labels : List (Env × ServiceOp)}
    (invariant : Invariant self) (calm : Admissible step (Calm uid mask) self labels)
    (bounded : Bounded uid mask true record.pid (mask &&& record.resourceNumber) self)
    (taken : TakenIn self labels (relativeReset uid mask record, due)) :
    Bounded uid mask true record.pid 0#32 (run step self labels) := by
  obtain ⟨earlier, label, later, rfl, env, index, rfl, taken⟩ := taken
  obtain ⟨before, here, after⟩ := calm.split
  have invariantBefore := invariant_run invariant before
  have boundedBefore := bounded_run invariant before bounded
  have stepped : Bounded uid mask true record.pid 0#32
      ((run step self earlier).step (env, .resource (.runPending index))) := by
    simp only [step, resourceStep]
    rw [taken]
    exact @bounded_relativeReset { run step self earlier with
      pending := (run step self earlier).pending.eraseIdx index } env uid mask record boundedBefore
  rw [run_append, run_cons]
  exact bounded_run (invariant_step invariantBefore _ here.1) after stepped

/-- After a run that takes all tasks of the reset, no record of the uid has a bit of the
mask. -/
theorem resetComplete_of_taken (invariant : Invariant self) {callbackInfo : ResourceCallbackInfo}
    {labels : List (Env × ServiceOp)}
    (calm : Admissible step (Calm callbackInfo.uid callbackInfo.resourceNumber)
      (self.resetEfficiencyResourcesInner env callbackInfo false) labels)
    (taken : ∀ entry ∈ relativeResets env callbackInfo.uid callbackInfo.resourceNumber self,
      TakenIn (self.resetEfficiencyResourcesInner env callbackInfo false) labels entry) :
    ResetComplete callbackInfo.uid callbackInfo.resourceNumber
      (run step (self.resetEfficiencyResourcesInner env callbackInfo false) labels) := by
  have reset : Invariant (self.resetEfficiencyResourcesInner env callbackInfo false) :=
    invariant_resetEfficiencyResourcesInner invariant callbackInfo false
  have final := invariant_run reset calm
  intro isProcess key record found own
  refine ⟨?_, (final.maps isProcess key record found).nonzero⟩
  have none : Bounded callbackInfo.uid callbackInfo.resourceNumber isProcess key 0#32
      (run step (self.resetEfficiencyResourcesInner env callbackInfo false) labels) := by
    cases isProcess with
    | false =>
        -- the app record has lost the bits in the reset itself
        apply bounded_run reset calm
        intro after afterFound afterOwn
        have keyed := (reset.maps false key after afterFound).keyed
        rw [lookup_resetEfficiencyResourcesInner] at afterFound
        have here : key = callbackInfo.uid := keyed.symm.trans afterOwn
        rw [if_pos ⟨rfl, here⟩] at afterFound
        obtain ⟨held, _, left⟩ := Option.bind_eq_some_iff.mp afterFound
        rw [BitVec.zero_and, (resetRecord_spec left).2, BitVec.and_assoc, BitVec.not_and_self]
        exact BitVec.and_zero.symm
    | true =>
        have sameMap : ∀ stored, ((self.resetEfficiencyResourcesInner env callbackInfo
            false).infoMap true).lookup key = some stored →
              (self.infoMap true).lookup key = some stored := by
          intro stored storedFound
          rw [lookup_resetEfficiencyResourcesInner, if_neg (by simp)] at storedFound
          exact storedFound
        by_cases posted : ∃ stored, (self.infoMap true).lookup key = some stored ∧
            stored.uid = callbackInfo.uid ∧
              callbackInfo.resourceNumber &&& stored.resourceNumber ≠ 0#32
        · obtain ⟨stored, storedFound, storedOwn, overlaps⟩ := posted
          have keyed : stored.pid = key := (invariant.maps true key stored storedFound).keyed
          subst keyed
          refine @bounded_of_taken _ _ _ stored env.now labels reset calm ?_ (taken _ ?_)
          · intro other otherFound _
            rw [← Option.some.inj (storedFound.symm.trans (sameMap other otherFound)),
              BitVec.and_comm callbackInfo.resourceNumber, BitVec.and_self]
          · apply List.mem_map.mpr
            refine ⟨stored, List.mem_filter.mpr ⟨KeyedMap.mem_vals.mpr ⟨_, storedFound⟩, ?_⟩, rfl⟩
            simpa using ⟨storedOwn, overlaps⟩
        · apply bounded_run reset calm
          intro stored storedFound storedOwn
          have clear : callbackInfo.resourceNumber &&& stored.resourceNumber = 0#32 := by
            by_contra overlaps
            exact posted ⟨stored, sameMap stored storedFound, storedOwn, overlaps⟩
          rw [BitVec.and_comm stored.resourceNumber, clear, BitVec.and_zero]
  have within := none record found own
  rw [BitVec.zero_and] at within
  exact within.symm

end

def stateAfter (history : List (Env × ServiceOp)) (queue : List (HandlerTask × Int)) :
    BgEfficiencyResourcesMgr :=
  { run step {} history with pending := queue }

theorem invariant_stateAfter {history : List (Env × ServiceOp)} {queue : List (HandlerTask × Int)}
    (keeps : Admissible step RestoreKeepsMasks {} history)
    (left : queue ⊆ (run step {} history).pending) : Invariant (stateAfter history queue) := by
  have reached : Invariant (run step {} history) := by
    refine run_invariant ?_ history _ invariant_init keeps
    intro mgr label invariant keeps
    exact invariant_step invariant label keeps
  exact ⟨⟨reached.maps, fun entry member => reached.queue entry (left member)⟩,
    reached.fileApp, reached.fileProcess⟩

/-- In a run that cuts no masks, the reset of an app posts its tasks and takes bits of the mask
from the records of its uid only, and so does each task when it runs.  Once a run that leaves
the reset undisturbed has taken all of them, no record of the uid has a bit of the mask, and
none is empty. -/
theorem app_reset_complete_and_local {history : List (Env × ServiceOp)}
    (keeps : Admissible step RestoreKeepsMasks {} history) {queue : List (HandlerTask × Int)}
    (left : queue ⊆ (run step {} history).pending) (env : Env)
    (callbackInfo : ResourceCallbackInfo) {labels : List (Env × ServiceOp)}
    (calm : Admissible step (Calm callbackInfo.uid callbackInfo.resourceNumber)
      ((stateAfter history queue).resetEfficiencyResourcesInner env callbackInfo false) labels) :
    let self := stateAfter history queue
    let reset := self.resetEfficiencyResourcesInner env callbackInfo false
    let tasks := relativeResets env callbackInfo.uid callbackInfo.resourceNumber self
    reset.pending = queue ++ tasks ∧
    ResetOnly callbackInfo.uid callbackInfo.resourceNumber self reset ∧
    (∀ earlier label later entry, labels = earlier ++ label :: later → entry ∈ tasks →
      Takes (run step reset earlier) label entry →
        ResetOnly callbackInfo.uid callbackInfo.resourceNumber (run step reset earlier)
          ((run step reset earlier).step label)) ∧
    ((∀ entry ∈ tasks, TakenIn reset labels entry) →
      ResetComplete callbackInfo.uid callbackInfo.resourceNumber (run step reset labels)) := by
  dsimp only
  have invariant := invariant_stateAfter keeps left
  refine ⟨pending_resetEfficiencyResourcesInner_app callbackInfo, ?_, ?_,
    resetComplete_of_taken invariant calm⟩
  · apply resetOnly_resetEfficiencyResourcesInner callbackInfo false BitVec.and_self
    intro record found
    exact (invariant.maps false _ record found).keyed
  · rintro earlier label later entry rfl member ⟨later', index, rfl, taken⟩
    obtain ⟨_, here, _⟩ := calm.split
    obtain ⟨record, _, rfl⟩ := List.mem_map.mp member
    have owned := here.2 _ taken rfl rfl
    have within : callbackInfo.resourceNumber &&& record.resourceNumber &&&
        callbackInfo.resourceNumber = callbackInfo.resourceNumber &&& record.resourceNumber := by
      rw [BitVec.and_assoc, BitVec.and_comm record.resourceNumber, ← BitVec.and_assoc,
        BitVec.and_self]
    simp only [step, resourceStep]
    rw [taken]
    exact @resetOnly_resetEfficiencyResourcesInner { run step _ earlier with
      pending := (run step _ earlier).pending.eraseIdx index } later' _ callbackInfo.uid
      { uid := callbackInfo.uid, pid := record.pid
        resourceNumber := callbackInfo.resourceNumber &&& record.resourceNumber
        bundleName := record.bundleName, cpuLevel := record.cpuLevel } true within owned

def appAndProcess : List (Env × ServiceOp) :=
  bootLabels 1000 300000 ++
    [persistentApply (ResourceType.cpu ||| ResourceType.timer) false (-1), runAt 2000 0,
      persistentApply ResourceType.cpu true (-1), runAt 2000 0]

def cpuReset : BgEfficiencyResourcesMgr :=
  (stateAfter appAndProcess []).resetEfficiencyResourcesInner (quietEnv 3000 301000)
    ⟨100, 0, ResourceType.cpu, "app", -1⟩ false

theorem app_reset_cpu :
    ResetComplete 100 ResourceType.cpu (run step cpuReset [runAt 3000 0]) := by
  have posted : cpuReset.pending[0]? =
      some (.resetEfficiencyResourcesInner ⟨100, 200, ResourceType.cpu, "app", -1⟩ true, 3000) := by
    decide
  have listed : relativeResets (quietEnv 3000 301000) 100 ResourceType.cpu
      (stateAfter appAndProcess []) =
        [(.resetEfficiencyResourcesInner ⟨100, 200, ResourceType.cpu, "app", -1⟩ true, 3000)] := by
    decide
  have calm : Admissible step (Calm 100 ResourceType.cpu) cpuReset [runAt 3000 0] := by
    refine ⟨⟨trivial, ?_⟩, trivial⟩
    intro entry taken
    rw [posted] at taken
    cases taken
    intro _ _ record found
    have owner : ((cpuReset.infoMap true).lookup 200).map (fun record => record.uid) =
        some 100 := by
      decide
    rw [found] at owner
    exact Option.some.inj owner
  have reset := @app_reset_complete_and_local appAndProcess (by decide) [] (List.nil_subset _)
    (quietEnv 3000 301000) ⟨100, 0, ResourceType.cpu, "app", -1⟩ [runAt 3000 0] calm
  apply reset.2.2.2
  intro entry member
  rw [listed] at member
  rw [List.mem_singleton.mp member]
  exact ⟨[], runAt 3000 0, [], rfl, _, 0, rfl, posted⟩

def runningEnv : Env :=
  { quietEnv 4000 200000 with allRunningProcesses := [(100, 200)] }

def emptiedHistory : List (Env × ServiceOp) :=
  bootLabels 1000 100000 ++ [persistentApply ResourceType.cpu false (-1), runAt 2000 0,
    (quietEnv 3000 102000, .restart), (runningEnv, .addSystemAbility .appMgr),
    (runningEnv, .addSystemAbility .bundleMgr), (runningEnv, .addSystemAbility .resSched)]

/-- The reset of all resources posts no task and leaves the app record that the start emptied. -/
theorem app_reset_leaves_empty_record :
    relativeResets runningEnv 100 maxResourceMask (stateAfter emptiedHistory []) = [] ∧
      ¬ ResetComplete 100 maxResourceMask
        ((stateAfter emptiedHistory []).resetEfficiencyResourcesInner runningEnv
          ⟨100, 0, maxResourceMask, "app", -1⟩ false) := by
  refine ⟨by decide, ?_⟩
  intro complete
  have stays : ((((stateAfter emptiedHistory []).resetEfficiencyResourcesInner runningEnv
      ⟨100, 0, maxResourceMask, "app", -1⟩ false).infoMap false).lookup 100).map
        (fun record => (record.uid, record.resourceNumber)) = some (100, 0#32) := by
    decide
  obtain ⟨record, found, isEmpty⟩ := Option.map_eq_some_iff.mp stays
  obtain ⟨own, number⟩ := Prod.mk.inj isEmpty
  exact (complete false 100 record found own).2 number

end BgEfficiencyResourcesMgr

end BgTaskMgr.Efficiency
