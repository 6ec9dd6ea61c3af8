import BgTaskMgr.Efficiency.Representation

/-!
# What a subscriber learns about the efficiency resources

A subscriber sets the bits of each apply event and clears those of each reset event.
Since every change of a stored mask is announced by exactly the bits it adds or takes
away, the subscriber's masks are those of the service.
-/

set_option autoImplicit false

namespace BgTaskMgr.Efficiency

open Bitmask StepSystem

namespace BgEfficiencyResourcesMgr

def mirrorEvent (isProcess : Bool) (key : Int) (held : ResourceNumber)
    (event : EfficiencyResourcesEventType × ResourceCallbackInfo) : ResourceNumber :=
  if event.2.mapKey isProcess ≠ key then held
  else if event.1 = applyType isProcess then held ||| event.2.resourceNumber
  else if event.1 = resetType isProcess then held &&& ~~~event.2.resourceNumber
  else held

/-- The mask a subscriber present from the start computes for a uid or a pid. -/
def mirror (isProcess : Bool) (key : Int)
    (events : List (EfficiencyResourcesEventType × ResourceCallbackInfo)) : ResourceNumber :=
  events.foldl (mirrorEvent isProcess key) 0#32

/-- `resourceNumber_` of the record under `key`, 0 when there is none. -/
def heldNumber (isProcess : Bool) (key : Int) (mgr : BgEfficiencyResourcesMgr) :
    ResourceNumber :=
  (((mgr.infoMap isProcess).lookup key).map (fun record => record.resourceNumber)).getD 0#32

def Mirrors (mgr : BgEfficiencyResourcesMgr) : Prop :=
  ∀ isProcess key, mirror isProcess key mgr.events = heldNumber isProcess key mgr

/-! ## One event -/

theorem mirror_append (isProcess : Bool) (key : Int)
    (events : List (EfficiencyResourcesEventType × ResourceCallbackInfo))
    (event : EfficiencyResourcesEventType × ResourceCallbackInfo) :
    mirror isProcess key (events ++ [event]) =
      mirrorEvent isProcess key (mirror isProcess key events) event := by
  simp [mirror]

theorem mirrorEvent_apply (isProcess other : Bool) (key : Int) (held : ResourceNumber)
    (info : ResourceCallbackInfo) :
    mirrorEvent other key held (applyType isProcess, info) =
      if other = isProcess ∧ key = info.mapKey isProcess then held ||| info.resourceNumber
      else held := by
  unfold mirrorEvent
  by_cases same : other = isProcess
  · subst same
    by_cases here : info.mapKey other = key
    · simp [here]
    · simp [here, Ne.symm here]
  · have foreign : applyType isProcess ≠ applyType other ∧
        applyType isProcess ≠ resetType other := by
      revert same
      cases isProcess <;> cases other <;> decide
    simp [same, foreign]

theorem mirrorEvent_reset (isProcess other : Bool) (key : Int) (held : ResourceNumber)
    (info : ResourceCallbackInfo) :
    mirrorEvent other key held (resetType isProcess, info) =
      if other = isProcess ∧ key = info.mapKey isProcess then held &&& ~~~info.resourceNumber
      else held := by
  unfold mirrorEvent
  have notApply : resetType isProcess ≠ applyType other := by
    cases isProcess <;> cases other <;> decide
  by_cases same : other = isProcess
  · subst same
    by_cases here : info.mapKey other = key
    · simp [here, notApply]
    · simp [here, Ne.symm here]
  · have foreign : resetType isProcess ≠ resetType other := by
      revert same
      cases isProcess <;> cases other <;> decide
    simp [same, foreign, notApply]

/-! ## What is held after each update -/

section

variable {self : BgEfficiencyResourcesMgr}

theorem heldNumber_insert (isProcess other : Bool) (mapKey key : Int)
    (record : ResourceApplicationRecord) :
    heldNumber other key
        (self.setInfoMap isProcess ((self.infoMap isProcess).insert mapKey record)) =
      if other = isProcess ∧ key = mapKey then record.resourceNumber
      else heldNumber other key self := by
  unfold heldNumber
  rw [lookup_setInfoMap_insert]
  split
  · rfl
  · rfl

theorem heldNumber_eraseBits {isProcess : Bool} {mapKey : Int}
    {record : ResourceApplicationRecord} {eraseBit : ResourceNumber} (cpuLevel : Int)
    (found : (self.infoMap isProcess).lookup mapKey = some record) (other : Bool) (key : Int) :
    heldNumber other key (self.eraseBits isProcess mapKey record eraseBit cpuLevel) =
      if other = isProcess ∧ key = mapKey then record.resourceNumber ^^^ eraseBit
      else heldNumber other key self := by
  simp only [eraseBits, heldNumber]
  split
  · rename_i nothing
    rw [infoMap_setInfoMap]
    by_cases same : other = isProcess
    · subst same
      rw [if_pos rfl, KeyedMap.lookup_erase]
      by_cases here : key = mapKey
      · simp [here, nothing]
      · simp [here]
    · simp [same]
  · rw [infoMap_setInfoMap]
    by_cases same : other = isProcess
    · subst same
      rw [if_pos rfl, KeyedMap.lookup_adjust, infoMap_onResourceChanged]
      by_cases here : key = mapKey
      · subst here
        rw [found]
        simp
      · simp [here]
    · simp [same]

theorem appliedRecord_resourceNumber (env : Env) (callbackInfo : ResourceCallbackInfo)
    (resourceInfo : EfficiencyResourceInfo) (found : Option ResourceApplicationRecord) :
    (appliedRecord env callbackInfo resourceInfo found).resourceNumber =
      (found.map (fun record => record.resourceNumber)).getD 0#32 |||
        callbackInfo.resourceNumber := by
  cases found with
  | none => exact BitVec.zero_or.symm
  | some record => rfl

/-- What the record had and what is announced make up what it has. -/
theorem appliedRecord_announces (env : Env) (callbackInfo : ResourceCallbackInfo)
    (resourceInfo : EfficiencyResourceInfo) (found : Option ResourceApplicationRecord) :
    (found.map (fun record => record.resourceNumber)).getD 0#32 |||
        ((appliedRecord env callbackInfo resourceInfo found).resourceNumber ^^^
          ((found.map (fun record => record.resourceNumber)).getD 0#32 &&&
            (appliedRecord env callbackInfo resourceInfo found).resourceNumber)) =
      (appliedRecord env callbackInfo resourceInfo found).resourceNumber := by
  refine or_xor_and ?_
  rw [appliedRecord_resourceNumber]
  exact and_or_self _ _

/-! ## Every step keeps the agreement -/

structure Silent (before after : BgEfficiencyResourcesMgr) : Prop where
  events : after.events = before.events
  records : ∀ isProcess, after.infoMap isProcess = before.infoMap isProcess

theorem Silent.mirrors {after : BgEfficiencyResourcesMgr} (silent : Silent self after)
    (mirrors : Mirrors self) : Mirrors after := by
  intro isProcess key
  have agrees := mirrors isProcess key
  unfold heldNumber at agrees ⊢
  rw [silent.events, silent.records]
  exact agrees

theorem silent_refreshResourceRecord (env : Env) : Silent self (self.refreshResourceRecord env) :=
  ⟨events_refreshResourceRecord self env,
    fun isProcess => infoMap_refreshResourceRecord self isProcess env⟩

theorem OnlyPosts.silent {after : BgEfficiencyResourcesMgr} (posts : OnlyPosts self after) :
    Silent self after := by
  obtain ⟨posted, _, rfl⟩ := posts
  exact ⟨rfl, fun _ => rfl⟩

theorem mirrors_insert (mirrors : Mirrors self) {isProcess : Bool} {mapKey : Int}
    {record : ResourceApplicationRecord}
    (same : record.resourceNumber = heldNumber isProcess mapKey self) :
    Mirrors (self.setInfoMap isProcess ((self.infoMap isProcess).insert mapKey record)) := by
  intro other key
  rw [events_setInfoMap, heldNumber_insert, mirrors other key]
  split
  · rename_i here
    rw [here.1, here.2, same]
  · rfl

theorem mirrors_insert_announced (mirrors : Mirrors self) {isProcess : Bool}
    {info : ResourceCallbackInfo} {record : ResourceApplicationRecord}
    (grown : record.resourceNumber =
      heldNumber isProcess (info.mapKey isProcess) self ||| info.resourceNumber) :
    Mirrors ((self.onResourceChanged info (applyType isProcess)).setInfoMap isProcess
      ((self.infoMap isProcess).insert (info.mapKey isProcess) record)) := by
  intro other key
  have stored : heldNumber other key
      ((self.onResourceChanged info (applyType isProcess)).setInfoMap isProcess
        ((self.infoMap isProcess).insert (info.mapKey isProcess) record)) =
      if other = isProcess ∧ key = info.mapKey isProcess then record.resourceNumber
      else heldNumber other key self :=
    heldNumber_insert isProcess other (info.mapKey isProcess) key record
  rw [events_setInfoMap, events_onResourceChanged, mirror_append, mirrorEvent_apply,
    mirrors other key, stored]
  split
  · rename_i here
    rw [here.1, here.2, grown]
  · rfl

theorem mirrors_applyEfficiencyResourcesInner (mirrors : Mirrors self) (env : Env)
    (callbackInfo : ResourceCallbackInfo) (resourceInfo : EfficiencyResourceInfo) :
    Mirrors (self.applyEfficiencyResourcesInner env callbackInfo resourceInfo) := by
  have posted := (onlyPosts_postTimeOut env (callbackInfo.mapKey resourceInfo.isProcess)
    resourceInfo).silent.mirrors mirrors
  have announces := appliedRecord_announces env callbackInfo resourceInfo
    ((self.infoMap resourceInfo.isProcess).lookup (callbackInfo.mapKey resourceInfo.isProcess))
  simp only [applyEfficiencyResourcesInner]
  split
  · rename_i nothingNew
    refine (silent_refreshResourceRecord env).mirrors (mirrors_insert posted ?_)
    rw [nothingNew, BitVec.or_zero] at announces
    rw [heldNumber, infoMap_postTimeOut]
    exact announces.symm
  · refine (silent_refreshResourceRecord env).mirrors (mirrors_insert_announced posted ?_)
    rw [heldNumber, infoMap_postTimeOut]
    exact announces.symm

theorem mirrors_eraseBits (mirrors : Mirrors self) {isProcess : Bool} {mapKey : Int}
    {record : ResourceApplicationRecord} {eraseBit : ResourceNumber} (cpuLevel : Int)
    (found : (self.infoMap isProcess).lookup mapKey = some record)
    (keyed : record.mapKey isProcess = mapKey)
    (held : record.resourceNumber &&& eraseBit = eraseBit) :
    Mirrors (self.eraseBits isProcess mapKey record eraseBit cpuLevel) := by
  have events : (self.eraseBits isProcess mapKey record eraseBit cpuLevel).events =
      self.events ++ [(resetType isProcess,
        { uid := record.uid, pid := record.pid, resourceNumber := eraseBit
          bundleName := record.bundleName, cpuLevel := cpuLevel })] := by
    simp only [eraseBits]
    split
    · rw [events_setInfoMap, events_onResourceChanged]
    · rw [events_setInfoMap, events_onResourceChanged]
  intro other key
  rw [events, mirror_append, mirrorEvent_reset, heldNumber_eraseBits cpuLevel found,
    mirrors other key]
  have sameKey : ResourceCallbackInfo.mapKey isProcess
      { uid := record.uid, pid := record.pid, resourceNumber := eraseBit
        bundleName := record.bundleName, cpuLevel := cpuLevel } = mapKey := keyed
  rw [sameKey]
  split
  · rename_i here
    rw [here.1, here.2, heldNumber, found, xor_eq_and_not held]
    rfl
  · rfl

theorem mirrors_resetTimeOutResource (mirrors : Mirrors self) (memory : MemoryOk self)
    (env : Env) (mapKey : Int) (isProcess : Bool) :
    Mirrors (self.resetTimeOutResource env mapKey isProcess) := by
  unfold resetTimeOutResource
  split
  · exact mirrors
  · rename_i record found
    have old := memory.maps isProcess mapKey record found
    dsimp only
    split
    · exact mirrors
    · exact mirrors_eraseBits mirrors _ found old.keyed
        (timeOutBits_held old.represents env.now)

theorem mirrors_removeTargetResourceRecord (mirrors : Mirrors self) (memory : MemoryOk self)
    (isProcess : Bool) (mapKey : Int) (callbackInfo : ResourceCallbackInfo) :
    Mirrors (self.removeTargetResourceRecord isProcess mapKey callbackInfo) := by
  unfold removeTargetResourceRecord
  dsimp only
  split
  · exact mirrors
  · rename_i record found
    have old := memory.maps isProcess mapKey record found
    split
    · exact mirrors
    · exact mirrors_eraseBits mirrors _ found old.keyed (and_and_self _ _)

theorem mirrors_runTask (mirrors : Mirrors self) (memory : MemoryOk self) (env : Env)
    (task : HandlerTask) : Mirrors (self.runTask env task) := by
  cases task with
  | applyEfficiencyResourcesInner callbackInfo resourceInfo =>
      exact mirrors_applyEfficiencyResourcesInner mirrors env callbackInfo resourceInfo
  | resetEfficiencyResourcesInner callbackInfo isProcess =>
      refine (silent_refreshResourceRecord env).mirrors ?_
      split
      · exact mirrors_removeTargetResourceRecord mirrors memory true _ callbackInfo
      · exact (onlyPosts_removeRelativeProcessRecord env _ _).silent.mirrors
          (mirrors_removeTargetResourceRecord mirrors memory false _ callbackInfo)
  | resetTimeOutResource mapKey isProcess =>
      exact mirrors_resetTimeOutResource mirrors memory env mapKey isProcess

/-! ## Dump -/

theorem mirror_announceReset {isProcess : Bool} {key : Int}
    (records : List ResourceApplicationRecord)
    (covered : mirror isProcess key self.events = 0#32 ∨
      ∃ record ∈ records, record.mapKey isProcess = key ∧
        mirror isProcess key self.events &&& record.resourceNumber =
          mirror isProcess key self.events) :
    mirror isProcess key (records.foldl (announceReset isProcess) self).events = 0#32 := by
  induction records generalizing self with
  | nil =>
      rcases covered with clear | ⟨record, member, _⟩
      · exact clear
      · cases member
  | cons head rest ih =>
      refine ih ?_
      have event : mirror isProcess key (announceReset isProcess self head).events =
          if key = head.mapKey isProcess then
            mirror isProcess key self.events &&& ~~~head.resourceNumber
          else mirror isProcess key self.events := by
        rw [announceReset, events_onResourceChanged, mirror_append, mirrorEvent_reset]
        simp only [true_and]
        rfl
      rw [event]
      rcases covered with clear | ⟨record, member, keyed, covers⟩
      · left
        rw [clear]
        split
        · exact BitVec.zero_and
        · rfl
      · rcases List.mem_cons.mp member with here | later
        · left
          subst here
          rw [if_pos keyed.symm, ← covers, BitVec.and_assoc, BitVec.and_not_self]
          exact BitVec.and_zero
        · right
          refine ⟨record, later, keyed, ?_⟩
          split
          · rw [BitVec.and_assoc, BitVec.and_comm (~~~head.resourceNumber), ← BitVec.and_assoc,
              covers]
          · exact covers

theorem mirror_announceReset_other {isProcess other : Bool} (differ : other ≠ isProcess)
    (key : Int) (records : List ResourceApplicationRecord) :
    mirror other key (records.foldl (announceReset isProcess) self).events =
      mirror other key self.events := by
  induction records generalizing self with
  | nil => rfl
  | cons head rest ih =>
      rw [List.foldl_cons, ih, announceReset, events_onResourceChanged, mirror_append,
        mirrorEvent_reset, if_neg (fun both => differ both.1)]

theorem infoMap_announceReset (isProcess other : Bool) (records : List ResourceApplicationRecord) :
    (records.foldl (announceReset isProcess) self).infoMap other = self.infoMap other := by
  induction records generalizing self with
  | nil => rfl
  | cons head rest ih => exact ih

theorem mirrors_dumpResetMap (mirrors : Mirrors self) (memory : MemoryOk self)
    (isProcess : Bool) : Mirrors (self.dumpResetMap isProcess) := by
  intro other key
  unfold dumpResetMap
  rw [events_setInfoMap, heldNumber, infoMap_setInfoMap, infoMap_announceReset]
  by_cases same : other = isProcess
  · subst same
    rw [if_pos rfl]
    refine mirror_announceReset _ ?_
    rw [mirrors other key, heldNumber]
    cases found : (self.infoMap other).lookup key with
    | none => exact Or.inl rfl
    | some record =>
        right
        exact ⟨record, KeyedMap.mem_vals.mpr ⟨key, found⟩,
          (memory.maps other key record found).keyed, BitVec.and_self⟩
  · rw [if_neg same, mirror_announceReset_other same]
    exact mirrors other key

theorem mirrors_shellDump (mirrors : Mirrors self) (memory : MemoryOk self) (env : Env)
    (dumpOption : DumpOption) : Mirrors (self.shellDump env dumpOption) := by
  unfold shellDump
  split
  · exact mirrors
  · refine (silent_refreshResourceRecord env).mirrors ?_
    split
    · exact mirrors_dumpResetMap (mirrors_dumpResetMap mirrors memory false)
        (memoryOk_dumpResetMap memory false) true
    · unfold dumpResetOne
      split
      · exact mirrors
      · exact mirrors_removeTargetResourceRecord mirrors memory _ _ _
    · exact mirrors
    · exact mirrors

theorem mirrors_resourceStep (mirrors : Mirrors self) (memory : MemoryOk self)
    (label : Env × ResourceOp) : Mirrors (self.resourceStep label) := by
  obtain ⟨env, op⟩ := label
  cases op with
  | applyEfficiencyResources uid pid resourceInfo =>
      exact (onlyPosts_applyEfficiencyResources env uid pid resourceInfo).silent.mirrors mirrors
  | resetAllEfficiencyResources uid pid =>
      exact (onlyPosts_resetAllEfficiencyResources env uid pid).silent.mirrors mirrors
  | removeAppRecord uid bundleName resetAll =>
      exact (onlyPosts_removeAppRecord env uid bundleName resetAll).silent.mirrors mirrors
  | removeProcessRecord uid pid bundleName =>
      exact (onlyPosts_removeProcessRecord env uid pid bundleName).silent.mirrors mirrors
  | shellDump dumpOption => exact mirrors_shellDump mirrors memory env dumpOption
  | runPending index =>
      simp only [resourceStep]
      split
      · exact mirrors
      · have popped : Silent self { self with pending := self.pending.eraseIdx index } :=
          ⟨rfl, fun _ => rfl⟩
        exact mirrors_runTask (popped.mirrors mirrors) (memoryOk_eraseIdx memory index) env _

end

def freshState (file : RecordFile) : BgEfficiencyResourcesMgr :=
  { isSysReady := true, file := file }

theorem mirrors_freshState (file : RecordFile) : Mirrors (freshState file) := by
  intro isProcess key
  cases isProcess <;> rfl

theorem memoryOk_freshState (file : RecordFile) : MemoryOk (freshState file) := by
  refine ⟨fun isProcess => ?_, ?_⟩
  · cases isProcess with
    | false => exact mapOk_empty false
    | true => exact mapOk_empty true
  · intro entry member
    cases member

/-- After every run of a service that starts without records, a subscriber present from
the start holds exactly the service's masks, for every uid and every pid. -/
theorem subscriber_mirrors_records (file : RecordFile) (labels : List (Env × ResourceOp))
    (isProcess : Bool) (key : Int) :
    mirror isProcess key (run resourceStep (freshState file) labels).events =
      heldNumber isProcess key (run resourceStep (freshState file) labels) := by
  have stepKeeps : ∀ mgr label, Mirrors mgr ∧ MemoryOk mgr →
      Mirrors (resourceStep mgr label) ∧ MemoryOk (resourceStep mgr label) := by
    intro mgr label both
    exact ⟨mirrors_resourceStep both.1 both.2 label, memoryOk_resourceStep both.2 label⟩
  have both := run_preserves stepKeeps labels (freshState file)
    ⟨mirrors_freshState file, memoryOk_freshState file⟩
  exact both.1 isProcess key

end BgEfficiencyResourcesMgr

end BgTaskMgr.Efficiency
