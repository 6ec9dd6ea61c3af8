import BgTaskMgr.Continuous.Sending
import BgTaskMgr.Continuous.TaskIds

/-!
# What an app learns about the suspension of its tasks

A task may be suspended in the ordinary way and in standby, each with a flag of its own, and
the app hears the same pair of events of both.  Each handler that reactivates tasks clears its
own flag and tells the app that the task is active, so that the app is right as long as no
task that is suspended in both ways is reactivated.
-/

set_option autoImplicit false

namespace BgTaskMgr.Continuous

open BgContinuousTaskMgr

/-! ## What the app believes -/

def suspensionOf (id : Int) : SubscriberCall → Option Bool
  | .onContinuousTaskSuspend info => if info.continuousTaskId = id then some true else none
  | .onContinuousTaskActive info => if info.continuousTaskId = id then some false else none
  | _ => none

def hearsSuspension (remote : Nat) (id : Int) (call : Nat × SubscriberCall) : Option Bool :=
  if call.1 = remote then suspensionOf id call.2 else none

/-- The last suspend or active event that the subscriber received for the task is a suspend. -/
def BgContinuousTaskMgr.believesSuspended (remote : Nat) (id : Int) (self : BgContinuousTaskMgr) :
    Bool :=
  (self.calls.filterMap (hearsSuspension remote id)).getLast?.getD false

def ContinuousTaskRecord.isSuspended (record : ContinuousTaskRecord) : Bool :=
  record.suspendState || record.isStandbySuspend

def saysSuspended : ContinuousTaskEventTriggerType → Option Bool
  | .taskSuspend => some true
  | .taskActive => some false
  | _ => none

section Believes

variable {s : BgContinuousTaskMgr} {remote : Nat} {uid id : Int}

theorem believesSuspended_of_calls {after : BgContinuousTaskMgr} {calls : List (Nat × SubscriberCall)}
    (appended : after.calls = s.calls ++ calls)
    (silent : ∀ call ∈ calls, hearsSuspension remote id call = none) :
    after.believesSuspended remote id = s.believesSuspended remote id := by
  unfold believesSuspended
  have nothing : calls.filterMap (hearsSuspension remote id) = [] :=
    List.filterMap_eq_nil_iff.mpr silent
  rw [appended, List.filterMap_append, nothing, List.append_nil]

theorem believesSuspended_of_told {after : BgContinuousTaskMgr} {calls : List (Nat × SubscriberCall)}
    {suspended : Bool} (appended : after.calls = s.calls ++ calls)
    (said : ∀ call ∈ calls, ∀ heard ∈ hearsSuspension remote id call, heard = suspended)
    (told : ∃ call ∈ calls, hearsSuspension remote id call = some suspended) :
    after.believesSuspended remote id = suspended := by
  unfold believesSuspended
  obtain ⟨call, member, heard⟩ := told
  have filled : calls.filterMap (hearsSuspension remote id) ≠ [] :=
    List.ne_nil_of_mem (List.mem_filterMap.mpr ⟨call, member, heard⟩)
  rw [appended, List.filterMap_append, List.getLast?_append_of_ne_nil _ filled,
    List.getLast?_eq_some_getLast filled]
  obtain ⟨last, stored, same⟩ := List.mem_filterMap.mp (List.getLast_mem filled)
  exact said last stored _ same

/-- A call about a task says what the change says, of that task alone. -/
theorem hearsSuspension_callsOf {subscriber : SubscriberInfo} {record : ContinuousTaskRecord}
    {type : ContinuousTaskEventTriggerType} {call : SubscriberCall}
    (member : call ∈ subscriber.callsOf type (callbackInfo record)) {heard : Bool}
    (hears : hearsSuspension remote id (subscriber.remote, call) = some heard) :
    saysSuspended type = some heard ∧ record.continuousTaskId = id := by
  unfold hearsSuspension at hears
  have numbered : (callbackInfo record).continuousTaskId = record.continuousTaskId := rfl
  cases type with
  | taskStart => grind [SubscriberInfo.callsOf, suspensionOf]
  | taskUpdate => grind [SubscriberInfo.callsOf, suspensionOf]
  | taskCancel => grind [SubscriberInfo.callsOf, suspensionOf]
  | taskSuspend => grind [SubscriberInfo.callsOf, suspensionOf, saysSuspended]
  | taskActive => grind [SubscriberInfo.callsOf, suspensionOf, saysSuspended]

/-- A change that is no suspension, or that concerns another task, changes no belief. -/
theorem believesSuspended_other {record : ContinuousTaskRecord}
    {type : ContinuousTaskEventTriggerType}
    (other : saysSuspended type = none ∨ record.continuousTaskId ≠ id) :
    (s.onContinuousTaskChanged record type).believesSuspended remote id =
      s.believesSuspended remote id := by
  refine believesSuspended_of_calls rfl ?_
  intro call member
  obtain ⟨subscriber, _, listed⟩ := List.mem_flatMap.mp member
  obtain ⟨own, made, rfl⟩ := List.mem_map.mp listed
  cases hears : hearsSuspension remote id (subscriber.remote, own) with
  | none => rfl
  | some heard =>
      obtain ⟨stated, same⟩ := hearsSuspension_callsOf made hears
      rcases other with silent | different
      · exact absurd (silent.symm.trans stated) (by simp)
      · exact absurd same different

structure OwnSubscriber (remote : Nat) (uid : Int) (subscriber : SubscriberInfo) : Prop where
  remote : subscriber.remote = remote
  uid : subscriber.uid = uid
  isHap : subscriber.isHap = true
  suspend : subscriber.flag &&& continuousTaskSuspend ≠ 0#32
  active : subscriber.flag &&& continuousTaskActive ≠ 0#32

theorem believesSuspended_own {record : ContinuousTaskRecord}
    {type : ContinuousTaskEventTriggerType} {suspended : Bool}
    (subscribed : ∃ subscriber ∈ s.bgTaskSubscribers, OwnSubscriber remote uid subscriber)
    (own : record.uid = uid) (stated : saysSuspended type = some suspended) :
    (s.onContinuousTaskChanged record type).believesSuspended remote record.continuousTaskId =
      suspended := by
  refine believesSuspended_of_told rfl ?_ ?_
  · intro call member heard hears
    obtain ⟨subscriber, _, listed⟩ := List.mem_flatMap.mp member
    obtain ⟨made, created, rfl⟩ := List.mem_map.mp listed
    have told := (hearsSuspension_callsOf created hears).1
    exact Option.some.inj (told.symm.trans stated)
  · obtain ⟨subscriber, present, held⟩ := subscribed
    have creator : (callbackInfo record).creatorUid = record.uid := rfl
    have numbered : (callbackInfo record).continuousTaskId = record.continuousTaskId := rfl
    have hears : ∃ call ∈ subscriber.callsOf type (callbackInfo record),
        suspensionOf record.continuousTaskId call = some suspended := by
      obtain ⟨-, uids, hap, -, -⟩ := held
      cases type with
      | taskSuspend =>
          refine ⟨.onContinuousTaskSuspend (callbackInfo record), ?_, ?_⟩
          · simp [SubscriberInfo.callsOf, hap, uids, creator, own]
          · simpa [suspensionOf, numbered, saysSuspended] using stated
      | taskActive =>
          refine ⟨.onContinuousTaskActive (callbackInfo record), ?_, ?_⟩
          · simp [SubscriberInfo.callsOf, hap, uids, creator, own]
          · simpa [suspensionOf, numbered, saysSuspended] using stated
      | taskStart => exact absurd stated (by simp [saysSuspended])
      | taskUpdate => exact absurd stated (by simp [saysSuspended])
      | taskCancel => exact absurd stated (by simp [saysSuspended])
    obtain ⟨call, made, heard⟩ := hears
    refine ⟨(subscriber.remote, call), ?_, ?_⟩
    · exact List.mem_flatMap.mpr ⟨subscriber, present, List.mem_map.mpr ⟨call, made, rfl⟩⟩
    · unfold hearsSuspension
      rw [if_pos held.remote]
      exact heard

end Believes

/-! ## What says nothing of a suspension -/

structure Suspension where
  uid : Int
  continuousTaskId : Int
  suspendState : Bool
  isStandbySuspend : Bool

def ContinuousTaskRecord.suspension (record : ContinuousTaskRecord) : Suspension where
  uid := record.uid
  continuousTaskId := record.continuousTaskId
  suspendState := record.suspendState
  isStandbySuspend := record.isStandbySuspend

structure KeepsSuspension (before after : BgContinuousTaskMgr) : Prop where
  subscribers : after.bgTaskSubscribers = before.bgTaskSubscribers
  origin : ∀ key record, after.taskAt key = some record →
    ∃ old, before.taskAt key = some old ∧ record.suspension = old.suspension
  believes : ∀ remote id, after.believesSuspended remote id = before.believesSuspended remote id

theorem suspension_of_contents {before after : ContinuousTaskRecord}
    (same : contents after = contents before) : after.suspension = before.suspension := by
  have suspension : (contents after).suspension = (contents before).suspension := by rw [same]
  exact suspension

namespace KeepsSuspension

variable {before after s : BgContinuousTaskMgr} {key : String} {record : ContinuousTaskRecord}

theorem of_eq (map : after.continuousTaskInfosMap = before.continuousTaskInfosMap)
    (subscribers : after.bgTaskSubscribers = before.bgTaskSubscribers)
    (calls : after.calls = before.calls) : KeepsSuspension before after := by
  refine ⟨subscribers, ?_, ?_⟩
  · intro key record found
    rw [BgContinuousTaskMgr.taskAt, map] at found
    exact ⟨record, found, rfl⟩
  · intro remote id
    unfold believesSuspended
    rw [calls]

theorem refl (s : BgContinuousTaskMgr) : KeepsSuspension s s := of_eq rfl rfl rfl

theorem trans {first second third : BgContinuousTaskMgr} (early : KeepsSuspension first second)
    (late : KeepsSuspension second third) : KeepsSuspension first third := by
  refine ⟨late.subscribers.trans early.subscribers, ?_, ?_⟩
  · intro key record found
    obtain ⟨old, stored, same⟩ := late.origin key record found
    obtain ⟨oldest, known, kept⟩ := early.origin key old stored
    exact ⟨oldest, known, same.trans kept⟩
  · intro remote id
    exact (late.believes remote id).trans (early.believes remote id)

theorem tools (tools : NotificationTools) : KeepsSuspension s (s.setTools tools) := of_eq rfl rfl rfl

theorem save (env : Env) : KeepsSuspension s (s.saveTasks env) := by
  unfold saveTasks refreshTaskRecord
  split
  · exact of_eq rfl rfl rfl
  · exact refl s

theorem edit {edited : ContinuousTaskRecord} (found : s.taskAt key = some record)
    (same : edited.suspension = record.suspension) : KeepsSuspension s (s.setRecord key edited) := by
  refine ⟨rfl, ?_, fun _ _ => rfl⟩
  intro other stored lookup
  rw [taskAt_setRecord] at lookup
  split at lookup
  · rename_i here
    rw [here, found] at lookup
    obtain rfl := Option.some.inj lookup
    exact ⟨record, here ▸ found, same⟩
  · exact ⟨stored, lookup, rfl⟩

theorem erase : KeepsSuspension s (s.eraseRecord key) := by
  refine ⟨rfl, ?_, fun _ _ => rfl⟩
  intro other stored lookup
  rw [taskAt_eraseRecord] at lookup
  split at lookup
  · exact absurd lookup (by simp)
  · exact ⟨stored, lookup, rfl⟩

theorem told (record : ContinuousTaskRecord) {type : ContinuousTaskEventTriggerType}
    (none : saysSuspended type = none) : KeepsSuspension s (s.onContinuousTaskChanged record type) :=
  ⟨rfl, fun _ record found => ⟨record, found, rfl⟩,
    fun _ _ => believesSuspended_other (Or.inl none)⟩

theorem appStop (uid : Int) : KeepsSuspension s (s.handleAppContinuousTaskStop uid) := by
  unfold handleAppContinuousTaskStop
  split
  · exact refl s
  · refine ⟨rfl, fun _ record found => ⟨record, found, rfl⟩, ?_⟩
    intro remote id
    refine believesSuspended_of_calls rfl ?_
    intro call member
    obtain ⟨subscriber, _, rfl⟩ := List.mem_map.mp member
    unfold hearsSuspension
    exact ite_self none

theorem audioCallback (record : ContinuousTaskRecord) :
    KeepsSuspension s (s.sendAudioCallBackTaskState record) := by
  refine ⟨rfl, fun _ record found => ⟨record, found, rfl⟩, ?_⟩
  intro remote id
  refine believesSuspended_of_calls rfl ?_
  intro call member
  obtain ⟨subscriber, _, rfl⟩ := List.mem_map.mp member
  unfold hearsSuspension
  exact ite_self none

theorem only {change : BgContinuousTaskMgr → BgContinuousTaskMgr} (only : OnlyTools change) :
    KeepsSuspension s (change s) := by
  obtain ⟨tools, eq⟩ := only s
  rw [eq]
  exact KeepsSuspension.tools tools

theorem editTools {tools : NotificationTools} {edited : ContinuousTaskRecord}
    (found : s.taskAt key = some record) (same : edited.suspension = record.suspension) :
    KeepsSuspension s ((s.setTools tools).setRecord key edited) :=
  (KeepsSuspension.tools tools).trans (edit found same)

theorem sent (env : Env) (found : s.taskAt key = some record) :
    KeepsSuspension s (s.setSent key (s.sendContinuousTaskNotification env record)) :=
  editTools found (suspension_of_contents (contents_sendContinuousTaskNotification env s record))

theorem republish (env : Env) (found : s.taskAt key = some record) : KeepsSuspension s
    ((s.setSent key (s.handleActiveNotification env record)).saveTasks env) :=
  (editTools found (suspension_of_contents
    (contents_handleActiveNotification env s record))).trans (save env)

theorem endTasks {chosen : ContinuousTaskRecord → Bool}
    {mark : ContinuousTaskRecord → ContinuousTaskRecord}
    {cancel finish : ContinuousTaskRecord → BgContinuousTaskMgr → BgContinuousTaskMgr}
    (cancels : ∀ record, OnlyTools (cancel record))
    (finishes : ∀ record current, KeepsSuspension current (finish record current)) :
    KeepsSuspension s (s.endTasks chosen mark cancel finish) := by
  have step : ∀ key record current, current.taskAt key = some record → KeepsSuspension s current →
      KeepsSuspension s (if chosen record then finish record (current.endTask mark cancel key record)
        else current) := by
    intro key record current _ early
    refine early.trans ?_
    split
    · exact (((told (mark record) rfl).trans (only (cancels record))).trans erase).trans
        (finishes record _)
    · exact refl current
  exact KeyedMap.forEach_invariant step s (refl s)

theorem cancelNotification (env : Env) (record : ContinuousTaskRecord) :
    KeepsSuspension s (s.cancelNotification env record).2 := by
  unfold BgContinuousTaskMgr.cancelNotification
  dsimp only
  split
  · exact refl s
  split
  · exact tools _
  · exact tools _

theorem stopByTask (env : Env) (continuousTaskId : Int) :
    KeepsSuspension s (s.stopBackgroundRunningByTask env continuousTaskId).2 := by
  unfold stopBackgroundRunningByTask
  split
  · exact refl s
  · rename_i record _
    exact (((told record rfl).trans erase).trans (cancelNotification env record)).trans
      ((appStop record.uid).trans (save env))

theorem handleStop (env : Env) (uid : Int) (taskType : Nat) (key : String) :
    KeepsSuspension s (s.handleStopContinuousTask env uid taskType key) := by
  unfold handleStopContinuousTask
  split
  · exact (endTasks (onlyTools_cancelMainAndSub env) (fun _ _ => save env)).trans (appStop uid)
  split
  · exact (endTasks (onlyTools_cancelMainAndSub env) (fun _ _ => save env)).trans (appStop uid)
  split
  · exact refl s
  · refine trans ?_ (stopByTask env _)
    unfold setReason
    split
    · exact refl s
    · rename_i found
      exact edit found rfl

theorem updateTaskNotification (env : Env) (taskParam : ContinuousTaskParam)
    (found : s.taskAt key = some record) :
    KeepsSuspension s (s.updateTaskNotification env taskParam key record).2 := by
  have same : (updatedTask taskParam record).suspension = record.suspension := by
    unfold updatedTask
    dsimp only
    split
    · rfl
    · rfl
  have stored := taskAt_setRecord_self s key (updatedTask taskParam record) found
  have noted : ∀ prompt : Prompt,
      (prompt.note (updatedTask taskParam record)).suspension =
        (updatedTask taskParam record).suspension :=
    fun prompt => suspension_of_contents (contents_note _ prompt)
  unfold BgContinuousTaskMgr.updateTaskNotification
  dsimp only
  split
  · exact refl s
  split
  · refine (edit found same).trans ?_
    unfold updateOwnNotification
    dsimp only
    split
    · exact edit stored (noted _)
    split
    · exact editTools stored ((suspension_of_contents
        (contents_sendContinuousTaskNotification env _ _)).trans (noted _))
    · exact editTools stored (noted _)
  split
  · exact (edit found same).trans (tools _)
  · exact edit found same

end KeepsSuspension

/-! ## The mirror -/

/-- The app is registered with both flags and knows which of its tasks are suspended. -/
structure OwnMirror (remote : Nat) (uid : Int) (s : BgContinuousTaskMgr) : Prop where
  distinct : IdDetermines s.taskAt
  subscribed : ∃ subscriber ∈ s.bgTaskSubscribers, OwnSubscriber remote uid subscriber
  mirror : ∀ key record, s.taskAt key = some record → record.uid = uid →
    s.believesSuspended remote record.continuousTaskId = record.isSuspended

def OneWay (uid : Int) (s : BgContinuousTaskMgr) : Prop :=
  ∀ key record, s.taskAt key = some record → record.uid = uid →
    record.suspendState = false ∨ record.isStandbySuspend = false

section Mirror

variable {remote : Nat} {uid : Int} {s after : BgContinuousTaskMgr} {key : String}
  {record : ContinuousTaskRecord}

theorem OwnMirror.keeps (held : OwnMirror remote uid s) (keeps : KeepsSuspension s after) :
    OwnMirror remote uid after := by
  refine ⟨?_, ?_, ?_⟩
  · intro key record key' record' found found' same
    obtain ⟨old, stored, kept⟩ := keeps.origin key record found
    obtain ⟨old', stored', kept'⟩ := keeps.origin key' record' found'
    refine held.distinct key old key' old' stored stored' ?_
    have first : record.continuousTaskId = old.continuousTaskId :=
      congrArg Suspension.continuousTaskId kept
    have second : record'.continuousTaskId = old'.continuousTaskId :=
      congrArg Suspension.continuousTaskId kept'
    rw [← first, ← second, same]
  · rw [keeps.subscribers]
    exact held.subscribed
  · intro key record found own
    obtain ⟨old, stored, kept⟩ := keeps.origin key record found
    unfold ContinuousTaskRecord.suspension at kept
    simp only [Suspension.mk.injEq] at kept
    obtain ⟨owner, id, state, standby⟩ := kept
    have known := held.mirror key old stored (owner.symm.trans own)
    rw [keeps.believes, id, known]
    unfold ContinuousTaskRecord.isSuspended
    rw [state, standby]

theorem OneWay.keeps (held : OneWay uid s) (keeps : KeepsSuspension s after) :
    OneWay uid after := by
  intro key record found own
  obtain ⟨old, stored, kept⟩ := keeps.origin key record found
  unfold ContinuousTaskRecord.suspension at kept
  simp only [Suspension.mk.injEq] at kept
  obtain ⟨owner, -, state, standby⟩ := kept
  rw [state, standby]
  exact held key old stored (owner.symm.trans own)

/-- A task changes its suspension, and its app hears of what it is then. -/
theorem OwnMirror.told (held : OwnMirror remote uid s) (found : s.taskAt key = some record)
    {edited : ContinuousTaskRecord} {type : ContinuousTaskEventTriggerType} {suspended : Bool}
    (same : edited.uid = record.uid ∧ edited.continuousTaskId = record.continuousTaskId)
    (stated : saysSuspended type = some suspended)
    (right : record.uid = uid → edited.isSuspended = suspended) :
    OwnMirror remote uid ((s.setRecord key edited).onContinuousTaskChanged edited type) := by
  obtain ⟨owner, id⟩ := same
  have stored : ∀ other task,
      ((s.setRecord key edited).onContinuousTaskChanged edited type).taskAt other = some task →
        (other = key ∧ task = edited) ∨ (other ≠ key ∧ s.taskAt other = some task) := by
    intro other task lookup
    have changed : (s.setRecord key edited).taskAt other = some task := lookup
    rw [taskAt_setRecord] at changed
    split at changed
    · rename_i here
      rw [here, found] at changed
      exact Or.inl ⟨here, (Option.some.inj changed).symm⟩
    · rename_i different
      exact Or.inr ⟨different, changed⟩
  refine ⟨?_, held.subscribed, ?_⟩
  · intro first task second task' lookup lookup' equal
    rcases stored first task lookup with ⟨here, rfl⟩ | ⟨different, known⟩
    · rcases stored second task' lookup' with ⟨here', rfl⟩ | ⟨different', known'⟩
      · exact here.trans here'.symm
      · exact absurd (held.distinct key record second task' found known' (id.symm.trans equal)).symm
          different'
    · rcases stored second task' lookup' with ⟨here', rfl⟩ | ⟨different', known'⟩
      · exact absurd (held.distinct first task key record known found (equal.trans id)) different
      · exact held.distinct first task second task' known known' equal
  · intro other task lookup own
    rcases stored other task lookup with ⟨here, rfl⟩ | ⟨different, known⟩
    · rw [right (owner.symm.trans own)]
      have subscribed : ∃ subscriber ∈ (s.setRecord key task).bgTaskSubscribers,
          OwnSubscriber remote uid subscriber := held.subscribed
      exact believesSuspended_own subscribed own stated
    · have apart : edited.continuousTaskId ≠ task.continuousTaskId := by
        intro equal
        exact different (held.distinct key record other task found known (id.symm.trans equal)).symm
      rw [believesSuspended_other (Or.inr apart)]
      exact held.mirror other task known own

theorem OneWay.told (held : OneWay uid s) (found : s.taskAt key = some record)
    {edited : ContinuousTaskRecord} (type : ContinuousTaskEventTriggerType)
    (right : edited.suspendState = false ∨ edited.isStandbySuspend = false) :
    OneWay uid ((s.setRecord key edited).onContinuousTaskChanged edited type) := by
  intro other task lookup own
  have changed : (s.setRecord key edited).taskAt other = some task := lookup
  rw [taskAt_setRecord] at changed
  split at changed
  · rename_i here
    rw [here, found] at changed
    obtain rfl := Option.some.inj changed
    exact right
  · exact held other task changed own

/-! ### Suspension -/

theorem OwnMirror.handleSuspendContinuousTask (held : OwnMirror remote uid s) (env : Env)
    (target mode : Int) (key : String) :
    OwnMirror remote uid (s.handleSuspendContinuousTask env target mode key) := by
  unfold BgContinuousTaskMgr.handleSuspendContinuousTask
  split
  · exact held
  · rename_i record lookup
    have found : s.taskAt key = some record := lookup
    dsimp only
    have rest (current : BgContinuousTaskMgr) : KeepsSuspension current
        ((current.cancelMainAndSub env record).handleAppContinuousTaskStop target) :=
      (KeepsSuspension.only (onlyTools_cancelMainAndSub env record)).trans
        (KeepsSuspension.appStop target)
    refine OwnMirror.keeps ?_ (rest _)
    split
    · refine OwnMirror.keeps ?_ (KeepsSuspension.save env)
      exact held.told found ⟨rfl, rfl⟩ rfl (fun _ => rfl)
    · exact held

theorem OwnMirror.handleSuspendContinuousTaskByStandby (held : OwnMirror remote uid s) (env : Env)
    (target mode : Int) (key : String) :
    OwnMirror remote uid (s.handleSuspendContinuousTaskByStandby env target mode key) := by
  unfold BgContinuousTaskMgr.handleSuspendContinuousTaskByStandby
  split
  · exact held
  · rename_i record lookup
    have found : s.taskAt key = some record := lookup
    split
    · exact held
    · refine OwnMirror.keeps ?_ (KeepsSuspension.save env)
      exact held.told found ⟨rfl, rfl⟩ rfl (fun _ => Bool.or_true _)

theorem OwnMirror.suspendContinuousTask (held : OwnMirror remote uid s) (env : Env)
    (target mode : Int) (key : String) (isStandby : Bool) :
    OwnMirror remote uid (s.suspendContinuousTask env target mode key isStandby) := by
  unfold BgContinuousTaskMgr.suspendContinuousTask
  split
  · exact held
  dsimp only
  split
  · split
    · exact held.handleSuspendContinuousTaskByStandby env target mode key
    · exact held
  split
  · exact held.handleSuspendContinuousTask env target mode key
  · exact held.keeps (KeepsSuspension.handleStop env target 0 key)

theorem OwnMirror.suspendAudio (held : OwnMirror remote uid s) (env : Env) (target : Int)
    (found : s.taskAt key = some record) :
    OwnMirror remote uid (BgContinuousTaskMgr.suspendAudio env target key record s) := by
  unfold BgContinuousTaskMgr.suspendAudio
  dsimp only
  split
  · have stored := taskAt_setRecord_self s key (undetected record) found
    have undetects : KeepsSuspension s (s.setRecord key (undetected record)) :=
      KeepsSuspension.edit found rfl
    have cancelled : KeepsSuspension s
        ((s.setRecord key (undetected record)).cancelPair env record.mainPair) :=
      undetects.trans (KeepsSuspension.tools _)
    split
    · exact held.keeps (cancelled.trans (KeepsSuspension.audioCallback _))
    split
    · refine OwnMirror.keeps ?_ (KeepsSuspension.save env)
      exact (held.keeps cancelled).told stored ⟨rfl, rfl⟩ rfl (fun _ => rfl)
    · exact held.keeps (((cancelled.trans (KeepsSuspension.told _ rfl)).trans
        KeepsSuspension.erase).trans (KeepsSuspension.save env))
  · exact held

theorem OwnMirror.handleSuspendContinuousAudioTask (held : OwnMirror remote uid s) (env : Env)
    (target : Int) : OwnMirror remote uid (s.handleSuspendContinuousAudioTask env target) := by
  have step : ∀ key record current, current.taskAt key = some record →
      OwnMirror remote uid current →
      OwnMirror remote uid (BgContinuousTaskMgr.suspendAudio env target key record current) :=
    fun _ _ _ found early => early.suspendAudio env target found
  exact OwnMirror.keeps (KeyedMap.forEach_invariant step s held) (KeepsSuspension.appStop target)

/-! ### Reactivation -/

/-- The mirror together with what reactivation relies on. -/
def Separate (remote : Nat) (uid target : Int) (s : BgContinuousTaskMgr) : Prop :=
  OwnMirror remote uid s ∧ (target = uid → OneWay uid s)

theorem Separate.keeps {target : Int} (held : Separate remote uid target s)
    (keeps : KeepsSuspension s after) : Separate remote uid target after :=
  ⟨held.1.keeps keeps, fun same => (held.2 same).keeps keeps⟩

theorem Separate.activateStandby {target : Int} (held : Separate remote uid target s) (env : Env)
    (found : s.taskAt key = some record) :
    Separate remote uid target (BgContinuousTaskMgr.activateStandby env target key record s) := by
  unfold BgContinuousTaskMgr.activateStandby
  split
  · exact held
  · rename_i chosen
    simp only [not_or, not_not, Bool.not_eq_true', Bool.not_eq_false] at chosen
    obtain ⟨owner, standby⟩ := chosen
    refine Separate.keeps ⟨?_, fun same => ?_⟩ (KeepsSuspension.save env)
    · refine held.1.told found ⟨rfl, rfl⟩ rfl (fun own => ?_)
      have oneWay := held.2 (owner.symm.trans own) key record found own
      have active : record.suspendState = false := oneWay.resolve_right (by simp [standby])
      unfold ContinuousTaskRecord.isSuspended
      rw [active]
      rfl
    · exact (held.2 same).told found _ (Or.inr rfl)

theorem Separate.activateTask {target : Int} (env : Env) (loop : ActiveLoop)
    (held : Separate remote uid target loop.mgr) (found : loop.mgr.taskAt key = some record) :
    Separate remote uid target
      (BgContinuousTaskMgr.activateTask env target key record loop).mgr := by
  unfold BgContinuousTaskMgr.activateTask
  dsimp only
  split
  · exact held
  rename_i chosen
  simp only [not_or, not_not, Bool.not_eq_true', Bool.not_eq_false] at chosen
  obtain ⟨owner, suspended⟩ := chosen
  have active : Separate remote uid target ((loop.mgr.setRecord key
      (reactivated record)).onContinuousTaskChanged (reactivated record) .taskActive) := by
    refine ⟨held.1.told found ⟨rfl, rfl⟩ rfl (fun own => ?_),
      fun same => (held.2 same).told found _ (Or.inl rfl)⟩
    have oneWay := held.2 (owner.symm.trans own) key record found own
    exact oneWay.resolve_left (by simp [suspended])
  have stored := taskAt_setRecord_self loop.mgr key (reactivated record) found
  split
  · exact active.keeps (KeepsSuspension.save env)
  split
  · exact active.keeps (KeepsSuspension.republish env stored)
  · have relabelled : KeepsSuspension ((loop.mgr.setRecord key
        (reactivated record)).onContinuousTaskChanged (reactivated record) .taskActive)
        (((loop.mgr.setRecord key (reactivated record)).onContinuousTaskChanged
          (reactivated record) .taskActive).setRecord key
            { reactivated record with
              notificationLabel := loop.notificationLabel
              notificationId := loop.notificationId }) :=
      KeepsSuspension.edit stored rfl
    exact active.keeps (relabelled.trans (KeepsSuspension.save env))

theorem Separate.handleActiveContinuousTask {target : Int}
    (held : Separate remote uid target s) (env : Env) :
    OwnMirror remote uid (s.handleActiveContinuousTask env target) := by
  have step : ∀ key record (loop : ActiveLoop), loop.mgr.taskAt key = some record →
      Separate remote uid target loop.mgr →
      Separate remote uid target
        (BgContinuousTaskMgr.activateTask env target key record loop).mgr :=
    fun _ _ loop found early => early.activateTask env loop found
  exact (KeyedMap.forEach_invariant step { mgr := s } held).1

theorem Separate.activeContinuousTask {target : Int} (held : Separate remote uid target s)
    (env : Env) (isStandby : Bool) :
    OwnMirror remote uid (s.activeContinuousTask env target isStandby) := by
  have step : ∀ key record current, current.taskAt key = some record →
      Separate remote uid target current →
      Separate remote uid target
        (BgContinuousTaskMgr.activateStandby env target key record current) :=
    fun _ _ _ found early => early.activateStandby env found
  have standby := KeyedMap.forEach_invariant step s held
  unfold BgContinuousTaskMgr.activeContinuousTask
  split
  · exact held.1
  split
  · split
    · exact standby.1
    · exact held.1
  · exact held.handleActiveContinuousTask env

/-! ### Updates -/

theorem OwnMirror.finishUpdate (held : OwnMirror remote uid s) (env : Env) (key : String)
    (oneWay : ∀ record, s.taskAt key = some record → record.suspendState = true →
      record.uid = uid → OneWay uid s) : OwnMirror remote uid (s.finishUpdate env key).2 := by
  unfold BgContinuousTaskMgr.finishUpdate
  split
  · exact held
  · rename_i record found
    have active : OwnMirror remote uid (if record.suspendState then
        s.handleActiveContinuousTask env record.uid else s) := by
      split
      · rename_i suspended
        exact Separate.handleActiveContinuousTask ⟨held, oneWay record found suspended⟩ env
      · exact held
    dsimp only
    split
    · exact active
    · exact active.keeps ((KeepsSuspension.told _ rfl).trans (KeepsSuspension.save env))

theorem OwnMirror.finishUpdate_after {middle : BgContinuousTaskMgr} (held : OwnMirror remote uid s)
    (env : Env) (keeps : KeepsSuspension s middle)
    (oneWay : ∀ record, s.taskAt key = some record → record.suspendState = true →
      record.uid = uid → OneWay uid s) : OwnMirror remote uid (middle.finishUpdate env key).2 := by
  refine (held.keeps keeps).finishUpdate env key ?_
  intro record found suspended own
  obtain ⟨old, stored, kept⟩ := keeps.origin key record found
  unfold ContinuousTaskRecord.suspension at kept
  simp only [Suspension.mk.injEq] at kept
  obtain ⟨owner, -, state, -⟩ := kept
  exact (oneWay old stored (state.symm.trans suspended) (owner.symm.trans own)).keeps keeps

theorem OwnMirror.updateBackgroundRunningByTaskIdInner (held : OwnMirror remote uid s) (env : Env)
    (callingUid : Int) (taskParam : ContinuousTaskParam)
    (oneWay : ∀ key record, s.findTask (fun _ task =>
      task.continuousTaskId == taskParam.updateTaskId && task.isByRequestObject) =
        some (key, record) → record.suspendState = true → record.uid = uid → OneWay uid s) :
    OwnMirror remote uid
      (s.updateBackgroundRunningByTaskIdInner env callingUid taskParam).2 := by
  unfold BgContinuousTaskMgr.updateBackgroundRunningByTaskIdInner
  split
  · exact held
  split
  · exact held
  split
  · exact held
  rename_i key record search
  have found := (taskAt_of_findTask s key record search).1
  dsimp only
  split
  · exact held
  split
  · exact held
  split
  · exact held
  split
  · exact held
  have notified := KeepsSuspension.updateTaskNotification env taskParam found
  unfold updateTaskInfo
  dsimp only
  split
  · exact held.keeps notified
  · refine held.finishUpdate_after env notified ?_
    intro stored lookup
    obtain rfl := Option.some.inj (found.symm.trans lookup)
    exact oneWay key record search

theorem OwnMirror.updateBackgroundRunningInner (held : OwnMirror remote uid s) (env : Env)
    (taskParam : ContinuousTaskParam)
    (oneWay : ∀ record, s.taskAt key = some record → record.suspendState = true →
      record.uid = uid → OneWay uid s) :
    OwnMirror remote uid (s.updateBackgroundRunningInner env key taskParam).2 := by
  unfold BgContinuousTaskMgr.updateBackgroundRunningInner
  split
  · exact held
  rename_i record lookup
  have found : s.taskAt key = some record := lookup
  have dropped : (dropSubModes taskParam record).suspension = record.suspension := by
    unfold dropSubModes
    split
    · rfl
    · rfl
  have updated : (withModes taskParam record).suspension = record.suspension := dropped
  have stores : KeepsSuspension s (s.setRecord key (withModes taskParam record)) :=
    KeepsSuspension.edit found updated
  have stored := taskAt_setRecord_self s key (withModes taskParam record) found
  have sends := stores.trans (KeepsSuspension.sent env stored)
  dsimp only
  split
  · exact held
  split
  · exact held
  split
  · exact held.keeps (KeepsSuspension.edit found dropped)
  split
  · exact held.finishUpdate_after env stores oneWay
  split
  · exact held.keeps sends
  · exact held.finishUpdate_after env sends oneWay

end Mirror

/-! ## Runs -/

namespace BgContinuousTaskMgr

def updateTarget (callingUid : Int) (taskParam : ContinuousTaskParam)
    (self : BgContinuousTaskMgr) : Option ContinuousTaskRecord :=
  if taskParam.isByRequestObject then
    (self.findTask (fun _ task => task.continuousTaskId == taskParam.updateTaskId &&
      task.isByRequestObject)).map (fun found => found.2)
  else self.taskAt (abilityKey callingUid taskParam.abilityName taskParam.abilityId)

/-- The step may reactivate tasks of the uid: a reactivation, or an update of a task that is
suspended. -/
def reactivatesTasksOf (uid : Int) (self : BgContinuousTaskMgr) : Env × TaskOp → Bool
  | (_, .activeContinuousTask target _) => target == uid
  | (_, .client callingUid (.updateBackgroundRunning taskParam)) =>
      (self.updateTarget callingUid taskParam).any
        (fun record => record.suspendState && record.uid == uid)
  | _ => false

/-- A step that reactivates tasks of the uid finds none that is suspended in both ways. -/
def ReactivatesOneWay (uid : Int) (self : BgContinuousTaskMgr) (label : Env × TaskOp) : Prop :=
  self.reactivatesTasksOf uid label = true →
    ∀ record ∈ KeyedMap.vals self.continuousTaskInfosMap, record.uid = uid →
      record.suspendState = false ∨ record.isStandbySuspend = false

instance ReactivatesOneWay.decidable (uid : Int) (self : BgContinuousTaskMgr)
    (label : Env × TaskOp) : Decidable (self.ReactivatesOneWay uid label) :=
  inferInstanceAs (Decidable (_ → _))

end BgContinuousTaskMgr

def TaskOp.suspendsOrUpdates : TaskOp → Bool
  | .suspendContinuousTask _ _ _ _ => true
  | .activeContinuousTask _ _ => true
  | .suspendContinuousAudioTask _ => true
  | .client _ (.updateBackgroundRunning _) => true
  | _ => false

section Runs

variable {remote : Nat} {uid : Int} {s : BgContinuousTaskMgr}

theorem OwnMirror.taskStep (held : OwnMirror remote uid s) (label : Env × TaskOp)
    (kind : label.2.suspendsOrUpdates = true) (separate : s.ReactivatesOneWay uid label) :
    OwnMirror remote uid (s.taskStep label) := by
  obtain ⟨env, op⟩ := label
  have oneWay : s.reactivatesTasksOf uid (env, op) = true → OneWay uid s := by
    intro reactivates key record found
    exact separate reactivates record (KeyedMap.mem_vals.mpr ⟨key, found⟩)
  cases op with
  | suspendContinuousTask target mode key isStandby =>
      exact held.suspendContinuousTask env target mode key isStandby
  | activeContinuousTask target isStandby =>
      have split : Separate remote uid target s :=
        ⟨held, fun same => oneWay (by simp [reactivatesTasksOf, same])⟩
      exact split.activeContinuousTask env isStandby
  | suspendContinuousAudioTask target =>
      show OwnMirror remote uid (s.suspendContinuousAudioTask env target)
      unfold BgContinuousTaskMgr.suspendContinuousAudioTask
      split
      · exact held.handleSuspendContinuousAudioTask env target
      · exact held
  | client callingUid call =>
      cases call with
      | updateBackgroundRunning taskParam =>
          have found : ∀ record, s.updateTarget callingUid taskParam = some record →
              record.suspendState = true → record.uid = uid → OneWay uid s := by
            intro record target suspended own
            refine oneWay ?_
            simp [reactivatesTasksOf, target, suspended, own]
          show OwnMirror remote uid (s.updateBackgroundRunning env callingUid taskParam).2
          unfold BgContinuousTaskMgr.updateBackgroundRunning
          split
          · exact held
          split
          · rename_i object
            refine held.updateBackgroundRunningByTaskIdInner env callingUid taskParam ?_
            intro key record search
            refine found record ?_
            unfold updateTarget
            rw [if_pos object, search]
            rfl
          · rename_i ability
            refine held.updateBackgroundRunningInner env taskParam ?_
            intro record search
            refine found record ?_
            unfold updateTarget
            rw [if_neg ability]
            exact search
      | _ => exact absurd kind (by simp [TaskOp.suspendsOrUpdates])
  | _ => exact absurd kind (by simp [TaskOp.suspendsOrUpdates])

theorem OwnMirror.standby_told (held : OwnMirror remote uid s) (ready : s.isSysReady = true)
    {key : String} {record : ContinuousTaskRecord} (found : s.taskAt key = some record)
    (own : record.uid = uid)
    (believes : s.believesSuspended remote record.continuousTaskId = false) (env : Env) (mode : Int) :
    (s.suspendContinuousTask env uid mode key true).believesSuspended remote
      record.continuousTaskId = true := by
  have callback : s.isExistCallback uid continuousTaskSuspend = true := by
    obtain ⟨subscriber, present, subscribed⟩ := held.subscribed
    refine List.any_eq_true.mpr ⟨subscriber, present, ?_⟩
    simp [subscribed.isHap, subscribed.uid, subscribed.suspend]
  have active : record.isSuspended = false := (held.mirror key record found own).symm.trans believes
  unfold ContinuousTaskRecord.isSuspended at active
  simp only [Bool.or_eq_false_iff] at active
  have lookup : s.continuousTaskInfosMap.lookup key = some record := found
  unfold BgContinuousTaskMgr.suspendContinuousTask
  rw [if_neg (by simp [ready])]
  dsimp only
  rw [if_pos rfl, if_pos callback]
  unfold BgContinuousTaskMgr.handleSuspendContinuousTaskByStandby
  rw [lookup]
  dsimp only
  rw [if_neg (by simp [own, active.1, active.2]), (KeepsSuspension.save env).believes]
  have subscribed : ∃ subscriber ∈
      (s.setRecord key (standbySuspended mode record)).bgTaskSubscribers,
      OwnSubscriber remote uid subscriber := held.subscribed
  have owner : (standbySuspended mode record).uid = uid := own
  exact believesSuspended_own subscribed owner rfl

/-- In every run of suspensions, reactivations and updates in which no task of the app that is
suspended in both ways is reactivated, the app knows which of its tasks are suspended, and the
next standby suspension of a task it believes active is told. -/
theorem run_suspension_mirror (labels : List (Env × TaskOp)) (start : OwnMirror remote uid s)
    (kinds : ∀ label ∈ labels, label.2.suspendsOrUpdates = true)
    (separate : StepSystem.Admissible BgContinuousTaskMgr.taskStep
      (fun s label => s.ReactivatesOneWay uid label) s labels)
    (key : String) (record : ContinuousTaskRecord)
    (found : (StepSystem.run BgContinuousTaskMgr.taskStep s labels).taskAt key = some record)
    (own : record.uid = uid) :
    ((StepSystem.run BgContinuousTaskMgr.taskStep s labels).believesSuspended remote
        record.continuousTaskId = true ↔
      record.suspendState = true ∨ record.isStandbySuspend = true) ∧
    ((StepSystem.run BgContinuousTaskMgr.taskStep s labels).isSysReady = true →
      (StepSystem.run BgContinuousTaskMgr.taskStep s labels).believesSuspended remote
        record.continuousTaskId = false →
      ∀ env mode, ((StepSystem.run BgContinuousTaskMgr.taskStep s labels).suspendContinuousTask env
        uid mode key true).believesSuspended remote record.continuousTaskId = true) := by
  have preserve : ∀ (s : BgContinuousTaskMgr) (label : Env × TaskOp), OwnMirror remote uid s →
      label.2.suspendsOrUpdates = true ∧ s.ReactivatesOneWay uid label →
      OwnMirror remote uid (s.taskStep label) :=
    fun _ label held ok => held.taskStep label ok.1 ok.2
  have held := StepSystem.run_invariant preserve labels s start (separate.and_forall kinds)
  refine ⟨?_, fun ready believes env mode => held.standby_told ready found own believes env mode⟩
  rw [held.mirror key record found own]
  unfold ContinuousTaskRecord.isSuspended
  rw [Bool.or_eq_true]

def listeningApp : BgContinuousTaskMgr :=
  StepSystem.run serviceStep (installed (fun _ => 0))
    [(deviceEnv, .initRequiredResourceInfo), (deviceEnv, .task (.addSubscriber ⟨1, 100, 7, true, 6#32⟩)),
      ((deviceStart 100 (requestOf [BackgroundMode.location] [2])).1,
        .task (deviceStart 100 (requestOf [BackgroundMode.location] [2])).2)]

theorem ownMirror_listeningApp : OwnMirror 1 100 listeningApp := by
  have tracked : IdsTracked listeningApp :=
    StepSystem.run_invariant (fun _ label tracked seeded => tracked.serviceStep label seeded) _ _
      (idsTracked_installed (fun _ => 0)) (by decide)
  have subscribers : listeningApp.bgTaskSubscribers = [⟨1, 100, 7, true, 6#32⟩] := by decide
  refine ⟨tracked.distinct, ?_, ?_⟩
  · rw [subscribers]
    exact ⟨_, List.mem_singleton_self _, rfl, rfl, rfl, by decide, by decide⟩
  · intro key record found _
    have all : ∀ entry ∈ listeningApp.continuousTaskInfosMap.entries,
        listeningApp.believesSuspended 1 entry.2.continuousTaskId = entry.2.isSuspended := by decide
    exact all ⟨key, record⟩ (KeyedMap.mem_entries_iff.mpr found)

def listenedKey : String := "100_EntryAbility_1_1"

theorem run_suspension_mirror_listening :
    ∃ record, (StepSystem.run BgContinuousTaskMgr.taskStep listeningApp
        [(deviceEnv, .suspendContinuousTask 100 4 listenedKey true),
          (deviceEnv, .activeContinuousTask 100 true)]).taskAt listenedKey = some record ∧
      ((StepSystem.run BgContinuousTaskMgr.taskStep listeningApp
        [(deviceEnv, .suspendContinuousTask 100 4 listenedKey true),
          (deviceEnv, .activeContinuousTask 100 true)]).believesSuspended 1
            record.continuousTaskId = true ↔
        record.suspendState = true ∨ record.isStandbySuspend = true) := by
  have stored : ((StepSystem.run BgContinuousTaskMgr.taskStep listeningApp
      [(deviceEnv, .suspendContinuousTask 100 4 listenedKey true),
        (deviceEnv, .activeContinuousTask 100 true)]).taskAt listenedKey).map
          (fun record => record.uid) = some 100 := by decide
  obtain ⟨record, found, own⟩ := Option.map_eq_some_iff.mp stored
  exact ⟨record, found, (run_suspension_mirror _ ownMirror_listeningApp (by decide) (by decide)
    listenedKey record found own).1⟩

/-- A task that is suspended in standby and then in the ordinary way becomes active in the
ordinary way: the app believes it active, the record is suspended in standby still, and the
next standby suspension is dropped. -/
theorem reactivation_leaves_standby :
    ∃ entry ∈ (StepSystem.run BgContinuousTaskMgr.taskStep listeningApp
      [(deviceEnv, .suspendContinuousTask 100 4 listenedKey true),
        (deviceEnv, .suspendContinuousTask 100 4 listenedKey false),
        (deviceEnv, .activeContinuousTask 100 false),
        (deviceEnv, .suspendContinuousTask 100 4 listenedKey true)]).continuousTaskInfosMap.entries,
      entry.2.isStandbySuspend = true ∧
        (StepSystem.run BgContinuousTaskMgr.taskStep listeningApp
          [(deviceEnv, .suspendContinuousTask 100 4 listenedKey true),
            (deviceEnv, .suspendContinuousTask 100 4 listenedKey false),
            (deviceEnv, .activeContinuousTask 100 false),
            (deviceEnv, .suspendContinuousTask 100 4 listenedKey true)]).believesSuspended 1
              entry.2.continuousTaskId = false := by
  decide

end Runs

end BgTaskMgr.Continuous
