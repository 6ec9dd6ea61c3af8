import BgTaskMgr.Continuous.TaskIds
import Mathlib.Data.Finset.Basic

/-!
# What a system ability learns about continuous tasks

A system ability that collects the ids it is told to have started and drops those it is
told to have stopped has exactly the tasks that are not suspended, as long as no task is
suspended for its audio while it is in standby: the one suspension that is not told.
-/

set_option autoImplicit false

namespace BgTaskMgr.Continuous

open BgContinuousTaskMgr

/-! ## The mirror -/

def hearCall (known : Finset Int) : SubscriberCall → Finset Int
  | .onContinuousTaskStart info => insert info.continuousTaskId known
  | .onContinuousTaskStop info => known.erase info.continuousTaskId
  | .onContinuousTaskUpdate _ => known
  | .onContinuousTaskSuspend _ => known
  | .onContinuousTaskActive _ => known
  | .onAppContinuousTaskStop _ => known

def hear (remote : Nat) (known : Finset Int) (call : Nat × SubscriberCall) : Finset Int :=
  if call.1 = remote then hearCall known call.2 else known

/-- The ids for which the subscriber received a start not followed by a stop. -/
def mirror (remote : Nat) (calls : List (Nat × SubscriberCall)) : Finset Int :=
  calls.foldl (hear remote) ∅

def ActiveId (s : BgContinuousTaskMgr) (id : Int) : Prop :=
  ∃ key record, s.taskAt key = some record ∧ record.suspendState = false ∧
    record.continuousTaskId = id

/-- The subscriber has exactly the ids of the tasks that are not suspended. -/
def Mirrors (remote : Nat) (s : BgContinuousTaskMgr) : Prop :=
  ∀ id, id ∈ mirror remote s.calls ↔ ActiveId s id

structure Subscribed (remote : Nat) (subscribers : List SubscriberInfo) : Prop where
  present : ∃ subscriber ∈ subscribers, subscriber.remote = remote
  system : ∀ subscriber ∈ subscribers, subscriber.remote = remote → subscriber.isHap = false

def moved (type : ContinuousTaskEventTriggerType) (record : ContinuousTaskRecord)
    (known : Finset Int) : Finset Int :=
  match type with
  | .taskStart => insert record.continuousTaskId known
  | .taskUpdate => known
  | .taskCancel => known.erase record.continuousTaskId
  | .taskSuspend => if record.isStandby then known else known.erase record.continuousTaskId
  | .taskActive => if record.isStandby then known else insert record.continuousTaskId known

theorem foldl_hear_callsOf {subscriber : SubscriberInfo} (system : subscriber.isHap = false)
    (type : ContinuousTaskEventTriggerType) (record : ContinuousTaskRecord) (known : Finset Int) :
    (subscriber.callsOf type (callbackInfo record)).foldl hearCall known =
      moved type record known := by
  cases type with
  | taskStart =>
      simp [SubscriberInfo.callsOf, system, hearCall, moved, callbackInfo, audioCallbackInfo]
  | taskUpdate => simp [SubscriberInfo.callsOf, system, hearCall, moved]
  | taskCancel =>
      simp [SubscriberInfo.callsOf, system, hearCall, moved, callbackInfo, audioCallbackInfo]
  | taskSuspend =>
      cases standby : record.isStandby with
      | false =>
          simp [SubscriberInfo.callsOf, system, hearCall, moved, callbackInfo, audioCallbackInfo,
            standby]
      | true => simp [SubscriberInfo.callsOf, system, moved, callbackInfo, standby]
  | taskActive =>
      cases standby : record.isStandby with
      | false =>
          simp [SubscriberInfo.callsOf, system, hearCall, moved, callbackInfo, audioCallbackInfo,
            standby]
      | true => simp [SubscriberInfo.callsOf, system, moved, callbackInfo, standby]

theorem moved_idem (type : ContinuousTaskEventTriggerType) (record : ContinuousTaskRecord)
    (known : Finset Int) : moved type record (moved type record known) = moved type record known := by
  cases type with
  | taskStart => simp [moved]
  | taskUpdate => rfl
  | taskCancel => simp [moved]
  | taskSuspend =>
      cases standby : record.isStandby with
      | false => simp [moved, standby]
      | true => simp [moved, standby]
  | taskActive =>
      cases standby : record.isStandby with
      | false => simp [moved, standby]
      | true => simp [moved, standby]

theorem foldl_hear_map (remote target : Nat) (calls : List SubscriberCall) (known : Finset Int) :
    (calls.map (fun call => (target, call))).foldl (hear remote) known =
      if target = remote then calls.foldl hearCall known else known := by
  induction calls generalizing known with
  | nil => simp
  | cons call rest ih =>
      rw [List.map_cons, List.foldl_cons, ih]
      by_cases same : target = remote
      · simp [hear, same]
      · simp [hear, same]

theorem foldl_hear_flatMap {remote : Nat} (subscribers : List SubscriberInfo)
    (system : ∀ subscriber ∈ subscribers, subscriber.remote = remote → subscriber.isHap = false)
    (type : ContinuousTaskEventTriggerType) (record : ContinuousTaskRecord) (known : Finset Int) :
    (subscribers.flatMap (fun subscriber =>
      (subscriber.callsOf type (callbackInfo record)).map
        (fun call => (subscriber.remote, call)))).foldl (hear remote) known =
      if ∃ subscriber ∈ subscribers, subscriber.remote = remote then moved type record known
      else known := by
  induction subscribers generalizing known with
  | nil => simp
  | cons head rest ih =>
      have systemRest : ∀ subscriber ∈ rest, subscriber.remote = remote →
          subscriber.isHap = false :=
        fun subscriber member => system subscriber (List.mem_cons_of_mem _ member)
      rw [List.flatMap_cons, List.foldl_append, ih systemRest, foldl_hear_map]
      by_cases here : head.remote = remote
      · rw [if_pos here, foldl_hear_callsOf (system head List.mem_cons_self here)]
        have present : ∃ subscriber ∈ head :: rest, subscriber.remote = remote :=
          ⟨head, List.mem_cons_self, here⟩
        rw [if_pos present]
        split
        · exact moved_idem type record known
        · rfl
      · simp [here]

theorem mirror_onContinuousTaskChanged {remote : Nat} {s : BgContinuousTaskMgr}
    (subscribed : Subscribed remote s.bgTaskSubscribers) (record : ContinuousTaskRecord)
    (type : ContinuousTaskEventTriggerType) :
    mirror remote (s.onContinuousTaskChanged record type).calls =
      moved type record (mirror remote s.calls) := by
  unfold mirror onContinuousTaskChanged
  rw [List.foldl_append, foldl_hear_flatMap s.bgTaskSubscribers subscribed.system,
    if_pos subscribed.present]

theorem mirror_append_of_unmoved {remote : Nat} {calls : List (Nat × SubscriberCall)}
    (more : List (Nat × SubscriberCall))
    (unmoved : ∀ call ∈ more, ∀ known, hear remote known call = known) :
    mirror remote (calls ++ more) = mirror remote calls := by
  unfold mirror
  rw [List.foldl_append]
  induction more with
  | nil => rfl
  | cons call rest ih =>
      rw [List.foldl_cons, unmoved call List.mem_cons_self]
      exact ih (fun later member => unmoved later (List.mem_cons_of_mem _ member))

theorem mirror_handleAppContinuousTaskStop {remote : Nat} (s : BgContinuousTaskMgr) (uid : Int) :
    mirror remote (s.handleAppContinuousTaskStop uid).calls = mirror remote s.calls := by
  unfold handleAppContinuousTaskStop
  split
  · rfl
  · refine mirror_append_of_unmoved _ ?_
    intro call member known
    obtain ⟨subscriber, -, rfl⟩ := List.mem_map.mp member
    simp [hear, hearCall]

theorem mirror_sendAudioCallBackTaskState {remote : Nat} {s : BgContinuousTaskMgr}
    (subscribed : Subscribed remote s.bgTaskSubscribers) (record : ContinuousTaskRecord) :
    mirror remote (s.sendAudioCallBackTaskState record).calls = mirror remote s.calls := by
  refine mirror_append_of_unmoved _ ?_
  intro call member known
  obtain ⟨subscriber, chosen, rfl⟩ := List.mem_map.mp member
  obtain ⟨listed, isApp⟩ := List.mem_filter.mp chosen
  have other : subscriber.remote ≠ remote := by
    intro same
    have system := subscribed.system subscriber listed same
    rw [system] at isApp
    exact absurd isApp (by simp)
  simp [hear, other]

/-! ## One change -/

section Change

variable {remote : Nat} {before after : BgContinuousTaskMgr} {key : String}
  {record : ContinuousTaskRecord}

/-- One task moves: its id enters or leaves the mirror as it enters or leaves the active
tasks, and the other ids stay where they are. -/
theorem Mirrors.of_move (mirrors : Mirrors remote before) (distinct : IdDetermines before.taskAt)
    (found : before.taskAt key = some record)
    (elsewhere : ∀ other, other ≠ key → after.taskAt other = before.taskAt other)
    (same : ∀ edited, after.taskAt key = some edited →
      edited.continuousTaskId = record.continuousTaskId)
    (others : ∀ id, id ≠ record.continuousTaskId →
      (id ∈ mirror remote after.calls ↔ id ∈ mirror remote before.calls))
    (own : record.continuousTaskId ∈ mirror remote after.calls ↔
      ∃ edited, after.taskAt key = some edited ∧ edited.suspendState = false) :
    Mirrors remote after := by
  intro id
  by_cases here : id = record.continuousTaskId
  · subst here
    rw [own]
    constructor
    · rintro ⟨edited, stored, active⟩
      exact ⟨key, edited, stored, active, same edited stored⟩
    · rintro ⟨other, stored, lookup, active, equal⟩
      by_cases atKey : other = key
      · subst atKey
        exact ⟨stored, lookup, active⟩
      · rw [elsewhere other atKey] at lookup
        exact absurd (distinct other stored key record lookup found equal) atKey
  · rw [others id here, mirrors id]
    -- an id other than that of the moved task belongs to a task elsewhere
    constructor
    · rintro ⟨other, stored, lookup, active, equal⟩
      have away : other ≠ key := by
        rintro rfl
        obtain rfl := Option.some.inj (lookup.symm.trans found)
        exact here equal.symm
      exact ⟨other, stored, (elsewhere other away).trans lookup, active, equal⟩
    · rintro ⟨other, stored, lookup, active, equal⟩
      have away : other ≠ key := by
        rintro rfl
        exact here (equal.symm.trans (same stored lookup))
      exact ⟨other, stored, (elsewhere other away).symm.trans lookup, active, equal⟩

theorem Mirrors.of_edit {edited : ContinuousTaskRecord} (mirrors : Mirrors remote before)
    (distinct : IdDetermines before.taskAt) (found : before.taskAt key = some record)
    (keeps : Edited record edited) : Mirrors remote (before.setRecord key edited) := by
  have stored := taskAt_setRecord_self before key edited found
  refine mirrors.of_move distinct found
    (fun other away => taskAt_setRecord_ne before key other edited away) ?_ (fun _ _ => Iff.rfl) ?_
  · intro other lookup
    obtain rfl := Option.some.inj (stored.symm.trans lookup)
    exact keeps.continuousTaskId
  · show record.continuousTaskId ∈ mirror remote before.calls ↔ _
    rw [mirrors]
    constructor
    · rintro ⟨other, old, lookup, active, equal⟩
      obtain rfl := distinct other old key record lookup found equal
      obtain rfl := Option.some.inj (lookup.symm.trans found)
      exact ⟨edited, stored, keeps.suspendState.trans active⟩
    · rintro ⟨edited', lookup, active⟩
      obtain rfl := Option.some.inj (stored.symm.trans lookup)
      exact ⟨key, record, found, keeps.suspendState.symm.trans active, rfl⟩

structure Mirrored (remote : Nat) (s : BgContinuousTaskMgr) : Prop where
  subscribed : Subscribed remote s.bgTaskSubscribers
  mirrors : Mirrors remote s
  distinct : IdDetermines s.taskAt
  bounded : ∀ key record, s.taskAt key = some record →
    record.continuousTaskId ≤ s.continuousTaskIdIndex

abbrev alreadySuspended (record : ContinuousTaskRecord) : Prop := record.suspendState = true

theorem Mirrors.suspend {edited : ContinuousTaskRecord} (held : Mirrored remote before)
    (found : before.taskAt key = some record)
    (same : ContinuousTaskRecord.SameTask record edited) (suspended : edited.suspendState = true)
    (heard : edited.isStandby = false ∨ alreadySuspended record) :
    Mirrors remote ((before.setRecord key edited).onContinuousTaskChanged edited .taskSuspend) := by
  have stored := taskAt_setRecord_self before key edited found
  have told := mirror_onContinuousTaskChanged (s := before.setRecord key edited) held.subscribed
    edited .taskSuspend
  have unlisted : edited.isStandby = true →
      record.continuousTaskId ∉ mirror remote before.calls := by
    intro standby listed
    obtain ⟨other, old, lookup, active, equal⟩ := (held.mirrors _).mp listed
    obtain rfl := held.distinct other old key record lookup found equal
    obtain rfl := Option.some.inj (lookup.symm.trans found)
    rcases heard with heard | already
    · exact absurd (heard.symm.trans standby) (by simp)
    · exact absurd (active.symm.trans already) (by simp)
  refine held.mirrors.of_move held.distinct found
    (fun other away => taskAt_setRecord_ne before key other edited away) ?_ ?_ ?_
  · intro other lookup
    obtain rfl := Option.some.inj (stored.symm.trans lookup)
    exact same.continuousTaskId
  · intro id different
    rw [told]
    show id ∈ (if edited.isStandby then mirror remote before.calls
      else (mirror remote before.calls).erase edited.continuousTaskId) ↔ _
    rw [same.continuousTaskId]
    split
    · exact Iff.rfl
    · simp [different]
  · rw [told]
    show record.continuousTaskId ∈ (if edited.isStandby then mirror remote before.calls
      else (mirror remote before.calls).erase edited.continuousTaskId) ↔ _
    rw [same.continuousTaskId]
    constructor
    · intro listed
      split at listed
      · rename_i standby
        exact absurd listed (unlisted standby)
      · exact absurd listed (by simp)
    · rintro ⟨edited', lookup, active⟩
      obtain rfl := Option.some.inj (stored.symm.trans lookup)
      exact absurd (active.symm.trans suspended) (by simp)

theorem Mirrors.activate {edited : ContinuousTaskRecord} (held : Mirrored remote before)
    (found : before.taskAt key = some record)
    (same : ContinuousTaskRecord.SameTask record edited) (active : edited.suspendState = false)
    (heard : edited.isStandby = false) :
    Mirrors remote ((before.setRecord key edited).onContinuousTaskChanged edited .taskActive) := by
  have stored := taskAt_setRecord_self before key edited found
  have told := mirror_onContinuousTaskChanged (s := before.setRecord key edited) held.subscribed
    edited .taskActive
  have inserted : moved .taskActive edited (mirror remote before.calls) =
      insert record.continuousTaskId (mirror remote before.calls) := by
    simp [moved, heard, same.continuousTaskId]
  refine held.mirrors.of_move held.distinct found
    (fun other away => taskAt_setRecord_ne before key other edited away) ?_ ?_ ?_
  · intro other lookup
    obtain rfl := Option.some.inj (stored.symm.trans lookup)
    exact same.continuousTaskId
  · intro id different
    rw [told]
    show id ∈ moved .taskActive edited (mirror remote before.calls) ↔ _
    rw [inserted]
    simp [different]
  · rw [told]
    show record.continuousTaskId ∈ moved .taskActive edited (mirror remote before.calls) ↔ _
    rw [inserted]
    exact ⟨fun _ => ⟨edited, stored, active⟩, fun _ => Finset.mem_insert_self _ _⟩

theorem Mirrors.finish {marked : ContinuousTaskRecord} (held : Mirrored remote before)
    (found : before.taskAt key = some record)
    (same : ContinuousTaskRecord.SameTask record marked) :
    Mirrors remote ((before.onContinuousTaskChanged marked .taskCancel).eraseRecord key) := by
  have told := mirror_onContinuousTaskChanged (s := before) held.subscribed marked .taskCancel
  have gone : ((before.onContinuousTaskChanged marked .taskCancel).eraseRecord key).taskAt key =
      none := by
    rw [taskAt_eraseRecord, if_pos rfl]
  have erased : moved .taskCancel marked (mirror remote before.calls) =
      (mirror remote before.calls).erase record.continuousTaskId := by
    simp [moved, same.continuousTaskId]
  refine held.mirrors.of_move held.distinct found
    (fun other away => taskAt_eraseRecord_ne _ key other away) ?_ ?_ ?_
  · intro edited lookup
    exact absurd (gone.symm.trans lookup) (by simp)
  · intro id different
    show id ∈ mirror remote (before.onContinuousTaskChanged marked .taskCancel).calls ↔ _
    rw [told, erased]
    simp [different]
  · show record.continuousTaskId ∈
      mirror remote (before.onContinuousTaskChanged marked .taskCancel).calls ↔ _
    rw [told, erased]
    constructor
    · intro listed
      exact absurd listed (by simp)
    · rintro ⟨edited, lookup, -⟩
      exact absurd (gone.symm.trans lookup) (by simp)

/-- No subscriber hears of a task that moved, and every task keeps its id and whether it is
suspended. -/
theorem Mirrors.of_unmoved (mirrors : Mirrors remote before)
    (heard : mirror remote after.calls = mirror remote before.calls)
    (active : ∀ id, ActiveId after id ↔ ActiveId before id) : Mirrors remote after := by
  intro id
  rw [heard, mirrors id]
  exact (active id).symm

theorem moved_of_unmoved {type : ContinuousTaskEventTriggerType} (unmoved : Unmoved type record)
    (known : Finset Int) : moved type record known = known := by
  rcases unmoved with rfl | ⟨rfl | rfl, standby⟩
  · rfl
  · simp [moved, standby]
  · simp [moved, standby]

theorem activeId_editAll (edit : ContinuousTaskRecord → ContinuousTaskRecord)
    (keeps : ∀ record, Edited record (edit record)) (id : Int) :
    ActiveId { before with
      continuousTaskInfosMap :=
        KeyedMap.mapVal (fun _ record => edit record) before.continuousTaskInfosMap } id ↔
      ActiveId before id := by
  constructor
  · rintro ⟨key, record, found, active, equal⟩
    obtain ⟨old, stored, rfl⟩ := Option.map_eq_some_iff.mp
      ((KeyedMap.lookup_mapVal _ _ key).symm.trans found)
    exact ⟨key, old, stored, (keeps old).suspendState.symm.trans active,
      (keeps old).continuousTaskId.symm.trans equal⟩
  · rintro ⟨key, record, found, active, equal⟩
    refine ⟨key, edit record, ?_, (keeps record).suspendState.trans active,
      (keeps record).continuousTaskId.trans equal⟩
    exact (KeyedMap.lookup_mapVal _ _ key).trans (congrArg (Option.map edit) found)

theorem Mirrors.change (held : Mirrored remote before)
    (change : Change (fun _ => True) alreadySuspended before after) : Mirrors remote after := by
  cases change with
  | quiet same =>
      refine held.mirrors.of_unmoved (by rw [same.calls]) ?_
      intro id
      simp only [ActiveId, same.taskAt]
  | edit edited found touched keeps => exact held.mirrors.of_edit held.distinct found keeps
  | editAll edit all keeps => exact held.mirrors.of_unmoved rfl (activeId_editAll edit keeps)
  | tell record type unmoved =>
      refine held.mirrors.of_unmoved ?_ (fun _ => Iff.rfl)
      rw [mirror_onContinuousTaskChanged held.subscribed, moved_of_unmoved unmoved]
  | appStop uid =>
      refine held.mirrors.of_unmoved (mirror_handleAppContinuousTaskStop before uid) ?_
      intro id
      simp only [ActiveId, taskAt_handleAppContinuousTaskStop]
  | audioCallback record =>
      exact held.mirrors.of_unmoved (mirror_sendAudioCallBackTaskState held.subscribed record)
        (fun _ => Iff.rfl)
  | suspend edited found touched same suspended heard =>
      exact Mirrors.suspend held found same suspended heard
  | activate edited found touched same active heard =>
      exact Mirrors.activate held found same active heard
  | finish marked found touched same => exact Mirrors.finish held found same

/-- The tasks after were the same tasks before, so their ids still identify them. -/
theorem Mirrored.of_traces (held : Mirrored remote before) (traces : Traces before after)
    (counter : after.continuousTaskIdIndex = before.continuousTaskIdIndex)
    (subscribed : Subscribed remote after.bgTaskSubscribers) (mirrors : Mirrors remote after) :
    Mirrored remote after := by
  refine ⟨subscribed, mirrors, held.distinct.of_origin traces.origin, ?_⟩
  intro key record found
  obtain ⟨old, stored, same⟩ := traces.origin key record found
  rw [counter, same.continuousTaskId]
  exact held.bounded key old stored

theorem Mirrored.change (held : Mirrored remote before)
    (change : Change (fun _ => True) alreadySuspended before after) : Mirrored remote after := by
  have subscribed : Subscribed remote after.bgTaskSubscribers :=
    change.bgTaskSubscribers ▸ held.subscribed
  exact held.of_traces change.traces change.continuousTaskIdIndex subscribed
    (Mirrors.change held change)

theorem Mirrored.edits (held : Mirrored remote before)
    (edits : Edits (fun _ => True) alreadySuspended before after) : Mirrored remote after := by
  induction edits with
  | refl => exact held
  | tail _ change ih => exact ih.change change

end Change

/-! ## One operation -/

section Operation

variable {remote : Nat} {s : BgContinuousTaskMgr}

theorem Mirrored.nextTaskId (held : Mirrored remote s) : Mirrored remote s.nextTaskId := by
  refine ⟨held.subscribed, held.mirrors, held.distinct, ?_⟩
  intro key record found
  have bound := held.bounded key record found
  show record.continuousTaskId ≤ s.continuousTaskIdIndex + 1
  omega

theorem Mirrored.addTask {key : String} {stored : ContinuousTaskRecord} (held : Mirrored remote s)
    (free : s.taskAt key = none) (active : stored.suspendState = false)
    (unused : ∀ other record, s.taskAt other = some record →
      record.continuousTaskId ≠ stored.continuousTaskId)
    (counter : stored.continuousTaskId ≤ s.continuousTaskIdIndex) :
    Mirrored remote (s.addTask key stored) := by
  have told : mirror remote (s.addTask key stored).calls =
      insert stored.continuousTaskId (mirror remote s.calls) :=
    mirror_onContinuousTaskChanged (s := { s with
      continuousTaskInfosMap := s.continuousTaskInfosMap.insert key stored })
      held.subscribed stored .taskStart
  have kept : ∀ other record, s.taskAt other = some record →
      (s.addTask key stored).taskAt other = some record := by
    intro other record found
    rw [taskAt_addTask, if_neg, found]
    rintro rfl
    exact absurd (free.symm.trans found) (by simp)
  refine ⟨held.subscribed, ?_, ?_, ?_⟩
  · intro id
    rw [told, Finset.mem_insert, held.mirrors id]
    constructor
    · rintro (rfl | ⟨other, record, found, isActive, equal⟩)
      · exact ⟨key, stored, by rw [taskAt_addTask, if_pos rfl], active, rfl⟩
      · exact ⟨other, record, kept other record found, isActive, equal⟩
    · rintro ⟨other, record, found, isActive, equal⟩
      rw [taskAt_addTask] at found
      split at found
      · obtain rfl := Option.some.inj found
        exact Or.inl equal.symm
      · exact Or.inr ⟨other, record, found, isActive, equal⟩
  · intro first record second record' found found' equal
    rw [taskAt_addTask] at found found'
    split at found
    · rename_i isNew
      split at found'
      · rename_i isNew'
        rw [isNew, isNew']
      · obtain rfl := Option.some.inj found
        exact absurd equal.symm (unused second record' found')
    · split at found'
      · obtain rfl := Option.some.inj found'
        exact absurd equal (unused first record found)
      · exact held.distinct first record second record' found found' equal
  · intro other record found
    show record.continuousTaskId ≤ s.continuousTaskIdIndex
    rw [taskAt_addTask] at found
    split at found
    · obtain rfl := Option.some.inj found
      exact counter
    · exact held.bounded other record found

theorem Mirrored.started {after : BgContinuousTaskMgr} {record : ContinuousTaskRecord}
    (held : Mirrored remote s) (fresh : Fresh record)
    (start : Started (fun _ => True) alreadySuspended
      { record with continuousTaskId := s.continuousTaskIdIndex + 1 } s.nextTaskId after) :
    Mirrored remote after := by
  cases start with
  | refused edits => exact held.nextTaskId.edits edits
  | @added middle _ stored edits keeps free saved =>
      have before := held.nextTaskId.edits edits
      have numbered : stored.continuousTaskId = s.continuousTaskIdIndex + 1 :=
        keeps.continuousTaskId
      have counter : middle.continuousTaskIdIndex = s.continuousTaskIdIndex + 1 :=
        Edits.continuousTaskIdIndex edits
      have added := before.addTask free (keeps.suspendState.trans fresh.suspendState) (by
        intro other old found
        obtain ⟨source, known, same⟩ := (Edits.traces edits).origin other old found
        have bound := held.bounded other source known
        have kept := same.continuousTaskId
        omega) (by omega)
      exact added.change (Change.quiet saved)

theorem mirror_dumpCancel (subscribed : Subscribed remote s.bgTaskSubscribers) (env : Env)
    (key : String) (record : ContinuousTaskRecord) :
    mirror remote (dumpCancel env key record s).calls =
      (mirror remote s.calls).erase record.continuousTaskId :=
  mirror_onContinuousTaskChanged (s := s.cancelPair env record.mainPair) subscribed record
    .taskCancel

/-- After the loop of `DumpCancelTask` the subscriber has heard the end of every task. -/
theorem mirror_forEachTask_dumpCancel (held : Mirrored remote s) (env : Env) :
    mirror remote (s.forEachTask (dumpCancel env)).calls = ∅ := by
  have bodyLocal : KeyedMap.Local continuousTaskInfosMap (dumpCancel env) :=
    fun _ _ _ _ _ _ => rfl
  -- the loop keeps the subscribers and tells of ends only
  have step : ∀ key record current, current.taskAt key = some record →
      (Subscribed remote current.bgTaskSubscribers ∧
        mirror remote current.calls ⊆ mirror remote s.calls) →
      (Subscribed remote (dumpCancel env key record current).bgTaskSubscribers ∧
        mirror remote (dumpCancel env key record current).calls ⊆ mirror remote s.calls) := by
    rintro key record current - ⟨subscribed, subset⟩
    refine ⟨subscribed, ?_⟩
    rw [mirror_dumpCancel subscribed]
    exact (Finset.erase_subset _ _).trans subset
  have start : Subscribed remote s.bgTaskSubscribers ∧
      mirror remote s.calls ⊆ mirror remote s.calls := ⟨held.subscribed, Finset.Subset.refl _⟩
  refine Finset.eq_empty_iff_forall_notMem.mpr ?_
  intro id listed
  have known := (KeyedMap.forEach_invariant step s start).2 listed
  obtain ⟨key, record, found, -, rfl⟩ := (held.mirrors id).mp known
  have settled : record.continuousTaskId ∉
      mirror remote (s.forEachTask (dumpCancel env)).calls := by
    refine KeyedMap.forEach_settles
      (fun current => record.continuousTaskId ∉ mirror remote current.calls) bodyLocal step key
      record ?_ ?_ s start found
    · intro current _ told
      rw [mirror_dumpCancel told.1]
      exact Finset.notMem_erase _ _
    · intro other task current _ _ told absent
      rw [mirror_dumpCancel told.1]
      exact fun still => absent (Finset.mem_of_mem_erase still)
  exact settled listed

theorem mirrored_of_empty (subscribed : Subscribed remote s.bgTaskSubscribers)
    (silent : mirror remote s.calls = ∅) (empty : ∀ key, s.taskAt key = none) :
    Mirrored remote s := by
  refine ⟨subscribed, ?_, ?_, ?_⟩
  · intro id
    rw [silent]
    constructor
    · intro listed
      exact absurd listed (by simp)
    · rintro ⟨key, record, found, -⟩
      exact absurd ((empty key).symm.trans found) (by simp)
  · intro key record key' record' found
    exact absurd ((empty key).symm.trans found) (by simp)
  · intro key record found
    exact absurd ((empty key).symm.trans found) (by simp)

theorem Mirrored.dumpCancelAll (held : Mirrored remote s) (env : Env) :
    Mirrored remote (s.dumpCancelAll env) := by
  have heard := mirror_forEachTask_dumpCancel held env
  obtain ⟨tools, calls, dumped⟩ := forEachTask_dumpCancel (s := s) env
  have cleared : Mirrored remote (dumpCleared env s) := by
    refine mirrored_of_empty ?_ heard (taskAt_dumpCleared (s := s) env)
    unfold dumpCleared
    rw [dumped]
    exact held.subscribed
  exact cleared.edits (edits_dumpCancelAll env)

theorem Mirrored.of_subscribers (held : Mirrored remote s) {subscribers : List SubscriberInfo}
    (subscribed : Subscribed remote subscribers) :
    Mirrored remote { s with bgTaskSubscribers := subscribers } :=
  ⟨subscribed, held.mirrors, held.distinct, held.bounded⟩

theorem Mirrored.addSubscriber (held : Mirrored remote s) (info : SubscriberInfo) :
    Mirrored remote (s.addSubscriber info) := by
  unfold BgContinuousTaskMgr.addSubscriber
  obtain ⟨subscriber, listed, own⟩ := held.subscribed.present
  split
  · refine held.of_subscribers ⟨?_, ?_⟩
    · refine ⟨_, List.mem_map_of_mem listed, ?_⟩
      split
      · exact own
      · exact own
    · intro target member same
      obtain ⟨old, present, rfl⟩ := List.mem_map.mp member
      split at same
      · rename_i hap
        exact absurd (hap.2.symm.trans (held.subscribed.system old present same)) (by simp)
      · rename_i notHap
        rw [if_neg notHap]
        exact held.subscribed.system old present same
  · rename_i unknown
    refine held.of_subscribers ⟨⟨subscriber, List.mem_append_left _ listed, own⟩, ?_⟩
    intro target member same
    rcases List.mem_append.mp member with old | isNew
    · exact held.subscribed.system target old same
    · obtain rfl := List.mem_singleton.mp isNew
      refine absurd ?_ unknown
      exact List.any_eq_true.mpr ⟨subscriber, listed, by simp [own, same]⟩

theorem Mirrored.removeSubscriber {other : Nat} (held : Mirrored remote s)
    (different : other ≠ remote) (flag : BitVec 32) :
    Mirrored remote (s.removeSubscriber other flag) := by
  obtain ⟨subscriber, listed, own⟩ := held.subscribed.present
  refine held.of_subscribers ⟨⟨subscriber, ?_, own⟩, ?_⟩
  · refine List.mem_filterMap.mpr ⟨subscriber, listed, ?_⟩
    rw [if_pos]
    rw [own]
    exact different.symm
  · intro target member same
    obtain ⟨old, present, kept⟩ := List.mem_filterMap.mp member
    split at kept
    · obtain rfl := Option.some.inj kept
      exact held.subscribed.system old present same
    · rename_i removed
      split at kept
      · obtain rfl := Option.some.inj kept
        exact absurd ((not_not.mp removed).symm.trans same) different
      · exact absurd kept (by simp)

theorem Mirrored.onRemoteSubscriberDied {other : Nat} (held : Mirrored remote s)
    (different : other ≠ remote) : Mirrored remote (s.onRemoteSubscriberDied other) := by
  obtain ⟨subscriber, listed, own⟩ := held.subscribed.present
  unfold BgContinuousTaskMgr.onRemoteSubscriberDied
  split
  · refine held.of_subscribers ⟨⟨subscriber, ?_, own⟩, ?_⟩
    · refine List.mem_filter.mpr ⟨listed, ?_⟩
      rw [own]
      exact decide_eq_true different.symm
    · intro target member same
      exact held.subscribed.system target (List.mem_filter.mp member).1 same
  · exact held

/-- No active task is suspended for its audio while it is in standby. -/
def SuspensionsHeard (s : BgContinuousTaskMgr) (label : Env × TaskOp) : Prop :=
  match label.2 with
  | .suspendContinuousAudioTask uid => s.isSysReady = true →
      ∀ record ∈ KeyedMap.vals s.continuousTaskInfosMap,
        SuspendedInStandby uid s record → record.suspendState = true
  | _ => True

def StaysSubscribed (remote : Nat) (label : Env × TaskOp) : Prop :=
  match label.2 with
  | .removeSubscriber other _ => other ≠ remote
  | .onRemoteSubscriberDied other => other ≠ remote
  | _ => True

theorem Mirrored.taskStep (held : Mirrored remote s) (label : Env × TaskOp)
    (stays : StaysSubscribed remote label) (heard : SuspensionsHeard s label) :
    Mirrored remote (s.taskStep label) := by
  by_cases ready : ∃ uid, label.2 = .suspendContinuousAudioTask uid ∧ s.isSysReady = false
  · -- an audio suspension before the manager is ready does nothing
    obtain ⟨uid, isAudio, notReady⟩ := ready
    obtain ⟨env, op⟩ := label
    obtain rfl : op = .suspendContinuousAudioTask uid := isAudio
    have idle : s.taskStep (env, .suspendContinuousAudioTask uid) = s :=
      if_neg (by simp [notReady])
    rw [idle]
    exact held
  · have effect : Effect alreadySuspended s label.2 (s.taskStep label) := by
      refine taskStep_effect label ?_
      intro uid isAudio key record found standby
      obtain ⟨env, op⟩ := label
      obtain rfl : op = .suspendContinuousAudioTask uid := isAudio
      have isReady : s.isSysReady = true := by
        rcases Bool.eq_false_or_eq_true s.isSysReady with yes | no
        · exact yes
        · exact absurd ⟨uid, rfl, no⟩ ready
      exact heard isReady record (KeyedMap.mem_vals.mpr ⟨key, found⟩) standby
    generalize s.taskStep label = after at effect ⊢
    obtain ⟨env, op⟩ := label
    cases effect with
    | edits edits => exact held.edits edits
    | started record fresh ready start => exact held.started fresh start
    | cleared env => exact held.dumpCancelAll env
    | addSubscriber info => exact held.addSubscriber info
    | removeSubscriber other flag => exact held.removeSubscriber stays flag
    | subscriberDied other => exact held.onRemoteSubscriberDied stays

end Operation

/-! ## Runs -/

/-- In every run in which the system ability stays subscribed and no active task is
suspended for its audio while in standby, the system ability knows exactly the tasks that
are not suspended.  The run starts with no task and nothing told. -/
theorem run_system_ability_mirrors (remote : Nat) (s : BgContinuousTaskMgr)
    (noTask : s.continuousTaskInfosMap = ∅) (noCall : s.calls = [])
    (subscribed : Subscribed remote s.bgTaskSubscribers) (labels : List (Env × TaskOp))
    (stays : ∀ label ∈ labels, StaysSubscribed remote label)
    (heard : StepSystem.Admissible taskStep SuspensionsHeard s labels) :
    Mirrors remote (StepSystem.run taskStep s labels) := by
  have empty : ∀ key, s.taskAt key = none := by
    intro key
    rw [taskAt, noTask]
    exact AList.lookup_empty key
  have silent : mirror remote s.calls = ∅ := by
    rw [noCall]
    rfl
  have start : Mirrored remote s := mirrored_of_empty subscribed silent empty
  have ended : Mirrored remote (StepSystem.run taskStep s labels) :=
    StepSystem.run_invariant
      (fun _ label held allowed => held.taskStep label allowed.1 allowed.2) labels s start
      (heard.and_forall stays)
  exact ended.mirrors

def watched : BgContinuousTaskMgr :=
  { (installed (fun _ => 0)).initRequiredResourceInfo deviceEnv with
    bgTaskSubscribers := [{ remote := 1, uid := 1096, pid := 50, isHap := false, flag := 0#32 }] }

theorem subscribed_watched : Subscribed 1 watched.bgTaskSubscribers := by
  refine ⟨⟨_, List.mem_singleton.mpr rfl, rfl⟩, ?_⟩
  intro subscriber member _
  rw [List.mem_singleton.mp member]

def suspendedRun (isStandby : Bool) : List (Env × TaskOp) :=
  [(deviceEnv, .addSubscriber { remote := 2, uid := 100, pid := 7, isHap := true, flag := 2#32 }),
    deviceStart 100 (requestOf [BackgroundMode.audioPlayback] [4]),
    (deviceEnv, .suspendContinuousTask 100 2 "100_EntryAbility_1_1" isStandby),
    (deviceEnv, .suspendContinuousAudioTask 100)]

theorem not_activeId {s : BgContinuousTaskMgr} {id : Int}
    (asleep : ∀ record ∈ KeyedMap.vals s.continuousTaskInfosMap, record.suspendState = true) :
    ¬ ActiveId s id := by
  rintro ⟨key, record, found, active, -⟩
  exact absurd (active.symm.trans (asleep record (KeyedMap.mem_vals.mpr ⟨key, found⟩))) (by simp)

instance (uid : Int) (s : BgContinuousTaskMgr) (record : ContinuousTaskRecord) :
    Decidable (SuspendedInStandby uid s record) :=
  inferInstanceAs (Decidable (_ ∧ _ ∧ _ ∧ _ ∧ _))

theorem run_system_ability_mirrors_suspended :
    StepSystem.Admissible taskStep SuspensionsHeard watched (suspendedRun false) ∧
      Mirrors 1 (StepSystem.run taskStep watched (suspendedRun false)) := by
  have heard : StepSystem.Admissible taskStep SuspensionsHeard watched (suspendedRun false) :=
    ⟨trivial, trivial, trivial, fun _ => by decide, trivial⟩
  have stays : ∀ label ∈ suspendedRun false, StaysSubscribed 1 label := by
    simp [suspendedRun, deviceStart, StaysSubscribed]
  exact ⟨heard, run_system_ability_mirrors 1 watched rfl rfl subscribed_watched
    (suspendedRun false) stays heard⟩

/-- In standby the system ability hears of no suspension, so it still has the task when its
audio suspends it. -/
theorem standby_audio_suspension_not_mirrored :
    ¬ Mirrors 1 (StepSystem.run taskStep watched (suspendedRun true)) := by
  intro mirrors
  have listed : (1 : Int) ∈ mirror 1 (StepSystem.run taskStep watched (suspendedRun true)).calls := by
    decide
  exact not_activeId (by decide) ((mirrors 1).mp listed)

end BgTaskMgr.Continuous
