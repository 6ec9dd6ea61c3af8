import BgTaskMgr.Continuous.ContextStops
import BgTaskMgr.Continuous.StartExits

/-!
# Inner starts and stops

The inner interface starts a task without the id of its ability, which stays -1, and stops the
tasks of the ability with the id of the request.  A stop so undoes the start before it only
when the request has no id either, and when the task is the only one it reaches.
-/

set_option autoImplicit false

namespace BgTaskMgr.Continuous

open BgContinuousTaskMgr

/-! ## The task of an inner start -/

section InnerStart

variable {env : Env} {s : BgContinuousTaskMgr} {record : ContinuousTaskRecord}

theorem sent_sendContinuousTaskNotification (new : record.notificationId = -1)
    (ok : (s.sendContinuousTaskNotification env record).ret = .ok) :
    (sendKind env s record = .publishes →
      (s.sendContinuousTaskNotification env record).record.mainPair = ownPair s.tools record) ∧
    (sendKind env s record ≠ .publishes →
      (s.sendContinuousTaskNotification env record).record.notificationId = -1) := by
  obtain ⟨texts, appName, prompt, accepted⟩ := canSend_iff.mpr ok
  have noted : ((s.checkNotificationText env record).note record).notificationId = -1 :=
    (notificationId_note _).trans new
  have kind : sendKind env s record =
      if (s.checkNotificationText env record).text = "" then .keeps
      else if s.shownByAvsession record then .keeps
      else .publishes := by
    unfold sendKind
    simp [texts, appName, prompt, new]
  rw [kind] at accepted ⊢
  unfold sendContinuousTaskNotification
  dsimp only
  rw [if_neg texts, if_neg appName, if_neg (not_not.mpr prompt)]
  by_cases empty : (s.checkNotificationText env record).text = ""
  · simp [empty, new, noted]
  by_cases shown : s.shownByAvsession record = true
  · simp [empty, shown, noted]
  rw [if_neg empty, if_neg shown] at accepted ⊢
  rw [if_neg empty, if_neg shown]
  refine ⟨fun _ => ?_, fun other => absurd rfl other⟩
  unfold NotificationTools.publishNotification
  dsimp only
  rw [createNotificationLabel_note, notificationId_note, if_pos (accepted rfl)]
  rfl

def InnerShows (env : Env) (s : BgContinuousTaskMgr) (record : ContinuousTaskRecord) : Prop :=
  needsNotification record = true ∧
    sendKind env (startReady env record s) (withNextId s record) = .publishes

/-- What an inner start that succeeds leaves: one more task, without the id of an ability, with
the next id of a task, and with the notification that was shown. -/
structure InnerStarted (env : Env) (s : BgContinuousTaskMgr) (record : ContinuousTaskRecord)
    (key : String) (stored : ContinuousTaskRecord) (after : BgContinuousTaskMgr) : Prop where
  free : s.taskAt key = none
  taskAt : ∀ other, after.taskAt other = if other = key then some stored else s.taskAt other
  uid : stored.uid = record.uid
  abilityName : stored.abilityName = record.abilityName
  abilityId : stored.abilityId = record.abilityId
  plain : stored.isByRequestObject = false
  continuousTaskId : stored.continuousTaskId = s.continuousTaskIdIndex + 1
  shows : InnerShows env s record → stored.mainPair = ownPair s.tools (withNextId s record)
  silent : ¬ InnerShows env s record → stored.notificationId = -1

theorem reachesSubmit_of_ok (fresh : Fresh record)
    (ok : (s.startBackgroundRunningInner env record).1 = .ok) : ReachesSubmit env record s := by
  by_cases disabled : record.uid ∈ s.disableRequestUidList
  · rw [show s.startBackgroundRunningInner env record = (.maliciousContinuoustask, s) from
      if_pos disabled] at ok
    exact absurd ok (by simp)
  by_cases allowed : s.allowApplyContinuousTask env record = .ok
  · refine ⟨disabled, allowed, ?_⟩
    rw [startBackgroundRunningInner_of_allowed disabled allowed] at ok
    cases taken : s.taskAt (taskInfoMapKey (withNextId s record)) with
    | none => rfl
    | some existing =>
        rw [startNumbered_of_taken fresh allowed taken] at ok
        exact absurd ok (by simp)
  · unfold startBackgroundRunningInner at ok
    rw [if_neg disabled, if_pos allowed] at ok
    exact absurd ok allowed

theorem startBackgroundRunningSubmit_plain {key : String} (webview : record.isFromWebview = true)
    (plain : record.isByRequestObject = false) :
    s.startBackgroundRunningSubmit env record key =
      if (sendStartNotification env ⟨.ok, true, record, s⟩).ret ≠ .ok then
        ((sendStartNotification env ⟨.ok, true, record, s⟩).ret,
          s.setTools (sendStartNotification env ⟨.ok, true, record, s⟩).tools)
      else
        ((s.setTools (sendStartNotification env ⟨.ok, true, record, s⟩).tools).addTask key
          (sendStartNotification env ⟨.ok, true, record, s⟩).record).refreshTaskRecord env := by
  have combined : s.checkCombinedTaskNotification record = ⟨.ok, true, record, s⟩ := by
    unfold checkCombinedTaskNotification
    dsimp only
    exact if_pos (by simp [plain])
  unfold startBackgroundRunningSubmit
  rw [combined]
  dsimp only
  rw [if_neg (by simp [webview]), if_neg (by simp)]

theorem sent_sendStartNotification (plain : record.isByRequestObject = false)
    (new : record.notificationId = -1)
    (ok : (sendStartNotification env ⟨.ok, true, record, s⟩).ret = .ok) :
    (needsNotification record = true ∧ sendKind env s record = .publishes →
      (sendStartNotification env ⟨.ok, true, record, s⟩).record.mainPair =
        ownPair s.tools record) ∧
    (¬ (needsNotification record = true ∧ sendKind env s record = .publishes) →
      (sendStartNotification env ⟨.ok, true, record, s⟩).record.notificationId = -1) := by
  by_cases needs : needsNotification record = true
  · have sent : sendStartNotification env ⟨.ok, true, record, s⟩ =
        s.sendContinuousTaskNotification env record := by
      unfold needsNotification at needs
      unfold sendStartNotification sendByModes isLiveViewAndOther
      simp [needs, plain]
    rw [sent] at ok ⊢
    obtain ⟨shows, silent⟩ := sent_sendContinuousTaskNotification new ok
    exact ⟨fun published => shows published.2,
      fun unpublished => silent (fun kind => unpublished ⟨needs, kind⟩)⟩
  · have unsent : sendStartNotification env ⟨.ok, true, record, s⟩ = ⟨.ok, record, s.tools⟩ := by
      unfold needsNotification at needs
      unfold sendStartNotification
      rw [if_neg (by simpa using needs)]
    rw [unsent]
    exact ⟨fun published => absurd published.1 needs, fun _ => new⟩

theorem innerStarted (fresh : Fresh record) (webview : record.isFromWebview = true)
    (plain : record.isByRequestObject = false)
    (ok : (s.startBackgroundRunningInner env record).1 = .ok) :
    ∃ stored, InnerStarted env s record (taskInfoMapKey (withNextId s record)) stored
      (s.startBackgroundRunningInner env record).2 := by
  have reaches := reachesSubmit_of_ok fresh ok
  have webviewNumbered : (withNextId s record).isFromWebview = true := webview
  have plainNumbered : (withNextId s record).isByRequestObject = false := plain
  have newNumbered : (withNextId s record).notificationId = -1 := fresh.notificationId
  obtain ⟨map, -, tools⟩ := @startReady_keeps env s record
  have edited := edited_sendStartNotification env
    ⟨.ok, true, withNextId s record, startReady env record s⟩
  rw [startBackgroundRunningInner_of_reaches reaches,
    startBackgroundRunningSubmit_plain webviewNumbered plainNumbered] at ok ⊢
  split at ok
  · rename_i refused
    exact absurd ok refused
  rename_i sent
  rw [if_neg sent]
  obtain ⟨shows, silent⟩ := sent_sendStartNotification plainNumbered newNumbered
    (not_not.mp sent)
  refine ⟨_, reaches.free, ?_, edited.uid, edited.abilityName, edited.abilityId, ?_,
    edited.continuousTaskId, ?_, silent⟩
  · intro other
    rw [← saveTasks, (quiet_saveTasks _ env).taskAt, taskAt_addTask]
    unfold taskAt
    rw [← map]
    rfl
  · exact edited.isByRequestObject.trans plain
  · intro published
    rw [← tools]
    exact shows published

end InnerStart

/-! ## The stop after it -/

section InnerStop

variable {env : Env} {s : BgContinuousTaskMgr}

theorem length_stopTasks {ids : List Int} (ok : (stopTasks env ids s).1 = .ok) :
    (stopTasks env ids s).2.continuousTaskInfosMap.entries.length + ids.length =
      s.continuousTaskInfosMap.entries.length := by
  induction ids generalizing s with
  | nil => rfl
  | cons continuousTaskId rest ih =>
      unfold stopTasks at ok ⊢
      dsimp only at ok ⊢
      split at ok
      · rename_i failed
        exact absurd ok failed
      rename_i stopped
      rw [if_neg stopped]
      have later := ih ok
      have erased : (s.stopBackgroundRunningByTask env
          continuousTaskId).2.continuousTaskInfosMap.entries.length + 1 =
            s.continuousTaskInfosMap.entries.length := by
        cases search : s.findTask (fun _ task => task.continuousTaskId == continuousTaskId) with
        | none =>
            unfold stopBackgroundRunningByTask at stopped
            rw [search] at stopped
            exact absurd (not_not.mp stopped) (by simp)
        | some hit =>
            obtain ⟨earlier, later, stored⟩ := List.append_of_mem
              (mem_entries_iff_taskAt.mpr (taskAt_of_findTask s hit.1 hit.2 search).1)
            rw [stopBackgroundRunningByTask_map search, entries_erase stored, stored]
            simp
            omega
      rw [List.length_cons]
      omega

structure Without (key : String) (record : ContinuousTaskRecord)
    (before after : BgContinuousTaskMgr) : Prop where
  free : before.taskAt key = none
  taskAt : ∀ other, after.taskAt other = if other = key then some record else before.taskAt other

variable {key : String} {record : ContinuousTaskRecord} {before : BgContinuousTaskMgr}

theorem Without.rehash (without : Without key record before s) (rank : String → Nat) :
    Without key record before (s.rehash rank) :=
  ⟨without.free, fun other => ((quiet_rehash s rank).taskAt other).trans (without.taskAt other)⟩

theorem Without.found (without : Without key record before s) : s.taskAt key = some record := by
  rw [without.taskAt, if_pos rfl]

theorem Without.mem_others (without : Without key record before s)
    {earlier later : List (Σ _ : String, ContinuousTaskRecord)}
    (stored : s.continuousTaskInfosMap.entries = earlier ++ ⟨key, record⟩ :: later)
    (entry : Σ _ : String, ContinuousTaskRecord) :
    entry ∈ earlier ++ later ↔ before.taskAt entry.1 = some entry.2 := by
  rw [← entries_erase stored]
  refine KeyedMap.mem_entries_iff.trans ?_
  rw [KeyedMap.lookup_erase]
  by_cases same : entry.1 = key
  · rw [if_pos same, same, without.free]
  · rw [if_neg same]
    change s.taskAt entry.1 = some entry.2 ↔ _
    rw [without.taskAt, if_neg same]

theorem Without.length (without : Without key record before s) :
    s.continuousTaskInfosMap.entries.length =
      before.continuousTaskInfosMap.entries.length + 1 := by
  obtain ⟨earlier, later, stored⟩ := List.append_of_mem
    (mem_entries_iff_taskAt.mpr without.found)
  have erased : (s.continuousTaskInfosMap.erase key).entries.Perm
      before.continuousTaskInfosMap.entries := by
    apply KeyedMap.perm_of_lookup
    intro other
    rw [KeyedMap.lookup_erase]
    by_cases same : other = key
    · rw [if_pos same, same]
      exact without.free.symm
    · rw [if_neg same]
      exact (without.taskAt other).trans (if_neg same)
  rw [← erased.length_eq, entries_erase stored, stored]
  simp
  omega

/-- The stop is the one that undoes the start: it answers that it went well, and the tasks are
those before the start. -/
def Reverts (before : BgContinuousTaskMgr) (stopped : ErrCode × BgContinuousTaskMgr) : Prop :=
  stopped.1 = .ok ∧ ∀ key, stopped.2.taskAt key = before.taskAt key

/-- The stop of the ability takes out one task, which is alone in its context and in its id, and
whose notification can be cancelled. -/
theorem reverts_of_alone (without : Without key record before s) {uid : Int} {abilityName : String}
    {abilityId : Int} (context : inContext uid abilityName abilityId record = true)
    (alone : ∀ key' other, before.taskAt key' = some other →
      inContext uid abilityName abilityId other = false)
    (unique : ∀ key' other, before.taskAt key' = some other →
      other.continuousTaskId ≠ record.continuousTaskId)
    (cancels : ∀ left, (∀ entry, entry ∈ left ↔ before.taskAt entry.1 = some entry.2) →
      LastCancelOk env left record) :
    Reverts before (s.stopBackgroundRunningInner env uid abilityName abilityId (-1)) := by
  obtain ⟨earlier, later, stored⟩ := List.append_of_mem
    (mem_entries_iff_taskAt.mpr without.found)
  have others := without.mem_others stored
  have search : s.findTask (fun _ task => task.continuousTaskId == record.continuousTaskId) =
      some (key, record) := by
    refine findTask_first stored ?_ (by simp)
    intro other member
    have found := (others other).mp (List.mem_append_left _ member)
    simpa using unique other.1 other.2 found
  have none : ∀ entry ∈ earlier ++ later, inContext uid abilityName abilityId entry.2 = false :=
    fun entry member => alone entry.1 entry.2 ((others entry).mp member)
  have chosen : (KeyedMap.vals s.continuousTaskInfosMap).filter
      (inContext uid abilityName abilityId) = [record] := by
    have front : (earlier.map (fun entry => entry.2)).filter
        (inContext uid abilityName abilityId) = [] := by
      simpa using fun other name member => none ⟨name, other⟩ (List.mem_append_left _ member)
    have back : (later.map (fun entry => entry.2)).filter
        (inContext uid abilityName abilityId) = [] := by
      simpa using fun other name member => none ⟨name, other⟩ (List.mem_append_right _ member)
    unfold KeyedMap.vals
    rw [stored, List.map_append, List.map_cons, List.filter_append, List.filter_cons_of_pos context,
      front, back]
    rfl
  have here : (s.findTask (fun _ task => inContext uid abilityName abilityId task)).isNone =
      false := by
    cases missed : s.findTask (fun _ task => inContext uid abilityName abilityId task) with
    | some _ => rfl
    | none =>
        have outside := findTask_eq_none s key record missed without.found
        rw [context] at outside
        exact absurd outside (by simp)
  have ok : (s.stopBackgroundRunningByTask env record.continuousTaskId).1 = .ok :=
    (stopBackgroundRunningByTask_ok search (entries_erase stored)).mpr (cancels _ others)
  have stops : s.stopBackgroundRunningInner env uid abilityName abilityId (-1) =
      (.ok, (s.stopBackgroundRunningByTask env record.continuousTaskId).2) := by
    unfold stopBackgroundRunningInner stopBackgroundRunningByContext
    rw [if_neg (by simp), if_neg (by simp [here]), chosen]
    simp [stopTasks, ok]
  rw [stops]
  refine ⟨rfl, fun other => ?_⟩
  unfold taskAt
  rw [stopBackgroundRunningByTask_map search, KeyedMap.lookup_erase]
  by_cases same : other = key
  · rw [if_pos same, same]
    exact without.free.symm
  · rw [if_neg same]
    exact (without.taskAt other).trans (if_neg same)

/-- A stop by id that takes out the last task has met no other one with the id. -/
theorem last_of_stopped (without : Without key record before s) {continuousTaskId : Int}
    {front : List (Σ _ : String, ContinuousTaskRecord)}
    (stored : s.continuousTaskInfosMap.entries = front ++ [⟨key, record⟩])
    (ok : (s.stopBackgroundRunningByTask env continuousTaskId).1 = .ok)
    (gone : (s.stopBackgroundRunningByTask env continuousTaskId).2.taskAt key = none) :
    record.continuousTaskId = continuousTaskId ∧
      (∀ entry ∈ front, entry.2.continuousTaskId ≠ continuousTaskId) ∧
      LastCancelOk env front record := by
  have fresh : ∀ entry ∈ front, entry.1 ≠ key := by
    intro entry member same
    have distinct := s.continuousTaskInfosMap.nodupKeys
    rw [stored, List.nodupKeys_middle, List.nodupKeys_cons] at distinct
    apply distinct.1
    rw [← same]
    exact List.mem_map.mpr ⟨entry, by simpa using member, rfl⟩
  cases search : s.findTask (fun _ task => task.continuousTaskId == continuousTaskId) with
  | none =>
      unfold stopBackgroundRunningByTask at ok
      rw [search] at ok
      exact absurd ok (by simp)
  | some hit =>
      obtain ⟨hitKey, hitRecord⟩ := hit
      have isLast : key = hitKey := by
        by_contra other
        unfold taskAt at gone
        rw [stopBackgroundRunningByTask_map search, KeyedMap.lookup_erase, if_neg other] at gone
        rw [show s.continuousTaskInfosMap.lookup key = some record from without.found] at gone
        exact absurd gone (by simp)
      subst isLast
      obtain ⟨found, matched⟩ := taskAt_of_findTask s key hitRecord search
      obtain rfl := Option.some.inj (found.symm.trans without.found)
      refine ⟨by simpa using matched, ?_, ?_⟩
      · intro entry member same
        obtain ⟨first, hit⟩ := Option.isSome_iff_exists.mp
          ((List.find?_isSome (p := fun entry : Σ _ : String, ContinuousTaskRecord =>
            entry.2.continuousTaskId == continuousTaskId)).mpr ⟨entry, member, by simp [same]⟩)
        unfold findTask at search
        rw [stored, List.find?_append, hit] at search
        refine fresh first (List.mem_of_find?_eq_some hit) ?_
        simpa using congrArg (Option.map Prod.fst) search
      · have erased := entries_erase stored
        rw [List.append_nil] at erased
        exact (stopBackgroundRunningByTask_ok search erased).mp ok

/-- When the task comes last, a stop of the ability that takes it out, and it alone, has met it
alone in its context and in its id. -/
theorem alone_of_reverts (without : Without key record before s) {uid : Int}
    {abilityName : String} {abilityId : Int}
    {front : List (Σ _ : String, ContinuousTaskRecord)}
    (stored : s.continuousTaskInfosMap.entries = front ++ [⟨key, record⟩])
    (reverts : Reverts before
      (s.stopBackgroundRunningInner env uid abilityName abilityId (-1))) :
    inContext uid abilityName abilityId record = true ∧
      (∀ entry ∈ front, inContext uid abilityName abilityId entry.2 = false ∧
        entry.2.continuousTaskId ≠ record.continuousTaskId) ∧
      LastCancelOk env front record := by
  obtain ⟨ok, tasks⟩ := reverts
  unfold stopBackgroundRunningInner at ok tasks
  rw [if_neg (by simp)] at ok tasks
  split at ok
  · exact absurd ok (by simp)
  rename_i here
  rw [if_neg here] at tasks
  unfold stopBackgroundRunningByContext at ok tasks
  set chosen := (KeyedMap.vals s.continuousTaskInfosMap).filter
    (inContext uid abilityName abilityId) with isChosen
  -- one task is gone, so one was in the context
  have single : chosen.length = 1 := by
    have left := length_stopTasks ok
    have same := (KeyedMap.perm_of_lookup tasks).length_eq
    have more := without.length
    rw [List.length_map] at left
    omega
  obtain ⟨one, isOne⟩ := List.length_eq_one_iff.mp single
  rw [isOne] at ok tasks
  have stopped : (s.stopBackgroundRunningByTask env one.continuousTaskId).1 = .ok := by
    by_contra failed
    simp [stopTasks, failed] at ok
  have gone : (s.stopBackgroundRunningByTask env one.continuousTaskId).2.taskAt key = none := by
    have left := tasks key
    simp only [List.map_cons, List.map_nil, stopTasks, stopped, without.free] at left
    exact left
  obtain ⟨sameId, others, cancels⟩ := last_of_stopped without stored stopped gone
  rw [isOne, KeyedMap.vals, stored, List.map_append, List.filter_append] at isChosen
  have context : inContext uid abilityName abilityId record = true := by
    by_contra outside
    -- then the one in the context is another task with the id
    have member : one ∈ [one] := List.mem_singleton_self one
    rw [isChosen] at member
    simp only [List.map_cons, List.map_nil, List.filter_cons_of_neg outside, List.filter_nil,
      List.append_nil, List.mem_filter, List.mem_map] at member
    obtain ⟨⟨entry, isFront, rfl⟩, -⟩ := member
    exact others entry isFront rfl
  have none : (front.map (fun entry => entry.2)).filter (inContext uid abilityName abilityId) =
      [] := by
    have lengths := congrArg List.length isChosen
    simp only [List.map_cons, List.map_nil, List.filter_cons_of_pos context, List.filter_nil,
      List.length_append, List.length_cons, List.length_nil] at lengths
    exact List.eq_nil_of_length_eq_zero (by omega)
  refine ⟨context, fun entry member => ⟨?_, ?_⟩, cancels⟩
  · have outside := List.filter_eq_nil_iff.mp none entry.2 (List.mem_map.mpr ⟨entry, member, rfl⟩)
    simpa using outside
  · rw [sameId]
    exact others entry member

/-- The cancellation of the notification of an inner start goes well: none was shown, or it has
no id, is shared, or is cancelled. -/
def InnerCancels (env stopEnv : Env) (s : BgContinuousTaskMgr) (record : ContinuousTaskRecord) :
    Prop :=
  InnerShows env s record → (ownPair s.tools (withNextId s record)).2 = -1 ∨
    (∃ key other, s.taskAt key = some other ∧
      other.mainPair = ownPair s.tools (withNextId s record)) ∨
    stopEnv.cancelOk (ownPair s.tools (withNextId s record)).1
      (ownPair s.tools (withNextId s record)).2 = true

theorem lastCancelOk_iff {stopEnv : Env} {stored : ContinuousTaskRecord}
    (started : InnerStarted env before record key stored s)
    {left : List (Σ _ : String, ContinuousTaskRecord)}
    (others : ∀ entry, entry ∈ left ↔ before.taskAt entry.1 = some entry.2) :
    LastCancelOk stopEnv left stored ↔ InnerCancels env stopEnv before record := by
  unfold LastCancelOk InnerCancels
  rw [if_neg (by simp [started.plain])]
  by_cases shows : InnerShows env before record
  · have pair := started.shows shows
    have shared : (∃ other ∈ left, other.2.mainPair = stored.mainPair) ↔
        ∃ key other, before.taskAt key = some other ∧ other.mainPair = stored.mainPair := by
      constructor
      · rintro ⟨other, member, same⟩
        exact ⟨other.1, other.2, (others other).mp member, same⟩
      · rintro ⟨key, other, found, same⟩
        exact ⟨⟨key, other⟩, (others ⟨key, other⟩).mpr found, same⟩
    rw [shared, ← pair]
    simp only [shows, true_imp_iff]
    rfl
  · simp [shows, started.silent shows]

end InnerStop

/-! ## Both -/

structure SameCaller (env stopEnv : Env) : Prop where
  callingPid : stopEnv.callingPid = env.callingPid
  abilityRunningInfos : stopEnv.abilityRunningInfos = env.abilityRunningInfos

/-- A stop can undo an inner start: the request has no id of an ability, no other task is in the
ability without an id or has the id of the new task, and the notification can be cancelled. -/
structure Undoable (env stopEnv : Env) (s : BgContinuousTaskMgr)
    (taskParam : ContinuousTaskParamForInner) (callingUid : Int) : Prop where
  abilityId : taskParam.abilityId = -1
  alone : ∀ key other, s.taskAt key = some other → inContext taskParam.uid
    (getAbilityNamePid env taskParam (innerPid env taskParam) callingUid) (-1) other = false
  unique : ∀ key other, s.taskAt key = some other →
    other.continuousTaskId ≠ s.continuousTaskIdIndex + 1
  cancels : InnerCancels env stopEnv s (innerRecord env taskParam callingUid)

theorem getAbilityNamePid_congr {env stopEnv : Env} (same : SameCaller env stopEnv)
    (taskParam : ContinuousTaskParamForInner) (callingUid : Int) :
    getAbilityNamePid stopEnv taskParam (innerPid stopEnv taskParam) callingUid =
      getAbilityNamePid env taskParam (innerPid env taskParam) callingUid := by
  unfold getAbilityNamePid innerPid
  rw [same.callingPid, same.abilityRunningInfos]

/-- The stop of the same request undoes an inner start, in whatever order the map is gone
through, exactly when it can. -/
theorem innerStop_undoes_innerStart_iff (env stopEnv : Env) (s : BgContinuousTaskMgr)
    (callingUid : Int) (taskParam : ContinuousTaskParamForInner)
    (ok : (s.startBackgroundRunningForInner env taskParam callingUid).1 = .ok)
    (same : SameCaller env stopEnv) :
    (∀ rank, Reverts s (((s.startBackgroundRunningForInner env taskParam callingUid).2.rehash
        rank).stopBackgroundRunningForInner stopEnv taskParam callingUid)) ↔
      Undoable env stopEnv s taskParam callingUid := by
  obtain ⟨stored, started⟩ := innerStarted (fresh_innerRecord env taskParam callingUid) rfl rfl ok
  set after := (s.startBackgroundRunningForInner env taskParam callingUid).2
  set key := taskInfoMapKey (withNextId s (innerRecord env taskParam callingUid))
  have without : Without key stored s after := ⟨started.free, started.taskAt⟩
  have context : inContext taskParam.uid
      (getAbilityNamePid env taskParam (innerPid env taskParam) callingUid) taskParam.abilityId
      stored = true ↔ taskParam.abilityId = -1 := by
    have uid : stored.uid = taskParam.uid := started.uid
    have abilityName : stored.abilityName =
        getAbilityNamePid env taskParam (innerPid env taskParam) callingUid := started.abilityName
    have abilityId : stored.abilityId = -1 := started.abilityId
    simp only [inContext, uid, abilityName, abilityId, beq_self_eq_true, Bool.true_and,
      beq_iff_eq]
    exact eq_comm
  unfold stopBackgroundRunningForInner
  rw [getAbilityNamePid_congr same]
  constructor
  · intro reverts
    obtain ⟨front, last⟩ := KeyedMap.exists_reorder_lastRank without.found
    have ranked := without.rehash (KeyedMap.lastRank key)
    have others := ranked.mem_others last
    simp only [List.append_nil] at others
    obtain ⟨inside, alone, cancels⟩ := alone_of_reverts ranked last (reverts _)
    have none := context.mp inside
    rw [none] at alone
    refine ⟨none, ?_, ?_, (lastCancelOk_iff started others).mp cancels⟩
    · intro other task found
      exact (alone ⟨other, task⟩ ((others ⟨other, task⟩).mpr found)).1
    · intro other task found
      rw [← started.continuousTaskId]
      exact (alone ⟨other, task⟩ ((others ⟨other, task⟩).mpr found)).2
  · intro undoable rank
    apply reverts_of_alone (without.rehash rank) (context.mpr undoable.abilityId)
    · rw [undoable.abilityId]
      exact undoable.alone
    · rw [started.continuousTaskId]
      exact undoable.unique
    · intro left others
      exact (lastCancelOk_iff started others).mpr undoable.cancels

def callRequest (abilityId : Int) : ContinuousTaskParamForInner :=
  { uid := 20001, bgModeId := BackgroundMode.voip, isStart := true, abilityId := abilityId }

/-- The request names the ability 3. -/
theorem innerStop_misses_task :
    ∃ (env : Env) (s : BgContinuousTaskMgr) (callingUid : Int)
      (taskParam : ContinuousTaskParamForInner),
      s.isSysReady = true ∧ checkPermissionForInner taskParam callingUid = true ∧
        (s.startBackgroundRunningForInner env taskParam callingUid).1 = .ok ∧
        ¬ ∀ rank, Reverts s (((s.startBackgroundRunningForInner env taskParam
          callingUid).2.rehash rank).stopBackgroundRunningForInner env taskParam callingUid) := by
  refine ⟨{}, { isSysReady := true }, 7022, callRequest 3, rfl, by decide, by decide, ?_⟩
  intro reverts
  exact absurd (reverts (fun _ => 0)).1 (by decide)

def playRequest : ContinuousTaskParamForInner :=
  { uid := 20001, bgModeId := BackgroundMode.audioPlayback, isStart := true, abilityId := -1 }

def busy : BgContinuousTaskMgr :=
  afterRun (plainRun ++
    [(deviceEnv, .task (.addSubscriber ⟨1, 1201, 9, false, 0#32⟩)),
      ((deviceStart 20001 (requestOf [BackgroundMode.audioPlayback] [2])).1,
        .task (deviceStart 20001 (requestOf [BackgroundMode.audioPlayback] [2])).2)])

/-- The notification of the new task is shown beside the others, and the stop takes it away. -/
theorem innerStop_undoes_playback :
    busy.continuousTaskInfosMap.entries.length = 2 ∧
      (busy.startBackgroundRunningForInner deviceEnv playRequest 7878).1 = .ok ∧
      InnerShows deviceEnv busy (innerRecord deviceEnv playRequest 7878) ∧
      ∀ rank, Reverts busy
        (((busy.startBackgroundRunningForInner deviceEnv playRequest 7878).2.rehash
          rank).stopBackgroundRunningForInner deviceEnv playRequest 7878) := by
  have ok : (busy.startBackgroundRunningForInner deviceEnv playRequest 7878).1 = .ok := by decide
  refine ⟨by decide, ok, ⟨by decide, by decide⟩,
    (innerStop_undoes_innerStart_iff deviceEnv deviceEnv busy 7878 playRequest ok
      ⟨rfl, rfl⟩).mpr ⟨rfl, ?_, ?_, fun _ => Or.inr (Or.inr rfl)⟩⟩
  · intro key other found
    have apart := @of_all_entries busy key other (fun _ task => !inContext playRequest.uid
      (getAbilityNamePid deviceEnv playRequest (innerPid deviceEnv playRequest) 7878) (-1) task)
      (by decide) found
    simpa using apart
  · intro key other found
    have new := @of_all_entries busy key other
      (fun _ task => decide (task.continuousTaskId ≠ busy.continuousTaskIdIndex + 1)) (by decide)
      found
    exact of_decide_eq_true new

end BgTaskMgr.Continuous
