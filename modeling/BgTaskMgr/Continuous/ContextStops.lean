import BgTaskMgr.Continuous.Changes

/-!
# Stops of an ability

A stop by ability ends the tasks of the ability one after the other, in the order of the
map: each by a search for its id, and only up to the first cancellation that fails.
-/

set_option autoImplicit false

namespace BgTaskMgr.Continuous

open BgContinuousTaskMgr

structure Cleared (chosen : ContinuousTaskRecord → Bool) (before after : BgContinuousTaskMgr) :
    Prop where
  ended : ∀ key record, after.taskAt key = some record → chosen record = false
  kept : ∀ key record, before.taskAt key = some record → chosen record = false →
    after.taskAt key = some record

/-- The last cancellation of `CancelNotification` succeeds, or none is asked for: the task
has no notification, or one of the tasks left shares it. -/
def LastCancelOk (env : Env) (left : List (Σ _ : String, ContinuousTaskRecord))
    (record : ContinuousTaskRecord) : Prop :=
  record.notificationId = -1 ∨ (∃ other ∈ left, other.2.mainPair = record.mainPair) ∨
    (if record.subNotificationId ≠ -1 ∧ record.isByRequestObject = true then
      env.cancelOk record.subNotificationLabel record.subNotificationId
    else env.cancelOk record.notificationLabel record.notificationId) = true

/-- When its turn comes, a chosen task is the first left with its id, and its cancellation
succeeds unless it is the last one. -/
def EndsInTurn (env : Env) (chosen : ContinuousTaskRecord → Bool)
    (earlier : List (Σ _ : String, ContinuousTaskRecord))
    (entry : Σ _ : String, ContinuousTaskRecord)
    (later : List (Σ _ : String, ContinuousTaskRecord)) : Prop :=
  (∀ other ∈ earlier, other.2.continuousTaskId = entry.2.continuousTaskId →
    chosen other.2 = true) ∧
  ((∃ other ∈ later, chosen other.2 = true) →
    LastCancelOk env (earlier.filter (fun other => !chosen other.2) ++ later) entry.2)

section OneStop

variable {s : BgContinuousTaskMgr} {env : Env} {key : String} {record : ContinuousTaskRecord}

theorem findTask_first {found : String → ContinuousTaskRecord → Bool}
    {earlier later : List (Σ _ : String, ContinuousTaskRecord)}
    (stored : s.continuousTaskInfosMap.entries = earlier ++ ⟨key, record⟩ :: later)
    (missed : ∀ other ∈ earlier, found other.1 other.2 = false) (hit : found key record = true) :
    s.findTask found = some (key, record) := by
  have before : earlier.find? (fun entry => found entry.1 entry.2) = none := by
    rw [List.find?_eq_none]
    intro other member
    simp [missed other member]
  unfold findTask
  rw [stored, List.find?_append, before]
  simp [hit]

theorem tools_cancelNotification_ok (tools : NotificationTools) (pair : String × Int) :
    (tools.cancelNotification env.toNotificationEnv pair).1 = .ok ↔
      env.cancelOk pair.1 pair.2 = true := by
  unfold NotificationTools.cancelNotification
  split
  · rename_i accepted
    simp [accepted]
  · rename_i refused
    simp [refused]

theorem stopBackgroundRunningByTask_map {continuousTaskId : Int}
    (search : s.findTask (fun _ task => task.continuousTaskId == continuousTaskId) =
      some (key, record)) :
    (s.stopBackgroundRunningByTask env continuousTaskId).2.continuousTaskInfosMap =
      s.continuousTaskInfosMap.erase key := by
  unfold stopBackgroundRunningByTask
  rw [search]
  dsimp only
  rw [saveTasks_map, handleAppContinuousTaskStop_map, cancelNotification_map]
  rfl

theorem stopBackgroundRunningByTask_ok {continuousTaskId : Int}
    {left : List (Σ _ : String, ContinuousTaskRecord)}
    (search : s.findTask (fun _ task => task.continuousTaskId == continuousTaskId) =
      some (key, record))
    (erased : (s.continuousTaskInfosMap.erase key).entries = left) :
    (s.stopBackgroundRunningByTask env continuousTaskId).1 = .ok ↔
      LastCancelOk env left record := by
  have shares : ((s.onContinuousTaskChanged record .taskCancel).eraseRecord key).sharesMain
      record = true ↔ ∃ other ∈ left, other.2.mainPair = record.mainPair := by
    unfold sharesMain KeyedMap.vals
    rw [show ((s.onContinuousTaskChanged record .taskCancel).eraseRecord
      key).continuousTaskInfosMap.entries = left from erased]
    simp
  unfold stopBackgroundRunningByTask
  rw [search]
  dsimp only
  unfold cancelNotification LastCancelOk
  rw [← shares]
  by_cases absent : record.notificationId = -1
  · simp [absent]
  by_cases shared : ((s.onContinuousTaskChanged record .taskCancel).eraseRecord key).sharesMain
      record = true
  · simp [shared]
  · have called : (record.notificationId = -1 ||
        ((s.onContinuousTaskChanged record .taskCancel).eraseRecord key).sharesMain record) =
        false := by
      simp [absent, shared]
    rw [if_neg (by simp [called])]
    simp only [absent, shared, false_or]
    by_cases sub : record.subNotificationId ≠ -1 ∧ record.isByRequestObject = true
    · rw [if_pos (by simpa using sub), if_pos sub]
      simp only [Bool.false_eq_true, false_or]
      exact @tools_cancelNotification_ok env _ record.subPair
    · rw [if_neg (by simpa using sub), if_neg sub]
      simp only [Bool.false_eq_true, false_or]
      exact @tools_cancelNotification_ok env _ record.mainPair

end OneStop

/-! ## The loop -/

section Loop

variable {env : Env} {chosen : ContinuousTaskRecord → Bool}

theorem mem_entries_iff_taskAt {s : BgContinuousTaskMgr} {key : String}
    {record : ContinuousTaskRecord} :
    (⟨key, record⟩ : Σ _ : String, ContinuousTaskRecord) ∈ s.continuousTaskInfosMap.entries ↔
      s.taskAt key = some record :=
  KeyedMap.mem_entries_iff

theorem taskAt_stopBackgroundRunningByTask {s : BgContinuousTaskMgr} {continuousTaskId : Int}
    {key : String} {record : ContinuousTaskRecord}
    (found : (s.stopBackgroundRunningByTask env continuousTaskId).2.taskAt key = some record) :
    s.taskAt key = some record := by
  cases search : s.findTask (fun _ task => task.continuousTaskId == continuousTaskId) with
  | none =>
      unfold stopBackgroundRunningByTask at found
      rwa [search] at found
  | some hit =>
      unfold taskAt at found
      rw [stopBackgroundRunningByTask_map search, KeyedMap.lookup_erase] at found
      split at found
      · exact absurd found (by simp)
      · exact found

theorem taskAt_stopTasks {ids : List Int} {s : BgContinuousTaskMgr} {key : String}
    {record : ContinuousTaskRecord} (found : (stopTasks env ids s).2.taskAt key = some record) :
    s.taskAt key = some record := by
  induction ids generalizing s with
  | nil => exact found
  | cons continuousTaskId rest ih =>
      unfold stopTasks at found
      dsimp only at found
      split at found
      · exact taskAt_stopBackgroundRunningByTask found
      · exact taskAt_stopBackgroundRunningByTask (ih found)

theorem entries_erase {tasks : TaskMap} {entry : Σ _ : String, ContinuousTaskRecord}
    {earlier later : List (Σ _ : String, ContinuousTaskRecord)}
    (stored : tasks.entries = earlier ++ entry :: later) :
    (tasks.erase entry.1).entries = earlier ++ later := by
  have distinct : (entry :: (earlier ++ later)).NodupKeys :=
    List.nodupKeys_middle.mp (stored ▸ tasks.nodupKeys)
  have fresh : entry.1 ∉ earlier.keys := by
    intro member
    refine (List.nodupKeys_cons.mp distinct).1 ?_
    rw [List.keys_append]
    exact List.mem_append_left _ member
  change tasks.entries.kerase entry.1 = _
  rw [stored, List.kerase_append_right fresh, List.kerase_cons_eq rfl]

/-- Clearing is about the tasks that are not chosen, and none of them goes first. -/
theorem cleared_congr {s middle after : BgContinuousTaskMgr}
    (same : ∀ key record, chosen record = false →
      (middle.taskAt key = some record ↔ s.taskAt key = some record)) :
    Cleared chosen s after ↔ Cleared chosen middle after := by
  constructor
  · rintro ⟨ended, kept⟩
    exact ⟨ended, fun key record found other => kept key record ((same key record other).mp found)
      other⟩
  · rintro ⟨ended, kept⟩
    exact ⟨ended, fun key record found other =>
      kept key record ((same key record other).mpr found) other⟩

/-- A task that is not chosen ends in place of a later one with its id. -/
theorem not_cleared_of_earlier {s : BgContinuousTaskMgr} {continuousTaskId : Int}
    {earlier later : List (Σ _ : String, ContinuousTaskRecord)} (ids : List Int)
    (stored : s.continuousTaskInfosMap.entries =
      earlier.filter (fun entry => !chosen entry.2) ++ later)
    (taken : ∃ other ∈ earlier, other.2.continuousTaskId = continuousTaskId ∧
      chosen other.2 = false) :
    ¬ Cleared chosen s (stopTasks env (continuousTaskId :: ids) s).2 := by
  intro cleared
  obtain ⟨other, member, sameId, notChosen⟩ := taken
  have waiting : other ∈ earlier.filter (fun entry => !chosen entry.2) :=
    List.mem_filter.mpr ⟨member, by simp [notChosen]⟩
  -- the search does not get past the tasks in front
  obtain ⟨entry, hit⟩ := Option.isSome_iff_exists.mp
    ((List.find?_isSome (p := fun entry : Σ _ : String, ContinuousTaskRecord =>
      entry.2.continuousTaskId == continuousTaskId)).mpr ⟨other, waiting, by simp [sameId]⟩)
  have front := List.mem_filter.mp (List.mem_of_find?_eq_some hit)
  have search : s.findTask (fun _ task => task.continuousTaskId == continuousTaskId) =
      some (entry.1, entry.2) := by
    unfold findTask
    rw [stored, List.find?_append, hit]
    rfl
  have before : s.taskAt entry.1 = some entry.2 := (taskAt_of_findTask s entry.1 entry.2 search).1
  have left := cleared.kept entry.1 entry.2 before (by simpa using front.2)
  have still : (s.stopBackgroundRunningByTask env continuousTaskId).2.taskAt entry.1 =
      some entry.2 := by
    unfold stopTasks at left
    dsimp only at left
    split at left
    · exact left
    · exact taskAt_stopTasks left
  unfold taskAt at still
  rw [stopBackgroundRunningByTask_map search, KeyedMap.lookup_erase, if_pos rfl] at still
  exact absurd still (by simp)

structure TakesTurn (env : Env) (chosen : ContinuousTaskRecord → Bool)
    (left : List (Σ _ : String, ContinuousTaskRecord)) (record : ContinuousTaskRecord)
    (before : BgContinuousTaskMgr) (stopped : ErrCode × BgContinuousTaskMgr) : Prop where
  entries : stopped.2.continuousTaskInfosMap.entries = left
  others : ∀ key other, chosen other = false →
    (stopped.2.taskAt key = some other ↔ before.taskAt key = some other)
  ok : stopped.1 = .ok ↔ LastCancelOk env left record

theorem takesTurn_stopBackgroundRunningByTask {s : BgContinuousTaskMgr}
    {entry : Σ _ : String, ContinuousTaskRecord}
    {seen rest : List (Σ _ : String, ContinuousTaskRecord)}
    (stored : s.continuousTaskInfosMap.entries =
      seen.filter (fun entry => !chosen entry.2) ++ entry :: rest)
    (picked : chosen entry.2 = true)
    (first : ∀ other ∈ seen, other.2.continuousTaskId = entry.2.continuousTaskId →
      chosen other.2 = true) :
    TakesTurn env chosen (seen.filter (fun entry => !chosen entry.2) ++ rest) entry.2 s
      (s.stopBackgroundRunningByTask env entry.2.continuousTaskId) := by
  have search : s.findTask (fun _ task => task.continuousTaskId ==
      entry.2.continuousTaskId) = some (entry.1, entry.2) := by
    refine findTask_first stored ?_ (by simp)
    intro other member
    obtain ⟨listed, notChosen⟩ := List.mem_filter.mp member
    have different : other.2.continuousTaskId ≠ entry.2.continuousTaskId := by
      intro same
      simp [first other listed same] at notChosen
    simp [different]
  have erased := entries_erase stored
  refine ⟨?_, ?_, stopBackgroundRunningByTask_ok search erased⟩
  · rw [stopBackgroundRunningByTask_map search, erased]
  · intro key other notChosen
    refine ⟨taskAt_stopBackgroundRunningByTask, ?_⟩
    intro found
    have different : key ≠ entry.1 := by
      intro here
      have stored' := (taskAt_of_findTask s entry.1 entry.2 search).1
      rw [here] at found
      rw [Option.some.inj (stored'.symm.trans found), notChosen] at picked
      exact absurd picked (by simp)
    unfold taskAt at found ⊢
    rw [stopBackgroundRunningByTask_map search, KeyedMap.lookup_erase, if_neg different]
    exact found

/-- A loop that has come to its end has cleared the chosen tasks when none is left. -/
theorem cleared_refl_iff {s : BgContinuousTaskMgr}
    {seen rest : List (Σ _ : String, ContinuousTaskRecord)}
    (stored : s.continuousTaskInfosMap.entries =
      seen.filter (fun entry => !chosen entry.2) ++ rest) :
    Cleared chosen s s ↔ ¬ ∃ other ∈ rest, chosen other.2 = true := by
  constructor
  · rintro ⟨ended, -⟩ ⟨other, member, picked⟩
    have found : s.taskAt other.1 = some other.2 := by
      refine mem_entries_iff_taskAt.mp ?_
      rw [stored]
      exact List.mem_append_right _ member
    rw [ended other.1 other.2 found] at picked
    exact absurd picked (by simp)
  · intro none
    refine ⟨?_, fun key record found _ => found⟩
    intro key record found
    have member : (⟨key, record⟩ : Σ _ : String, ContinuousTaskRecord) ∈
        s.continuousTaskInfosMap.entries := mem_entries_iff_taskAt.mpr found
    rw [stored, List.mem_append] at member
    rcases member with earlier | later
    · simpa using (List.mem_filter.mp earlier).2
    · by_contra picked
      exact none ⟨⟨key, record⟩, later, by simpa using picked⟩

/-- The loop clears the chosen tasks exactly when each of them ends in its turn. -/
theorem cleared_stopTasks_iff (seen rest : List (Σ _ : String, ContinuousTaskRecord))
    (s : BgContinuousTaskMgr)
    (stored : s.continuousTaskInfosMap.entries =
      seen.filter (fun entry => !chosen entry.2) ++ rest) :
    Cleared chosen s (stopTasks env ((rest.filter (fun entry => chosen entry.2)).map
        (fun entry => entry.2.continuousTaskId)) s).2 ↔
      ∀ earlier entry later, rest = earlier ++ entry :: later → chosen entry.2 = true →
        EndsInTurn env chosen (seen ++ earlier) entry later := by
  induction rest generalizing seen s with
  | nil =>
      have done : Cleared chosen s s := (cleared_refl_iff stored).mpr (by simp)
      simpa [stopTasks] using done
  | cons entry rest ih =>
      rw [List.forall_split_cons]
      cases picked : chosen entry.2 with
      | false =>
          have moved : s.continuousTaskInfosMap.entries =
              (seen ++ [entry]).filter (fun entry => !chosen entry.2) ++ rest := by
            simp [stored, picked]
          have step := ih (seen ++ [entry]) s moved
          simp only [List.append_assoc, List.singleton_append] at step
          simpa [picked] using step
      | true =>
          have listed : ((entry :: rest).filter (fun entry => chosen entry.2)).map
              (fun entry => entry.2.continuousTaskId) = entry.2.continuousTaskId ::
                (rest.filter (fun entry => chosen entry.2)).map
                  (fun entry => entry.2.continuousTaskId) := by
            simp [picked]
          rw [listed]
          by_cases first : ∀ other ∈ seen, other.2.continuousTaskId = entry.2.continuousTaskId →
              chosen other.2 = true
          · have turn := @takesTurn_stopBackgroundRunningByTask env _ _ _ _ _ stored picked first
            have moved : (s.stopBackgroundRunningByTask env
                entry.2.continuousTaskId).2.continuousTaskInfosMap.entries =
                (seen ++ [entry]).filter (fun entry => !chosen entry.2) ++ rest := by
              rw [turn.entries]
              simp [picked]
            have step := ih (seen ++ [entry]) _ moved
            simp only [List.append_assoc, List.singleton_append] at step
            rw [cleared_congr turn.others]
            unfold stopTasks
            dsimp only
            by_cases ok : (s.stopBackgroundRunningByTask env entry.2.continuousTaskId).1 = .ok
            · have here : EndsInTurn env chosen seen entry rest :=
                ⟨first, fun _ => turn.ok.mp ok⟩
              rw [if_neg (by simp [ok]), step]
              simp [here]
            · rw [if_pos ok, cleared_refl_iff moved]
              constructor
              · intro none
                refine ⟨fun _ => ?_, ?_⟩
                · rw [List.append_nil]
                  exact ⟨first, fun more => absurd more none⟩
                · intro earlier other later split chosenOther
                  exact absurd ⟨other, by simp [split], chosenOther⟩ none
              · rintro ⟨here, -⟩ more
                have ends := (here rfl).2 more
                rw [List.append_nil] at ends
                exact ok (turn.ok.mpr ends)
          · have taken : ∃ other ∈ seen,
                other.2.continuousTaskId = entry.2.continuousTaskId ∧ chosen other.2 = false := by
              simpa using first
            constructor
            · intro cleared
              exact absurd cleared (not_cleared_of_earlier _ stored taken)
            · rintro ⟨here, -⟩
              refine absurd ?_ first
              simpa using (here rfl).1

end Loop

/-- A stop by ability ends every task of the ability and no other task exactly when each of
them ends in its turn. -/
theorem stopBackgroundRunningByContext_clears_iff (env : Env) (uid : Int) (abilityName : String)
    (abilityId : Int) (s : BgContinuousTaskMgr) :
    Cleared (inContext uid abilityName abilityId) s
        (s.stopBackgroundRunningByContext env uid abilityName abilityId).2 ↔
      ∀ earlier entry later, s.continuousTaskInfosMap.entries = earlier ++ entry :: later →
        inContext uid abilityName abilityId entry.2 = true →
        EndsInTurn env (inContext uid abilityName abilityId) earlier entry later := by
  have loop := @cleared_stopTasks_iff env (inContext uid abilityName abilityId) []
    s.continuousTaskInfosMap.entries s (by simp)
  simp only [List.nil_append] at loop
  unfold stopBackgroundRunningByContext KeyedMap.vals
  rw [List.filter_map, List.map_map]
  exact loop

def refusedRun : List (Env × ServiceOp) :=
  [(deviceEnv, .initRequiredResourceInfo),
    ((deviceStart 100 (requestOf [BackgroundMode.location] [2])).1,
      .task (deviceStart 100 (requestOf [BackgroundMode.location] [2])).2),
    ((deviceStart 100 (requestOf [BackgroundMode.audioRecording] [2])).1,
      .task (deviceStart 100 (requestOf [BackgroundMode.audioRecording] [2])).2)]

/-- The second task of the terminated ability is still there. -/
theorem refused_cancellation_leaves_task :
    ¬ Cleared (inContext 100 "EntryAbility" 1)
        (StepSystem.run serviceStep (installed (fun _ => 0)) refusedRun)
        ((StepSystem.run serviceStep (installed (fun _ => 0)) refusedRun).onAbilityStateChanged
          { deviceEnv with cancelOk := fun _ _ => false } 100 "EntryAbility" 1) := by
  intro cleared
  have left : ((StepSystem.run serviceStep (installed (fun _ => 0))
      refusedRun).onAbilityStateChanged { deviceEnv with cancelOk := fun _ _ => false } 100
        "EntryAbility" 1).continuousTaskInfosMap.entries.map
          (fun entry => inContext 100 "EntryAbility" 1 entry.2) = [true] := by
    decide
  obtain ⟨entry, member, context⟩ := List.mem_map.mp (left ▸ List.mem_singleton.mpr rfl)
  have outside := cleared.ended entry.1 entry.2 (mem_entries_iff_taskAt.mp member)
  rw [outside] at context
  exact absurd context (by simp)

end BgTaskMgr.Continuous
