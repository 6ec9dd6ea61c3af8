import BgTaskMgr.Continuous.Numbering

/-!
# Stops that look for other tasks behind a notification

A stop by task id, by ability or by a service that goes takes a task out of the map and
then cancels its notifications unless another task shares the main one.
-/

set_option autoImplicit false

namespace BgTaskMgr.Continuous

open BgContinuousTaskMgr

/-- Some of the `chosen` tasks ended, each with its notifications unless its main one is
shared. -/
structure Stopped (chosen : ContinuousTaskRecord → Prop) (before after : BgContinuousTaskMgr) :
    Prop where
  origin : ∀ key record, after.taskAt key = some record → before.taskAt key = some record
  only : ∀ key record, before.taskAt key = some record → after.taskAt key = none → chosen record
  shrinks : ∀ pair, after.tools.Shown pair → before.tools.Shown pair
  keepsMain : ∀ key record, after.taskAt key = some record → record.notificationId ≠ -1 →
    before.tools.Shown record.mainPair → after.tools.Shown record.mainPair
  mainGone : ∀ key record, before.taskAt key = some record → after.taskAt key = none →
    after.tools.Shown record.mainPair →
      ∃ other task, after.taskAt other = some task ∧ task.mainPair = record.mainPair
  subGone : ∀ key record, before.taskAt key = some record → after.taskAt key = none →
    record.notificationId ≠ -1 →
    (∀ other task, before.taskAt other = some task → other ≠ key →
      task.mainPair ≠ record.mainPair) → ¬ after.tools.Shown record.subPair
  hash : after.tools.hash = before.tools.hash
  notificationIdIndex : after.tools.notificationIdIndex = before.tools.notificationIdIndex

section Stopped

variable {chosen : ContinuousTaskRecord → Prop} {first second third : BgContinuousTaskMgr}

theorem Stopped.of_undisturbed (same : Undisturbed first second) : Stopped chosen first second := by
  have stays : ∀ key record, first.taskAt key = some record → second.taskAt key ≠ none := by
    intro key record found gone
    rw [same.taskAt key, found] at gone
    exact absurd gone (by simp)
  refine ⟨?_, ?_, ?_, ?_, ?_, ?_, by rw [same.tools], by rw [same.tools]⟩
  · intro key record found
    exact (same.taskAt key).symm.trans found
  · intro key record found gone
    exact absurd gone (stays key record found)
  · rw [same.tools]
    exact fun _ shown => shown
  · rw [same.tools]
    exact fun _ _ _ _ shown => shown
  · intro key record found gone
    exact absurd gone (stays key record found)
  · intro key record found gone
    exact absurd gone (stays key record found)

theorem Stopped.refl (s : BgContinuousTaskMgr) : Stopped chosen s s :=
  Stopped.of_undisturbed (Undisturbed.refl s)

theorem Stopped.trans (early : Stopped chosen first second) (late : Stopped chosen second third) :
    Stopped chosen first third := by
  -- a task that is gone at the end went in the first part, or was left by it as it was
  have gone : ∀ key record, first.taskAt key = some record →
      second.taskAt key = none ∨ second.taskAt key = some record := by
    intro key record found
    cases middle : second.taskAt key with
    | none => exact Or.inl rfl
    | some task =>
        obtain rfl := Option.some.inj (found.symm.trans (early.origin key task middle))
        exact Or.inr rfl
  refine ⟨?_, ?_, ?_, ?_, ?_, ?_, late.hash.trans early.hash,
    late.notificationIdIndex.trans early.notificationIdIndex⟩
  · intro key record found
    exact early.origin key record (late.origin key record found)
  · intro key record found ended
    rcases gone key record found with early' | middle
    · exact early.only key record found early'
    · exact late.only key record middle ended
  · intro pair shown
    exact early.shrinks pair (late.shrinks pair shown)
  · intro key record found given shown
    exact late.keepsMain key record found given
      (early.keepsMain key record (late.origin key record found) given shown)
  · intro key record found ended shown
    rcases gone key record found with early' | middle
    · obtain ⟨other, task, stored, same⟩ := early.mainGone key record found early'
        (late.shrinks _ shown)
      cases left : third.taskAt other with
      | none =>
          obtain ⟨other', task', stored', same'⟩ := late.mainGone other task stored left
            (same ▸ shown)
          exact ⟨other', task', stored', same'.trans same⟩
      | some task' =>
          obtain rfl := Option.some.inj (stored.symm.trans (late.origin other task' left))
          exact ⟨other, task, left, same⟩
    · exact late.mainGone key record middle ended shown
  · intro key record found ended given alone shown
    rcases gone key record found with early' | middle
    · exact early.subGone key record found early' given alone (late.shrinks _ shown)
    · refine late.subGone key record middle ended given ?_ shown
      intro other task stored different
      exact alone other task (early.origin other task stored) different

theorem Numbered.stopped (numbered : Numbered first) (stopped : Stopped chosen first second) :
    Numbered second := by
  refine ⟨?_, stopped.notificationIdIndex ▸ numbered.counter, ?_⟩
  · intro key record found
    exact (numbered.labelled key record (stopped.origin key record found)).mono stopped.hash
      (le_of_eq stopped.notificationIdIndex.symm)
  · intro pair shown
    exact numbered.shownIds pair (stopped.shrinks pair shown)

end Stopped

/-! ## One task -/

section Operations

variable {chosen : ContinuousTaskRecord → Prop} {s erased : BgContinuousTaskMgr} {env : Env}
  {key : String} {record : ContinuousTaskRecord}

theorem sharesMain_iff (record : ContinuousTaskRecord) : s.sharesMain record = true ↔
    ∃ key task, s.taskAt key = some task ∧ task.mainPair = record.mainPair := by
  unfold sharesMain
  rw [List.any_eq_true]
  constructor
  · rintro ⟨task, listed, same⟩
    obtain ⟨key, found⟩ := KeyedMap.mem_vals.mp listed
    exact ⟨key, task, found, by simpa using same⟩
  · rintro ⟨key, task, found, same⟩
    exact ⟨task, KeyedMap.mem_vals.mpr ⟨key, found⟩, by simpa using same⟩

theorem tools_cancelNotification (s : BgContinuousTaskMgr) (env : Env)
    (record : ContinuousTaskRecord) :
    (record.notificationId = -1 ∨ s.sharesMain record = true) ∧
        (s.cancelNotification env record).2.tools = s.tools ∨
      (record.notificationId ≠ -1 ∧ s.sharesMain record = false) ∧
        (s.cancelNotification env record).2.tools =
          (s.cancelMainAndSub env record).tools := by
  unfold cancelNotification
  by_cases kept : record.notificationId = -1 ∨ s.sharesMain record = true
  · refine Or.inl ⟨kept, ?_⟩
    rw [if_pos (by simpa using kept)]
  · refine Or.inr ⟨by simpa using kept, ?_⟩
    rw [if_neg (by simpa using kept)]
    dsimp only
    unfold cancelMainAndSub cancelSubPair
    split
    · rfl
    · rfl

/-- A task is taken out of the map and its notifications are cancelled unless the main one
is shared. -/
theorem stopped_cancelNotification (succeeds : ∀ label id, env.cancelOk label id = true)
    (numbered : Numbered s) (found : s.taskAt key = some record) (choice : chosen record)
    (tasks : ∀ other, erased.taskAt other = if other = key then none else s.taskAt other)
    (tools : erased.tools = s.tools) :
    Stopped chosen s (erased.cancelNotification env record).2 := by
  have left : ∀ other, (erased.cancelNotification env record).2.taskAt other =
      if other = key then none else s.taskAt other := by
    intro other
    rw [(quiet_cancelNotification erased env record).taskAt, tasks]
  have origin : ∀ other task, (erased.cancelNotification env record).2.taskAt other = some task →
      other ≠ key ∧ s.taskAt other = some task := by
    intro other task stored
    rw [left] at stored
    split at stored
    · exact absurd stored (by simp)
    · rename_i away
      exact ⟨away, stored⟩
  have isKey : ∀ other task, s.taskAt other = some task →
      (erased.cancelNotification env record).2.taskAt other = none → other = key ∧ task = record := by
    intro other task stored gone
    rw [left] at gone
    split at gone
    · rename_i here
      refine ⟨here, ?_⟩
      rw [here] at stored
      exact Option.some.inj (stored.symm.trans found)
    · exact absurd (gone.symm.trans stored) (by simp)
  have own := numbered.labelled key record found
  have cancels := cancels_cancelMainAndSub succeeds record
  rcases tools_cancelNotification erased env record with
    ⟨kept, same⟩ | ⟨⟨given, alone⟩, cancelled⟩
  · rw [tools] at same
    refine ⟨fun other task stored => (origin other task stored).2, ?_, ?_, ?_, ?_, ?_,
      by rw [same], by rw [same]⟩
    · intro other task stored gone
      rw [(isKey other task stored gone).2]
      exact choice
    · rw [same]
      exact fun _ shown => shown
    · rw [same]
      exact fun _ _ _ _ shown => shown
    · intro other task stored gone shown
      obtain ⟨-, rfl⟩ := isKey other task stored gone
      rw [same] at shown
      rcases kept with none | shared
      · exact absurd none (numbered.shownIds _ shown)
      · obtain ⟨other', task', stored', equal⟩ := (sharesMain_iff task).mp shared
        refine ⟨other', task', ?_, equal⟩
        rwa [left, ← tasks]
    · intro other task stored gone given unshared
      obtain ⟨rfl, rfl⟩ := isKey other task stored gone
      rcases kept with none | shared
      · exact absurd none given
      · obtain ⟨other', task', stored', equal⟩ := (sharesMain_iff task).mp shared
        rw [tasks] at stored'
        split at stored'
        · exact absurd stored' (by simp)
        · rename_i away
          exact absurd equal (unshared other' task' stored' away)
  · have shown : ∀ pair, (erased.cancelNotification env record).2.tools.Shown pair ↔
        s.tools.Shown pair ∧ pair ∉ record.mainPair :: subPairs record := by
      intro pair
      rw [cancelled, cancels.shown, tools]
    refine ⟨fun other task stored => (origin other task stored).2, ?_, ?_, ?_, ?_, ?_, ?_, ?_⟩
    · intro other task stored gone
      rw [(isKey other task stored gone).2]
      exact choice
    · intro pair isShown
      exact ((shown pair).mp isShown).1
    · intro other task stored otherGiven isShown
      refine (shown _).mpr ⟨isShown, ?_⟩
      obtain ⟨away, before⟩ := origin other task stored
      rw [List.mem_cons, not_or]
      constructor
      · intro same
        have shared : erased.sharesMain record = true :=
          (sharesMain_iff record).mpr ⟨other, task, by rw [tasks, if_neg away, before], same⟩
        exact absurd (alone.symm.trans shared) (by simp)
      · exact (numbered.labelled other task before).mainPair_notMem_subPairs otherGiven own
    · intro other task stored gone isShown
      obtain ⟨-, rfl⟩ := isKey other task stored gone
      exact absurd List.mem_cons_self ((shown _).mp isShown).2
    · intro other task stored gone _ _ isShown
      obtain ⟨-, rfl⟩ := isKey other task stored gone
      have isSub : task.subNotificationId ≠ -1 := by
        intro none
        exact numbered.shownIds _ ((shown _).mp isShown).1 none
      have listed : task.subPair ∈ subPairs task := by
        unfold subPairs
        rw [if_pos (by simp [isSub, (own.sub isSub).1])]
        exact List.mem_singleton.mpr rfl
      exact ((shown _).mp isShown).2 (List.mem_cons_of_mem _ listed)
    · rw [cancelled, cancels.hash, tools]
    · rw [cancelled, cancels.notificationIdIndex, tools]

theorem stopped_stopBackgroundRunningByTask
    (succeeds : ∀ label id, env.cancelOk label id = true) (numbered : Numbered s)
    (continuousTaskId : Int) :
    Stopped (fun record => record.continuousTaskId = continuousTaskId) s
      (s.stopBackgroundRunningByTask env continuousTaskId).2 := by
  unfold stopBackgroundRunningByTask
  split
  · exact Stopped.refl s
  · rename_i key record search
    obtain ⟨found, matched⟩ := taskAt_of_findTask s key record search
    have ended : Stopped (fun record => record.continuousTaskId = continuousTaskId) s
        (((s.onContinuousTaskChanged record .taskCancel).eraseRecord key).cancelNotification env
          record).2 :=
      stopped_cancelNotification succeeds numbered found (by simpa using matched)
        (fun other => taskAt_eraseRecord (s.onContinuousTaskChanged record .taskCancel) key other)
        rfl
    exact ended.trans (Stopped.of_undisturbed (undisturbed_stopAndSave _ env record))

theorem Stopped.mono {narrow : ContinuousTaskRecord → Prop} {after : BgContinuousTaskMgr}
    (stopped : Stopped narrow s after) (wider : ∀ record, narrow record → chosen record) :
    Stopped chosen s after :=
  { stopped with
    only := fun key record found gone => wider record (stopped.only key record found gone) }

theorem stopped_stopTasks (succeeds : ∀ label id, env.cancelOk label id = true)
    (numbered : Numbered s) (ids : List Int) :
    Stopped (fun record => record.continuousTaskId ∈ ids) s (stopTasks env ids s).2 := by
  induction ids generalizing s with
  | nil => exact Stopped.refl s
  | cons continuousTaskId rest ih =>
      have head := stopped_stopBackgroundRunningByTask succeeds numbered continuousTaskId
      have first : Stopped (fun record => record.continuousTaskId ∈ continuousTaskId :: rest) s
          (s.stopBackgroundRunningByTask env continuousTaskId).2 :=
        head.mono (fun record same => by simp [same])
      unfold stopTasks
      dsimp only
      split
      · exact first
      · exact first.trans ((ih (numbered.stopped head)).mono
          (fun record later => List.mem_cons_of_mem _ later))

/-- The tasks that a stop by ability can end: those with the id of a task in the ability. -/
def InAbility (uid : Int) (abilityName : String) (abilityId : Int) (s : BgContinuousTaskMgr)
    (record : ContinuousTaskRecord) : Prop :=
  ∃ key task, s.taskAt key = some task ∧ inContext uid abilityName abilityId task = true ∧
    task.continuousTaskId = record.continuousTaskId

theorem stopped_stopBackgroundRunningByContext
    (succeeds : ∀ label id, env.cancelOk label id = true) (numbered : Numbered s) (uid : Int)
    (abilityName : String) (abilityId : Int) :
    Stopped (InAbility uid abilityName abilityId s) s
      (s.stopBackgroundRunningByContext env uid abilityName abilityId).2 := by
  refine (stopped_stopTasks succeeds numbered _).mono ?_
  intro record listed
  obtain ⟨task, kept, same⟩ := List.mem_map.mp listed
  obtain ⟨stored, context⟩ := List.mem_filter.mp kept
  obtain ⟨key, found⟩ := KeyedMap.mem_vals.mp stored
  exact ⟨key, task, found, context, same⟩

def StoppedBy (uid : Int) (abilityName : String) (abilityId continuousTaskId : Int)
    (s : BgContinuousTaskMgr) (record : ContinuousTaskRecord) : Prop :=
  if continuousTaskId ≠ -1 then record.continuousTaskId = continuousTaskId
  else InAbility uid abilityName abilityId s record

theorem stopped_stopBackgroundRunningInner
    (succeeds : ∀ label id, env.cancelOk label id = true) (numbered : Numbered s) (uid : Int)
    (abilityName : String) (abilityId continuousTaskId : Int) :
    Stopped (StoppedBy uid abilityName abilityId continuousTaskId s) s
      (s.stopBackgroundRunningInner env uid abilityName abilityId continuousTaskId).2 := by
  unfold stopBackgroundRunningInner
  split
  · rename_i given
    split
    · exact Stopped.refl s
    · refine (stopped_stopBackgroundRunningByTask succeeds numbered continuousTaskId).mono ?_
      intro record same
      unfold StoppedBy
      rwa [if_pos given]
  · rename_i absent
    split
    · exact Stopped.refl s
    · refine (stopped_stopBackgroundRunningByContext succeeds numbered uid abilityName
        abilityId).mono ?_
      intro record inAbility
      unfold StoppedBy
      rwa [if_neg absent]

def servedBy (mode : Nat) (record : ContinuousTaskRecord) : Bool :=
  record.isFromWebview && checkExistMode record.bgModeIds mode

theorem stopped_handleRemoveTaskByMode (succeeds : ∀ label id, env.cancelOk label id = true)
    (numbered : Numbered s) (mode : Nat) :
    Stopped (fun record => servedBy mode record = true) s (s.handleRemoveTaskByMode env mode) := by
  have step : ∀ key record current, current.taskAt key = some record →
      Stopped (fun record => servedBy mode record = true) s current →
      Stopped (fun record => servedBy mode record = true) s
        (if record.isFromWebview && checkExistMode record.bgModeIds mode then
          (((current.endTask markSystemCancel (fun _ same => same) key record).stopAndSave env
            record).cancelNotification env record).2
        else current) := by
    intro key record current found early
    split
    · rename_i choice
      have same := undisturbed_stopAndSave
        (current.endTask markSystemCancel (fun _ same => same) key record) env record
      refine early.trans (stopped_cancelNotification succeeds (numbered.stopped early) found choice
        ?_ ?_)
      · intro other
        rw [same.taskAt]
        exact taskAt_eraseRecord (current.onContinuousTaskChanged (markSystemCancel record)
          .taskCancel) key other
      · rw [same.tools]
        rfl
    · exact early
  exact KeyedMap.forEach_invariant step s (Stopped.refl s)

end Operations

end BgTaskMgr.Continuous
