import BgTaskMgr.Continuous.Reactivation
import BgTaskMgr.Continuous.Resending

/-!
# The end of an AVSession

When AVSession no longer shows an app, the manager looks for one task of the app and sends or
refreshes the notification of that task alone.
-/

set_option autoImplicit false

namespace BgTaskMgr.Continuous

open BgContinuousTaskMgr

structure OnlyPlays (record : ContinuousTaskRecord) : Prop where
  modes : record.bgModeIds = [BackgroundMode.audioPlayback]
  subModes : checkExistMode record.bgSubModeIds
    BackgroundTaskSubmode.submodeAvsessionAudioPlayback = false

/-- A task of the app that should have a notification of its own when AVSession does not show
it. -/
structure OwedNotification (env : Env) (uid : Int) (s : BgContinuousTaskMgr)
    (record : ContinuousTaskRecord) : Prop extends OnlyPlays record where
  owner : record.uid = uid
  active : record.suspendState = false
  text : ((withoutAvsession uid s).checkNotificationText env record).text ≠ ""

def AllNotified (env : Env) (uid : Int) (before after : BgContinuousTaskMgr) : Prop :=
  ∀ key record, before.taskAt key = some record → OwedNotification env uid before record →
    ∃ task, after.taskAt key = some task ∧ after.tools.Shown task.mainPair

structure SentFirst (env : Env) (uid : Int) (s : BgContinuousTaskMgr)
    (first : ContinuousTaskRecord) : Prop extends OnlyPlays first where
  texts : s.texts.continuousTaskText ≠ []
  appName : s.cachedAppName first.uid ≠ ""
  text : ((withoutAvsession uid s).checkNotificationText env first).text ≠ ""

structure WithdrawnFirst (env : Env) (uid : Int) (s : BgContinuousTaskMgr)
    (first : ContinuousTaskRecord) : Prop where
  modes : first.bgModeIds ≠ [BackgroundMode.audioPlayback]
  noTransfer : checkExistMode first.bgModeIds BackgroundMode.dataTransfer = false
  subModes : checkExistMode first.bgSubModeIds
    BackgroundTaskSubmode.submodeAvsessionAudioPlayback = false
  text : ((withoutAvsession uid s).checkNotificationText env first).text = ""
  accepted : env.cancelOk first.notificationLabel first.notificationId = true

/-- A task is served by what happens to the first one: it is that task and is sent, it shares
what is published for that task, or it was shown and that task does not take the notification
along. -/
def ServedByFirst (env : Env) (uid : Int) (s : BgContinuousTaskMgr)
    (first : String × ContinuousTaskRecord) (key : String) (record : ContinuousTaskRecord) : Prop :=
  (SentFirst env uid s first.2 ∧
    (key = first.1 ∨ record.mainPair = ownPair s.tools first.2)) ∨
  (s.tools.Shown record.mainPair ∧
    ¬ (WithdrawnFirst env uid s first.2 ∧ record.mainPair = first.2.mainPair))

section Prompt

variable {env : Env} {uid : Int} {s : BgContinuousTaskMgr} {record first : ContinuousTaskRecord}

/-- Without AVSession the text of a task that only plays is that of its one mode. -/
theorem checkNotificationText_of_onlyPlays (plays : OnlyPlays record) (owner : record.uid = uid) :
    (withoutAvsession uid s).checkNotificationText env record =
      (withoutAvsession uid s).singleModeNotificationText env BackgroundMode.audioPlayback ""
        record := by
  have silent : (withoutAvsession uid s).isPublishAvsession record.uid record.bgSubModeIds
      record.isByRequestObject = false := by
    unfold isPublishAvsession withoutAvsession
    rw [owner, AList.lookup_insert, plays.subModes]
    rfl
  have noLiveView : (withoutAvsession uid s).checkLiveViewInfo record = false := by
    simp [checkLiveViewInfo, checkLiveViewInfoModes, checkExistMode, plays.modes,
      BackgroundMode.location, BackgroundMode.audioPlayback]
  have noSpecial : checkExistMode record.bgModeIds BackgroundMode.specialScenarioProcessing =
      false := by
    rw [plays.modes]
    rfl
  have noCarKey : isCarKey record = false := by
    simp [isCarKey, checkExistMode, plays.modes, BackgroundMode.bluetoothInteraction,
      BackgroundMode.audioPlayback]
  have left : (withoutAvsession uid s).filterNotificationMode record =
      [BackgroundMode.audioPlayback] := by
    unfold filterNotificationMode
    dsimp only
    rw [noCarKey]
    simp only [Bool.false_eq_true, if_false]
    rw [silent, plays.modes]
    rfl
  unfold checkNotificationText
  rw [noLiveView, noSpecial, noCarKey]
  simp only [Bool.false_eq_true, if_false]
  unfold modesNotificationText
  rw [left]

theorem singleModeNotificationText_ret
    (text : (s.singleModeNotificationText env BackgroundMode.audioPlayback "" record).text ≠ "") :
    (s.singleModeNotificationText env BackgroundMode.audioPlayback "" record).ret = .ok := by
  unfold singleModeNotificationText at text ⊢
  dsimp only at text ⊢
  split
  · rfl
  · rename_i noStart
    rw [noStart] at text
    dsimp only at text
    split
    · rfl
    · rename_i noText
      rw [noText] at text
      exact absurd rfl text

/-- A text that is there and empty is that of every task of the app that only plays. -/
theorem singleModeNotificationText_empty (same : record.uid = first.uid)
    (plays : OnlyPlays record) (firstPlays : OnlyPlays first)
    (ret : (s.singleModeNotificationText env BackgroundMode.audioPlayback "" first).ret = .ok)
    (text : (s.singleModeNotificationText env BackgroundMode.audioPlayback "" first).text = "") :
    (s.singleModeNotificationText env BackgroundMode.audioPlayback "" record).text = "" := by
  have waits : (!checkExistMode record.bgModeIds BackgroundMode.bluetoothInteraction &&
      BackgroundMode.audioPlayback == BackgroundMode.audioPlayback &&
        !env.appIsPlaying record.uid) =
      (!checkExistMode first.bgModeIds BackgroundMode.bluetoothInteraction &&
        BackgroundMode.audioPlayback == BackgroundMode.audioPlayback &&
          !env.appIsPlaying first.uid) := by
    rw [plays.modes, firstPlays.modes, same]
  unfold singleModeNotificationText at ret text ⊢
  dsimp only at ret text ⊢
  rw [waits]
  split
  · rename_i started
    rw [started] at text
    exact text
  · rename_i noStart
    rw [noStart] at ret text
    dsimp only at ret text
    -- a text of the mode ends a line
    split at text
    · simp at text
    · rename_i noText
      rw [noText] at ret
      exact absurd ret (by simp)

end Prompt

/-! ## The first task -/

section First

variable {env : Env} {uid : Int} {s : BgContinuousTaskMgr} {first : ContinuousTaskRecord}

inductive FirstSent (env : Env) (uid : Int) (s : BgContinuousTaskMgr)
    (first : ContinuousTaskRecord) (sent : Sent) : Prop where
  | published (sends : SentFirst env uid s first)
      (pair : sent.record.mainPair = ownPair s.tools first)
      (shown : ∀ pair, sent.tools.Shown pair ↔
        s.tools.Shown pair ∨ pair = ownPair s.tools first)
  | kept (silent : ¬ SentFirst env uid s first) (pair : sent.record.mainPair = first.mainPair)
      (tools : sent.tools = s.tools)
  | cleared (empty : ∀ record : ContinuousTaskRecord, ¬ OwedNotification env uid s record)

theorem firstSent_sendContinuousTaskNotification
    (publishes : ∀ label id, env.publishOk label id = true) (plays : OnlyPlays first)
    (owner : first.uid = uid) :
    FirstSent env uid s first
      ((withoutAvsession uid s).sendContinuousTaskNotification env first) := by
  have prompt := @checkNotificationText_of_onlyPlays env _ s _ plays owner
  unfold sendContinuousTaskNotification
  dsimp only
  split
  · rename_i missing
    exact .kept (fun sends => sends.texts missing) rfl rfl
  rename_i texts
  split
  · rename_i nameless
    exact .kept (fun sends => sends.appName nameless) rfl rfl
  rename_i named
  split
  · rename_i failed
    refine .kept (fun sends => failed ?_) (mainPair_note _) rfl
    have text := sends.text
    rw [prompt] at text ⊢
    exact singleModeNotificationText_ret text
  rename_i ok
  split
  · rename_i empty
    refine .cleared ?_
    rw [prompt] at ok empty
    intro record owed
    have text := owed.text
    rw [checkNotificationText_of_onlyPlays owed.toOnlyPlays owed.owner] at text
    exact text (singleModeNotificationText_empty (owed.owner.trans owner.symm) owed.toOnlyPlays
      plays (not_not.mp ok) empty)
  rename_i filled
  split
  · rename_i shown
    have silent : (withoutAvsession uid s).isPublishAvsession first.uid first.bgSubModeIds
        first.isByRequestObject = false := by
      unfold isPublishAvsession withoutAvsession
      rw [owner, AList.lookup_insert, plays.subModes]
      rfl
    unfold shownByAvsession at shown
    rw [silent, Bool.and_false] at shown
    exact absurd shown (by simp)
  · unfold NotificationTools.publishNotification
    dsimp only
    rw [if_pos (publishes _ _), createNotificationLabel_note, notificationId_note]
    refine .published ⟨plays, texts, named, filled⟩ rfl ?_
    intro pair
    rw [NotificationTools.shown_display, NotificationTools.shown_takeId]
    rfl

inductive FirstServed (env : Env) (uid : Int) (s : BgContinuousTaskMgr) (key : String)
    (first : ContinuousTaskRecord) (after : BgContinuousTaskMgr) : Prop where
  | sent {sent : Sent} (plays : OnlyPlays first) (outcome : FirstSent env uid s first sent)
      (taskAt : ∀ other, after.taskAt other = if other = key then some sent.record
        else s.taskAt other)
      (tools : after.tools = sent.tools)
  | withdrawn (withdrawn : WithdrawnFirst env uid s first)
      (taskAt : ∀ other, other ≠ key → after.taskAt other = s.taskAt other)
      (shown : ∀ pair, after.tools.Shown pair ↔ s.tools.Shown pair ∧ pair ≠ first.mainPair)
  | kept (other : ¬ OnlyPlays first) (standing : ¬ WithdrawnFirst env uid s first)
      (taskAt : ∀ other, other ≠ key → after.taskAt other = s.taskAt other)
      (shown : ∀ pair, after.tools.Shown pair ↔ s.tools.Shown pair)

theorem firstServed_avSessionNotifyTask {key : String}
    (publishes : ∀ label id, env.publishOk label id = true) (owner : first.uid = uid)
    (detected : first.audioDetectState = true) (found : s.taskAt key = some first) :
    FirstServed env uid s key first
      ((withoutAvsession uid s).avSessionNotifyTask env false key first).2 := by
  unfold avSessionNotifyTask
  rw [if_neg (by simp [detected])]
  simp only [Bool.not_false, Bool.true_and]
  split
  · rename_i av
    exact .kept (fun plays => absurd plays.subModes (by simp [av]))
      (fun withdrawn => absurd withdrawn.subModes (by simp [av])) (fun _ _ => rfl)
      (fun _ => Iff.rfl)
  rename_i noAv
  have subModes : checkExistMode first.bgSubModeIds
      BackgroundTaskSubmode.submodeAvsessionAudioPlayback = false := by
    simpa using noAv
  split
  · rename_i only
    have plays : OnlyPlays first := ⟨by simpa using only, subModes⟩
    refine .sent plays (firstSent_sendContinuousTaskNotification publishes plays owner) ?_ ?_
    · intro other
      rw [(undisturbed_saveTasks _ env).taskAt]
      exact (@replaced_setRecord ((withoutAvsession uid s).setTools _) _ _ _ found).taskAt other
    · rw [(undisturbed_saveTasks _ env).tools]
      rfl
  rename_i modes
  have differ : first.bgModeIds ≠ [BackgroundMode.audioPlayback] := by simpa using modes
  split
  · rename_i noTransfer
    unfold refreshForAvsession
    dsimp only
    split
    · rename_i empty
      unfold NotificationTools.cancelNotification
      split
      · rename_i accepted
        refine .withdrawn ⟨differ, by simpa using noTransfer, subModes, empty, accepted⟩ ?_ ?_
        · intro other different
          rw [(undisturbed_saveTasks _ env).taskAt]
          exact taskAt_setRecord_ne _ key other _ different
        · intro pair
          rw [(undisturbed_saveTasks _ env).tools]
          exact NotificationTools.shown_withdraw _ _ _
      · rename_i refused
        refine .kept (fun plays => differ plays.modes) (fun withdrawn => refused withdrawn.accepted)
          ?_ ?_
        · intro other different
          rw [(undisturbed_saveTasks _ env).taskAt]
          exact taskAt_setRecord_ne _ key other _ different
        · intro pair
          rw [(undisturbed_saveTasks _ env).tools]
          rfl
    · rename_i filled
      refine .kept (fun plays => differ plays.modes) (fun withdrawn => filled withdrawn.text) ?_ ?_
      · intro other different
        rw [(undisturbed_saveTasks _ env).taskAt]
        exact taskAt_setRecord_ne _ key other _ different
      · intro pair
        rw [(undisturbed_saveTasks _ env).tools]
        exact shown_refreshContinuousNotifications s.tools env.toNotificationEnv _ pair
  · rename_i transfer
    refine .kept (fun plays => differ plays.modes) ?_ (fun _ _ => rfl) (fun _ => Iff.rfl)
    intro withdrawn
    rw [withdrawn.noTransfer] at transfer
    exact transfer rfl

end First

/-! ## Every task of the app -/

section Every

variable {env : Env} {uid : Int} {s : BgContinuousTaskMgr}

theorem notified_iff_of_firstServed {key firstKey : String} {record first : ContinuousTaskRecord}
    {after : BgContinuousTaskMgr} (found : s.taskAt key = some record)
    (foundFirst : s.taskAt firstKey = some first) (owed : OwedNotification env uid s record)
    (served : FirstServed env uid s firstKey first after) :
    (∃ task, after.taskAt key = some task ∧ after.tools.Shown task.mainPair) ↔
      ServedByFirst env uid s (firstKey, first) key record := by
  have itself : key = firstKey → record = first := by
    rintro rfl
    exact Option.some.inj (found.symm.trans foundFirst)
  -- a record that is stored as it was
  have stays : after.taskAt key = some record →
      ((∃ task, after.taskAt key = some task ∧ after.tools.Shown task.mainPair) ↔
        after.tools.Shown record.mainPair) := by
    intro same
    rw [same]
    simp
  unfold ServedByFirst
  cases served with
  | @sent sent plays outcome taskAt tools =>
      have standing : ¬ WithdrawnFirst env uid s first :=
        fun withdrawn => withdrawn.modes plays.modes
      simp only [standing, false_and, not_false_eq_true, and_true]
      cases outcome with
      | published sends pair shown =>
          simp only [sends, true_and]
          by_cases here : key = firstKey
          · have own : after.taskAt key = some sent.record := by rw [taskAt, if_pos here]
            simp only [here, true_or, iff_true]
            exact ⟨sent.record, here ▸ own, by rw [tools, shown, pair]; exact Or.inr rfl⟩
          · rw [stays (by rw [taskAt, if_neg here, found]), tools, shown]
            simp [here, or_comm]
      | kept silent pair same =>
          simp only [silent, false_and, false_or]
          by_cases here : key = firstKey
          · have own : after.taskAt key = some sent.record := by rw [taskAt, if_pos here]
            rw [own, itself here, ← pair, tools, same]
            simp
          · rw [stays (by rw [taskAt, if_neg here, found]), tools, same]
      | cleared empty => exact absurd owed (empty record)
  | withdrawn withdrawn taskAt shown =>
      have notSent : ¬ SentFirst env uid s first := fun sends => withdrawn.modes sends.modes
      have different : key ≠ firstKey := by
        intro here
        exact withdrawn.modes (itself here ▸ owed.modes)
      rw [stays ((taskAt key different).trans found), shown]
      simp [notSent, withdrawn]
  | kept other standing taskAt shown =>
      have notSent : ¬ SentFirst env uid s first := fun sends => other sends.toOnlyPlays
      have different : key ≠ firstKey := by
        intro here
        exact other (itself here ▸ owed.toOnlyPlays)
      rw [stays ((taskAt key different).trans found), shown]
      simp [notSent, standing]

theorem taskAt_removeAudioPlaybackDelayTask (key : String) :
    (s.removeAudioPlaybackDelayTask uid).taskAt key = s.taskAt key := by
  unfold removeAudioPlaybackDelayTask
  split
  · rfl
  · rfl

theorem tools_removeAudioPlaybackDelayTask :
    (s.removeAudioPlaybackDelayTask uid).tools = s.tools := by
  unfold removeAudioPlaybackDelayTask
  split
  · rfl
  · rfl

end Every

/-- When an AVSession ends, every task of the app that should have a notification has one
exactly when each of them is served by the first task that the search yields. -/
theorem avSession_notifies_all_iff (env : Env) (uid : Int) (s : BgContinuousTaskMgr)
    (detected : ∀ key record, s.taskAt key = some record → record.uid = uid →
      record.audioDetectState = true)
    (publishes : ∀ label id, env.publishOk label id = true) :
    AllNotified env uid s (s.avSessionNotifyUpdateNotificationInner env uid false).2 ↔
      ∀ first ∈ s.findTask (fun _ task => task.uid == uid),
        ∀ key record, s.taskAt key = some record → OwedNotification env uid s record →
          ServedByFirst env uid s first key record := by
  have search : (withoutAvsession uid s).findTask (fun _ task => task.uid == uid) =
      s.findTask (fun _ task => task.uid == uid) := rfl
  unfold avSessionNotifyUpdateNotificationInner AllNotified
  dsimp only
  rw [if_neg (by simp)]
  rw [show ({ s with avSessionNotification := s.avSessionNotification.insert uid false } :
    BgContinuousTaskMgr) = withoutAvsession uid s from rfl, search]
  cases first : s.findTask (fun _ task => task.uid == uid) with
  | none =>
      constructor
      · intro _ first member
        exact absurd member (by simp)
      · intro _ key record found owed
        have other := findTask_eq_none s key record first found
        simp [owed.owner] at other
  | some entry =>
      obtain ⟨firstKey, first'⟩ := entry
      obtain ⟨foundFirst, matched⟩ := taskAt_of_findTask s firstKey first' first
      have owner : first'.uid = uid := by simpa using matched
      have served := @firstServed_avSessionNotifyTask env _ _ _ _ publishes owner
        (detected firstKey first' foundFirst owner) foundFirst
      simp only [Option.mem_some_iff, forall_eq', taskAt_removeAudioPlaybackDelayTask,
        tools_removeAudioPlaybackDelayTask]
      constructor
      · intro all key record found owed
        exact (notified_iff_of_firstServed found foundFirst owed served).mp
          (all key record found owed)
      · intro each key record found owed
        exact (notified_iff_of_firstServed found foundFirst owed served).mpr
          (each key record found owed)

def playingRun (later : List (List Nat)) : List (Env × ServiceOp) :=
  [(deviceEnv, .initRequiredResourceInfo),
    (deviceEnv, .task (.avSessionNotifyUpdateNotification avsessionSaUid 100 7 true))] ++
    (([BackgroundMode.audioPlayback] :: later).map (fun modes =>
      ((deviceStart 100 (requestOf modes [2])).1,
        .task (deviceStart 100 (requestOf modes [2])).2)))

def playing (later : List (List Nat)) : BgContinuousTaskMgr :=
  StepSystem.run serviceStep (installed (fun _ => 0)) (playingRun later)

/-- The app also tracks the location, another app plays too, and the search yields the task
that plays first. -/
def playingFirst : BgContinuousTaskMgr :=
  (StepSystem.run serviceStep (playing [[BackgroundMode.location]])
    [((deviceStart 200 (requestOf [BackgroundMode.audioPlayback] [2])).1,
      .task (deviceStart 200 (requestOf [BackgroundMode.audioPlayback] [2])).2)]).rehash
    (fun key => if key = "100_EntryAbility_1_1" then 0 else 1)

theorem avSession_notifies_playing_task :
    playingFirst.continuousTaskInfosMap.entries.length = 3 ∧
      AllNotified deviceEnv 100 playingFirst
        (playingFirst.avSessionNotifyUpdateNotificationInner deviceEnv 100 false).2 := by
  refine ⟨by decide, (avSession_notifies_all_iff deviceEnv 100 playingFirst ?_
    (fun _ _ => rfl)).mpr ?_⟩
  · intro key record found _
    exact @of_all_entries playingFirst key record (fun _ task => task.audioDetectState) (by decide)
      found
  intro first member key record found owed
  have search : (playingFirst.findTask (fun _ task => task.uid == 100)).map (fun entry => entry.1) =
      some "100_EntryAbility_1_1" := by
    decide
  rw [Option.mem_def.mp member] at search
  have firstKey : first.1 = "100_EntryAbility_1_1" := Option.some.inj search
  have alone := @of_all_entries playingFirst key record (fun key task => decide (task.uid = 100 →
    task.bgModeIds = [BackgroundMode.audioPlayback] → key = "100_EntryAbility_1_1")) (by decide)
    found
  have same : key = first.1 :=
    (of_decide_eq_true alone owed.owner owed.modes).trans firstKey.symm
  have stored := (taskAt_of_findTask _ first.1 first.2 member).1
  have itself : record = first.2 := Option.some.inj (found.symm.trans (same ▸ stored))
  refine Or.inl ⟨⟨itself ▸ owed.toOnlyPlays, by decide, ?_, itself ▸ owed.text⟩, Or.inl same⟩
  rw [← itself, owed.owner]
  decide

/-- The search yields the task that tracks the location, so the one that plays stays without
a notification. -/
theorem later_task_hides_playing_one :
    (playing [[BackgroundMode.location]]).continuousTaskInfosMap.entries.all
        (fun entry => entry.2.audioDetectState) = true ∧
      ¬ AllNotified deviceEnv 100 (playing [[BackgroundMode.location]])
        ((playing [[BackgroundMode.location]]).avSessionNotifyUpdateNotificationInner deviceEnv 100
          false).2 := by
  refine ⟨by decide, ?_⟩
  intro all
  obtain ⟨record, found⟩ := Option.isSome_iff_exists.mp
    (show ((playing [[BackgroundMode.location]]).taskAt "100_EntryAbility_1_1").isSome = true by
      decide)
  have fields : ((playing [[BackgroundMode.location]]).taskAt "100_EntryAbility_1_1").map
      (fun task => (task.uid, task.suspendState, task.bgModeIds, task.bgSubModeIds,
        decide (((withoutAvsession 100 (playing [[BackgroundMode.location]])).checkNotificationText
          deviceEnv task).text = ""))) =
      some (100, false, [BackgroundMode.audioPlayback], [2], false) := by
    decide
  rw [found] at fields
  simp only [Option.map_some, Option.some.injEq, Prod.mk.injEq, decide_eq_false_iff_not] at fields
  obtain ⟨owner, active, modes, subModes, text⟩ := fields
  have owed : OwedNotification deviceEnv 100 (playing [[BackgroundMode.location]]) record :=
    ⟨⟨modes, by rw [subModes]; decide⟩, owner, active, text⟩
  obtain ⟨task, after, shown⟩ := all "100_EntryAbility_1_1" record found owed
  have hidden : (((playing [[BackgroundMode.location]]).avSessionNotifyUpdateNotificationInner
      deviceEnv 100 false).2.taskAt "100_EntryAbility_1_1").map (fun task =>
        decide ((((playing [[BackgroundMode.location]]).avSessionNotifyUpdateNotificationInner
          deviceEnv 100 false).2.tools).Shown task.mainPair)) = some false := by
    decide
  rw [after] at hidden
  simp [shown] at hidden

end BgTaskMgr.Continuous
