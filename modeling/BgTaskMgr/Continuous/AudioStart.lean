import BgTaskMgr.Continuous.Resending
import BgTaskMgr.Continuous.StartExits

/-!
# The start of playback

`NotifyAudioStartInner` first looks for a waiting task with a notification id above 0, and
then goes over all that have an id, 0 among them.  The first id that is ever taken is 0, so a
task that holds it is passed over when no other one waits.
-/

set_option autoImplicit false

namespace BgTaskMgr.Continuous

namespace BgContinuousTaskMgr

def TextsAvailable (s : BgContinuousTaskMgr) : Prop := ∀ record, audioText record s ≠ ""

/-- Every task of the app finds the label of the app. -/
def AppLabelled (env : Env) (uid : Int) (s : BgContinuousTaskMgr) : Prop :=
  ∀ key record, s.taskAt key = some record → record.uid = uid →
    env.mainAbilityLabel record.bundleName record.userId ≠ ""

/-- The text of a waiting task under this label; the first one's, if they share it. -/
def PlayingText (uid : Int) (label text : String) (s : BgContinuousTaskMgr) : Prop :=
  ∃ key record, s.taskAt key = some record ∧ waitsForAudio uid record = true ∧
    record.notificationLabel = label ∧ text = audioText record s

/-- The start of playback is noted by every waiting task of the app, and by no other one. -/
structure PlaybackShown (env : Env) (uid : Int) (s after : BgContinuousTaskMgr) : Prop where
  /-- No task of the app with a notification is left waiting. -/
  played : ∀ key record, after.taskAt key = some record → waitsForAudio uid record = false
  /-- The labels of the waiting tasks are given the text of playback. -/
  given : ∃ newPromptInfos : PromptInfos,
    after.tools = s.tools.refreshContinuousNotifications env.toNotificationEnv newPromptInfos ∧
      ∀ key record, s.taskAt key = some record → waitsForAudio uid record = true →
        ∃ title text, newPromptInfos.lookup record.notificationLabel = some (title, text) ∧
          PlayingText uid record.notificationLabel text s
  /-- A notification that the service publishes again has it. -/
  shown : env.getActiveOk = true → ∀ key record, s.taskAt key = some record →
    waitsForAudio uid record = true → ∀ notification ∈ after.tools.published,
      notification.label = record.notificationLabel →
        env.republishOk notification.label notification.id = true →
          PlayingText uid record.notificationLabel notification.text s
  others : ∀ key record, record.uid ≠ uid →
    (after.taskAt key = some record ↔ s.taskAt key = some record)

def playedRecord (uid : Int) (record : ContinuousTaskRecord) : ContinuousTaskRecord :=
  if waitsForAudio uid record then { record with audioPlayState := true } else record

section

variable {env : Env} {s : BgContinuousTaskMgr} {uid : Int}

theorem uid_playedRecord (record : ContinuousTaskRecord) :
    (playedRecord uid record).uid = record.uid := by
  unfold playedRecord
  split
  · rfl
  · rfl

theorem waitsForAudio_playedRecord (record : ContinuousTaskRecord) :
    waitsForAudio uid (playedRecord uid record) = false := by
  unfold playedRecord
  split
  · simp [waitsForAudio]
  · rename_i still
    simpa using still

theorem playedRecord_of_ne {record : ContinuousTaskRecord} (other : record.uid ≠ uid) :
    playedRecord uid record = record := by
  unfold playedRecord
  rw [if_neg]
  simp [waitsForAudio, other]

theorem shown_of_given {newPromptInfos : PromptInfos} {tools : NotificationTools}
    {record : ContinuousTaskRecord} {title text : String} (answers : env.getActiveOk = true)
    (given : newPromptInfos.lookup record.notificationLabel = some (title, text))
    {notification : Notification}
    (published : notification ∈
      (tools.refreshContinuousNotifications env.toNotificationEnv newPromptInfos).published)
    (label : notification.label = record.notificationLabel)
    (again : env.republishOk notification.label notification.id = true) :
    notification.text = text := by
  have some : ¬ (newPromptInfos = [] ∨ !env.getActiveOk) := by
    rintro (empty | fails)
    · rw [empty] at given
      exact absurd given (by simp)
    · simp [answers] at fails
  unfold NotificationTools.refreshContinuousNotifications at published
  rw [if_neg some] at published
  obtain ⟨before, _, rfl⟩ := List.mem_map.mp published
  have kept := pair_refreshed env.toNotificationEnv newPromptInfos before
  have sameLabel := congrArg Prod.fst kept
  have sameId := congrArg Prod.snd kept
  dsimp only [Notification.pair] at sameLabel sameId
  rw [sameLabel] at label again
  rw [sameId] at again
  unfold NotificationTools.refreshed
  rw [label, given]
  dsimp only
  rw [← label, if_pos again]

abbrev audioPass (appName : String) (uid : Int) (s : BgContinuousTaskMgr) : AudioStartLoop :=
  KeyedMap.forEach (fun loop : AudioStartLoop => loop.mgr.continuousTaskInfosMap)
    (noteAudioStart appName uid) { mgr := s }

structure AudioTold (s : BgContinuousTaskMgr) (appName : String) (uid : Int)
    (loop : AudioStartLoop) : Prop extends AudioNoted s uid loop where
  tools : loop.mgr.tools = s.tools
  prompts : ∀ info ∈ loop.newPromptInfos, ∃ text, info.2 = (appName, text) ∧
    PlayingText uid info.1 text s

theorem local_noteAudioStart (appName : String) (uid : Int) :
    KeyedMap.Local (fun loop : AudioStartLoop => loop.mgr.continuousTaskInfosMap)
      (noteAudioStart appName uid) := by
  intro key record loop found other different
  dsimp only
  rcases mgr_noteAudioStart appName uid loop with same | marked
  · rw [same]
  · rw [marked]
    exact taskAt_setRecord_ne loop.mgr key other _ different

theorem audioTold_start (appName : String) (uid : Int) :
    AudioTold s appName uid { mgr := s } :=
  ⟨⟨rfl, rfl, fun _ _ stored _ => stored, fun _ => rfl⟩, rfl, by simp⟩

variable (texts : TextsAvailable s) {appName : String}

include texts

theorem noteAudioStart_of_told {key : String} {record : ContinuousTaskRecord}
    {loop : AudioStartLoop} (held : AudioTold s appName uid loop) :
    noteAudioStart appName uid key record loop =
      if waitsForAudio uid record then
        { loop with
          mgr := loop.mgr.setRecord key { record with audioPlayState := true }
          newPromptInfos := loop.newPromptInfos ++
            [(record.notificationLabel, appName, audioText record s)] }
      else loop :=
  noteAudioStart_eq held.valid held.texts (fun _ => texts record)

theorem audioTold_noteAudioStart {key : String} {record : ContinuousTaskRecord}
    {loop : AudioStartLoop} (found : loop.mgr.taskAt key = some record)
    (held : AudioTold s appName uid loop) :
    AudioTold s appName uid (noteAudioStart appName uid key record loop) := by
  have noted : AudioNoted s uid (noteAudioStart appName uid key record loop) :=
    audioNoted_noteAudioStart (fun _ record _ _ => texts record) found held.toAudioNoted
  rw [noteAudioStart_of_told texts held] at noted ⊢
  by_cases waits : waitsForAudio uid record = true
  · rw [if_pos waits] at noted ⊢
    refine ⟨noted, held.tools, ?_⟩
    intro info member
    rcases List.mem_append.mp member with earlier | here
    · exact held.prompts info earlier
    · rw [List.mem_singleton.mp here]
      exact ⟨_, rfl, key, record, held.waiting key record found waits, waits, rfl, rfl⟩
  · rw [if_neg waits]
    exact held

theorem audioTold_pass (appName : String) :
    AudioTold s appName uid (audioPass appName uid s) := by
  apply KeyedMap.forEach_invariant
  · intro key record loop found held
    exact audioTold_noteAudioStart texts found held
  · exact audioTold_start appName uid

/-- Every waiting task is marked in the pass, and nothing else changes. -/
theorem taskAt_pass (appName key : String) :
    (audioPass appName uid s).mgr.taskAt key = (s.taskAt key).map (playedRecord uid) := by
  have own : ∀ key record (loop : AudioStartLoop), loop.mgr.taskAt key = some record →
      AudioTold s appName uid loop →
        (noteAudioStart appName uid key record loop).mgr.taskAt key =
          some (playedRecord uid record) := by
    intro key record loop found held
    rw [noteAudioStart_of_told texts held]
    unfold playedRecord
    split
    · exact taskAt_setRecord_self loop.mgr key _ found
    · exact found
  have pass := KeyedMap.lookup_forEach (AudioTold s appName uid)
    (local_noteAudioStart appName uid)
    (fun key record loop found held => audioTold_noteAudioStart texts found held) own { mgr := s }
    (audioTold_start appName uid) key
  rw [Option.map_eq_bind]
  exact pass

/-- The label of every waiting task is among those that are given a text. -/
theorem given_pass (appName : String) {key : String} {record : ContinuousTaskRecord}
    (found : s.taskAt key = some record) (waits : waitsForAudio uid record = true) :
    ∃ text, (audioPass appName uid s).newPromptInfos.lookup record.notificationLabel =
        some (appName, text) ∧
      PlayingText uid record.notificationLabel text s := by
  have listed : ∃ info ∈ (audioPass appName uid s).newPromptInfos,
      info.1 = record.notificationLabel := by
    refine KeyedMap.forEach_settles
      (fun loop : AudioStartLoop =>
        ∃ info ∈ loop.newPromptInfos, info.1 = record.notificationLabel)
      (local_noteAudioStart appName uid)
      (fun key record loop found held => audioTold_noteAudioStart texts found held) key record
      ?_ ?_ { mgr := s } (audioTold_start appName uid) found
    · intro loop _ held
      rw [noteAudioStart_of_told texts held, if_pos waits]
      exact ⟨_, List.mem_append_right _ (List.mem_singleton.mpr rfl), rfl⟩
    · intro other task loop _ _ held earlier
      rw [noteAudioStart_of_told texts held]
      split
      · obtain ⟨info, member, label⟩ := earlier
        exact ⟨info, List.mem_append_left _ member, label⟩
      · exact earlier
  obtain ⟨info, member, label⟩ := listed
  have some := List.lookup_isSome_iff.mpr ⟨info, member, beq_iff_eq.mpr label.symm⟩
  obtain ⟨prompt, asked⟩ := Option.isSome_iff_exists.mp some
  obtain ⟨front, back, split, -⟩ := List.lookup_eq_some_iff.mp asked
  obtain ⟨text, same, playing⟩ := (audioTold_pass texts appName).prompts
    (record.notificationLabel, prompt) (split ▸ List.mem_append_right _ List.mem_cons_self)
  exact ⟨text, same ▸ asked, playing⟩

/-- Behind a first task with an id above 0 come the pass and the texts of its labels. -/
theorem notifyAudioStartInner_found {first : String × ContinuousTaskRecord}
    (search : s.findTask (fun _ task =>
      task.uid == uid && !task.audioPlayState && task.notificationId > 0) = some first)
    (named : env.mainAbilityLabel first.2.bundleName first.2.userId = appName)
    (label : appName ≠ "") :
    (∀ key, (s.notifyAudioStartInner env uid).taskAt key =
      (s.taskAt key).map (playedRecord uid)) ∧
    (s.notifyAudioStartInner env uid).tools = s.tools.refreshContinuousNotifications
      env.toNotificationEnv (audioPass appName uid s).newPromptInfos := by
  have told := @audioTold_pass s uid texts appName
  unfold notifyAudioStartInner
  rw [search]
  dsimp only
  rw [named, if_neg label]
  split
  · rename_i ended
    have none := ended.resolve_left (by simp [told.valid])
    rw [none]
    exact ⟨taskAt_pass texts appName, told.tools⟩
  · rw [tools_saveTasks]
    constructor
    · intro key
      rw [(undisturbed_saveTasks _ env).taskAt]
      exact taskAt_pass texts appName key
    · exact congrArg (fun tools => tools.refreshContinuousNotifications env.toNotificationEnv
        (audioPass appName uid s).newPromptInfos) told.tools

theorem playbackShown_of_found {first : String × ContinuousTaskRecord}
    (search : s.findTask (fun _ task =>
      task.uid == uid && !task.audioPlayState && task.notificationId > 0) = some first)
    (label : env.mainAbilityLabel first.2.bundleName first.2.userId ≠ "") :
    PlaybackShown env uid s (s.notifyAudioStartInner env uid) := by
  obtain ⟨taskAt, tools⟩ := notifyAudioStartInner_found texts search rfl label
  constructor
  case played =>
    intro key record found
    rw [taskAt] at found
    obtain ⟨before, _, rfl⟩ := Option.map_eq_some_iff.mp found
    exact waitsForAudio_playedRecord before
  case given =>
    refine ⟨_, tools, ?_⟩
    intro key record found waits
    obtain ⟨text, asked, playing⟩ := given_pass texts _ found waits
    exact ⟨_, text, asked, playing⟩
  case shown =>
    intro answers key record found waits notification published same again
    rw [tools] at published
    obtain ⟨text, asked, playing⟩ := given_pass texts _ found waits
    rw [shown_of_given answers asked published same again]
    exact playing
  case others =>
    intro key record other
    rw [taskAt, Option.map_eq_some_iff]
    constructor
    · rintro ⟨before, found, rfl⟩
      rw [uid_playedRecord] at other
      rw [playedRecord_of_ne other]
      exact found
    · intro found
      exact ⟨record, found, playedRecord_of_ne other⟩

omit texts in
theorem playbackShown_refl
    (none : ∀ key record, s.taskAt key = some record → waitsForAudio uid record = false) :
    PlaybackShown env uid s s := by
  constructor
  case played => exact none
  case given =>
    refine ⟨[], rfl, ?_⟩
    intro key record found waits
    exact absurd (none key record found) (by simp [waits])
  case shown =>
    intro _ key record found waits
    exact absurd (none key record found) (by simp [waits])
  case others => exact fun _ _ _ => Iff.rfl

/-- The start of playback is noted by every waiting task exactly when none waits or some task
of the app that does not play has an id above 0. -/
theorem playback_start_shown_iff (labels : AppLabelled env uid s) :
    PlaybackShown env uid s (s.notifyAudioStartInner env uid) ↔
      ((∃ key record, s.taskAt key = some record ∧ waitsForAudio uid record = true) →
        ∃ key record, s.taskAt key = some record ∧ record.uid = uid ∧
          record.audioPlayState = false ∧ 0 < record.notificationId) := by
  cases search : s.findTask (fun _ task =>
      task.uid == uid && !task.audioPlayState && task.notificationId > 0) with
  | none =>
      have same : s.notifyAudioStartInner env uid = s := by
        unfold notifyAudioStartInner
        rw [search]
      rw [same]
      constructor
      · rintro shown ⟨key, record, found, waits⟩
        exact absurd (shown.played key record found) (by simp [waits])
      · intro guard
        apply playbackShown_refl
        intro key record found
        by_contra waits
        obtain ⟨key, first, stored, owner, silent, above⟩ :=
          guard ⟨key, record, found, by simpa using waits⟩
        have passed := findTask_eq_none s key first search stored
        simp [owner, silent, above] at passed
  | some first =>
      obtain ⟨stored, matched⟩ := taskAt_of_findTask s first.1 first.2 search
      simp only [Bool.and_eq_true, beq_iff_eq, Bool.not_eq_true', decide_eq_true_eq] at matched
      obtain ⟨⟨owner, silent⟩, above⟩ := matched
      constructor
      · intro _ _
        exact ⟨first.1, first.2, stored, owner, silent, above⟩
      · intro _
        exact playbackShown_of_found texts search (labels first.1 first.2 stored owner)

end

def silentStart (taskParam : ContinuousTaskParam) : Env × ServiceOp :=
  ({ (deviceStart 100 taskParam).1 with appIsPlaying := fun _ => false },
    .task (deviceStart 100 taskParam).2)

def waitingRun (tasks : Nat) : List (Env × ServiceOp) :=
  (deviceEnv, .initRequiredResourceInfo) ::
    List.replicate tasks (silentStart (requestOf [BackgroundMode.audioPlayback] [4]))

theorem textsAvailable_of_both {s : BgContinuousTaskMgr}
    (both : ∀ isNewApi, audioText { isNewApi := isNewApi } s ≠ "") : TextsAvailable s :=
  fun record => both record.isNewApi

theorem playback_start_shown_two_tasks :
    PlaybackShown deviceEnv 100 (afterRun (waitingRun 2))
      ((afterRun (waitingRun 2)).notifyAudioStartInner deviceEnv 100) := by
  have texts : TextsAvailable (afterRun (waitingRun 2)) :=
    textsAvailable_of_both (by decide)
  have second : ((afterRun (waitingRun 2)).taskAt "100_EntryAbility_1_2").map
      (fun task => (task.uid, task.audioPlayState, task.notificationId)) =
        some (100, false, 1) := by
    decide
  obtain ⟨task, found, fields⟩ := Option.map_eq_some_iff.mp second
  simp only [Prod.mk.injEq] at fields
  refine (playback_start_shown_iff texts (fun _ _ _ _ => by simp [deviceEnv])).mpr ?_
  intro _
  exact ⟨_, task, found, fields.1, fields.2.1, by omega⟩

/-- The first task of the service has the notification 0, and goes on waiting. -/
theorem playback_start_passes_first_task :
    TextsAvailable (afterRun (waitingRun 1)) ∧
      AppLabelled deviceEnv 100 (afterRun (waitingRun 1)) ∧
      ¬ PlaybackShown deviceEnv 100 (afterRun (waitingRun 1))
        ((afterRun (waitingRun 1)).notifyAudioStartInner deviceEnv 100) := by
  refine ⟨textsAvailable_of_both (by decide), fun _ _ _ _ => by simp [deviceEnv], ?_⟩
  intro shown
  have still : (((afterRun (waitingRun 1)).notifyAudioStartInner deviceEnv 100).taskAt
      "100_EntryAbility_1_1").map (waitsForAudio 100) = some true := by
    decide
  obtain ⟨task, found, waits⟩ := Option.map_eq_some_iff.mp still
  exact absurd (shown.played _ task found) (by simp [waits])

end BgContinuousTaskMgr

end BgTaskMgr.Continuous
