import BgTaskMgr.Continuous.UpdateExits

/-!
# Operations that do not save

A change of the language, the request to send the notifications of tasks again and the start of
audio change records, and the first two never save.  The file follows as long as the records
stay as they are: no text newly says that the app is not playing, and what is sent again is the
notification that the task has.
-/

set_option autoImplicit false

namespace BgTaskMgr.Continuous

open BgContinuousTaskMgr

/-! ## Conditions -/

def withNewTexts (env : Env) (s : BgContinuousTaskMgr) : BgContinuousTaskMgr :=
  { s with
    texts := getNotificationPrompt env.resourceString s.texts
    cachedBundleInfos := ∅ }

/-- No task gets a text that says its app is not playing, unless it has such a text. -/
def ResourcesSaved (env : Env) (s : BgContinuousTaskMgr) : Prop :=
  ∀ record ∈ KeyedMap.vals s.continuousTaskInfosMap, hasSubNotification record = false →
    checkExistMode record.bgModeIds BackgroundMode.dataTransfer = false →
    ((withNewTexts env s).checkNotificationText env record).notPlaying = true →
      record.audioPlayState = false

instance ResourcesSaved.decidable (env : Env) (s : BgContinuousTaskMgr) :
    Decidable (ResourcesSaved env s) :=
  inferInstanceAs (Decidable (∀ record ∈ KeyedMap.vals s.continuousTaskInfosMap, _))

def MainStands (hash : String → Nat) (record : ContinuousTaskRecord) : Prop :=
  record.notificationId ≠ -1 ∧ createNotificationLabel hash record = record.notificationLabel

def SubStands (hash : String → Nat) (record : ContinuousTaskRecord) : Prop :=
  record.subNotificationId ≠ -1 ∧
    createSubNotificationLabel hash record = record.subNotificationLabel

def StandsAsSent (env : Env) (record : ContinuousTaskRecord) (s : BgContinuousTaskMgr) : Prop :=
  record.suspendState = true ∨
    (isLiveViewAndOther record = false →
      (s.checkNotificationText env record).notPlaying = true → record.audioPlayState = false) ∧
    sendKindByModes env s record ≠ .clears ∧
    (sendKindByModes env s record ≠ .keeps → MainStands s.tools.hash record) ∧
    (isLiveViewAndOther record = true → sendKindByModes env s record = .publishes →
      (s.checkNotificationText env (liveViewSubRecord record)).text ≠ "" →
        SubStands s.tools.hash record)

instance StandsAsSent.decidable (env : Env) (record : ContinuousTaskRecord)
    (s : BgContinuousTaskMgr) : Decidable (StandsAsSent env record s) :=
  have : Decidable (MainStands s.tools.hash record) := inferInstanceAs (Decidable (_ ∧ _))
  have : Decidable (SubStands s.tools.hash record) := inferInstanceAs (Decidable (_ ∧ _))
  inferInstanceAs (Decidable (_ ∨ _))

def withoutAvsession (uid : Int) (s : BgContinuousTaskMgr) : BgContinuousTaskMgr :=
  { s with avSessionNotification := s.avSessionNotification.insert uid false }

def DeteSaved (env : Env) (taskKeys : List String) (s : BgContinuousTaskMgr) : Prop :=
  s.isSysReady = true → ∀ key ∈ taskKeys, ∀ record ∈ s.taskAt key,
    StandsAsSent env record (withoutAvsession record.uid s)

instance DeteSaved.decidable (env : Env) (taskKeys : List String) (s : BgContinuousTaskMgr) :
    Decidable (DeteSaved env taskKeys s) :=
  have (key : String) : Decidable (∀ record ∈ s.taskAt key,
      StandsAsSent env record (withoutAvsession record.uid s)) :=
    inferInstanceAs (Decidable (∀ record ∈ s.taskAt key, _))
  inferInstanceAs (Decidable (_ → _))

def waitsForAudio (uid : Int) (record : ContinuousTaskRecord) : Bool :=
  !record.audioPlayState && record.notificationId != -1 && record.uid == uid

def audioText (record : ContinuousTaskRecord) (s : BgContinuousTaskMgr) : String :=
  (s.texts.continuousTaskText[getBgModeNameIndex BackgroundMode.audioPlayback
    record.isNewApi]?).getD ""

/-- The waiting tasks of the app all have a text, or none has; the app has a name, since
nothing is done for one without. -/
def AudioStartSaved (env : Env) (uid : Int) (s : BgContinuousTaskMgr) : Prop :=
  s.isSysReady = true →
    ∀ found ∈ s.findTask (fun _ task =>
      task.uid == uid && !task.audioPlayState && task.notificationId > 0),
    env.mainAbilityLabel found.2.bundleName found.2.userId ≠ "" →
    (∀ record ∈ KeyedMap.vals s.continuousTaskInfosMap, waitsForAudio uid record = true →
      audioText record s ≠ "") ∨
    ∀ record ∈ KeyedMap.vals s.continuousTaskInfosMap, waitsForAudio uid record = true →
      audioText record s = ""

section Unsaved

variable {env : Env} {s : BgContinuousTaskMgr} {key : String} {record : ContinuousTaskRecord}

theorem note_eq {prompt : Prompt}
    (stands : prompt.notPlaying = true → record.audioPlayState = false) :
    prompt.note record = record := by
  unfold Prompt.note
  split
  · rename_i waits
    rw [← stands waits]
  · rfl

theorem fileFollows_onBundleResourcesChanged (follows : s.FileFollows)
    (saved : ResourcesSaved env s) : (s.onBundleResourcesChanged env).FileFollows := by
  refine follows.of_images rfl ?_
  intro key
  have looked : (s.onBundleResourcesChanged env).taskAt key =
      (s.taskAt key).map (fun record => (withNewTexts env s).notedByTexts env record) :=
    KeyedMap.lookup_mapVal (fun _ record => (withNewTexts env s).notedByTexts env record)
      s.continuousTaskInfosMap key
  rw [looked]
  cases found : s.taskAt key with
  | none => rfl
  | some record =>
      have member : record ∈ KeyedMap.vals s.continuousTaskInfosMap :=
        KeyedMap.mem_vals.mpr ⟨key, found⟩
      have same : (withNewTexts env s).notedByTexts env record = record := by
        unfold notedByTexts
        split
        · rename_i asked
          simp only [Bool.and_eq_true, Bool.not_eq_true'] at asked
          exact note_eq (saved record member asked.1 asked.2)
        · rfl
      rw [Option.map_some, same]

/-! ### Sending again -/

/-- A publication keeps the record whose notification it is, and the hash function. -/
theorem publishNotification_stands {tools : NotificationTools}
    (stands : MainStands tools.hash record) (appName prompt : String) :
    (tools.publishNotification env.toNotificationEnv record appName prompt).record = record ∧
      (tools.publishNotification env.toNotificationEnv record appName prompt).tools.hash =
        tools.hash := by
  have chosen : tools.chosenId record.notificationId = record.notificationId :=
    if_neg stands.1
  unfold NotificationTools.publishNotification
  dsimp only
  rw [chosen, stands.2]
  split
  · exact ⟨rfl, tools.takeId_hash _⟩
  · exact ⟨rfl, tools.takeId_hash _⟩

theorem sendContinuousTaskNotification_stands
    (playing : (s.checkNotificationText env record).notPlaying = true →
      record.audioPlayState = false)
    (kept : sendKind env s record ≠ .clears)
    (stands : sendKind env s record ≠ .keeps → MainStands s.tools.hash record) :
    (s.sendContinuousTaskNotification env record).record = record ∧
      (s.sendContinuousTaskNotification env record).tools.hash = s.tools.hash := by
  unfold sendKind at kept stands
  unfold sendContinuousTaskNotification
  dsimp only at kept stands ⊢
  rw [note_eq playing]
  by_cases texts : s.texts.continuousTaskText = []
  · rw [if_pos texts]
    exact ⟨rfl, rfl⟩
  by_cases appName : s.cachedAppName record.uid = ""
  · rw [if_neg texts, if_pos appName]
    exact ⟨rfl, rfl⟩
  by_cases failed : (s.checkNotificationText env record).ret ≠ .ok
  · rw [if_neg texts, if_neg appName, if_pos failed]
    exact ⟨rfl, rfl⟩
  have ready : ¬ (s.texts.continuousTaskText = [] ∨ s.cachedAppName record.uid = "" ∨
      (s.checkNotificationText env record).ret ≠ .ok) := by
    simp [texts, appName, not_not.mp failed]
  rw [if_neg ready] at kept stands
  rw [if_neg texts, if_neg appName, if_neg failed]
  by_cases empty : (s.checkNotificationText env record).text = ""
  · rw [if_pos empty] at kept ⊢
    by_cases given : record.notificationId ≠ -1
    · rw [if_pos given] at kept
      exact absurd rfl kept
    · rw [if_neg given]
      exact ⟨rfl, rfl⟩
  rw [if_neg empty] at stands ⊢
  by_cases av : s.shownByAvsession record = true
  · rw [if_pos av]
    exact ⟨rfl, rfl⟩
  · rw [if_neg av] at stands ⊢
    exact publishNotification_stands (stands (by simp)) _ _

/-- The main part of a live view task is sent under the label of the task. -/
theorem sendNotification_main_stands (request : record.isByRequestObject = true)
    (appName : String)
    (stands : (s.checkNotificationText env (liveViewMainRecord record)).ret = .ok →
      MainStands s.tools.hash record) :
    (s.sendNotification env (liveViewMainRecord record) record appName false).record = record ∧
      (s.sendNotification env (liveViewMainRecord record) record appName false).tools.hash =
        s.tools.hash := by
  have label : createNotificationLabel s.tools.hash (liveViewMainRecord record) =
      createNotificationLabel s.tools.hash record := by
    unfold createNotificationLabel
    rw [request]
    rfl
  unfold sendNotification
  dsimp only
  split
  · exact ⟨rfl, rfl⟩
  rename_i prompted
  obtain ⟨given, own⟩ := stands (not_not.mp prompted)
  have chosen : s.tools.chosenId record.notificationId = record.notificationId := if_neg given
  rw [if_neg (by simp), if_neg (by simp)]
  unfold NotificationTools.publishMainNotification
  dsimp only
  rw [label, own, chosen]
  split
  · exact ⟨rfl, s.tools.takeId_hash _⟩
  · exact ⟨rfl, s.tools.takeId_hash _⟩

theorem sendNotification_sub_stands (appName : String)
    (stands : (s.checkNotificationText env (liveViewSubRecord record)).ret = .ok →
      (s.checkNotificationText env (liveViewSubRecord record)).text ≠ "" →
      SubStands s.tools.hash record) :
    (s.sendNotification env (liveViewSubRecord record) record appName true).record = record ∧
      (s.sendNotification env (liveViewSubRecord record) record appName true).tools.hash =
        s.tools.hash := by
  have label : createSubNotificationLabel s.tools.hash (liveViewSubRecord record) =
      createSubNotificationLabel s.tools.hash record := rfl
  unfold sendNotification
  dsimp only
  split
  · exact ⟨rfl, rfl⟩
  rename_i prompted
  split
  · exact ⟨rfl, rfl⟩
  rename_i filled
  obtain ⟨given, own⟩ := stands (not_not.mp prompted) (by simpa using filled)
  have chosen : s.tools.chosenId record.subNotificationId = record.subNotificationId :=
    if_neg given
  rw [if_pos rfl]
  unfold NotificationTools.publishSubNotification
  dsimp only
  rw [label, own, chosen]
  split
  · exact ⟨rfl, s.tools.takeId_hash _⟩
  · exact ⟨rfl, s.tools.takeId_hash _⟩

theorem sendLiveViewAndOtherNotification_stands (parts : isLiveViewAndOther record = true)
    (main : sendKindByModes env s record ≠ .keeps → MainStands s.tools.hash record)
    (sub : sendKindByModes env s record = .publishes →
      (s.checkNotificationText env (liveViewSubRecord record)).text ≠ "" →
      SubStands s.tools.hash record) :
    (s.sendLiveViewAndOtherNotification env record).record = record ∧
      (s.sendLiveViewAndOtherNotification env record).tools.hash = s.tools.hash := by
  have request : record.isByRequestObject = true := by
    simp only [isLiveViewAndOther, Bool.and_eq_true] at parts
    exact parts.1.1
  have kind := show sendKindByModes env s record = _ from if_pos parts
  rw [kind] at main sub
  unfold sendLiveViewAndOtherNotification
  dsimp only
  split
  · exact ⟨rfl, rfl⟩
  rename_i texts
  split
  · exact ⟨rfl, rfl⟩
  rename_i appName
  have mainStands : (s.checkNotificationText env (liveViewMainRecord record)).ret = .ok →
      MainStands s.tools.hash record := by
    intro prompted
    refine main ?_
    rw [if_neg (by simp [texts, appName, prompted])]
    split
    · simp
    · simp
  obtain ⟨same, hash⟩ := @sendNotification_main_stands env s record request
    (s.cachedAppName record.uid) mainStands
  generalize sent : s.sendNotification env (liveViewMainRecord record) record
    (s.cachedAppName record.uid) false = first at same hash ⊢
  split
  · exact ⟨same, hash⟩
  rename_i shown
  have mainPrompted : (s.checkNotificationText env (liveViewMainRecord record)).ret = .ok := by
    by_contra failed
    unfold sendNotification at sent
    dsimp only at sent
    rw [if_pos failed] at sent
    rw [← sent] at shown
    exact shown failed
  have subStands : ((s.setTools first.tools).checkNotificationText env
        (liveViewSubRecord record)).ret = .ok →
      ((s.setTools first.tools).checkNotificationText env (liveViewSubRecord record)).text ≠ "" →
      SubStands (s.setTools first.tools).tools.hash record := by
    intro prompted filled
    have text : (s.setTools first.tools).checkNotificationText env (liveViewSubRecord record) =
        s.checkNotificationText env (liveViewSubRecord record) := rfl
    rw [text] at prompted filled
    have stands := sub (by
      rw [if_neg (by simp [texts, appName, mainPrompted]), if_neg (by simp [prompted])]) filled
    show SubStands first.tools.hash record
    rw [hash]
    exact stands
  rw [same]
  obtain ⟨subSame, subHash⟩ := @sendNotification_sub_stands env (s.setTools first.tools)
    record (s.cachedAppName record.uid) subStands
  have kept : ((s.setTools first.tools).sendNotification env (liveViewSubRecord record) record
      (s.cachedAppName record.uid) true).tools.hash = s.tools.hash := subHash.trans hash
  split
  · exact ⟨subSame, kept⟩
  split
  · refine ⟨subSame, ?_⟩
    unfold NotificationTools.cancelNotification
    split
    · exact kept
    · exact kept
  · exact ⟨subSame, kept⟩

theorem handleActiveNotification_stands (stands : StandsAsSent env record s) :
    (s.handleActiveNotification env record).record = record ∧
      (s.handleActiveNotification env record).tools.hash = s.tools.hash := by
  unfold handleActiveNotification
  split
  · exact ⟨rfl, rfl⟩
  rename_i active
  obtain ⟨playing, kept, main, sub⟩ := stands.resolve_left active
  unfold sendByModes
  split
  · rename_i parts
    exact sendLiveViewAndOtherNotification_stands parts main (sub parts)
  · rename_i whole
    have kind : sendKindByModes env s record = sendKind env s record := if_neg whole
    rw [kind] at kept main
    exact sendContinuousTaskNotification_stands (playing (by simpa using whole)) kept main

theorem StandsAsSent.of_same {after : BgContinuousTaskMgr} (stands : StandsAsSent env record s)
    (same : SameSources record.uid s after) (hash : after.tools.hash = s.tools.hash) :
    StandsAsSent env record after := by
  have sub : SameSources (liveViewSubRecord record).uid s after := same
  unfold StandsAsSent at stands ⊢
  rwa [same.checkNotificationText env, same.sendKindByModes env, sub.checkNotificationText env,
    hash]

/-- The tasks, the file and what the texts of notifications are taken from are the same, but
for the apps that AVSession shows. -/
structure Resent (before after : BgContinuousTaskMgr) : Prop where
  taskAt : ∀ key, after.taskAt key = before.taskAt key
  file : after.file = before.file
  hash : after.tools.hash = before.tools.hash
  texts : after.texts = before.texts
  cachedBundleInfos : after.cachedBundleInfos = before.cachedBundleInfos
  liveViewInfo : after.liveViewInfo = before.liveViewInfo

theorem Resent.trans {first second third : BgContinuousTaskMgr} (early : Resent first second)
    (late : Resent second third) : Resent first third :=
  ⟨fun key => (late.taskAt key).trans (early.taskAt key), late.file.trans early.file,
    late.hash.trans early.hash, late.texts.trans early.texts,
    late.cachedBundleInfos.trans early.cachedBundleInfos,
    late.liveViewInfo.trans early.liveViewInfo⟩

theorem Resent.sameSources {after : BgContinuousTaskMgr} (resent : Resent s after) (uid : Int) :
    SameSources uid (withoutAvsession uid s) (withoutAvsession uid after) := by
  refine ⟨resent.texts, ?_, ?_, ?_⟩
  · show after.cachedBundleInfos.lookup uid = s.cachedBundleInfos.lookup uid
    rw [resent.cachedBundleInfos]
  · show after.liveViewInfo.lookup uid = s.liveViewInfo.lookup uid
    rw [resent.liveViewInfo]
  · show (after.avSessionNotification.insert uid false).lookup uid =
      (s.avSessionNotification.insert uid false).lookup uid
    rw [KeyedMap.lookup_insert, KeyedMap.lookup_insert, if_pos rfl, if_pos rfl]

theorem resent_sendForDete (stands : ∀ record ∈ s.taskAt key,
    StandsAsSent env record (withoutAvsession record.uid s)) : Resent s (sendForDete env s key) := by
  unfold sendForDete
  split
  · exact ⟨fun _ => rfl, rfl, rfl, rfl, rfl, rfl⟩
  · rename_i record lookup
    have found : s.taskAt key = some record := lookup
    obtain ⟨same, hash⟩ := handleActiveNotification_stands (stands record found)
    refine ⟨?_, rfl, hash, rfl, rfl, rfl⟩
    intro other
    have here : (withoutAvsession record.uid s).taskAt key = some record := found
    show (setRecord key ((withoutAvsession record.uid s).handleActiveNotification env record).record
      ((withoutAvsession record.uid s).setTools _)).taskAt other = s.taskAt other
    rw [same, taskAt_setRecord]
    split
    · rename_i own
      rw [own]
      exact (congrArg (Option.map fun _ => record) found).trans found.symm
    · rfl

theorem resent_foldl_sendForDete {taskKeys : List String} (stands : ∀ key ∈ taskKeys,
    ∀ record ∈ s.taskAt key, StandsAsSent env record (withoutAvsession record.uid s)) :
    Resent s (taskKeys.foldl (sendForDete env) s) := by
  induction taskKeys generalizing s with
  | nil => exact ⟨fun _ => rfl, rfl, rfl, rfl, rfl, rfl⟩
  | cons key rest ih =>
      have first := resent_sendForDete (stands key List.mem_cons_self)
      refine first.trans (ih ?_)
      intro later member record found
      rw [first.taskAt] at found
      exact (stands later (List.mem_cons_of_mem key member) record found).of_same
        (first.sameSources record.uid) first.hash

theorem fileFollows_sendNotificationByDeteTask (follows : s.FileFollows) {taskKeys : List String}
    (saved : DeteSaved env taskKeys s) :
    (s.sendNotificationByDeteTask env taskKeys).FileFollows := by
  unfold sendNotificationByDeteTask
  split
  · rename_i ready
    have resent := resent_foldl_sendForDete (saved ready)
    refine follows.of_images resent.file ?_
    intro key
    rw [resent.taskAt]
  · exact follows

/-! ### Start of audio -/

structure AudioNoted (s : BgContinuousTaskMgr) (uid : Int) (loop : AudioStartLoop) : Prop where
  valid : loop.valid = true
  texts : loop.mgr.texts = s.texts
  waiting : ∀ key record, loop.mgr.taskAt key = some record → waitsForAudio uid record = true →
    s.taskAt key = some record
  unchanged : loop.newPromptInfos = [] → loop.mgr = s

/-- With its text there, a waiting task is marked and its label is given the text. -/
theorem noteAudioStart_eq {appName : String} {uid : Int} {loop : AudioStartLoop}
    (valid : loop.valid = true) (texts : loop.mgr.texts = s.texts)
    (text : waitsForAudio uid record = true → audioText record s ≠ "") :
    noteAudioStart appName uid key record loop =
      if waitsForAudio uid record then
        { loop with
          mgr := loop.mgr.setRecord key { record with audioPlayState := true }
          newPromptInfos := loop.newPromptInfos ++
            [(record.notificationLabel, appName, audioText record s)] }
      else loop := by
  have guard : (!loop.valid ∨ record.audioPlayState ∨ record.notificationId = -1 ∨
      record.uid ≠ uid) ↔ ¬ waitsForAudio uid record = true := by
    unfold waitsForAudio
    grind
  unfold noteAudioStart
  dsimp only
  by_cases waits : waitsForAudio uid record = true
  · have spoken := text waits
    unfold audioText at spoken ⊢
    rw [← texts] at spoken ⊢
    rw [if_neg (fun left => guard.mp left waits), if_neg spoken, if_pos waits]
  · rw [if_pos (guard.mpr waits), if_neg waits]

theorem audioNoted_noteAudioStart {appName : String} {uid : Int} {loop : AudioStartLoop}
    (texts : ∀ key record, s.taskAt key = some record → waitsForAudio uid record = true →
      audioText record s ≠ "") (found : loop.mgr.taskAt key = some record)
    (held : AudioNoted s uid loop) :
    AudioNoted s uid (noteAudioStart appName uid key record loop) := by
  rw [noteAudioStart_eq held.valid held.texts
    (fun waits => texts key record (held.waiting key record found waits) waits)]
  split
  swap
  · exact held
  refine ⟨held.valid, held.texts, ?_, by simp⟩
  intro other stored lookup still
  by_cases here : other = key
  · subst here
    have edited := taskAt_setRecord_self loop.mgr other
      { record with audioPlayState := true } found
    obtain rfl := Option.some.inj (edited.symm.trans lookup)
    simp [waitsForAudio] at still
  · refine held.waiting other stored ?_ still
    exact (taskAt_setRecord_ne loop.mgr key other _ here).symm.trans lookup

theorem noteAudioStart_silent {appName : String} {uid : Int} {loop : AudioStartLoop}
    (texts : ∀ key record, s.taskAt key = some record → waitsForAudio uid record = true →
      audioText record s = "") (found : loop.mgr.taskAt key = some record)
    (held : loop.mgr = s) : (noteAudioStart appName uid key record loop).mgr = s := by
  unfold noteAudioStart
  dsimp only
  split
  · exact held
  rename_i waits
  have waiting : waitsForAudio uid record = true := by
    unfold waitsForAudio
    grind
  have text := texts key record (held ▸ found) waiting
  unfold audioText at text
  rw [← held] at text
  rw [if_pos text]
  exact held

theorem fileFollows_notifyAudioStart (saves : env.saveOk = true) (follows : s.FileFollows)
    (uid : Int) (saved : AudioStartSaved env uid s) :
    (s.notifyAudioStart env uid).FileFollows := by
  unfold notifyAudioStart
  split
  swap
  · exact follows
  rename_i ready
  unfold notifyAudioStartInner
  split
  · exact follows
  rename_i key task search
  dsimp only
  split
  · exact follows
  rename_i named
  have member : ∀ key record, s.taskAt key = some record →
      record ∈ KeyedMap.vals s.continuousTaskInfosMap :=
    fun key record found => KeyedMap.mem_vals.mpr ⟨key, found⟩
  rcases saved ready (key, task) search named with filled | empty
  · have step : ∀ key record (loop : AudioStartLoop), loop.mgr.taskAt key = some record →
        AudioNoted s uid loop → AudioNoted s uid (noteAudioStart
          (env.mainAbilityLabel task.bundleName task.userId) uid key record loop) :=
      fun key record loop found held => audioNoted_noteAudioStart
        (fun key record stored => filled record (member key record stored)) found held
    have looped : AudioNoted s uid (KeyedMap.forEach
        (fun loop : AudioStartLoop => loop.mgr.continuousTaskInfosMap)
        (noteAudioStart (env.mainAbilityLabel task.bundleName task.userId) uid) { mgr := s }) :=
      KeyedMap.forEach_invariant step { mgr := s }
        ⟨rfl, rfl, fun _ _ stored _ => stored, fun _ => rfl⟩
    split
    · rename_i ended
      have none := ended.resolve_left (by simp [looped.valid])
      rw [looped.unchanged none]
      exact follows
    · exact BgContinuousTaskMgr.FileFollows.save saves _
  · have step : ∀ key record (loop : AudioStartLoop), loop.mgr.taskAt key = some record →
        loop.mgr = s → (noteAudioStart
          (env.mainAbilityLabel task.bundleName task.userId) uid key record loop).mgr = s :=
      fun key record loop found held => noteAudioStart_silent
        (fun key record stored => empty record (member key record stored)) found held
    have looped : (KeyedMap.forEach
        (fun loop : AudioStartLoop => loop.mgr.continuousTaskInfosMap)
        (noteAudioStart (env.mainAbilityLabel task.bundleName task.userId) uid)
          { mgr := s }).mgr = s :=
      KeyedMap.forEach_invariant step { mgr := s } rfl
    split
    · rw [looped]
      exact follows
    · exact BgContinuousTaskMgr.FileFollows.save saves _

end Unsaved

end BgTaskMgr.Continuous
