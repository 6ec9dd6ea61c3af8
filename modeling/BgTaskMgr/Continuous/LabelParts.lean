import BgTaskMgr.Continuous.AuthStore
import BgTaskMgr.Continuous.Republishing
import BgTaskMgr.Continuous.StartExits

/-!
# Parts of labels

A label is a row of numbers, and the name of a bundle at the end of a banner.  Splitting it
at the separators gives back the numbers, so the key of a task can be built from its label
again; the name of a bundle is split along with the label.
-/

set_option autoImplicit false

namespace BgTaskMgr.Continuous

open BgContinuousTaskMgr

/-! ## Splitting a row -/

theorem splitTokens_append {delim : Char} {token : List Char} (clean : delim ∉ token)
    (rest : List Char) : ∀ taken : List Char, splitTokens delim taken (token ++ delim :: rest) =
      (taken.reverse ++ token) :: splitTokens delim [] rest := by
  induction token with
  | nil =>
      intro taken
      simp [splitTokens]
  | cons c token ih =>
      intro taken
      simp only [List.mem_cons, not_or] at clean
      rw [List.cons_append, splitTokens, if_neg (Ne.symm clean.1), ih clean.2]
      simp

theorem splitTokens_last {delim : Char} {token : List Char} (clean : delim ∉ token) :
    ∀ taken : List Char, taken ++ token ≠ [] →
      splitTokens delim taken token = [taken.reverse ++ token] := by
  induction token with
  | nil =>
      intro taken filled
      rw [splitTokens, if_neg (by simpa using filled), List.append_nil]
  | cons c token ih =>
      intro taken _
      simp only [List.mem_cons, not_or] at clean
      rw [splitTokens, if_neg (Ne.symm clean.1), ih clean.2 _ (by simp)]
      simp

theorem stringSplit_append {token : String} (clean : '_' ∉ token.toList) (rest : String) :
    stringSplit (token ++ ("_" ++ rest)) '_' = token :: stringSplit rest '_' := by
  have row : (token ++ ("_" ++ rest)).toList = token.toList ++ '_' :: rest.toList := by
    simp [String.toList_append]
  rw [stringSplit, row, splitTokens_append clean]
  simp [stringSplit]

theorem stringSplit_last {token : String} (clean : '_' ∉ token.toList) (filled : token ≠ "") :
    stringSplit token '_' = [token] := by
  rw [stringSplit, splitTokens_last clean [] (by simpa using filled)]
  simp

theorem toString_nat_ne_empty (number : Nat) : toString number ≠ "" := by
  intro empty
  have lists := congrArg String.toList empty
  simp at lists

theorem toString_ne_empty (number : Int) : toString number ≠ "" := by
  cases number with
  | ofNat n => exact toString_nat_ne_empty n
  | negSucc n =>
      intro empty
      have lists := congrArg String.toList empty
      have minus : ("-" ++ toString (n + 1)).toList = [] := lists
      simp at minus

/-! ## Labels of tasks -/

theorem stringSplit_number (number : Int) (rest : String) :
    stringSplit (toString number ++ ("_" ++ rest)) '_' = toString number :: stringSplit rest '_' :=
  stringSplit_append (underscore_notMem_toString number) rest

theorem stringSplit_number_last (number : Int) :
    stringSplit (toString number) '_' = [toString number] :=
  stringSplit_last (underscore_notMem_toString number) (toString_ne_empty number)

theorem stringSplit_bgmode (hash : String → Nat) (record : ContinuousTaskRecord) (rest : String) :
    stringSplit ("bgmode_" ++ (toString record.uid ++ ("_" ++ (toString (hash record.abilityName) ++
      ("_" ++ rest))))) '_' =
      "bgmode" :: toString record.uid :: toString (hash record.abilityName) ::
        stringSplit rest '_' := by
  have front : "bgmode_" = "bgmode" ++ "_" := rfl
  rw [front, String.append_assoc, stringSplit_append (by decide), stringSplit_number,
    stringSplit_append (underscore_notMem_toString_nat _)]

theorem stringSplit_createNotificationLabel (hash : String → Nat)
    (record : ContinuousTaskRecord) :
    stringSplit (createNotificationLabel hash record) '_' =
      ["bgmode", toString record.uid, toString (hash record.abilityName),
        toString record.abilityId] ++
        if record.isByRequestObject then [toString record.continuousTaskId] else [] := by
  unfold createNotificationLabel
  dsimp only
  split
  · simp only [String.append_assoc]
    rw [stringSplit_bgmode, stringSplit_number, stringSplit_number_last]
    rfl
  · simp only [String.append_assoc]
    rw [stringSplit_bgmode, stringSplit_number_last]
    rfl

theorem stringSplit_createSubNotificationLabel (hash : String → Nat)
    (record : ContinuousTaskRecord) :
    stringSplit (createSubNotificationLabel hash record) '_' =
      ["bgmode", toString record.uid, toString (hash record.abilityName),
        toString record.abilityId, toString record.continuousTaskId, toString record.pid] := by
  unfold createSubNotificationLabel
  simp only [String.append_assoc]
  rw [stringSplit_bgmode, stringSplit_number, stringSplit_number, stringSplit_number_last]

theorem keyOfLabel_createNotificationLabel (hash : String → Nat) (record : ContinuousTaskRecord) :
    keyOfLabel (createNotificationLabel hash record) record.abilityName =
      some (taskInfoMapKey record, false) := by
  rw [keyOfLabel, stringSplit_createNotificationLabel]
  cases object : record.isByRequestObject with
  | false => simp [taskInfoMapKey, abilityKey, object, String.append_assoc]
  | true => simp [taskInfoMapKey, abilityKey, object, String.append_assoc]

theorem keyOfLabel_createSubNotificationLabel (hash : String → Nat)
    {record : ContinuousTaskRecord} (object : record.isByRequestObject = true) :
    keyOfLabel (createSubNotificationLabel hash record) record.abilityName =
      some (taskInfoMapKey record, true) := by
  rw [keyOfLabel, stringSplit_createSubNotificationLabel]
  simp [taskInfoMapKey, abilityKey, object, String.append_assoc]

/-! ## Notifications of a start -/

/-- A notification of the task: it bears one of its labels and the name of its ability.
Request objects alone have a sub-notification. -/
structure NoticeOf (hash : String → Nat) (record : ContinuousTaskRecord)
    (notification : Notification) : Prop where
  label : notification.label = createNotificationLabel hash record ∨
    record.isByRequestObject = true ∧
      notification.label = createSubNotificationLabel hash record
  abilityName : notification.abilityName = record.abilityName

structure ShowsOnly (record : ContinuousTaskRecord) (before after : NotificationTools) : Prop where
  hash : after.hash = before.hash
  shown : ∀ notification ∈ after.published,
    notification ∈ before.published ∨ NoticeOf before.hash record notification

section Shows

variable {record : ContinuousTaskRecord} {tools shown : NotificationTools}

theorem ShowsOnly.refl : ShowsOnly record tools tools := ⟨rfl, fun _ shown => .inl shown⟩

theorem ShowsOnly.display (before : ShowsOnly record tools shown) {notification : Notification}
    (notice : NoticeOf shown.hash record notification) :
    ShowsOnly record tools (shown.display notification) := by
  refine ⟨before.hash, ?_⟩
  intro other displayed
  simp only [NotificationTools.display, List.mem_append, List.mem_filter,
    List.mem_singleton] at displayed
  cases displayed with
  | inl old => exact before.shown other old.1
  | inr new =>
      rw [new, ← before.hash]
      exact .inr notice

theorem ShowsOnly.takeId (before : ShowsOnly record tools shown) (currentId : Int) :
    ShowsOnly record tools (shown.takeId currentId) := by
  unfold NotificationTools.takeId
  split
  · exact ⟨before.hash, before.shown⟩
  · exact before

theorem ShowsOnly.cancelNotification (before : ShowsOnly record tools shown)
    (env : NotificationEnv) (pair : String × Int) :
    ShowsOnly record tools (shown.cancelNotification env pair).2 := by
  unfold NotificationTools.cancelNotification
  split
  · refine ⟨before.hash, ?_⟩
    intro other kept
    simp only [NotificationTools.withdraw, List.mem_filter] at kept
    exact before.shown other kept.1
  · exact before

theorem showsOnly_publishNotification (env : NotificationEnv) {noted : ContinuousTaskRecord}
    (same : ContinuousTaskRecord.SameTask record noted) (appName prompt : String) :
    ShowsOnly record tools (tools.publishNotification env noted appName prompt).tools := by
  unfold NotificationTools.publishNotification
  dsimp only
  split
  · apply (ShowsOnly.refl.takeId _).display
    rw [NotificationTools.takeId_hash]
    exact ⟨.inl (createNotificationLabel_congr tools.hash same), same.abilityName⟩
  · exact ShowsOnly.refl.takeId _

variable (env : Env) (s : BgContinuousTaskMgr)

theorem showsOnly_sendContinuousTaskNotification :
    ShowsOnly record s.tools (s.sendContinuousTaskNotification env record).tools := by
  have noted := (sameNotices_note (s.checkNotificationText env record) record).toEdited
  unfold sendContinuousTaskNotification
  dsimp only
  split
  · exact .refl
  split
  · exact .refl
  split
  · exact .refl
  split
  · split
    · exact ShowsOnly.refl.cancelNotification _ _
    · exact .refl
  split
  · exact .refl
  · exact showsOnly_publishNotification _ noted.toSameTask _ _

/-- A part of a live view task, which has the labels of the task. -/
theorem showsOnly_sendNotification (object : record.isByRequestObject = true)
    {part main : ContinuousTaskRecord} (before : ShowsOnly record tools shown)
    (labels : ∀ hash, createNotificationLabel hash part = createNotificationLabel hash record ∧
      createSubNotificationLabel hash part = createSubNotificationLabel hash record)
    (abilityName : part.abilityName = record.abilityName) (appName : String)
    (isSubNotification : Bool) :
    ShowsOnly record tools
      ((s.setTools shown).sendNotification env part main appName isSubNotification).tools := by
  unfold sendNotification NotificationTools.publishSubNotification
    NotificationTools.publishMainNotification
  dsimp only
  split
  · exact before
  split
  · exact before
  split
  · split
    · apply (before.takeId _).display
      rw [NotificationTools.takeId_hash]
      exact ⟨.inr ⟨object, (labels _).2⟩, abilityName⟩
    · exact before.takeId _
  · split
    · apply (before.takeId _).display
      rw [NotificationTools.takeId_hash]
      exact ⟨.inl (labels _).1, abilityName⟩
    · exact before.takeId _

theorem showsOnly_sendLiveViewAndOtherNotification (object : record.isByRequestObject = true) :
    ShowsOnly record s.tools (s.sendLiveViewAndOtherNotification env record).tools := by
  have labels : ∀ hash, createNotificationLabel hash (liveViewMainRecord record) =
        createNotificationLabel hash record ∧
      createSubNotificationLabel hash (liveViewMainRecord record) =
        createSubNotificationLabel hash record := by
    intro hash
    unfold createNotificationLabel createSubNotificationLabel
    rw [object]
    exact ⟨rfl, rfl⟩
  have main : ShowsOnly record s.tools (s.sendNotification env (liveViewMainRecord record) record
      (s.cachedAppName record.uid) false).tools :=
    showsOnly_sendNotification env s object .refl labels rfl _ _
  have sub := @showsOnly_sendNotification _ _ _ env s object (liveViewSubRecord record)
    (s.sendNotification env (liveViewMainRecord record) record
      (s.cachedAppName record.uid) false).record main labels rfl (s.cachedAppName record.uid) true
  unfold sendLiveViewAndOtherNotification
  dsimp only
  split
  · exact .refl
  split
  · exact .refl
  split
  · exact main
  split
  · exact sub
  split
  · exact sub.cancelNotification _ _
  · exact sub

theorem showsOnly_sendByModes : ShowsOnly record s.tools (s.sendByModes env record).tools := by
  unfold sendByModes
  split
  · rename_i both
    have object : record.isByRequestObject = true := by
      simp only [isLiveViewAndOther, Bool.and_eq_true] at both
      exact both.1.1
    exact showsOnly_sendLiveViewAndOtherNotification env s object
  · exact showsOnly_sendContinuousTaskNotification env s

theorem tools_determineMatchCombinedTaskNotifacation :
    (s.determineMatchCombinedTaskNotifacation record).mgr.tools = s.tools := by
  unfold determineMatchCombinedTaskNotifacation
  grind [setRecord]

theorem tools_checkCombinedTaskNotification :
    (s.checkCombinedTaskNotification record).mgr.tools = s.tools := by
  have matched := @tools_determineMatchCombinedTaskNotifacation record s
  unfold checkCombinedTaskNotification
  grind

theorem showsOnly_sendStartNotification : ShowsOnly record s.tools
    (sendStartNotification env (s.checkCombinedTaskNotification record)).tools := by
  have unsent : ShowsOnly record s.tools (s.checkCombinedTaskNotification record).mgr.tools := by
    rw [tools_checkCombinedTaskNotification]
    exact .refl
  rcases checkCombinedTaskNotification_cases s record with
    ⟨same, own, -⟩ | ⟨-, -, -, -, shared, -, -⟩
  · unfold sendStartNotification
    split
    · rw [same, own]
      exact showsOnly_sendByModes env s
    · exact unsent
  · unfold sendStartNotification
    rw [shared, Bool.and_false, if_neg (by simp)]
    exact unsent

theorem showsOnly_startBackgroundRunningSubmit (key : String) : ShowsOnly record s.tools
    (s.startBackgroundRunningSubmit env record key).2.tools := by
  have checked : ShowsOnly record s.tools (s.checkCombinedTaskNotification record).mgr.tools := by
    rw [tools_checkCombinedTaskNotification]
    exact .refl
  have sent : ShowsOnly record s.tools
      (sendStartNotification env (s.checkCombinedTaskNotification record)).tools :=
    showsOnly_sendStartNotification env s
  unfold startBackgroundRunningSubmit
  dsimp only
  split
  · exact .refl
  split
  · exact checked
  split
  · exact sent
  · rw [← saveTasks, tools_saveTasks]
    exact sent

end Shows

theorem keyOfLabel_of_published (env : Env) (s : BgContinuousTaskMgr)
    (record : ContinuousTaskRecord) :
    ∀ notification ∈ (s.startBackgroundRunningSubmit env record
        (taskInfoMapKey record)).2.tools.published,
      notification ∈ s.tools.published ∨
        keyOfLabel notification.label notification.abilityName = some (taskInfoMapKey record,
          decide (notification.label = createSubNotificationLabel s.tools.hash record)) := by
  intro notification shown
  have main := keyOfLabel_createNotificationLabel s.tools.hash record
  cases (showsOnly_startBackgroundRunningSubmit env s _).shown notification shown with
  | inl old => exact .inl old
  | inr notice =>
      right
      rw [notice.abilityName]
      rcases notice.label with isMain | ⟨object, isSub⟩
      · have other : createNotificationLabel s.tools.hash record ≠
            createSubNotificationLabel s.tools.hash record := by
          intro same
          have parts := congrArg (fun label => (stringSplit label '_').length) same
          simp only [stringSplit_createNotificationLabel,
            stringSplit_createSubNotificationLabel] at parts
          split at parts
          · simp at parts
          · simp at parts
        rw [isMain, main, decide_eq_false other]
      · rw [isSub, keyOfLabel_createSubNotificationLabel s.tools.hash object]
        simp

/-- A task that a start stores gets the key of its record, which was free. -/
theorem taskAt_startBackgroundRunningInner {env : Env} {s : BgContinuousTaskMgr}
    {record stored : ContinuousTaskRecord} {key : String} (free : s.taskAt key = none)
    (found : (s.startBackgroundRunningInner env record).2.taskAt key = some stored) :
    ReachesSubmit env record s ∧ key = taskInfoMapKey (withNextId s record) ∧
      taskInfoMapKey stored = key := by
  have kept : s.taskAt key ≠ some stored := by simp [free]
  by_cases disabled : record.uid ∈ s.disableRequestUidList
  · rw [show s.startBackgroundRunningInner env record = (.maliciousContinuoustask, s) from
      if_pos disabled] at found
    exact absurd found kept
  by_cases allowed : s.allowApplyContinuousTask env record = .ok
  case neg =>
    unfold startBackgroundRunningInner at found
    rw [if_neg disabled, if_pos allowed] at found
    exact absurd found kept
  rw [startBackgroundRunningInner_of_allowed disabled allowed] at found
  have start : Started (fun _ => True) (fun _ => True) (withNextId s record) s.nextTaskId _ :=
    started_startNumbered env trivial
  cases start with
  | refused edits => exact absurd (found.symm.trans (edits.taskAt_none free)) (by simp)
  | added new edits keeps unused saved =>
      rw [saved.taskAt, taskAt_addTask] at found
      split at found
      · rename_i own
        obtain rfl := Option.some.inj found
        obtain rfl := own
        refine ⟨⟨disabled, allowed, free⟩, rfl, ?_⟩
        unfold taskInfoMapKey
        rw [keeps.uid, keeps.abilityName, keeps.abilityId, keeps.isByRequestObject,
          keeps.continuousTaskId]
      · exact absurd (found.symm.trans (edits.taskAt_none free)) (by simp)

/-- The labels of a task and the name of its ability give back its key, for a
sub-notification as for the main one, and these are the notifications that its start shows.
It is the key under which a start stores the task. -/
theorem labels_lead_to_task (env : Env) (s : BgContinuousTaskMgr) (record : ContinuousTaskRecord) :
    keyOfLabel (createNotificationLabel s.tools.hash record) record.abilityName =
        some (taskInfoMapKey record, false) ∧
      keyOfLabel (createSubNotificationLabel s.tools.hash record) record.abilityName =
        some (taskInfoMapKey { record with isByRequestObject := true }, true) ∧
      (∀ notification ∈ (s.startBackgroundRunningSubmit env record
          (taskInfoMapKey record)).2.tools.published,
        notification ∈ s.tools.published ∨
          keyOfLabel notification.label notification.abilityName = some (taskInfoMapKey record,
            decide (notification.label = createSubNotificationLabel s.tools.hash record))) ∧
      ∀ key stored, s.taskAt key = none →
        (s.startBackgroundRunningInner env record).2.taskAt key = some stored →
        key = taskInfoMapKey (withNextId s record) ∧ taskInfoMapKey stored = key ∧
          ∀ notification ∈ (s.startBackgroundRunningInner env record).2.tools.published,
            notification ∈ s.tools.published ∨
              keyOfLabel notification.label notification.abilityName = some (key,
                decide (notification.label =
                  createSubNotificationLabel s.tools.hash (withNextId s record))) := by
  refine ⟨keyOfLabel_createNotificationLabel s.tools.hash record,
    @keyOfLabel_createSubNotificationLabel s.tools.hash
      { record with isByRequestObject := true } rfl,
    keyOfLabel_of_published env s record, ?_⟩
  intro key stored free found
  obtain ⟨reaches, rfl, own⟩ := taskAt_startBackgroundRunningInner free found
  refine ⟨rfl, own, ?_⟩
  rw [startBackgroundRunningInner_of_reaches reaches]
  have published := keyOfLabel_of_published env (startReady env record s) (withNextId s record)
  rwa [startReady_keeps.2.2] at published

/-! ## Labels of banners -/

/-- The text is one part: a separator may only end it. -/
def OnePart (text : String) : Prop := text ≠ "" ∧ '_' ∉ text.toList.dropLast

instance (text : String) : Decidable (OnePart text) := inferInstanceAs (Decidable (_ ∧ _))

theorem splitTokens_eq_nil {delim : Char} {taken token : List Char} :
    splitTokens delim taken token = [] ↔ taken = [] ∧ token = [] := by
  induction token generalizing taken with
  | nil => simp [splitTokens]
  | cons c token ih =>
      rw [splitTokens]
      split
      · simp
      · simp [ih]

theorem length_splitTokens_eq_one {delim : Char} {token : List Char} :
    ∀ taken : List Char, (splitTokens delim taken token).length = 1 ↔
      taken ++ token ≠ [] ∧ delim ∉ token.dropLast := by
  induction token with
  | nil =>
      intro taken
      rw [splitTokens]
      split
      · rename_i empty
        simp [empty]
      · rename_i filled
        simp [filled]
  | cons c token ih =>
      intro taken
      rw [splitTokens]
      split
      · rename_i ends
        have last : delim ∉ (c :: token).dropLast ↔ token = [] := by
          cases token with
          | nil => simp
          | cons c' token => simp [List.dropLast, ends]
        simp [splitTokens_eq_nil, last]
      · rename_i other
        have rest : delim ∉ (c :: token).dropLast ↔ delim ∉ token.dropLast := by
          cases token with
          | nil => simp
          | cons c' token => simp [List.dropLast, Ne.symm other]
        rw [ih, rest]
        simp

theorem length_stringSplit_eq_one (text : String) :
    (stringSplit text '_').length = 1 ↔ OnePart text := by
  rw [stringSplit, List.length_map, length_splitTokens_eq_one, OnePart]
  simp

theorem stringSplit_createBannerNotificationLabel (bundleName : String) (userId appIndex : Int) :
    stringSplit (createBannerNotificationLabel bundleName userId appIndex) '_' =
      "bgbanner" :: toString userId :: toString appIndex :: stringSplit bundleName '_' := by
  have front : "bgbanner_" = "bgbanner" ++ "_" := rfl
  unfold createBannerNotificationLabel
  rw [front]
  simp only [String.append_assoc]
  rw [stringSplit_append (by decide), stringSplit_number, stringSplit_number]

/-- The label of a banner is known as one exactly when the name of the bundle is one part. -/
theorem isBannerLabel_iff (app : AuthApp) :
    isBannerLabel app.label = true ↔ OnePart app.bundleName := by
  unfold isBannerLabel AuthApp.label
  rw [stringSplit_createBannerNotificationLabel, ← length_stringSplit_eq_one]
  simp

end BgTaskMgr.Continuous
