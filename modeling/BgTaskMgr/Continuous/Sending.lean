import BgTaskMgr.Continuous.Numbering

/-!
# What a publication does

The functions that publish the notifications of a record, when publications and
cancellations succeed: the notifications stay as they are, the main one is cleared because
it has no text, it is published under the record's own label, with or without a
sub-notification, or it is withdrawn again because the sub-notification has no text.
-/

set_option autoImplicit false

namespace BgTaskMgr.Continuous

open BgContinuousTaskMgr

def ownPair (tools : NotificationTools) (record : ContinuousTaskRecord) : String × Int :=
  (createNotificationLabel tools.hash record, tools.chosenId record.notificationId)

def ownSubPair (tools : NotificationTools) (record : ContinuousTaskRecord) : String × Int :=
  (createSubNotificationLabel tools.hash record, tools.chosenId record.subNotificationId)

inductive SendKind where
  | keeps
  | clears
  | publishes
  | withdraws
  deriving DecidableEq, Repr

/-- What `SendContinuousTaskNotification` comes to: a text may be missing, empty, or left
to AVSession. -/
def sendKind (env : Env) (s : BgContinuousTaskMgr) (record : ContinuousTaskRecord) : SendKind :=
  let prompt := s.checkNotificationText env record
  if s.texts.continuousTaskText = [] ∨ s.cachedAppName record.uid = "" ∨ prompt.ret ≠ .ok then
    .keeps
  else if prompt.text = "" then
    if record.notificationId ≠ -1 then .clears else .keeps
  else if s.shownByAvsession record then .keeps
  else .publishes

/-- What sending comes to at a start or a reactivation, with two parts of a live view task
that may have no text. -/
def sendKindByModes (env : Env) (s : BgContinuousTaskMgr) (record : ContinuousTaskRecord) :
    SendKind :=
  if isLiveViewAndOther record then
    if s.texts.continuousTaskText = [] ∨ s.cachedAppName record.uid = "" ∨
        (s.checkNotificationText env (liveViewMainRecord record)).ret ≠ .ok then .keeps
    else if (s.checkNotificationText env (liveViewSubRecord record)).ret ≠ .ok then .withdraws
    else .publishes
  else sendKind env s record

inductive SendOutcome (tools : NotificationTools) (record : ContinuousTaskRecord) (sent : Sent) :
    SendKind → Prop where
  | kept (same : SameNotices record sent.record)
      (shown : ∀ pair, sent.tools.Shown pair ↔ tools.Shown pair)
      (hash : sent.tools.hash = tools.hash)
      (index : sent.tools.notificationIdIndex = tools.notificationIdIndex) :
      SendOutcome tools record sent .keeps
  | cleared (edited : Edited record sent.record) (none : sent.record.notificationId = -1)
      (sub : sent.record.subPair = record.subPair)
      (shown : ∀ pair, sent.tools.Shown pair ↔ tools.Shown pair ∧ pair ≠ record.mainPair)
      (hash : sent.tools.hash = tools.hash)
      (index : sent.tools.notificationIdIndex = tools.notificationIdIndex) :
      SendOutcome tools record sent .clears
  | published (ret : sent.ret = .ok) (edited : Edited record sent.record)
      (main : sent.record.mainPair = ownPair tools record)
      (sub : sent.record.subPair = record.subPair)
      (shown : ∀ pair, sent.tools.Shown pair ↔ tools.Shown pair ∨ pair = ownPair tools record)
      (hash : sent.tools.hash = tools.hash)
      (index : sent.tools.notificationIdIndex =
        (tools.takeId record.notificationId).notificationIdIndex) :
      SendOutcome tools record sent .publishes
  | both (ret : sent.ret = .ok) (edited : Edited record sent.record)
      (request : record.isByRequestObject = true)
      (main : sent.record.mainPair = ownPair tools record)
      (sub : sent.record.subPair = ownSubPair (tools.takeId record.notificationId) record)
      (shown : ∀ pair, sent.tools.Shown pair ↔ tools.Shown pair ∨ pair = ownPair tools record ∨
        pair = ownSubPair (tools.takeId record.notificationId) record)
      (hash : sent.tools.hash = tools.hash)
      (index : sent.tools.notificationIdIndex = ((tools.takeId record.notificationId).takeId
        record.subNotificationId).notificationIdIndex) :
      SendOutcome tools record sent .publishes
  | withdrawn (edited : Edited record sent.record)
      (main : sent.record.mainPair = ownPair tools record)
      (sub : sent.record.subPair = record.subPair)
      (shown : ∀ pair, sent.tools.Shown pair ↔ tools.Shown pair ∧ pair ≠ ownPair tools record)
      (hash : sent.tools.hash = tools.hash)
      (index : sent.tools.notificationIdIndex =
        (tools.takeId record.notificationId).notificationIdIndex) (failed : sent.ret ≠ .ok) :
      SendOutcome tools record sent .withdraws

theorem SendOutcome.of_tools {tools : NotificationTools} {record : ContinuousTaskRecord}
    {sent : Sent} (same : SameNotices record sent.record) (unchanged : sent.tools = tools) :
    SendOutcome tools record sent .keeps :=
  .kept same (fun _ => by rw [unchanged]) (by rw [unchanged]) (by rw [unchanged])

/-! ## The functions that send -/

theorem NotificationTools.takeId_hash (tools : NotificationTools) (currentId : Int) :
    (tools.takeId currentId).hash = tools.hash := by
  unfold takeId
  split
  · rfl
  · rfl

theorem NotificationTools.takeId_index (tools : NotificationTools) (currentId : Int) :
    (tools.takeId currentId).notificationIdIndex =
      if currentId = -1 then tools.notificationIdIndex + 1 else tools.notificationIdIndex := by
  unfold takeId
  split
  · rfl
  · rfl

section Sending

variable {env : Env} {s : BgContinuousTaskMgr} {record : ContinuousTaskRecord}

/-- The main part of a live view task: its text is missing, or it is published or refused. -/
theorem sendLiveView_main (request : record.isByRequestObject = true) (appName : String) :
    ∃ notification : Notification, notification.pair = ownPair s.tools record ∧
      s.sendNotification env (liveViewMainRecord record) record appName false =
        if (s.checkNotificationText env (liveViewMainRecord record)).ret ≠ .ok then
          ⟨(s.checkNotificationText env (liveViewMainRecord record)).ret, record, s.tools⟩
        else if env.publishOk (ownPair s.tools record).1 (ownPair s.tools record).2 then
          ⟨.ok, { record with
            notificationLabel := (ownPair s.tools record).1
            notificationId := (ownPair s.tools record).2 },
            (s.tools.takeId record.notificationId).display notification⟩
        else ⟨.notificationErr, record, s.tools.takeId record.notificationId⟩ := by
  have label : createNotificationLabel s.tools.hash (liveViewMainRecord record) =
      createNotificationLabel s.tools.hash record := by
    unfold createNotificationLabel
    rw [request]
    rfl
  unfold sendNotification NotificationTools.publishMainNotification
  dsimp only
  rw [label]
  exact ⟨_, rfl, rfl⟩

/-- The other part of a live view task, for the record with its main notification: its text
is missing, it is empty, or it is published or refused. -/
theorem sendLiveView_part (tools : NotificationTools) (main : ContinuousTaskRecord)
    (sameSub : main.subNotificationId = record.subNotificationId) (appName : String) :
    ∃ notification : Notification, notification.pair = ownSubPair tools record ∧
      (s.setTools tools).sendNotification env (liveViewSubRecord record) main appName true =
        if (s.checkNotificationText env (liveViewSubRecord record)).ret ≠ .ok then
          ⟨(s.checkNotificationText env (liveViewSubRecord record)).ret, main, tools⟩
        else if (s.checkNotificationText env (liveViewSubRecord record)).text = "" then
          ⟨.ok, main, tools⟩
        else if env.publishOk (ownSubPair tools record).1 (ownSubPair tools record).2 then
          ⟨.ok, { main with
            subNotificationLabel := (ownSubPair tools record).1
            subNotificationId := (ownSubPair tools record).2 },
            (tools.takeId record.subNotificationId).display notification⟩
        else ⟨.notificationErr, main, tools.takeId record.subNotificationId⟩ := by
  unfold sendNotification NotificationTools.publishSubNotification
  dsimp only
  rw [sameSub]
  simp only [Bool.true_and, beq_iff_eq, if_true]
  exact ⟨_, rfl, rfl⟩

variable (publishes : ∀ label id, env.publishOk label id = true) (s record)

include publishes

theorem outcome_of_publishes_sendContinuousTaskNotification
    (cancels : sendKind env s record ≠ .publishes → ∀ label id, env.cancelOk label id = true) :
    SendOutcome s.tools record (s.sendContinuousTaskNotification env record)
      (sendKind env s record) := by
  have noted := sameNotices_note (s.checkNotificationText env record) record
  unfold sendContinuousTaskNotification
  dsimp only
  split
  · rename_i missing
    rw [show sendKind env s record = .keeps from if_pos (Or.inl missing)]
    exact .of_tools (SameNotices.refl record) rfl
  rename_i texts
  split
  · rename_i nameless
    rw [show sendKind env s record = .keeps from if_pos (Or.inr (Or.inl nameless))]
    exact .of_tools (SameNotices.refl record) rfl
  rename_i named
  split
  · rename_i failed
    rw [show sendKind env s record = .keeps from if_pos (Or.inr (Or.inr failed))]
    exact .of_tools noted rfl
  rename_i ok
  have ready : ¬ (s.texts.continuousTaskText = [] ∨ s.cachedAppName record.uid = "" ∨
      (s.checkNotificationText env record).ret ≠ .ok) := by
    rintro (missing | nameless | failed)
    · exact texts missing
    · exact named nameless
    · exact ok failed
  have kind := show sendKind env s record = _ from if_neg ready
  rw [kind]
  split
  · rename_i empty
    split
    · rename_i given
      have clears : sendKind env s record = .clears := by rw [kind, if_pos empty, if_pos given]
      refine .cleared ?_ rfl noted.subPair ?_ ?_ ?_
      · exact noted.toEdited.trans ⟨⟨rfl, rfl, rfl, rfl, rfl, rfl⟩, rfl⟩
      · intro pair
        exact s.tools.shown_cancelNotification (cancels (by simp [clears])) record.mainPair pair
      · exact (s.tools.cancelNotification_keeps env.toNotificationEnv record.mainPair).1
      · exact (s.tools.cancelNotification_keeps env.toNotificationEnv record.mainPair).2
    · exact .of_tools noted rfl
  split
  · exact .of_tools noted rfl
  · -- the text is shown under the label of the record
    have label := createNotificationLabel_congr s.tools.hash noted.toSameTask
    have id : (Prompt.note (s.checkNotificationText env record) record).notificationId =
        record.notificationId := congrArg Prod.snd noted.mainPair
    unfold NotificationTools.publishNotification
    dsimp only
    rw [if_pos (publishes _ _)]
    refine .published rfl ?_ ?_ noted.subPair ?_ ?_ ?_
    · exact noted.toEdited.trans ⟨⟨rfl, rfl, rfl, rfl, rfl, rfl⟩, rfl⟩
    · show (createNotificationLabel s.tools.hash _, s.tools.chosenId _) = _
      rw [label, id]
      rfl
    · intro pair
      show (NotificationTools.display _ _).Shown pair ↔ _
      rw [NotificationTools.shown_display, NotificationTools.shown_takeId]
      show s.tools.Shown pair ∨ pair = (createNotificationLabel s.tools.hash _,
        s.tools.chosenId _) ↔ _
      rw [label, id]
      rfl
    · exact s.tools.takeId_hash _
    · show (s.tools.takeId _).notificationIdIndex = _
      rw [id]

theorem outcome_of_publishes_sendLiveViewAndOtherNotification
    (cancels : sendKindByModes env s record ≠ .publishes → ∀ label id, env.cancelOk label id = true)
    (parts : isLiveViewAndOther record = true)
    (valid : s.tools.chosenId record.notificationId ≠ -1) :
    SendOutcome s.tools record (s.sendLiveViewAndOtherNotification env record)
      (sendKindByModes env s record) := by
  have request : record.isByRequestObject = true := by
    simp only [isLiveViewAndOther, Bool.and_eq_true] at parts
    exact parts.1.1
  have kind := show sendKindByModes env s record = _ from if_pos parts
  rw [kind]
  unfold sendLiveViewAndOtherNotification
  dsimp only
  by_cases missing : s.texts.continuousTaskText = []
  · rw [if_pos missing, if_pos (Or.inl missing)]
    exact .of_tools (SameNotices.refl record) rfl
  rw [if_neg missing]
  by_cases nameless : s.cachedAppName record.uid = ""
  · rw [if_pos nameless, if_pos (Or.inr (Or.inl nameless))]
    exact .of_tools (SameNotices.refl record) rfl
  rw [if_neg nameless]
  obtain ⟨notification, pair, main⟩ :=
    @sendLiveView_main env s record request (s.cachedAppName record.uid)
  rw [if_pos (publishes _ _)] at main
  rw [main]
  by_cases failed : (s.checkNotificationText env (liveViewMainRecord record)).ret ≠ .ok
  · rw [if_pos failed, if_pos failed, if_pos (Or.inr (Or.inr failed))]
    exact .of_tools (SameNotices.refl record) rfl
  have ready : ¬ (s.texts.continuousTaskText = [] ∨ s.cachedAppName record.uid = "" ∨
      (s.checkNotificationText env (liveViewMainRecord record)).ret ≠ .ok) := by
    simp [missing, nameless, not_not.mp failed]
  rw [if_neg failed, if_neg (by simp), if_neg ready]
  have edited : Edited record { record with
      notificationLabel := createNotificationLabel s.tools.hash record
      notificationId := s.tools.chosenId record.notificationId } :=
    ⟨⟨rfl, rfl, rfl, rfl, rfl, rfl⟩, rfl⟩
  -- what is shown when the main notification is out
  have shown : ∀ other, ((s.tools.takeId record.notificationId).display notification).Shown other ↔
      s.tools.Shown other ∨ other = ownPair s.tools record := by
    intro other
    rw [NotificationTools.shown_display, NotificationTools.shown_takeId, pair]
  have hash : ((s.tools.takeId record.notificationId).display notification).hash = s.tools.hash :=
    s.tools.takeId_hash record.notificationId
  obtain ⟨subNotification, subPair, sub⟩ := @sendLiveView_part env s record
    ((s.tools.takeId record.notificationId).display notification)
    { record with
      notificationLabel := (ownPair s.tools record).1
      notificationId := (ownPair s.tools record).2 } rfl
    (s.cachedAppName record.uid)
  rw [if_pos (publishes _ _)] at sub
  rw [sub]
  by_cases subFailed : (s.checkNotificationText env (liveViewSubRecord record)).ret ≠ .ok
  · have withdraws : sendKindByModes env s record = .withdraws := by
      rw [kind, if_neg ready, if_pos subFailed]
    rw [if_pos subFailed, if_pos subFailed]
    dsimp only
    rw [if_neg subFailed, if_pos (show (ownPair s.tools record).2 ≠ -1 from valid)]
    refine .withdrawn edited rfl rfl ?_ ?_ ?_ subFailed
    · intro other
      show (NotificationTools.cancelNotification _ _ _).2.Shown other ↔ _
      rw [NotificationTools.shown_cancelNotification _ (cancels (by simp [withdraws]))]
      show ((s.tools.takeId record.notificationId).display notification).Shown other ∧
        other ≠ ownPair s.tools record ↔ _
      rw [shown]
      by_cases own : other = ownPair s.tools record
      · simp [own]
      · simp [own]
    · exact (NotificationTools.cancelNotification_keeps _ _ _).1.trans hash
    · exact (NotificationTools.cancelNotification_keeps _ _ _).2.trans rfl
  rw [if_neg subFailed, if_neg subFailed]
  split
  · rw [if_pos rfl]
    exact .published rfl edited rfl rfl shown hash rfl
  · have own : ownSubPair ((s.tools.takeId record.notificationId).display notification) record =
        ownSubPair (s.tools.takeId record.notificationId) record := rfl
    rw [if_pos rfl]
    refine .both rfl ⟨⟨rfl, rfl, rfl, rfl, rfl, rfl⟩, rfl⟩ request rfl rfl ?_ ?_ ?_
    · intro other
      show (NotificationTools.display _ _).Shown other ↔ _
      rw [NotificationTools.shown_display, NotificationTools.shown_takeId, subPair]
      show ((s.tools.takeId record.notificationId).display notification).Shown other ∨
        other = ownSubPair ((s.tools.takeId record.notificationId).display notification) record ↔ _
      rw [shown, own, or_assoc]
    · exact (NotificationTools.takeId_hash _ _).trans hash
    · show (((s.tools.takeId record.notificationId).display notification).takeId
        record.subNotificationId).notificationIdIndex = _
      rw [NotificationTools.takeId_index, NotificationTools.takeId_index]
      rfl

theorem outcome_of_publishes_sendByModes
    (cancels : sendKindByModes env s record ≠ .publishes → ∀ label id, env.cancelOk label id = true)
    (valid : s.tools.chosenId record.notificationId ≠ -1) :
    SendOutcome s.tools record (s.sendByModes env record) (sendKindByModes env s record) := by
  unfold sendByModes
  split
  · rename_i parts
    exact outcome_of_publishes_sendLiveViewAndOtherNotification s record publishes cancels parts
      valid
  · rename_i whole
    unfold sendKindByModes at cancels ⊢
    rw [if_neg whole] at cancels ⊢
    exact outcome_of_publishes_sendContinuousTaskNotification s record publishes cancels

end Sending

section Succeeding

variable {env : Env} (succeed : env.NotificationsSucceed) (s : BgContinuousTaskMgr)
  (record : ContinuousTaskRecord)

include succeed

theorem outcome_sendContinuousTaskNotification :
    SendOutcome s.tools record (s.sendContinuousTaskNotification env record)
      (sendKind env s record) :=
  outcome_of_publishes_sendContinuousTaskNotification s record succeed.1 (fun _ => succeed.2)

theorem outcome_sendByModes (valid : s.tools.chosenId record.notificationId ≠ -1) :
    SendOutcome s.tools record (s.sendByModes env record) (sendKindByModes env s record) :=
  outcome_of_publishes_sendByModes s record succeed.1 (fun _ => succeed.2) valid

end Succeeding

/-! ## Labels and ids after a publication -/

section Numbered

variable {tools : NotificationTools} {s : BgContinuousTaskMgr} {record : ContinuousTaskRecord}
  {sent : Sent} {kind : SendKind}

theorem SendOutcome.edited (outcome : SendOutcome tools record sent kind) :
    Edited record sent.record := by
  cases outcome with
  | kept same shown hash index => exact same.toEdited
  | cleared edited none sub shown hash index => exact edited
  | published ret edited main sub shown hash index => exact edited
  | both ret edited request main sub shown hash index => exact edited
  | withdrawn edited main sub shown hash index => exact edited

theorem SendOutcome.hash (outcome : SendOutcome tools record sent kind) :
    sent.tools.hash = tools.hash := by
  cases outcome with
  | kept same shown hash index => exact hash
  | cleared edited none sub shown hash index => exact hash
  | published ret edited main sub shown hash index => exact hash
  | both ret edited request main sub shown hash index => exact hash
  | withdrawn edited main sub shown hash index => exact hash

theorem le_takeId (tools : NotificationTools) (currentId : Int) :
    tools.notificationIdIndex ≤ (tools.takeId currentId).notificationIdIndex := by
  rw [NotificationTools.takeId_index]
  split
  · omega
  · omega

theorem SendOutcome.index_le (outcome : SendOutcome tools record sent kind) :
    tools.notificationIdIndex ≤ sent.tools.notificationIdIndex := by
  cases outcome with
  | kept same shown hash index => rw [index]
  | cleared edited none sub shown hash index => rw [index]
  | published ret edited main sub shown hash index =>
      rw [index]
      exact le_takeId tools record.notificationId
  | both ret edited request main sub shown hash index =>
      rw [index]
      exact (le_takeId tools record.notificationId).trans (le_takeId _ _)
  | withdrawn edited main sub shown hash index =>
      rw [index]
      exact le_takeId tools record.notificationId

/-- The id of a publication is the record's own or a new one. -/
theorem chosenId_bounds {tools : NotificationTools} {currentId : Int}
    (counter : -1 ≤ tools.notificationIdIndex)
    (bounds : -1 ≤ currentId ∧ currentId ≤ tools.notificationIdIndex) :
    0 ≤ tools.chosenId currentId ∧
      tools.chosenId currentId ≤ (tools.takeId currentId).notificationIdIndex := by
  rw [NotificationTools.takeId_index]
  unfold NotificationTools.chosenId
  split
  · omega
  · omega

theorem MainLabelled.published {later : NotificationTools} {edited : ContinuousTaskRecord}
    (labelled : MainLabelled tools record) (counter : -1 ≤ tools.notificationIdIndex)
    (same : ContinuousTaskRecord.SameTask record edited)
    (main : edited.mainPair = ownPair tools record)
    (index : (tools.takeId record.notificationId).notificationIdIndex ≤
      later.notificationIdIndex) : MainLabelled later edited := by
  have label : edited.notificationLabel = createNotificationLabel tools.hash record :=
    congrArg Prod.fst main
  have id : edited.notificationId = tools.chosenId record.notificationId :=
    congrArg Prod.snd main
  have bounds := chosenId_bounds counter labelled.mainId
  refine ⟨?_, ?_, by omega⟩
  · intro _
    rw [label, same.uid]
    exact ownLabel_createNotificationLabel tools.hash record
  · intro _
    rw [label]
    exact separators_createNotificationLabel tools.hash record

theorem SubLabelled.published {tools later : NotificationTools} {edited : ContinuousTaskRecord}
    (labelled : SubLabelled tools record) (counter : -1 ≤ tools.notificationIdIndex)
    (same : ContinuousTaskRecord.SameTask record edited)
    (request : record.isByRequestObject = true) (sub : edited.subPair = ownSubPair tools record)
    (hash : later.hash = tools.hash)
    (index : (tools.takeId record.subNotificationId).notificationIdIndex ≤
      later.notificationIdIndex) : SubLabelled later edited := by
  have label : edited.subNotificationLabel = createSubNotificationLabel tools.hash record :=
    congrArg Prod.fst sub
  have id : edited.subNotificationId = tools.chosenId record.subNotificationId :=
    congrArg Prod.snd sub
  have bounds := chosenId_bounds counter labelled.subId
  refine ⟨?_, by omega⟩
  intro _
  rw [label, hash, createSubNotificationLabel_congr tools.hash same, same.isByRequestObject]
  exact ⟨request, rfl⟩

theorem SendOutcome.labelled (outcome : SendOutcome tools record sent kind)
    (labelled : Labelled tools record) (counter : -1 ≤ tools.notificationIdIndex) :
    Labelled sent.tools sent.record := by
  have taken := le_takeId tools record.notificationId
  cases outcome with
  | kept same shown hash index =>
      exact (labelled.of_record same.toSameTask (Or.inl same.mainPair) same.subPair).mono hash
        (le_of_eq index.symm)
  | cleared edited none sub shown hash index =>
      exact (labelled.of_record edited.toSameTask (Or.inr none) sub).mono hash
        (le_of_eq index.symm)
  | published ret edited main sub shown hash index =>
      refine ⟨labelled.toMainLabelled.published counter edited.toSameTask main
        (le_of_eq index.symm), ?_⟩
      exact (labelled.toSubLabelled.of_record edited.toSameTask sub).mono hash
        (taken.trans (le_of_eq index.symm))
  | both ret edited request main sub shown hash index =>
      have early : SubLabelled (tools.takeId record.notificationId) record :=
        labelled.toSubLabelled.mono (tools.takeId_hash record.notificationId) taken
      have again := le_takeId (tools.takeId record.notificationId) record.subNotificationId
      refine ⟨labelled.toMainLabelled.published counter edited.toSameTask main
        (again.trans (le_of_eq index.symm)), ?_⟩
      exact early.published (counter.trans taken) edited.toSameTask request sub
        (hash.trans (tools.takeId_hash record.notificationId).symm) (le_of_eq index.symm)
  | withdrawn edited main sub shown hash index =>
      refine ⟨labelled.toMainLabelled.published counter edited.toSameTask main
        (le_of_eq index.symm), ?_⟩
      exact (labelled.toSubLabelled.of_record edited.toSameTask sub).mono hash
        (taken.trans (le_of_eq index.symm))

/-- What is shown after a publication was shown before or has the id it took. -/
theorem SendOutcome.shownIds (outcome : SendOutcome tools record sent kind)
    (labelled : Labelled tools record) (counter : -1 ≤ tools.notificationIdIndex)
    (shownIds : ∀ pair, tools.Shown pair → pair.2 ≠ -1) (pair : String × Int)
    (shown : sent.tools.Shown pair) : pair.2 ≠ -1 := by
  have mainId : 0 ≤ (ownPair tools record).2 := (chosenId_bounds counter labelled.mainId).1
  cases outcome with
  | kept same shown' hash index => exact shownIds pair ((shown' pair).mp shown)
  | cleared edited none sub shown' hash index =>
      exact shownIds pair ((shown' pair).mp shown).1
  | published ret edited main sub shown' hash index =>
      rcases (shown' pair).mp shown with old | rfl
      · exact shownIds pair old
      · omega
  | both ret edited request main sub shown' hash index =>
      have taken := le_takeId tools record.notificationId
      have subBounds : -1 ≤ record.subNotificationId ∧ record.subNotificationId ≤
          (tools.takeId record.notificationId).notificationIdIndex :=
        ⟨labelled.subId.1, labelled.subId.2.trans taken⟩
      have subId : 0 ≤ (ownSubPair (tools.takeId record.notificationId) record).2 :=
        (chosenId_bounds (counter.trans taken) subBounds).1
      rcases (shown' pair).mp shown with old | rfl | rfl
      · exact shownIds pair old
      · omega
      · omega
  | withdrawn edited main sub shown' hash index =>
      exact shownIds pair ((shown' pair).mp shown).1

theorem Numbered.setTools (numbered : Numbered s) (labelled : Labelled s.tools record)
    (outcome : SendOutcome s.tools record sent kind) : Numbered (s.setTools sent.tools) := by
  refine ⟨?_, numbered.counter.trans outcome.index_le,
    outcome.shownIds labelled numbered.counter numbered.shownIds⟩
  intro key task stored
  exact (numbered.labelled key task stored).mono outcome.hash outcome.index_le

theorem Numbered.setRecord {key : String} {edited : ContinuousTaskRecord} (numbered : Numbered s)
    (labelled : Labelled s.tools edited) : Numbered (s.setRecord key edited) := by
  refine ⟨?_, numbered.counter, numbered.shownIds⟩
  intro other task stored
  rw [taskAt_setRecord] at stored
  split at stored
  · obtain ⟨_, -, rfl⟩ := Option.map_eq_some_iff.mp stored
    exact labelled
  · exact numbered.labelled other task stored

theorem Numbered.addTask {key : String} {stored : ContinuousTaskRecord} (numbered : Numbered s)
    (labelled : Labelled s.tools stored) : Numbered (s.addTask key stored) := by
  refine ⟨?_, numbered.counter, numbered.shownIds⟩
  intro other task found
  rw [taskAt_addTask] at found
  split at found
  · obtain rfl := Option.some.inj found
    exact labelled
  · exact numbered.labelled other task found

/-- The record of a task is replaced by what a publication made of it. -/
theorem Numbered.setSent {key : String} (numbered : Numbered s)
    (found : s.taskAt key = some record) (outcome : SendOutcome s.tools record sent kind) :
    Numbered (s.setSent key sent) :=
  (numbered.setTools (numbered.labelled key record found) outcome).setRecord
    (outcome.labelled (numbered.labelled key record found) numbered.counter)

end Numbered

/-! ## What a text depends on -/

structure SameSources (uid : Int) (before after : BgContinuousTaskMgr) : Prop where
  texts : after.texts = before.texts
  cachedBundleInfos : after.cachedBundleInfos.lookup uid = before.cachedBundleInfos.lookup uid
  liveViewInfo : after.liveViewInfo.lookup uid = before.liveViewInfo.lookup uid
  avSessionNotification :
    after.avSessionNotification.lookup uid = before.avSessionNotification.lookup uid

theorem SameSources.refl (uid : Int) (s : BgContinuousTaskMgr) : SameSources uid s s :=
  ⟨rfl, rfl, rfl, rfl⟩

theorem SameSources.trans {uid : Int} {first second third : BgContinuousTaskMgr}
    (early : SameSources uid first second) (late : SameSources uid second third) :
    SameSources uid first third :=
  ⟨late.texts.trans early.texts, late.cachedBundleInfos.trans early.cachedBundleInfos,
    late.liveViewInfo.trans early.liveViewInfo,
    late.avSessionNotification.trans early.avSessionNotification⟩

section SameSources

variable {before after : BgContinuousTaskMgr} {record : ContinuousTaskRecord}

theorem SameSources.isPublishAvsession {uid : Int} (same : SameSources uid before after)
    (subModes : List Nat) (isByRequestObject : Bool) :
    after.isPublishAvsession uid subModes isByRequestObject =
      before.isPublishAvsession uid subModes isByRequestObject := by
  unfold BgContinuousTaskMgr.isPublishAvsession
  rw [same.avSessionNotification]

theorem SameSources.checkNotificationText (env : Env) (same : SameSources record.uid before after) :
    after.checkNotificationText env record = before.checkNotificationText env record := by
  unfold BgContinuousTaskMgr.checkNotificationText
  unfold checkLiveViewInfo checkSpecialNotificationText modesNotificationText
  unfold filterNotificationMode singleModeNotificationText mergeNotificationText
  simp only [same.isPublishAvsession, same.texts, same.liveViewInfo]

theorem SameSources.sendKind (env : Env) (same : SameSources record.uid before after) :
    Continuous.sendKind env after record = Continuous.sendKind env before record := by
  unfold Continuous.sendKind cachedAppName shownByAvsession
  rw [same.checkNotificationText env, same.texts, same.cachedBundleInfos, same.isPublishAvsession]

theorem SameSources.sendKindByModes (env : Env) (same : SameSources record.uid before after) :
    Continuous.sendKindByModes env after record = Continuous.sendKindByModes env before record := by
  have main : SameSources (liveViewMainRecord record).uid before after := same
  have sub : SameSources (liveViewSubRecord record).uid before after := same
  unfold Continuous.sendKindByModes cachedAppName
  rw [same.sendKind env, main.checkNotificationText env, sub.checkNotificationText env, same.texts,
    same.cachedBundleInfos]

end SameSources

def contents (record : ContinuousTaskRecord) : ContinuousTaskRecord :=
  { record with
    notificationLabel := ""
    notificationId := 0
    subNotificationLabel := ""
    subNotificationId := 0
    audioPlayState := true }

theorem sendKindByModes_contents (env : Env) (s : BgContinuousTaskMgr)
    (record : ContinuousTaskRecord) :
    sendKindByModes env s record =
      if record.notificationId = -1 ∧ sendKindByModes env s (contents record) = .clears then .keeps
      else sendKindByModes env s (contents record) := by
  have whole : isLiveViewAndOther (contents record) = isLiveViewAndOther record := rfl
  have text : s.checkNotificationText env (contents record) = s.checkNotificationText env record :=
    rfl
  have av : s.shownByAvsession (contents record) = s.shownByAvsession record := rfl
  have main : liveViewMainRecord (contents record) = liveViewMainRecord record := rfl
  have sub : liveViewSubRecord (contents record) = liveViewSubRecord record := rfl
  have uid : (contents record).uid = record.uid := rfl
  have id : (contents record).notificationId = 0 := rfl
  unfold sendKindByModes sendKind
  rw [whole, main, sub, text, av, uid, id]
  dsimp only
  by_cases absent : record.notificationId = -1
  · grind
  · grind

/-! ## What sending leaves alone -/

section Contents

variable (env : Env) (s : BgContinuousTaskMgr) (record : ContinuousTaskRecord)

theorem contents_note (prompt : Prompt) : contents (prompt.note record) = contents record := by
  unfold Prompt.note
  split
  · rfl
  · rfl

theorem contents_sendContinuousTaskNotification :
    contents (s.sendContinuousTaskNotification env record).record = contents record := by
  have noted := contents_note record (s.checkNotificationText env record)
  unfold sendContinuousTaskNotification
  dsimp only
  split
  · rfl
  split
  · rfl
  split
  · exact noted
  split
  · split
    · exact noted
    · exact noted
  split
  · exact noted
  · unfold NotificationTools.publishNotification
    dsimp only
    split
    · exact noted
    · exact noted

theorem contents_sendNotification (subRecord : ContinuousTaskRecord) (appName : String)
    (isSubNotification : Bool) :
    contents (s.sendNotification env subRecord record appName isSubNotification).record =
      contents record := by
  unfold sendNotification
  dsimp only
  split
  · rfl
  split
  · rfl
  split
  · unfold NotificationTools.publishSubNotification
    dsimp only
    split
    · rfl
    · rfl
  · unfold NotificationTools.publishMainNotification
    dsimp only
    split
    · rfl
    · rfl

theorem contents_sendLiveViewAndOtherNotification :
    contents (s.sendLiveViewAndOtherNotification env record).record = contents record := by
  have main := contents_sendNotification env s record (liveViewMainRecord record)
    (s.cachedAppName record.uid) false
  have sub := contents_sendNotification env
    (s.setTools (s.sendNotification env (liveViewMainRecord record) record
      (s.cachedAppName record.uid) false).tools)
    (s.sendNotification env (liveViewMainRecord record) record
      (s.cachedAppName record.uid) false).record (liveViewSubRecord record)
    (s.cachedAppName record.uid) true
  unfold sendLiveViewAndOtherNotification
  dsimp only
  split
  · rfl
  split
  · rfl
  split
  · exact main
  split
  · exact sub.trans main
  split
  · exact sub.trans main
  · exact sub.trans main

theorem contents_sendByModes : contents (s.sendByModes env record).record = contents record := by
  unfold sendByModes
  split
  · exact contents_sendLiveViewAndOtherNotification env s record
  · exact contents_sendContinuousTaskNotification env s record

theorem contents_handleActiveNotification :
    contents (s.handleActiveNotification env record).record = contents record := by
  unfold handleActiveNotification
  split
  · rfl
  · exact contents_sendByModes env s record

end Contents

end BgTaskMgr.Continuous
