import BgTaskMgr.Continuous.Republishing
import BgTaskMgr.Continuous.UpdateExits

/-!
# Exits of a start

A start checks, merges, publishes up to two notifications, stores, announces and saves, and
returns the result of the save.  Where the key is taken it looks at the suspension of the
record it brings, not of the one that is stored.
-/

set_option autoImplicit false

namespace BgTaskMgr.Continuous

open BgContinuousTaskMgr

inductive Requesting (env : Env) : ContinuousTaskRecord → Prop where
  | client {callingUid : Int} {taskParam : ContinuousTaskParam} {record : ContinuousTaskRecord}
      (built : startRecord env callingUid taskParam = some record) : Requesting env record
  | inner (callingUid : Int) (taskParam : ContinuousTaskParamForInner) :
      Requesting env (innerRecord env taskParam callingUid)

theorem Requesting.fresh {env : Env} {record : ContinuousTaskRecord}
    (requesting : Requesting env record) : Fresh record := by
  cases requesting with
  | client built => exact (fresh_startRecord built).1
  | inner callingUid taskParam => exact fresh_innerRecord env taskParam callingUid

def withNextId (s : BgContinuousTaskMgr) (record : ContinuousTaskRecord) : ContinuousTaskRecord :=
  { record with continuousTaskId := s.continuousTaskIdIndex + 1 }

/-! ## A key that is taken -/

section Taken

variable {env : Env} {s : BgContinuousTaskMgr} {record existing : ContinuousTaskRecord}

/-- The task under the key is active again, and its subscribers were told. -/
structure Woken (key : String) (before : BgContinuousTaskMgr)
    (started : ErrCode × BgContinuousTaskMgr) : Prop where
  ret : started.1 = .ok
  active : ∃ record, started.2.taskAt key = some record ∧ record.suspendState = false ∧
    ∀ subscriber ∈ before.bgTaskSubscribers,
      ∀ call ∈ subscriber.callsOf .taskActive (callbackInfo record),
        (subscriber.remote, call) ∈ started.2.calls

structure RefusedAsExisting (before : BgContinuousTaskMgr)
    (started : ErrCode × BgContinuousTaskMgr) : Prop where
  ret : started.1 = .objectExists
  tasks : started.2.continuousTaskInfosMap = before.continuousTaskInfosMap

def AnswersTaken (key : String) (existing : ContinuousTaskRecord) (before : BgContinuousTaskMgr)
    (started : ErrCode × BgContinuousTaskMgr) : Prop :=
  (existing.suspendState = true → Woken key before started) ∧
    (existing.suspendState = false → RefusedAsExisting before started)

/-- The number of tasks of an ability does not depend on the id of a new one. -/
theorem checkAbilityTaskNum_of_allowed (request : record.isByRequestObject = true)
    (allowed : s.allowApplyContinuousTask env record = .ok) :
    s.checkAbilityTaskNum record = .ok := by
  unfold allowApplyContinuousTask at allowed
  split at allowed
  · exact absurd allowed (by simp)
  split at allowed
  · rename_i plain
    simp [request] at plain
  split at allowed
  · rename_i refused
    exact absurd allowed refused
  · rename_i accepted
    exact not_not.mp accepted

/-- A start that passes the first checks reaches the search for its key. -/
theorem startBackgroundRunningInner_of_allowed (enabled : record.uid ∉ s.disableRequestUidList)
    (allowed : s.allowApplyContinuousTask env record = .ok) :
    s.startBackgroundRunningInner env record =
      s.nextTaskId.startNumbered env (withNextId s record) := by
  unfold startBackgroundRunningInner
  rw [if_neg enabled, if_neg (by simp [allowed])]
  rfl

theorem startNumbered_of_taken (fresh : Fresh record)
    (allowed : s.allowApplyContinuousTask env record = .ok)
    (taken : s.taskAt (taskInfoMapKey (withNextId s record)) = some existing) :
    s.nextTaskId.startNumbered env (withNextId s record) = (.objectExists, s.nextTaskId) := by
  have few : ¬ ((withNextId s record).isByRequestObject = true ∧
      s.nextTaskId.checkAbilityTaskNum (withNextId s record) ≠ .ok) := by
    rintro ⟨request, refused⟩
    exact refused (checkAbilityTaskNum_of_allowed request allowed)
  have found : (s.nextTaskId.continuousTaskInfosMap.lookup
      (taskInfoMapKey (withNextId s record))).isSome = true :=
    Option.isSome_iff_exists.mpr ⟨existing, taken⟩
  have active : (withNextId s record).suspendState ≠ true := by
    show record.suspendState ≠ true
    simp [fresh.suspendState]
  unfold startNumbered
  dsimp only
  rw [if_neg few, if_pos found, if_neg active]

/-- A start with a key that is taken does what it should exactly when the stored task is not
suspended and the app may request tasks. -/
theorem start_of_taken_key_iff (requesting : Requesting env record)
    (allowed : s.allowApplyContinuousTask env record = .ok)
    (taken : s.taskAt (taskInfoMapKey (withNextId s record)) = some existing) :
    AnswersTaken (taskInfoMapKey (withNextId s record)) existing s
        (s.startBackgroundRunningInner env record) ↔
      existing.suspendState = false ∧ record.uid ∉ s.disableRequestUidList := by
  by_cases disabled : record.uid ∈ s.disableRequestUidList
  · have refused : s.startBackgroundRunningInner env record = (.maliciousContinuoustask, s) :=
      if_pos disabled
    rw [refused]
    constructor
    · rintro ⟨wakes, refuses⟩
      cases suspended : existing.suspendState with
      | true => exact absurd (wakes suspended).ret (by simp)
      | false => exact absurd (refuses suspended).ret (by simp)
    · rintro ⟨-, enabled⟩
      exact absurd disabled enabled
  · rw [startBackgroundRunningInner_of_allowed disabled allowed,
      startNumbered_of_taken requesting.fresh allowed taken]
    constructor
    · rintro ⟨wakes, -⟩
      refine ⟨?_, disabled⟩
      cases suspended : existing.suspendState with
      | true => exact absurd (wakes suspended).ret (by simp)
      | false => rfl
    · rintro ⟨active, -⟩
      exact ⟨fun suspended => absurd (active.symm.trans suspended) (by simp),
        fun _ => ⟨rfl, rfl⟩⟩

end Taken

/-! ## Sending at a start -/

section Sending

variable {env : Env} {s : BgContinuousTaskMgr} {record : ContinuousTaskRecord}

def MainSent (env : Env) (record : ContinuousTaskRecord) (s : BgContinuousTaskMgr) : Prop :=
  s.texts.continuousTaskText ≠ [] ∧ s.cachedAppName record.uid ≠ "" ∧
    (s.checkNotificationText env (liveViewMainRecord record)).ret = .ok ∧
    env.publishOk (ownPair s.tools record).1 (ownPair s.tools record).2 = true

def partPair (s : BgContinuousTaskMgr) (record : ContinuousTaskRecord) : String × Int :=
  ownSubPair (s.tools.takeId record.notificationId) record

def PartSent (env : Env) (record : ContinuousTaskRecord) (s : BgContinuousTaskMgr) : Prop :=
  (s.checkNotificationText env (liveViewSubRecord record)).ret = .ok ∧
    ((s.checkNotificationText env (liveViewSubRecord record)).text = "" ∨
      env.publishOk (partPair s record).1 (partPair s record).2 = true)

def MainWithdrawn (env : Env) (record : ContinuousTaskRecord) (s : BgContinuousTaskMgr) : Prop :=
  (ownPair s.tools record).2 ≠ -1 ∧
    env.cancelOk (ownPair s.tools record).1 (ownPair s.tools record).2 = true

/-- What a live view task shows after sending: nothing new without its main notification;
without its sub-notification, the main one when it is not withdrawn. -/
inductive LiveViewSent (env : Env) (record : ContinuousTaskRecord) (s : BgContinuousTaskMgr)
    (sent : Sent) : Prop where
  | refused (main : ¬ MainSent env record s) (ret : sent.ret ≠ .ok)
      (shown : ∀ pair, sent.tools.Shown pair ↔ s.tools.Shown pair)
  | halfSent (main : MainSent env record s) (part : ¬ PartSent env record s) (ret : sent.ret ≠ .ok)
      (shown : ∀ pair, sent.tools.Shown pair ↔
        (s.tools.Shown pair ∨ pair = ownPair s.tools record) ∧
          ¬ (MainWithdrawn env record s ∧ pair = ownPair s.tools record))
  | sent (main : MainSent env record s) (part : PartSent env record s) (ret : sent.ret = .ok)
      (shown : ∀ pair, sent.tools.Shown pair →
        s.tools.Shown pair ∨ pair = ownPair s.tools record ∨
          ((s.checkNotificationText env (liveViewSubRecord record)).text ≠ "" ∧
            pair = partPair s record))

theorem liveViewSent_of_half {ret : ErrCode} {stored : ContinuousTaskRecord}
    {tools : NotificationTools} (main : MainSent env record s) (part : ¬ PartSent env record s)
    (failed : ret ≠ .ok)
    (shown : ∀ pair, tools.Shown pair ↔ s.tools.Shown pair ∨ pair = ownPair s.tools record) :
    LiveViewSent env record s
      (if (ownPair s.tools record).2 ≠ -1 then
        ⟨ret, stored,
          (tools.cancelNotification env.toNotificationEnv (ownPair s.tools record)).2⟩
      else ⟨ret, stored, tools⟩) := by
  split
  · rename_i given
    refine .halfSent main part failed ?_
    intro pair
    unfold NotificationTools.cancelNotification
    split
    · rename_i accepted
      have withdrawn : MainWithdrawn env record s := ⟨given, accepted⟩
      rw [NotificationTools.shown_withdraw, shown]
      simp [withdrawn]
    · rename_i refused
      have standing : ¬ MainWithdrawn env record s := fun withdrawn => refused withdrawn.2
      rw [shown]
      simp [standing]
  · rename_i none
    refine .halfSent main part failed ?_
    intro pair
    have standing : ¬ MainWithdrawn env record s := fun withdrawn => none withdrawn.1
    rw [shown]
    simp [standing]

theorem liveViewSent_sendLiveViewAndOtherNotification (parts : isLiveViewAndOther record = true) :
    LiveViewSent env record s (s.sendLiveViewAndOtherNotification env record) := by
  have request : record.isByRequestObject = true := by
    simp only [isLiveViewAndOther, Bool.and_eq_true] at parts
    exact parts.1.1
  unfold sendLiveViewAndOtherNotification
  dsimp only
  split
  · rename_i missing
    exact .refused (fun main => main.1 missing) (by simp) (fun _ => Iff.rfl)
  rename_i texts
  split
  · rename_i nameless
    exact .refused (fun main => main.2.1 nameless) (by simp) (fun _ => Iff.rfl)
  rename_i named
  obtain ⟨first, firstPair, first_eq⟩ := @sendLiveView_main env s record request
    (s.cachedAppName record.uid)
  rw [first_eq]
  by_cases mainText : (s.checkNotificationText env (liveViewMainRecord record)).ret = .ok
  case neg =>
    rw [if_pos mainText, if_pos mainText]
    exact .refused (fun main => mainText main.2.2.1) mainText (fun _ => Iff.rfl)
  rw [if_neg (not_not.mpr mainText)]
  by_cases mainOk : env.publishOk (ownPair s.tools record).1 (ownPair s.tools record).2 = true
  case neg =>
    rw [if_neg mainOk, if_pos (by simp)]
    refine .refused (fun main => mainOk main.2.2.2) (by simp) ?_
    intro pair
    rw [NotificationTools.shown_takeId]
  have main : MainSent env record s := ⟨texts, named, mainText, mainOk⟩
  rw [if_pos mainOk, if_neg (by simp)]
  -- the sub-notification is sent with the main one shown
  have shownMain : ∀ pair, ((s.tools.takeId record.notificationId).display first).Shown pair ↔
      s.tools.Shown pair ∨ pair = ownPair s.tools record := by
    intro pair
    rw [NotificationTools.shown_display, NotificationTools.shown_takeId, firstPair]
  obtain ⟨second, secondPair, second_eq⟩ := @sendLiveView_part env s record
    ((s.tools.takeId record.notificationId).display first)
    { record with
      notificationLabel := (ownPair s.tools record).1
      notificationId := (ownPair s.tools record).2 } rfl (s.cachedAppName record.uid)
  have own : ownSubPair ((s.tools.takeId record.notificationId).display first) record =
      partPair s record := rfl
  rw [own] at secondPair second_eq
  rw [second_eq]
  by_cases partText : (s.checkNotificationText env (liveViewSubRecord record)).ret = .ok
  case neg =>
    rw [if_pos partText, if_neg partText]
    exact liveViewSent_of_half main (fun part => partText part.1) partText shownMain
  rw [if_neg (not_not.mpr partText)]
  by_cases silent : (s.checkNotificationText env (liveViewSubRecord record)).text = ""
  case pos =>
    rw [if_pos silent, if_pos rfl]
    refine .sent main ⟨partText, Or.inl silent⟩ rfl ?_
    intro pair shown
    rcases (shownMain pair).mp shown with old | new
    · exact Or.inl old
    · exact Or.inr (Or.inl new)
  rw [if_neg silent]
  by_cases partOk : env.publishOk (partPair s record).1 (partPair s record).2 = true
  case pos =>
    rw [if_pos partOk, if_pos rfl]
    refine .sent main ⟨partText, Or.inr partOk⟩ rfl ?_
    intro pair shown
    rw [NotificationTools.shown_display, NotificationTools.shown_takeId, secondPair] at shown
    rcases shown with old | new
    · rcases (shownMain pair).mp old with older | main
      · exact Or.inl older
      · exact Or.inr (Or.inl main)
    · exact Or.inr (Or.inr ⟨silent, new⟩)
  rw [if_neg partOk, if_neg (by simp)]
  refine liveViewSent_of_half main ?_ (by simp) ?_
  · rintro ⟨-, none | accepted⟩
    · exact silent none
    · exact partOk accepted
  · intro pair
    rw [NotificationTools.shown_takeId]
    exact shownMain pair

end Sending

/-! ## Submission -/

def Merges (s : BgContinuousTaskMgr) (record : ContinuousTaskRecord) : Prop :=
  ∃ key task, mergeTarget s record = some (key, task) ∧ agreeToShare record task = true

/-- `CheckCombinedTaskNotification` passes: no merge is asked for, or the target agrees. -/
def MayCombine (s : BgContinuousTaskMgr) (record : ContinuousTaskRecord) : Prop :=
  record.isByRequestObject = false ∨
    ((record.isCombinedTaskNotification = true →
        checkExistMode record.bgModeIds BackgroundMode.dataTransfer = false ∧
        checkExistMode record.bgModeIds BackgroundMode.specialScenarioProcessing = false) ∧
      record.combinedNotificationTaskId = -1) ∨
    Merges s record

/-- The new task is not a web view, or one that asks for a notification. -/
def needsNotification (record : ContinuousTaskRecord) : Bool :=
  !record.isFromWebview || record.needNotificationForInnerApi

structure SubmitAccepted (env : Env) (record : ContinuousTaskRecord) (s : BgContinuousTaskMgr) :
    Prop where
  modes : record.isFromWebview = true ∨ s.checkStartModes env record = .ok
  combines : MayCombine s record

structure SubmitSends (env : Env) (record : ContinuousTaskRecord) (s : BgContinuousTaskMgr) : Prop
    extends SubmitAccepted env record s where
  needs : needsNotification record = true
  own : ¬ Merges s record

def ShownAtSubmit (env : Env) (record : ContinuousTaskRecord) (s : BgContinuousTaskMgr) : Prop :=
  SubmitSends env record s →
    if isLiveViewAndOther record then MainSent env record s ∧ PartSent env record s
    else CanSend env record s

def SubmitPublishes (env : Env) (record : ContinuousTaskRecord) (s : BgContinuousTaskMgr)
    (pair : String × Int) : Prop :=
  SubmitSends env record s ∧
    if isLiveViewAndOther record then
      MainSent env record s ∧ (pair = ownPair s.tools record ∨
        (PartSent env record s ∧
          (s.checkNotificationText env (liveViewSubRecord record)).text ≠ "" ∧
          pair = partPair s record))
    else CanSend env record s ∧ sendKind env s record = .publishes ∧
      pair = ownPair s.tools record

/-- A task that could be shown is saved, and the main notification of a live view task whose
sub-notification fails is withdrawn. -/
structure SubmitSafe (env : Env) (record : ContinuousTaskRecord) (s : BgContinuousTaskMgr) :
    Prop where
  saved : SubmitAccepted env record s → ShownAtSubmit env record s → env.saveOk = true
  withdrawn : SubmitSends env record s → isLiveViewAndOther record = true →
    MainSent env record s → ¬ PartSent env record s → MainWithdrawn env record s

/-- An error leaves the tasks and the subscribers alone, and shows nothing of what was
`published`. -/
def Undone (published : String × Int → Prop) (before : BgContinuousTaskMgr)
    (started : ErrCode × BgContinuousTaskMgr) : Prop :=
  started.1 ≠ .ok → started.2.continuousTaskInfosMap = before.continuousTaskInfosMap ∧
    started.2.calls = before.calls ∧ ∀ pair, published pair → ¬ started.2.tools.Shown pair

section Submit

variable {env : Env} {s : BgContinuousTaskMgr} {record : ContinuousTaskRecord} {key : String}

theorem checkCombinedTaskNotification_of_merges (merges : Merges s record) :
    (s.checkCombinedTaskNotification record).ret = .ok ∧
      (s.checkCombinedTaskNotification record).sendNotification = false := by
  obtain ⟨key, task, target, agreed⟩ := merges
  simp only [agreeToShare, Bool.and_eq_true, Bool.not_eq_true', bne_iff_ne] at agreed
  obtain ⟨⟨⟨⟨⟨⟨⟨⟨request, combined⟩, noTransfer⟩, noSpecial⟩, targeted⟩, taskCombined⟩, given⟩,
    sameModes⟩, sameSubModes⟩ := agreed
  have search : s.findTask (fun _ task => task.uid == record.uid &&
      task.continuousTaskId == record.combinedNotificationTaskId) = some (key, task) := target
  unfold checkCombinedTaskNotification
  dsimp only
  rw [if_neg (by simp [request]), if_neg (by simp [noTransfer]), if_neg (by simp [noSpecial]),
    if_neg targeted, if_neg (by simp [combined])]
  unfold determineMatchCombinedTaskNotifacation
  dsimp only
  rw [search]
  simp [taskCombined, given, sameModes, sameSubModes]

theorem checkCombinedTaskNotification_of_own (own : ¬ Merges s record) :
    (s.checkCombinedTaskNotification record).mgr = s ∧
      (s.checkCombinedTaskNotification record).record = record ∧
      (s.checkCombinedTaskNotification record).sendNotification = true := by
  rcases checkCombinedTaskNotification_cases s record with
    same | ⟨key, task, target, agreed, -⟩
  · exact same
  · exact absurd ⟨key, task, target, agreed⟩ own

theorem checkCombinedTaskNotification_ret :
    (s.checkCombinedTaskNotification record).ret = .ok ↔ MayCombine s record := by
  by_cases merges : Merges s record
  · simp [checkCombinedTaskNotification_of_merges merges, MayCombine, merges]
  constructor
  · intro passed
    unfold checkCombinedTaskNotification at passed
    dsimp only at passed
    split at passed
    · rename_i plain
      exact Or.inl (by simpa using plain)
    split at passed
    · exact absurd passed (by simp)
    rename_i noTransfer
    split at passed
    · exact absurd passed (by simp)
    rename_i noSpecial
    split at passed
    · rename_i alone
      refine Or.inr (Or.inl ⟨?_, alone⟩)
      intro combined
      simpa [combined] using And.intro noTransfer noSpecial
    rename_i targeted
    split at passed
    · exact absurd passed (by simp)
    rename_i combined
    -- the target of the merge agrees
    unfold determineMatchCombinedTaskNotifacation at passed
    dsimp only at passed
    split at passed
    · exact absurd passed (by simp)
    rename_i key task search
    split at passed
    · exact absurd passed (by simp)
    split at passed
    · exact absurd passed (by simp)
    split at passed
    · exact absurd passed (by simp)
    split at passed
    · exact absurd passed (by simp)
    · refine absurd ⟨key, task, search, ?_⟩ merges
      simp_all [agreeToShare]
  · rintro (plain | ⟨modes, alone⟩ | merged)
    · unfold checkCombinedTaskNotification
      dsimp only
      rw [if_pos (by simp [plain])]
    · unfold checkCombinedTaskNotification
      dsimp only
      split
      · rfl
      split
      · rename_i transfer
        simp only [Bool.and_eq_true] at transfer
        exact absurd (modes transfer.1).1 (by simp [transfer.2])
      split
      · rename_i special
        simp only [Bool.and_eq_true] at special
        exact absurd (modes special.1).2 (by simp [special.2])
      · rfl
    · exact absurd merged merges

theorem tools_addTask_refresh {middle : BgContinuousTaskMgr} {stored : ContinuousTaskRecord} :
    ((middle.addTask key stored).refreshTaskRecord env).2.tools = middle.tools := by
  unfold refreshTaskRecord
  split
  · rfl
  · rfl

theorem shown_checkCombinedTaskNotification (pair : String × Int) :
    (s.checkCombinedTaskNotification record).mgr.tools.Shown pair ↔ s.tools.Shown pair := by
  rcases checkCombinedTaskNotification_cases s record with
    ⟨same, -⟩ | ⟨key, task, -, -, -, -, same⟩
  · rw [same]
  · exact same.shown pair

/-- The end of a start that is stored: its result is that of the save. -/
theorem undone_stored_iff {middle : BgContinuousTaskMgr} {stored : ContinuousTaskRecord}
    (published : String × Int → Prop) (free : s.taskAt key = none) :
    Undone published s ((middle.addTask key stored).refreshTaskRecord env) ↔
      env.saveOk = true := by
  unfold Undone refreshTaskRecord
  by_cases saves : env.saveOk = true
  · rw [if_pos saves]
    simp [saves]
  · rw [if_neg saves]
    refine ⟨fun undone => ?_, fun saved => absurd saved saves⟩
    have same := (undone (by simp)).1
    have present : (middle.addTask key stored).taskAt key = some stored := by
      rw [taskAt_addTask, if_pos rfl]
    unfold taskAt at present free
    rw [same, free] at present
    exact absurd present (by simp)

theorem sendStartNotification_of_silent
    (silent : ¬ (needsNotification record = true ∧ ¬ Merges s record)) :
    sendStartNotification env (s.checkCombinedTaskNotification record) =
      ⟨.ok, (s.checkCombinedTaskNotification record).record,
        (s.checkCombinedTaskNotification record).mgr.tools⟩ := by
  unfold sendStartNotification
  by_cases merges : Merges s record
  · rw [(checkCombinedTaskNotification_of_merges merges).2, Bool.and_false]
    rfl
  · have quiet : needsNotification record = false := by
      simpa [merges] using silent
    unfold needsNotification at quiet
    rw [(checkCombinedTaskNotification_of_own merges).2.1, quiet]
    rfl

theorem shown_sendContinuousTaskNotification {pair : String × Int}
    (shown : (s.sendContinuousTaskNotification env record).tools.Shown pair) :
    s.tools.Shown pair ∨ ((s.sendContinuousTaskNotification env record).ret = .ok ∧
      sendKind env s record = .publishes ∧ pair = ownPair s.tools record) := by
  unfold sendContinuousTaskNotification at shown ⊢
  unfold sendKind
  dsimp only at shown ⊢
  split at shown
  · exact Or.inl shown
  rename_i texts
  split at shown
  · exact Or.inl shown
  rename_i named
  split at shown
  · exact Or.inl shown
  rename_i ok
  split at shown
  · split at shown
    · unfold NotificationTools.cancelNotification at shown
      split at shown
      · exact Or.inl ((NotificationTools.shown_withdraw _ _ _).mp shown).1
      · exact Or.inl shown
    · exact Or.inl shown
  rename_i filled
  split at shown
  · exact Or.inl shown
  rename_i plain
  rw [if_neg texts, if_neg named, if_neg ok, if_neg filled, if_neg plain,
    if_neg (by simp [texts, named, ok]), if_neg filled, if_neg plain]
  unfold NotificationTools.publishNotification at shown ⊢
  dsimp only at shown ⊢
  rw [createNotificationLabel_note, notificationId_note] at shown ⊢
  split at shown
  · rename_i accepted
    rw [NotificationTools.shown_display, NotificationTools.shown_takeId] at shown
    rw [if_pos accepted]
    rcases shown with old | own
    · exact Or.inl old
    · exact Or.inr ⟨rfl, rfl, own⟩
  · rw [NotificationTools.shown_takeId] at shown
    exact Or.inl shown

theorem sendStartNotification_of_sends (sends : SubmitSends env record s) :
    sendStartNotification env (s.checkCombinedTaskNotification record) =
      s.sendByModes env record := by
  have needs := sends.needs
  obtain ⟨mgr, same, sendsOwn⟩ := checkCombinedTaskNotification_of_own sends.own
  unfold needsNotification at needs
  unfold sendStartNotification
  rw [mgr, same, sendsOwn, if_pos (by simpa using needs)]

/-- What is shown after sending was shown before or is published for the new task. -/
theorem shown_sendStartNotification {pair : String × Int} (accepted : SubmitAccepted env record s)
    (shown : (sendStartNotification env (s.checkCombinedTaskNotification record)).tools.Shown
      pair) :
    s.tools.Shown pair ∨ SubmitPublishes env record s pair := by
  by_cases sendsOwn : needsNotification record = true ∧ ¬ Merges s record
  case neg =>
    rw [sendStartNotification_of_silent sendsOwn] at shown
    exact Or.inl ((shown_checkCombinedTaskNotification pair).mp shown)
  have sends : SubmitSends env record s := ⟨accepted, sendsOwn.1, sendsOwn.2⟩
  rw [sendStartNotification_of_sends sends] at shown
  unfold SubmitPublishes
  by_cases parts : isLiveViewAndOther record = true
  · rw [show s.sendByModes env record = s.sendLiveViewAndOtherNotification env record from
      if_pos parts] at shown
    rw [if_pos parts]
    cases @liveViewSent_sendLiveViewAndOtherNotification env s record parts with
    | refused main ret same => exact Or.inl ((same pair).mp shown)
    | halfSent main part ret same =>
        rcases ((same pair).mp shown).1 with old | own
        · exact Or.inl old
        · exact Or.inr ⟨sends, main, Or.inl own⟩
    | sent main part ret same =>
        rcases same pair shown with old | own | ⟨text, sub⟩
        · exact Or.inl old
        · exact Or.inr ⟨sends, main, Or.inl own⟩
        · exact Or.inr ⟨sends, main, Or.inr ⟨part, text, sub⟩⟩
  · rw [show s.sendByModes env record = s.sendContinuousTaskNotification env record from
      if_neg parts] at shown
    rw [if_neg parts]
    rcases shown_sendContinuousTaskNotification shown with old | ⟨sent, kind, own⟩
    · exact Or.inl old
    · exact Or.inr ⟨sends, canSend_iff.mpr sent, kind, own⟩

/-- What a start leaves shown was shown before or is published for the new task. -/
theorem shown_startBackgroundRunningSubmit {pair : String × Int}
    (shown : (s.startBackgroundRunningSubmit env record key).2.tools.Shown pair) :
    s.tools.Shown pair ∨ SubmitPublishes env record s pair := by
  unfold startBackgroundRunningSubmit at shown
  dsimp only at shown
  split at shown
  · exact Or.inl shown
  rename_i modes
  split at shown
  · exact Or.inl ((shown_checkCombinedTaskNotification pair).mp shown)
  rename_i combined
  have accepted : SubmitAccepted env record s := by
    refine ⟨?_, checkCombinedTaskNotification_ret.mp (not_not.mp combined)⟩
    by_contra refused
    exact modes (by simpa [not_or, and_comm] using refused)
  split at shown
  · exact shown_sendStartNotification accepted shown
  · rw [tools_addTask_refresh] at shown
    exact shown_sendStartNotification accepted shown

theorem undone_liveView_iff (free : s.taskAt key = none) (sends : SubmitSends env record s)
    (parts : isLiveViewAndOther record = true) :
    Undone (SubmitPublishes env record s) s
        (if (s.sendLiveViewAndOtherNotification env record).ret ≠ .ok then
          ((s.sendLiveViewAndOtherNotification env record).ret,
            s.setTools (s.sendLiveViewAndOtherNotification env record).tools)
        else ((s.setTools (s.sendLiveViewAndOtherNotification env record).tools).addTask key
          (s.sendLiveViewAndOtherNotification env record).record).refreshTaskRecord env) ↔
      SubmitSafe env record s := by
  have shown_iff : ShownAtSubmit env record s ↔ MainSent env record s ∧ PartSent env record s := by
    unfold ShownAtSubmit
    rw [if_pos parts]
    exact ⟨fun shown => shown sends, fun shown _ => shown⟩
  have publishes_iff : ∀ pair, SubmitPublishes env record s pair ↔ MainSent env record s ∧
      (pair = ownPair s.tools record ∨ (PartSent env record s ∧
        (s.checkNotificationText env (liveViewSubRecord record)).text ≠ "" ∧
          pair = partPair s record)) := by
    intro pair
    unfold SubmitPublishes
    rw [if_pos parts]
    exact ⟨fun published => published.2, fun published => ⟨sends, published⟩⟩
  cases @liveViewSent_sendLiveViewAndOtherNotification env s record parts with
  | refused main ret shown =>
      rw [if_pos ret]
      constructor
      · intro _
        exact ⟨fun _ all => absurd (shown_iff.mp all).1 main,
          fun _ _ sent => absurd sent main⟩
      · intro _ _
        exact ⟨rfl, rfl, fun pair published => absurd ((publishes_iff pair).mp published).1 main⟩
  | halfSent main part ret shown =>
      rw [if_pos ret]
      constructor
      · intro undone
        refine ⟨fun _ all => absurd (shown_iff.mp all).2 part, fun _ _ _ _ => ?_⟩
        by_contra standing
        refine (undone ret).2.2 (ownPair s.tools record)
          ((publishes_iff _).mpr ⟨main, Or.inl rfl⟩) ?_
        exact (shown _).mpr ⟨Or.inr rfl, fun withdrawn => standing withdrawn.1⟩
      · intro safe _
        refine ⟨rfl, rfl, ?_⟩
        intro pair published standing
        have withdrawn := safe.withdrawn sends parts main part
        rcases ((publishes_iff pair).mp published).2 with own | ⟨sent, -⟩
        · exact ((shown pair).mp standing).2 ⟨withdrawn, own⟩
        · exact part sent
  | sent main part ret shown =>
      rw [if_neg (not_not.mpr ret), undone_stored_iff _ free]
      constructor
      · intro saves
        exact ⟨fun _ _ => saves, fun _ _ _ missing => absurd part missing⟩
      · intro safe
        exact safe.saved sends.toSubmitAccepted (shown_iff.mpr ⟨main, part⟩)

theorem undone_plain_iff (free : s.taskAt key = none) (sends : SubmitSends env record s)
    (whole : ¬ isLiveViewAndOther record = true) :
    Undone (SubmitPublishes env record s) s
        (if (s.sendContinuousTaskNotification env record).ret ≠ .ok then
          ((s.sendContinuousTaskNotification env record).ret,
            s.setTools (s.sendContinuousTaskNotification env record).tools)
        else ((s.setTools (s.sendContinuousTaskNotification env record).tools).addTask key
          (s.sendContinuousTaskNotification env record).record).refreshTaskRecord env) ↔
      SubmitSafe env record s := by
  have shown_iff : ShownAtSubmit env record s ↔ CanSend env record s := by
    unfold ShownAtSubmit
    rw [if_neg whole]
    exact ⟨fun shown => shown sends, fun shown _ => shown⟩
  by_cases can : CanSend env record s
  · rw [if_neg (not_not.mpr (canSend_iff.mp can)), undone_stored_iff _ free]
    constructor
    · intro saves
      exact ⟨fun _ _ => saves, fun _ parts => absurd parts whole⟩
    · intro safe
      exact safe.saved sends.toSubmitAccepted (shown_iff.mpr can)
  · rw [if_pos (fun sent => can (canSend_iff.mpr sent))]
    constructor
    · intro _
      exact ⟨fun _ all => absurd (shown_iff.mp all) can, fun _ parts => absurd parts whole⟩
    · intro _ _
      refine ⟨rfl, rfl, ?_⟩
      intro pair published
      unfold SubmitPublishes at published
      rw [if_neg whole] at published
      exact absurd published.2.1 can

/-- A submission is undone on failure exactly when it is safe. -/
theorem undone_startBackgroundRunningSubmit_iff (free : s.taskAt key = none) :
    Undone (SubmitPublishes env record s) s (s.startBackgroundRunningSubmit env record key) ↔
      SubmitSafe env record s := by
  unfold startBackgroundRunningSubmit
  dsimp only
  by_cases modes : record.isFromWebview = true ∨ s.checkStartModes env record = .ok
  case neg =>
    have refused : s.checkStartModes env record ≠ .ok ∧ (!record.isFromWebview) = true := by
      simpa [not_or, and_comm] using modes
    rw [if_pos refused]
    constructor
    · intro _
      exact ⟨fun accepted => absurd accepted.modes modes,
        fun sends => absurd sends.modes modes⟩
    · intro _ _
      exact ⟨rfl, rfl, fun pair published => absurd published.1.modes modes⟩
  have passed : ¬ (s.checkStartModes env record ≠ .ok ∧ (!record.isFromWebview) = true) := by
    rintro ⟨refused, client⟩
    rcases modes with web | ok
    · simp [web] at client
    · exact refused ok
  rw [if_neg passed]
  by_cases combines : MayCombine s record
  case neg =>
    have refused : (s.checkCombinedTaskNotification record).ret ≠ .ok :=
      fun ok => combines (checkCombinedTaskNotification_ret.mp ok)
    have own : ¬ Merges s record := fun merges => combines (Or.inr (Or.inr merges))
    rw [if_pos refused, (checkCombinedTaskNotification_of_own own).1]
    constructor
    · intro _
      exact ⟨fun accepted => absurd accepted.combines combines,
        fun sends => absurd sends.combines combines⟩
    · intro _ _
      exact ⟨rfl, rfl, fun pair published => absurd published.1.combines combines⟩
  have accepted : SubmitAccepted env record s := ⟨modes, combines⟩
  rw [if_neg (not_not.mpr (checkCombinedTaskNotification_ret.mpr combines))]
  by_cases sendsOwn : needsNotification record = true ∧ ¬ Merges s record
  case neg =>
    have silent : ¬ SubmitSends env record s := fun sends => sendsOwn ⟨sends.needs, sends.own⟩
    rw [sendStartNotification_of_silent sendsOwn, if_neg (not_not.mpr rfl),
      undone_stored_iff _ free]
    constructor
    · intro saves
      exact ⟨fun _ _ => saves, fun sends => absurd sends silent⟩
    · intro safe
      exact safe.saved accepted (fun sends => absurd sends silent)
  have sends : SubmitSends env record s := ⟨accepted, sendsOwn.1, sendsOwn.2⟩
  rw [sendStartNotification_of_sends sends, (checkCombinedTaskNotification_of_own sends.own).1]
  by_cases parts : isLiveViewAndOther record = true
  · rw [show s.sendByModes env record = s.sendLiveViewAndOtherNotification env record from
      if_pos parts]
    exact undone_liveView_iff free sends parts
  · rw [show s.sendByModes env record = s.sendContinuousTaskNotification env record from
      if_neg parts]
    exact undone_plain_iff free sends parts

end Submit

/-! ## Start -/

structure ReachesSubmit (env : Env) (record : ContinuousTaskRecord) (s : BgContinuousTaskMgr) :
    Prop where
  enabled : record.uid ∉ s.disableRequestUidList
  allowed : s.allowApplyContinuousTask env record = .ok
  free : s.taskAt (taskInfoMapKey (withNextId s record)) = none

/-- The state a start is submitted in: the id is taken and the bundle is cached. -/
def startReady (env : Env) (record : ContinuousTaskRecord) (s : BgContinuousTaskMgr) :
    BgContinuousTaskMgr :=
  if needsNotification record then s.nextTaskId.setCachedBundleInfo env (withNextId s record)
  else s.nextTaskId

def StartPublishes (env : Env) (record : ContinuousTaskRecord) (s : BgContinuousTaskMgr)
    (pair : String × Int) : Prop :=
  ReachesSubmit env record s ∧
    SubmitPublishes env (withNextId s record) (startReady env record s) pair

def StartSafe (env : Env) (record : ContinuousTaskRecord) (s : BgContinuousTaskMgr) : Prop :=
  ReachesSubmit env record s → SubmitSafe env (withNextId s record) (startReady env record s)

structure ClientStarts (env : Env) (callingUid : Int) (taskParam : ContinuousTaskParam)
    (s : BgContinuousTaskMgr) (record : ContinuousTaskRecord) : Prop where
  ready : s.isSysReady = true
  param : checkTaskParam taskParam = true
  permission : env.bgmodePermission = true
  built : startRecord env callingUid taskParam = some record

section Start

variable {env : Env} {s : BgContinuousTaskMgr} {record : ContinuousTaskRecord}

theorem startReady_keeps : (startReady env record s).continuousTaskInfosMap =
      s.continuousTaskInfosMap ∧ (startReady env record s).calls = s.calls ∧
      (startReady env record s).tools = s.tools := by
  unfold startReady setCachedBundleInfo
  split
  · split
    · exact ⟨rfl, rfl, rfl⟩
    · split
      · exact ⟨rfl, rfl, rfl⟩
      · exact ⟨rfl, rfl, rfl⟩
  · exact ⟨rfl, rfl, rfl⟩

theorem undone_congr {published : String × Int → Prop} {before after : BgContinuousTaskMgr}
    {started : ErrCode × BgContinuousTaskMgr}
    (map : after.continuousTaskInfosMap = before.continuousTaskInfosMap)
    (calls : after.calls = before.calls) :
    Undone published after started ↔ Undone published before started := by
  unfold Undone
  rw [map, calls]

theorem undone_of_refused {published : String × Int → Prop} {before : BgContinuousTaskMgr}
    {started : ErrCode × BgContinuousTaskMgr} (none : ∀ pair, ¬ published pair)
    (refused : started.1 ≠ .ok → started.2.continuousTaskInfosMap =
      before.continuousTaskInfosMap ∧ started.2.calls = before.calls) :
    Undone published before started :=
  fun failed => ⟨(refused failed).1, (refused failed).2, fun pair made => absurd made (none pair)⟩

theorem undone_of_not_reaches (early : ¬ ReachesSubmit env record s) :
    Undone (StartPublishes env record s) s (s.startBackgroundRunningInner env record) := by
  refine undone_of_refused (fun pair published => early published.1) ?_
  by_cases disabled : record.uid ∈ s.disableRequestUidList
  · rw [show s.startBackgroundRunningInner env record = (.maliciousContinuoustask, s) from
      if_pos disabled]
    exact fun _ => ⟨rfl, rfl⟩
  by_cases allowed : s.allowApplyContinuousTask env record = .ok
  · rw [startBackgroundRunningInner_of_allowed disabled allowed]
    unfold startNumbered
    dsimp only
    split
    · exact fun _ => ⟨rfl, rfl⟩
    split
    · split
      · exact fun failed => absurd rfl failed
      · exact fun _ => ⟨rfl, rfl⟩
    · rename_i absent
      exact absurd ⟨disabled, allowed, Option.not_isSome_iff_eq_none.mp absent⟩ early
  · unfold startBackgroundRunningInner
    rw [if_neg disabled, if_pos allowed]
    exact fun _ => ⟨rfl, rfl⟩

theorem startBackgroundRunningInner_of_reaches (reaches : ReachesSubmit env record s) :
    s.startBackgroundRunningInner env record =
      (startReady env record s).startBackgroundRunningSubmit env (withNextId s record)
        (taskInfoMapKey (withNextId s record)) := by
  have few : ¬ ((withNextId s record).isByRequestObject = true ∧
      s.nextTaskId.checkAbilityTaskNum (withNextId s record) ≠ .ok) := by
    rintro ⟨request, refused⟩
    exact refused (checkAbilityTaskNum_of_allowed request reaches.allowed)
  have absent : ¬ (s.nextTaskId.continuousTaskInfosMap.lookup
      (taskInfoMapKey (withNextId s record))).isSome = true :=
    Option.not_isSome_iff_eq_none.mpr reaches.free
  rw [startBackgroundRunningInner_of_allowed reaches.enabled reaches.allowed]
  unfold startNumbered startReady needsNotification
  dsimp only
  rw [if_neg few, if_neg absent]
  split
  · rename_i needs
    have same : (!record.isFromWebview || record.needNotificationForInnerApi) = true := needs
    rw [if_pos same]
  · rename_i silent
    have same : ¬ (!record.isFromWebview || record.needNotificationForInnerApi) = true := silent
    rw [if_neg same]

/-- What a start leaves shown was shown before or is published for its task. -/
theorem shown_startBackgroundRunningInner (fresh : Fresh record) {pair : String × Int}
    (shown : (s.startBackgroundRunningInner env record).2.tools.Shown pair) :
    s.tools.Shown pair ∨ StartPublishes env record s pair := by
  by_cases reaches : ReachesSubmit env record s
  · rw [startBackgroundRunningInner_of_reaches reaches] at shown
    rcases shown_startBackgroundRunningSubmit shown with old | published
    · exact Or.inl (startReady_keeps.2.2 ▸ old)
    · exact Or.inr ⟨reaches, published⟩
  refine Or.inl ?_
  by_cases disabled : record.uid ∈ s.disableRequestUidList
  · rwa [show s.startBackgroundRunningInner env record = (.maliciousContinuoustask, s) from
      if_pos disabled] at shown
  by_cases allowed : s.allowApplyContinuousTask env record = .ok
  · cases taken : s.taskAt (taskInfoMapKey (withNextId s record)) with
    | none => exact absurd ⟨disabled, allowed, taken⟩ reaches
    | some existing =>
        rwa [startBackgroundRunningInner_of_allowed disabled allowed,
          startNumbered_of_taken fresh allowed taken] at shown
  · unfold startBackgroundRunningInner at shown
    rwa [if_neg disabled, if_pos allowed] at shown

theorem undone_startBackgroundRunningInner_iff :
    Undone (StartPublishes env record s) s (s.startBackgroundRunningInner env record) ↔
      StartSafe env record s := by
  by_cases reaches : ReachesSubmit env record s
  case neg =>
    exact ⟨fun _ submitted => absurd submitted reaches, fun _ => undone_of_not_reaches reaches⟩
  have same : ∀ pair, StartPublishes env record s pair ↔
      SubmitPublishes env (withNextId s record) (startReady env record s) pair :=
    fun pair => ⟨fun published => published.2, fun published => ⟨reaches, published⟩⟩
  have free : (startReady env record s).taskAt (taskInfoMapKey (withNextId s record)) = none := by
    unfold taskAt
    rw [startReady_keeps.1]
    exact reaches.free
  rw [startBackgroundRunningInner_of_reaches reaches, funext (fun pair => propext (same pair)),
    ← undone_congr startReady_keeps.1 startReady_keeps.2.1,
    undone_startBackgroundRunningSubmit_iff free]
  exact ⟨fun safe _ => safe, fun safe => safe reaches⟩

theorem startBackgroundRunning_of_starts {callingUid : Int} {taskParam : ContinuousTaskParam}
    (starts : ClientStarts env callingUid taskParam s record) :
    s.startBackgroundRunning env callingUid taskParam =
      s.startBackgroundRunningInner env record := by
  unfold startBackgroundRunning
  rw [if_neg (by simp [starts.ready]), if_neg (by simp [starts.param]),
    if_neg (by simp [starts.permission]), starts.built]

theorem startBackgroundRunning_of_not_starts {callingUid : Int} {taskParam : ContinuousTaskParam}
    (refused : ¬ ∃ record, ClientStarts env callingUid taskParam s record) :
    (s.startBackgroundRunning env callingUid taskParam).2 = s := by
  unfold startBackgroundRunning
  split
  · rfl
  rename_i ready
  split
  · rfl
  rename_i param
  split
  · rfl
  rename_i permission
  split
  · rfl
  · rename_i record built
    exact absurd ⟨record, by simpa using ready, by simpa using param,
      by simpa using permission, built⟩ refused

/-- A client's start that returns an error leaves no trace exactly when it is safe: what
could be shown is saved, and the main notification of a live view task whose
sub-notification fails is withdrawn.  Whatever it leaves shown was shown before or is one of
those that it publishes. -/
theorem startBackgroundRunning_undone_iff (env : Env) (callingUid : Int)
    (taskParam : ContinuousTaskParam) (s : BgContinuousTaskMgr) :
    (Undone (fun pair => ∃ record, ClientStarts env callingUid taskParam s record ∧
        StartPublishes env record s pair) s
        (s.startBackgroundRunning env callingUid taskParam) ↔
      ∀ record, ClientStarts env callingUid taskParam s record → StartSafe env record s) ∧
    ∀ pair, (s.startBackgroundRunning env callingUid taskParam).2.tools.Shown pair →
      s.tools.Shown pair ∨ ∃ record, ClientStarts env callingUid taskParam s record ∧
        StartPublishes env record s pair := by
  by_cases started : ∃ record, ClientStarts env callingUid taskParam s record
  · obtain ⟨record, starts⟩ := started
    have only : ∀ other, ClientStarts env callingUid taskParam s other ↔ other = record := by
      intro other
      constructor
      · intro same
        exact Option.some.inj (same.built.symm.trans starts.built)
      · rintro rfl
        exact starts
    simp only [startBackgroundRunning_of_starts starts, only, exists_eq_left, forall_eq]
    exact ⟨undone_startBackgroundRunningInner_iff,
      fun pair => shown_startBackgroundRunningInner (fresh_startRecord starts.built).1⟩
  · have untouched := startBackgroundRunning_of_not_starts started
    refine ⟨⟨?_, ?_⟩, ?_⟩
    · intro _ record starts
      exact absurd ⟨record, starts⟩ started
    · intro _
      refine undone_of_refused ?_ ?_
      · rintro pair ⟨record, starts, -⟩
        exact started ⟨record, starts⟩
      · intro _
        rw [untouched]
        exact ⟨rfl, rfl⟩
    · intro pair shown
      rw [untouched] at shown
      exact Or.inl shown

end Start

def plainRequest : ContinuousTaskParam :=
  { requestOf [BackgroundMode.location] [] with isByRequestObject := false }

def plainRecord : ContinuousTaskRecord := (startRecord deviceEnv 100 plainRequest).getD {}

theorem requesting_plainRecord : Requesting deviceEnv plainRecord :=
  .client (show startRecord deviceEnv 100 plainRequest = some plainRecord from rfl)

def plainRun : List (Env × ServiceOp) :=
  [(deviceEnv, .initRequiredResourceInfo),
    ((deviceStart 100 plainRequest).1, .task (deviceStart 100 plainRequest).2)]

def suspendedPlainRun : List (Env × ServiceOp) :=
  plainRun ++ [(deviceEnv, .task (.addSubscriber ⟨1, 100, 7, true, 6#32⟩)),
    (deviceEnv, .task (.suspendContinuousTask 100 BackgroundMode.location
      (taskInfoMapKey plainRecord) false))]

def afterRun (labels : List (Env × ServiceOp)) : BgContinuousTaskMgr :=
  StepSystem.run serviceStep (installed (fun _ => 0)) labels

theorem start_of_taken_key_active :
    ∃ existing, existing.suspendState = false ∧
      AnswersTaken (taskInfoMapKey plainRecord) existing (afterRun plainRun)
        ((afterRun plainRun).startBackgroundRunningInner deviceEnv plainRecord) := by
  obtain ⟨existing, taken⟩ := Option.isSome_iff_exists.mp
    (show ((afterRun plainRun).taskAt (taskInfoMapKey plainRecord)).isSome = true by decide)
  have active : ((afterRun plainRun).taskAt (taskInfoMapKey plainRecord)).map
      (fun task => task.suspendState) = some false := by
    decide
  rw [taken] at active
  have iff := start_of_taken_key_iff requesting_plainRecord
    (show (afterRun plainRun).allowApplyContinuousTask deviceEnv plainRecord = .ok by decide) taken
  exact ⟨existing, Option.some.inj active, iff.mpr ⟨Option.some.inj active, by decide⟩⟩

/-- The second start of a suspended task is refused as existing. -/
theorem suspended_task_not_woken :
    ∃ existing, (afterRun suspendedPlainRun).taskAt (taskInfoMapKey plainRecord) = some existing ∧
      (afterRun suspendedPlainRun).allowApplyContinuousTask deviceEnv plainRecord = .ok ∧
      ¬ AnswersTaken (taskInfoMapKey plainRecord) existing (afterRun suspendedPlainRun)
        ((afterRun suspendedPlainRun).startBackgroundRunningInner deviceEnv plainRecord) := by
  obtain ⟨existing, taken⟩ := Option.isSome_iff_exists.mp
    (show ((afterRun suspendedPlainRun).taskAt (taskInfoMapKey plainRecord)).isSome = true by
      decide)
  have suspended : ((afterRun suspendedPlainRun).taskAt (taskInfoMapKey plainRecord)).map
      (fun task => task.suspendState) = some true := by
    decide
  rw [taken] at suspended
  refine ⟨existing, taken, by decide, ?_⟩
  intro answers
  have woken := answers.1 (Option.some.inj suspended)
  exact absurd woken.ret (by decide)

/-- The record file cannot be written; the refused task is there all the same. -/
theorem unsaved_start_not_undone :
    ¬ Undone (fun pair => ∃ record, ClientStarts { deviceEnv with saveOk := false } 100
          plainRequest (afterRun [(deviceEnv, .initRequiredResourceInfo)]) record ∧
        StartPublishes { deviceEnv with saveOk := false } record
          (afterRun [(deviceEnv, .initRequiredResourceInfo)]) pair)
      (afterRun [(deviceEnv, .initRequiredResourceInfo)])
      ((afterRun [(deviceEnv, .initRequiredResourceInfo)]).startBackgroundRunning
        { deviceEnv with saveOk := false } 100 plainRequest) := by
  intro undone
  have same := congrArg (fun tasks => tasks.keys) (undone (by decide)).1
  exact absurd same (by decide)

end BgTaskMgr.Continuous
