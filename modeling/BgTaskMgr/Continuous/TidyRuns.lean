import BgTaskMgr.Continuous.Orphans

/-!
# Runs that leave no notification behind

What an operation must not meet so that every notification that is shown still belongs to a
task after it: a task that a sweep ends without all its notifications, a stop that passes over
the sub-notification of a task, a publication under another label than the notification that
is shown, and a reactivation that takes the last reference to a shared notification away.
-/

set_option autoImplicit false

namespace BgTaskMgr.Continuous

open BgContinuousTaskMgr

/-! ## Conditions -/

def SweepsAll (sweep : Sweep) (s : BgContinuousTaskMgr) : Prop :=
  ∀ key record, s.taskAt key = some record → sweep.change key record = none →
    ∀ pair, RefersTo pair record → s.tools.Shown pair →
      pair ∈ sweep.deleted ∨ pair ∈ sweep.withdrawn key record

/-- A stop of the task cancels its sub-notification: there is none, or the task has a main
notification that it shares with no other. -/
def StopsSub (s : BgContinuousTaskMgr) (key : String) (record : ContinuousTaskRecord) : Prop :=
  s.tools.Shown record.subPair → record.notificationId ≠ -1 ∧
    ∀ other task, s.taskAt other = some task → other ≠ key → task.mainPair ≠ record.mainPair

/-- A publication under the record's own label replaces what is shown, or leaves it to
another task that is `good`. -/
def ReplacesShown (good : String → ContinuousTaskRecord → Prop) (made : Publication) : Prop :=
  made.kind.relabels → made.mgr.tools.Shown made.record.mainPair →
    ownPair made.mgr.tools made.record = made.record.mainPair ∨
      OtherWitness good made.mgr made.key made.record.mainPair

/-- The publication of an update that reactivates the tasks of the app is safe, and so is the
reactivation after it. -/
structure SafeUpdate (env : Env) (made : Publication) : Prop where
  reactivation : SafeToReactivate env made.record.uid made.mgr
  replaces : ReplacesShown (Resting env made.record.uid made.mgr) made
  alone : made.kind = .publishes → made.record.notificationId ≠ -1 →
    AloneInId made.record.uid made.mgr made.key made.record.notificationId

def PublishesTidily (env : Env) (made : Publication) : Prop :=
  (made.isUpdate = true ∧ made.record.suspendState = true → SafeUpdate env made) ∧
    ReplacesShown (fun _ _ => True) made

def Outlasts (env : Env) (s : BgContinuousTaskMgr) (taskKeys : List String) (key : String)
    (record : ContinuousTaskRecord) : Prop :=
  key ∉ taskKeys ∨ ¬ (deteKind env s record).relabels ∨ OwnLabelled s.tools.hash record

/-- A main notification that a detection publishes under another label is also that of a task
whose notification outlasts the detection. -/
def DetectsTidily (env : Env) (s : BgContinuousTaskMgr) (taskKeys : List String) : Prop :=
  ∀ key record, s.taskAt key = some record → s.tools.Shown record.mainPair →
    ∃ other task, s.taskAt other = some task ∧ task.mainPair = record.mainPair ∧
      Outlasts env s taskKeys other task

structure TidyStep (s : BgContinuousTaskMgr) (label : Env × TaskOp) : Prop where
  sweep : ∀ sweep, sweepOf label.1 s label.2 = some sweep → SweepsAll sweep s
  stop : ∀ key record, s.taskAt key = some record → stops label.1 s label.2 record →
    StopsSub s key record
  publication : ∀ made, publication label.1 s label.2 = some made → PublishesTidily label.1 made
  reactivation : ∀ uid, label.2 = .activeContinuousTask uid false →
    SafeToReactivate label.1 uid s
  detection : ∀ taskKeys, label.2 = .sendNotificationByDeteTask taskKeys →
    DetectsTidily label.1 s taskKeys

/-! ## Steps -/

section Steps

variable {env : Env} {op : TaskOp} {s after : BgContinuousTaskMgr}

theorem NoOrphans.unnoticed (tidy : NoOrphans s) (same : Unnoticed s after) : NoOrphans after := by
  intro pair shown
  obtain ⟨key, record, found, refers⟩ := tidy pair ((same.shown pair).mp shown)
  obtain ⟨edited, stored, notices⟩ := same.forward key record found
  refine ⟨key, edited, stored, ?_⟩
  unfold RefersTo at refers ⊢
  rw [notices.mainPair, notices.subPair]
  exact refers

theorem NoOrphans.of_fewer (tidy : NoOrphans s) (tasks : ∀ key, after.taskAt key = s.taskAt key)
    (fewer : ∀ pair, after.tools.Shown pair → s.tools.Shown pair) : NoOrphans after := by
  intro pair shown
  obtain ⟨key, record, found, refers⟩ := tidy pair (fewer pair shown)
  exact ⟨key, record, (tasks key).trans found, refers⟩

theorem NoOrphans.addTask (tidy : NoOrphans s) {key : String} {record : ContinuousTaskRecord}
    {tools : NotificationTools} (free : s.taskAt key = none)
    (shown : ∀ pair, tools.Shown pair → s.tools.Shown pair ∨ RefersTo pair record) :
    NoOrphans ((s.setTools tools).addTask key record) := by
  intro pair isShown
  rcases shown pair isShown with old | own
  · obtain ⟨other, task, found, refers⟩ := tidy pair old
    have different : other ≠ key := by
      intro same
      rw [same] at found
      exact absurd (free.symm.trans found) (by simp)
    refine ⟨other, task, ?_, refers⟩
    rw [taskAt_addTask, if_neg different]
    exact found
  · refine ⟨key, record, ?_, own⟩
    rw [taskAt_addTask, if_pos rfl]

theorem NoOrphans.started {record : ContinuousTaskRecord} (tidy : NoOrphans s)
    (outcome : StartOutcome s record after) : NoOrphans after := by
  cases outcome with
  | refused same => exact tidy.unnoticed same
  | unsent same outcome failed eq =>
      rw [eq]
      refine (tidy.unnoticed same).of_fewer (fun _ => rfl) ?_
      intro pair shown
      cases outcome with
      | kept same isShown hash index => exact (isShown pair).mp shown
      | cleared edited none sub isShown hash index => exact ((isShown pair).mp shown).1
      | published ret edited main sub isShown hash index => exact absurd ret failed
      | both ret edited request main sub isShown hash index => exact absurd ret failed
      | withdrawn edited main sub isShown hash index => exact ((isShown pair).mp shown).1
  | started same free outcome saved =>
      refine NoOrphans.unnoticed ((tidy.unnoticed same).addTask free ?_) saved.unnoticed
      intro pair shown
      rcases outcome.shown_cases shown with old | ⟨-, main⟩ | sub
      · exact Or.inl old
      · exact Or.inr (Or.inl main)
      · exact Or.inr (Or.inr sub)
  | @merged ready key taskKey task same free target agreed saved =>
      have added : NoOrphans ((ready.setTools ready.tools).addTask key
          { record with
            notificationId := task.notificationId
            notificationLabel := task.notificationLabel }) :=
        (tidy.unnoticed same).addTask free (fun _ old => Or.inl old)
      exact added.unnoticed saved.unnoticed

theorem StopsSub.unnoticed {key : String} {record edited : ContinuousTaskRecord}
    (stops : StopsSub s key record) (same : Unnoticed s after)
    (notices : SameNotices record edited) : StopsSub after key edited := by
  intro shown
  rw [notices.subPair] at shown
  obtain ⟨given, alone⟩ := stops ((same.shown record.subPair).mp shown)
  have id : edited.notificationId = record.notificationId := congrArg Prod.snd notices.mainPair
  refine ⟨by rw [id]; exact given, ?_⟩
  intro other task lookup different
  obtain ⟨old, stored, kept⟩ := same.backward other task lookup
  rw [kept.mainPair, notices.mainPair]
  exact alone other old stored different

/-- What a stop leaves behind is the sub-notification of a task it ended. -/
theorem NoOrphans.stopped {chosen : ContinuousTaskRecord → Prop} (tidy : NoOrphans s)
    (stopped : Stopped chosen s after)
    (subs : ∀ key record, s.taskAt key = some record → after.taskAt key = none →
      StopsSub s key record) : NoOrphans after := by
  intro pair shown
  obtain ⟨key, record, found, refers⟩ := tidy pair (stopped.shrinks pair shown)
  cases left : after.taskAt key with
  | some task =>
      obtain rfl := Option.some.inj (found.symm.trans (stopped.origin key task left))
      exact ⟨key, record, left, refers⟩
  | none =>
      rcases refers with rfl | rfl
      · obtain ⟨other, task, stored, same⟩ := stopped.mainGone key record found left shown
        exact ⟨other, task, stored, Or.inl same⟩
      · obtain ⟨given, alone⟩ := subs key record found left (stopped.shrinks _ shown)
        exact absurd shown (stopped.subGone key record found left given alone)

theorem NoOrphans.swept {sweep : Sweep} (tidy : NoOrphans s)
    (made : sweepOf env s op = some sweep) (effect : SweepEffect sweep s after)
    (all : SweepsAll sweep s) : NoOrphans after := by
  intro pair shown
  obtain ⟨wasShown, undeleted, unwithdrawn⟩ := (effect.shown pair).mp shown
  obtain ⟨key, record, found, refers⟩ := tidy pair wasShown
  cases change : sweep.change key record with
  | none =>
      rcases all key record found change pair refers wasShown with isDeleted | isWithdrawn
      · exact absurd isDeleted undeleted
      · exact absurd isWithdrawn (unwithdrawn key record found)
  | some left =>
      obtain ⟨edited, stored, notices⟩ := effect.kept key record left found change
      refine ⟨key, edited, stored, ?_⟩
      unfold RefersTo
      rw [notices.mainPair, notices.subPair]
      rcases refers with rfl | rfl
      · rcases (lessened_sweepOf made change).gone with same | gone
        · exact Or.inl same
        · exact absurd gone (unwithdrawn key record found)
      · exact Or.inr (lessened_sweepOf made change).sub

theorem NoOrphans.published {made : Publication} {sent : Sent} (tidy : NoOrphans made.mgr)
    (numbered : Numbered made.mgr) (found : made.mgr.taskAt made.key = some made.record)
    (outcome : SendOutcome made.mgr.tools made.record sent made.kind)
    (replaces : ReplacesShown (fun _ _ => True) made)
    (saved : Undisturbed (made.mgr.setSent made.key sent) after) : NoOrphans after := by
  have each : AllWitnessed (fun _ _ => True) after :=
    outcome.allWitnessed numbered tidy.allWitnessed found rfl rfl
      (numbered.labelled made.key made.record found) (replaced_setSent found saved)
      (fun _ _ _ _ _ => trivial) (fun _ _ => trivial) (fun _ => trivial)
      (fun relabels shown _ => replaces relabels shown)
  exact each.noOrphans

theorem NoOrphans.liveViewGone (tidy : NoOrphans s) (succeed : env.NotificationsSucceed)
    (numbered : Numbered s) (uid : Int) :
    NoOrphans (s.forEachTask (sendAfterLiveView env uid)) := by
  have step : ∀ key record current later, current.taskAt key = some record → Numbered current →
      LiveViewStep env uid key record current later → NoOrphans current → NoOrphans later := by
    intro key record current later found numbered next tidy
    cases next with
    | skipped eq =>
        rw [eq]
        exact tidy
    | sent absent outcome replaced =>
        have each : AllWitnessed (fun _ _ => True) later := by
          refine outcome.allWitnessed numbered tidy.allWitnessed found rfl rfl
            (numbered.labelled key record found) replaced (fun _ _ _ _ _ => trivial)
            (fun _ _ => trivial) (fun _ => trivial) ?_
          intro _ shown _
          exact absurd absent (numbered.shownIds _ shown)
        exact each.noOrphans
  exact (liveView_invariant succeed numbered uid step tidy).2

/-- Whether sending relabels a notification depends on the contents of the record only. -/
theorem relabels_contents {record : ContinuousTaskRecord} :
    (sendKindByModes env s record).relabels ↔
      (sendKindByModes env s (contents record)).relabels := by
  rw [sendKindByModes_contents]
  split
  · rename_i cleared
    rw [cleared.2]
    unfold SendKind.relabels
    simp
  · exact Iff.rfl

theorem relabels_congr {record edited : ContinuousTaskRecord}
    (same : contents edited = contents record) :
    (sendKindByModes env s edited).relabels ↔ (sendKindByModes env s record).relabels := by
  rw [relabels_contents, same, ← relabels_contents]

theorem ownLabelled_congr {hash : String → Nat} {record edited : ContinuousTaskRecord}
    (same : ContinuousTaskRecord.SameTask record edited)
    (label : edited.notificationLabel = record.notificationLabel) :
    OwnLabelled hash edited ↔ OwnLabelled hash record := by
  unfold OwnLabelled
  rw [label, createNotificationLabel_congr hash same]

theorem SendOutcome.main_published {tools : NotificationTools} {record : ContinuousTaskRecord}
    {sent : Sent} {kind : SendKind} (outcome : SendOutcome tools record sent kind)
    (publishes : kind = .publishes) : sent.record.mainPair = ownPair tools record := by
  cases outcome with
  | kept same isShown hash index => exact absurd publishes (by simp)
  | cleared edited none sub isShown hash index => exact absurd publishes (by simp)
  | published ret edited main sub isShown hash index => exact main
  | both ret edited request main sub isShown hash index => exact main
  | withdrawn edited main sub isShown hash index => exact absurd publishes (by simp)

theorem SendOutcome.label_published {tools : NotificationTools} {record : ContinuousTaskRecord}
    {sent : Sent} {kind : SendKind} (outcome : SendOutcome tools record sent kind)
    (publishes : kind = .publishes) : OwnLabelled tools.hash sent.record := by
  unfold OwnLabelled
  rw [createNotificationLabel_congr tools.hash outcome.edited.toSameTask]
  exact congrArg Prod.fst (outcome.main_published publishes)

/-- A detection relabels the notification of a record as before when only notifications were
sent in between. -/
theorem relabels_deteKind {record edited : ContinuousTaskRecord}
    (same : contents edited = contents record) (kept : Edited record edited) :
    (deteKind env s edited).relabels ↔ (deteKind env s record).relabels := by
  unfold deteKind activeKind
  rw [kept.suspendState, kept.uid]
  split
  · exact Iff.rfl
  · exact relabels_congr same

theorem NoOrphans.detected (tidy : NoOrphans s) (succeed : env.NotificationsSucceed)
    (numbered : Numbered s) (taskKeys : List String) (detects : DetectsTidily env s taskKeys) :
    NoOrphans (taskKeys.foldl (sendForDete env) s) := by
  have start : AllWitnessed (Outlasts env s taskKeys) s := by
    intro pair shown
    obtain ⟨key, record, found, rfl | sub⟩ := tidy pair shown
    · obtain ⟨other, task, stored, same, outlasts⟩ := detects key record found shown
      exact ⟨other, task, stored, Or.inr ⟨same, outlasts⟩⟩
    · exact ⟨key, record, found, Or.inl sub⟩
  have step : ∀ key ∈ taskKeys, ∀ current later, Numbered current → SameBooks s current →
      DeteStep env key current later →
      (current.tools.hash = s.tools.hash ∧ AllWitnessed (Outlasts env s taskKeys) current) →
      later.tools.hash = s.tools.hash ∧ AllWitnessed (Outlasts env s taskKeys) later := by
    rintro key listed current later numbered books next ⟨hash, each⟩
    cases next with
    | missing gone eq =>
        rw [eq]
        exact ⟨hash, each⟩
    | @sent record sent found outcome unchanged replaced =>
        have sentHash : later.tools.hash = s.tools.hash := by
          rw [replaced.tools, outcome.hash, hash]
        have kind : deteKind env current record = deteKind env s record := books.deteKind env record
        rw [kind] at outcome
        refine ⟨sentHash, ?_⟩
        refine outcome.allWitnessed numbered each found rfl rfl
          (numbered.labelled key record found) replaced (fun _ _ _ _ outlasts => outlasts) ?_ ?_ ?_
        · intro keeps outlasts
          refine outlasts.imp_right ?_
          rintro (unmoved | own)
          · exact Or.inl (fun moves => unmoved ((relabels_deteKind unchanged
              outcome.edited).mp moves))
          · rw [keeps] at outcome
            cases outcome with
            | kept same isShown isHash index =>
                exact Or.inr ((ownLabelled_congr same.toSameTask
                  (congrArg Prod.fst same.mainPair)).mpr own)
        · intro publishes
          refine Or.inr (Or.inr ?_)
          have label := outcome.label_published publishes
          rw [hash] at label
          exact label
        · intro relabels shown outlasts
          rcases outlasts with unlisted | unmoved | own
          · exact absurd listed unlisted
          · exact absurd relabels unmoved
          · rw [← hash] at own
            exact Or.inl (ownPair_of_ownLabelled own (numbered.shownIds _ shown))
  exact (dete_invariant succeed numbered taskKeys step ⟨rfl, start⟩).2.2.noOrphans

theorem NoOrphans.reactivated (tidy : NoOrphans s) (succeed : env.NotificationsSucceed)
    (numbered : Numbered s) {uid : Int} (safe : SafeToReactivate env uid s) :
    NoOrphans (s.handleActiveContinuousTask env uid) :=
  AllWitnessed.handleActiveContinuousTask succeed numbered (safe.allWitnessed numbered tidy)

/-! ### Updates that reactivate -/

/-- The id of the own notification is the one the record has, or a new one. -/
theorem id_of_ownPair {tools : NotificationTools} {record edited : ContinuousTaskRecord}
    (main : edited.mainPair = ownPair tools record) :
    (edited.notificationId = record.notificationId ∧ record.notificationId ≠ -1) ∨
      (record.notificationId = -1 ∧ edited.notificationId = tools.notificationIdIndex + 1) := by
  have id : edited.notificationId = tools.chosenId record.notificationId := congrArg Prod.snd main
  unfold NotificationTools.chosenId at id
  split at id
  · rename_i absent
    exact Or.inr ⟨absent, id⟩
  · rename_i given
    exact Or.inl ⟨id, given⟩

/-- The id after a publication is the old one, none, or a new one. -/
theorem SendOutcome.id_cases {tools : NotificationTools} {record : ContinuousTaskRecord}
    {sent : Sent} {kind : SendKind} (outcome : SendOutcome tools record sent kind) :
    sent.record.notificationId = record.notificationId ∨ sent.record.notificationId = -1 ∨
      (record.notificationId = -1 ∧
        sent.record.notificationId = tools.notificationIdIndex + 1) := by
  have chosen : sent.record.mainPair = ownPair tools record →
      sent.record.notificationId = record.notificationId ∨ sent.record.notificationId = -1 ∨
        (record.notificationId = -1 ∧
          sent.record.notificationId = tools.notificationIdIndex + 1) :=
    fun main => (id_of_ownPair main).imp And.left Or.inr
  cases outcome with
  | kept same isShown hash index => exact Or.inl (congrArg Prod.snd same.mainPair)
  | cleared edited none sub isShown hash index => exact Or.inr (Or.inl none)
  | published ret edited main sub isShown hash index => exact chosen main
  | both ret edited request main sub isShown hash index => exact chosen main
  | withdrawn edited main sub isShown hash index => exact chosen main

section Update

variable {made : Publication} {sent : Sent} {middle : BgContinuousTaskMgr}

theorem Resting.other (numbered : Numbered made.mgr)
    (outcome : SendOutcome made.mgr.tools made.record sent made.kind)
    (found : made.mgr.taskAt made.key = some made.record)
    (suspended : made.record.suspendState = true)
    (replaced : Replaced made.key sent.record sent.tools made.mgr middle)
    (sources : SameSources made.record.uid made.mgr middle) {other : String}
    {task : ContinuousTaskRecord} (stored : made.mgr.taskAt other = some task)
    (rests : Resting env made.record.uid made.mgr other task) :
    Resting env made.record.uid middle other task := by
  rcases rests with idle | ⟨holds, given⟩
  · exact Or.inl idle
  by_cases pending : Pending made.record.uid task
  swap
  · exact Or.inl pending
  refine Or.inr ⟨⟨?_, ?_⟩, given⟩
  · intro another edited lookup apart waits
    rcases replaced.cases lookup with ⟨rfl, rfl⟩ | ⟨-, old⟩
    · have away : made.record.notificationId ≠ task.notificationId :=
        holds.alone made.key made.record found apart ⟨rfl, suspended⟩
      have bounds := (numbered.labelled other task stored).mainId
      rcases outcome.id_cases with same | none | ⟨-, new⟩
      · rw [same]
        exact away
      · rw [none]
        exact given.symm
      · omega
    · exact holds.alone another edited old apart waits
  · have hash : middle.tools.hash = made.mgr.tools.hash := by
      rw [replaced.tools, outcome.hash]
    have texts : SameSources (reactivated task).uid made.mgr middle := by
      show SameSources task.uid made.mgr middle
      rw [pending.1]
      exact sources
    rw [hash, texts.sendKindByModes env]
    exact holds.label

theorem Resting.own (numbered : Numbered made.mgr)
    (outcome : SendOutcome made.mgr.tools made.record sent made.kind)
    (unchanged : contents sent.record = contents made.record)
    (suspended : made.record.suspendState = true)
    (replaced : Replaced made.key sent.record sent.tools made.mgr middle)
    (sources : SameSources made.record.uid made.mgr middle) (safe : SafeUpdate env made)
    (found : made.mgr.taskAt made.key = some made.record)
    (stays : made.kind = .publishes ∨ (made.kind = .keeps ∧
      Resting env made.record.uid made.mgr made.key made.record)) :
    Resting env made.record.uid middle made.key sent.record := by
  have hash : middle.tools.hash = made.mgr.tools.hash := by
    rw [replaced.tools, outcome.hash]
  have labelled := numbered.labelled made.key made.record found
  have later : ∀ id, AloneInId made.record.uid made.mgr made.key id →
      AloneInId made.record.uid middle made.key id := by
    intro id alone another edited lookup apart waits
    exact alone another edited ((replaced.other apart).symm.trans lookup) apart waits
  rcases stays with publishes | ⟨keeps, rests⟩
  · have counter := numbered.counter
    have label : OwnLabelled middle.tools.hash sent.record := by
      rw [hash]
      exact outcome.label_published publishes
    rcases id_of_ownPair (outcome.main_published publishes) with ⟨same, given⟩ | ⟨-, new⟩
    · rw [← same] at given
      refine Or.inr ⟨⟨?_, Or.inl label⟩, given⟩
      refine later _ ?_
      rw [same]
      exact safe.alone publishes (same ▸ given)
    · refine Or.inr ⟨⟨?_, Or.inl label⟩, by omega⟩
      refine later _ ?_
      intro another task lookup _ _
      have old := (numbered.labelled another task lookup).mainId
      omega
  · have pending : Pending made.record.uid made.record := ⟨rfl, suspended⟩
    rcases rests with idle | ⟨holds, given⟩
    · exact absurd pending idle
    rw [keeps] at outcome
    cases outcome with
    | kept same isShown isHash index =>
        have id : sent.record.notificationId = made.record.notificationId :=
          congrArg Prod.snd same.mainPair
        refine Or.inr ⟨⟨?_, ?_⟩, by rw [id]; exact given⟩
        · rw [id]
          exact later _ holds.alone
        · have texts : SameSources (reactivated sent.record).uid made.mgr middle := by
            show SameSources sent.record.uid made.mgr middle
            rw [same.uid]
            exact sources
          have active : contents (reactivated sent.record) = contents (reactivated made.record) :=
            congrArg reactivated unchanged
          rw [hash, texts.sendKindByModes env, relabels_congr active,
            ownLabelled_congr same.toSameTask (congrArg Prod.fst same.mainPair)]
          exact holds.label

/-- An update publishes for a suspended task and reactivates the tasks of its app. -/
theorem NoOrphans.updated (tidy : NoOrphans made.mgr) (succeed : env.NotificationsSucceed)
    (numbered : Numbered made.mgr) (found : made.mgr.taskAt made.key = some made.record)
    (suspended : made.record.suspendState = true)
    (outcome : SendOutcome made.mgr.tools made.record sent made.kind)
    (unchanged : contents sent.record = contents made.record)
    (stored : Undisturbed (made.mgr.setSent made.key sent) middle)
    (sources : SameSources made.record.uid made.mgr middle) (safe : SafeUpdate env made) :
    NoOrphans (middle.handleActiveContinuousTask env made.record.uid) := by
  have replaced := replaced_setSent found stored
  have each : AllWitnessed (Resting env made.record.uid middle) middle := by
    refine outcome.allWitnessed numbered (safe.reactivation.allWitnessed numbered tidy) found rfl
      rfl (numbered.labelled made.key made.record found) replaced ?_ ?_ ?_ ?_
    · intro other task _ lookup rests
      exact rests.other numbered outcome found suspended replaced sources lookup
    · intro keeps rests
      exact Resting.own numbered outcome unchanged suspended replaced sources safe found
        (Or.inr ⟨keeps, rests⟩)
    · intro publishes
      exact Resting.own numbered outcome unchanged suspended replaced sources safe found
        (Or.inl publishes)
    · intro relabels shown _
      exact safe.replaces relabels shown
  have sentNumbered : Numbered middle := (numbered.setSent found outcome).unnoticed stored.unnoticed
  exact each.handleActiveContinuousTask succeed sentNumbered

end Update

/-! ### Any operation -/

theorem NoOrphans.noticeEffect (tidy : NoOrphans s) (numbered : Numbered s)
    (succeed : env.NotificationsSucceed) (clean : TidyStep s (env, op))
    (effect : NoticeEffect env s op after) : NoOrphans after := by
  cases effect with
  | unnoticed same => exact tidy.unnoticed same
  | started request outcome => exact tidy.started outcome
  | @stopped ready same stopped only =>
      refine (tidy.unnoticed same).stopped stopped ?_
      intro key edited found gone
      obtain ⟨record, old, notices⟩ := same.backward key edited found
      exact (clean.stop key record old (only key record old gone)).unnoticed same notices
  | swept made effect => exact tidy.swept made effect (clean.sweep _ made)
  | published publishes same found outcome saved =>
      exact (tidy.unnoticed same).published (numbered.unnoticed same) found outcome
        (clean.publication _ publishes).2 saved
  | updated publishes isUpdate suspended same found outcome unchanged stored sources saved =>
      have reactivated := (tidy.unnoticed same).updated succeed (numbered.unnoticed same) found
        suspended outcome unchanged stored sources
        ((clean.publication _ publishes).1 ⟨isUpdate, suspended⟩)
      exact reactivated.unnoticed saved.unnoticed
  | @reactivated uid asks eq =>
      rw [eq]
      exact tidy.reactivated succeed numbered (clean.reactivation uid asks)
  | @detected taskKeys asks eq =>
      rw [eq]
      exact tidy.detected succeed numbered taskKeys (clean.detection taskKeys asks)
  | @liveViewGone uid noted same eq =>
      rw [eq]
      exact (tidy.unnoticed same.unnoticed).liveViewGone succeed (numbered.unnoticed same.unnoticed)
        uid

/-- One operation that meets nothing it would leave a notification behind for. -/
theorem NoOrphans.taskStep (tidy : NoOrphans s) (numbered : Numbered s)
    (succeed : env.NotificationsSucceed) (clean : TidyStep s (env, op)) :
    NoOrphans (s.taskStep (env, op)) :=
  tidy.noticeEffect numbered succeed clean (noticeEffect_taskStep succeed numbered op)

end Steps

/-! ## Runs -/

structure Blank (s : BgContinuousTaskMgr) : Prop where
  noTask : ∀ key, s.taskAt key = none
  nothingShown : s.tools.published = []
  counter : -1 ≤ s.tools.notificationIdIndex

theorem Blank.numbered {s : BgContinuousTaskMgr} (blank : Blank s) : Numbered s := by
  refine ⟨?_, blank.counter, ?_⟩
  · intro key record found
    exact absurd ((blank.noTask key).symm.trans found) (by simp)
  · intro pair shown
    unfold NotificationTools.Shown at shown
    simp [blank.nothingShown] at shown

theorem Blank.noOrphans {s : BgContinuousTaskMgr} (blank : Blank s) : NoOrphans s := by
  intro pair shown
  unfold NotificationTools.Shown at shown
  simp [blank.nothingShown] at shown

/-- In every run in which notifications are published and cancelled without failure and no
operation leaves one behind, every notification that is shown belongs to a task. -/
theorem run_no_orphans (s : BgContinuousTaskMgr) (blank : Blank s) (labels : List (Env × TaskOp))
    (succeed : ∀ label ∈ labels, label.1.NotificationsSucceed)
    (tidy : StepSystem.Admissible taskStep TidyStep s labels) :
    NoOrphans (StepSystem.run taskStep s labels) := by
  have preserve : ∀ (s : BgContinuousTaskMgr) (label : Env × TaskOp), Numbered s ∧ NoOrphans s →
      label.1.NotificationsSucceed ∧ TidyStep s label →
      Numbered (s.taskStep label) ∧ NoOrphans (s.taskStep label) := by
    rintro s ⟨env, op⟩ ⟨numbered, clean⟩ ⟨succeed, step⟩
    exact ⟨numbered.taskStep succeed op, clean.taskStep numbered succeed step⟩
  exact (StepSystem.run_invariant preserve labels s ⟨blank.numbered, blank.noOrphans⟩
    (tidy.and_forall succeed)).2

theorem notificationsSucceed_deviceEnv (foreground : Option (List Int)) :
    Env.NotificationsSucceed { deviceEnv with foregroundApplications := foreground } :=
  ⟨fun _ _ => rfl, fun _ _ => rfl⟩

def initialised : BgContinuousTaskMgr := (installed (fun _ => 0)).initRequiredResourceInfo deviceEnv

theorem taskAt_of_entries {s : BgContinuousTaskMgr} (none : s.continuousTaskInfosMap.entries = [])
    (key : String) : s.taskAt key = .none := by
  refine Option.eq_none_iff_forall_ne_some.mpr ?_
  intro record found
  have listed := KeyedMap.mem_entries_iff.mpr found
  rw [none] at listed
  exact absurd listed (by simp)

theorem blank_initialised : Blank initialised :=
  ⟨taskAt_of_entries (by decide), by decide, by decide⟩

def liveViewRun (op : TaskOp) : List (Env × TaskOp) :=
  [deviceStart 100 (requestOf [BackgroundMode.dataTransfer, BackgroundMode.location] [1, 2]),
    (deviceEnv, op)]

theorem notificationsSucceed_liveViewRun (op : TaskOp) :
    ∀ label ∈ liveViewRun op, label.1.NotificationsSucceed := by
  intro label member
  simp only [liveViewRun, List.mem_cons, List.not_mem_nil, or_false] at member
  rcases member with rfl | rfl
  · exact notificationsSucceed_deviceEnv (some [100])
  · exact notificationsSucceed_deviceEnv none

/-- The task is stopped by its ability. -/
theorem run_no_orphans_stopped :
    NoOrphans (StepSystem.run taskStep initialised
      (liveViewRun (.client 100 (.stopBackgroundRunning "EntryAbility" 1 (-1))))) := by
  refine run_no_orphans initialised blank_initialised _ (notificationsSucceed_liveViewRun _)
    ⟨⟨?_, ?_, ?_, ?_, ?_⟩, ⟨?_, ?_, ?_, ?_, ?_⟩, trivial⟩
  -- the start
  · intro sweep made
    exact absurd made (by simp [deviceStart, sweepOf])
  · intro key record _ ends
    exact absurd ends (by simp [deviceStart, stops])
  · intro made publishes
    exact absurd publishes (by simp [deviceStart, publication])
  · intro uid asks
    exact absurd asks (by simp [deviceStart])
  · intro taskKeys asks
    exact absurd asks (by simp [deviceStart])
  -- the stop
  · intro sweep made
    exact absurd made (by simp [sweepOf])
  · intro key record found _ _
    have tasks : ∀ entry ∈ (StepSystem.run taskStep initialised [deviceStart 100 (requestOf
        [BackgroundMode.dataTransfer, BackgroundMode.location] [1, 2])]).continuousTaskInfosMap.entries,
        entry.1 = "100_EntryAbility_1_1" ∧ entry.2.notificationId = 0 := by decide
    have own := tasks ⟨key, record⟩ (KeyedMap.mem_entries_iff.mpr found)
    have id : record.notificationId = 0 := own.2
    refine ⟨by omega, ?_⟩
    intro other task stored different
    have another := tasks ⟨other, task⟩ (KeyedMap.mem_entries_iff.mpr stored)
    exact absurd (another.1.trans own.1.symm) different
  · intro made publishes
    exact absurd publishes (by simp [publication])
  · intro uid asks
    exact absurd asks (by simp)
  · intro taskKeys asks
    exact absurd asks (by simp)

/-- The data of the app is cleared: only the main notification of its task is cancelled. -/
theorem cleared_data_leaves_notification :
    (∀ label ∈ liveViewRun (.onBundleInfoChanged .dataCleared "app" 100 0 0),
        label.1.NotificationsSucceed) ∧
      ¬ NoOrphans (StepSystem.run taskStep initialised
        (liveViewRun (.onBundleInfoChanged .dataCleared "app" 100 0 0))) := by
  refine ⟨notificationsSucceed_liveViewRun _, ?_⟩
  intro tidy
  obtain ⟨key, record, found, -⟩ := tidy ("bgmode_100_0_1_1_7", 1) (by decide)
  have gone : (StepSystem.run taskStep initialised (liveViewRun (.onBundleInfoChanged .dataCleared
      "app" 100 0 0))).taskAt key = none := taskAt_of_entries (by decide) key
  exact absurd (gone.symm.trans found) (by simp)

end BgTaskMgr.Continuous
