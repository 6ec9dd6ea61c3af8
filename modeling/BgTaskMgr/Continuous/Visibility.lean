import BgTaskMgr.Continuous.Deletion
import BgTaskMgr.Continuous.TidyRuns

/-!
# Active tasks and what is shown of them

Whether the main notification of every active task is shown, over runs of the manager.  A
notification that several tasks share goes with the first of them that is suspended, ended or
sent without a text, whoever else still refers to it; what each operation must not meet so
that no active task loses its notification.
-/

set_option autoImplicit false

namespace BgTaskMgr.Continuous

open BgContinuousTaskMgr

def Visible (s : BgContinuousTaskMgr) : Prop :=
  ∀ key record, s.taskAt key = some record → record.suspendState = false →
    record.notificationId ≠ -1 → s.tools.Shown record.mainPair

/-! ## Conditions -/

/-- An active task besides the one under the key has the main notification. -/
def SharedByActive (s : BgContinuousTaskMgr) (key : String) (pair : String × Int) : Prop :=
  ∃ other task, other ≠ key ∧ s.taskAt other = some task ∧ task.suspendState = false ∧
    task.mainPair = pair

/-- The sweep withdraws no main notification of a task that it leaves active. -/
def SweepsAround (sweep : Sweep) (s : BgContinuousTaskMgr) : Prop :=
  ∀ key record left, s.taskAt key = some record → sweep.change key record = some left →
    left.suspendState = false → left.notificationId ≠ -1 → left.mainPair ∉ sweep.deleted ∧
      ∀ other task, s.taskAt other = some task → left.mainPair ∉ sweep.withdrawn other task

/-- A suspended task whose notification a new task comes to share still shows it. -/
def JoinsShown (s : BgContinuousTaskMgr) (record : ContinuousTaskRecord) : Prop :=
  ∀ key task, mergeTarget s record = some (key, task) → agreeToShare record task = true →
    task.suspendState = true → s.tools.Shown task.mainPair

/-- The reactivated task is shown again, or needs not be, and takes its notification from no
active task. -/
def Reappears (env : Env) (s : BgContinuousTaskMgr) (key : String)
    (record : ContinuousTaskRecord) : Prop :=
  sendKindByModes env s (reactivated record) = .publishes ∨
    (sendKindByModes env s (reactivated record) = .keeps ∧ s.tools.Shown record.mainPair) ∨
    (sendKindByModes env s (reactivated record) = .clears ∧
      ¬ SharedByActive s key record.mainPair)

def AllReappear (env : Env) (uid : Int) (s : BgContinuousTaskMgr) : Prop :=
  ∀ key record, s.taskAt key = some record → Pending uid record → record.notificationId ≠ -1 →
    Reappears env s key record

structure VisibleUpdate (env : Env) (made : Publication) : Prop where
  others : ∀ key record, key ≠ made.key → made.mgr.taskAt key = some record →
    Pending made.record.uid record → record.notificationId ≠ -1 →
      Reappears env made.mgr key record ∧ (made.kind = .clears →
        sendKindByModes env made.mgr (reactivated record) = .keeps →
        record.mainPair ≠ made.record.mainPair)
  kept : made.kind = .keeps → made.record.notificationId ≠ -1 →
    Reappears env made.mgr made.key made.record
  published : made.kind = .publishes →
    sendKindByModes env made.mgr (contents (reactivated made.record)) ≠ .withdraws ∧
      (sendKindByModes env made.mgr (contents (reactivated made.record)) = .clears →
        ¬ SharedByActive made.mgr made.key (ownPair made.mgr.tools made.record))

/-- A publication that clears a notification takes it from no active task, and neither does
the reactivation after an update. -/
def PublishesVisibly (env : Env) (made : Publication) : Prop :=
  (made.kind = .clears → ¬ SharedByActive made.mgr made.key made.record.mainPair) ∧
    (made.isUpdate = true ∧ made.record.suspendState = true → VisibleUpdate env made)

/-- A detection of the task withdraws no notification: neither its own, nor one that another
active task has or comes to have by the same detection. -/
def DetectedVisibly (env : Env) (s : BgContinuousTaskMgr) (taskKeys : List String) (key : String)
    (record : ContinuousTaskRecord) : Prop :=
  deteKind env s record ≠ .withdraws ∧ (deteKind env s record = .clears →
    ∀ other task, other ≠ key → s.taskAt other = some task → task.suspendState = false →
      task.notificationId = record.notificationId →
        task.notificationLabel ≠ record.notificationLabel ∧
          (other ∈ taskKeys → deteKind env s task = .publishes →
            createNotificationLabel s.tools.hash task ≠ record.notificationLabel))

structure VisibleStep (s : BgContinuousTaskMgr) (label : Env × TaskOp) : Prop where
  sweep : ∀ sweep, sweepOf label.1 s label.2 = some sweep → SweepsAround sweep s
  start : ∀ record, requested label.1 label.2 = some record →
    JoinsShown s { record with continuousTaskId := s.continuousTaskIdIndex + 1 }
  publication : ∀ made, publication label.1 s label.2 = some made → PublishesVisibly label.1 made
  reactivation : ∀ uid, label.2 = .activeContinuousTask uid false → AllReappear label.1 uid s
  detection : ∀ taskKeys, label.2 = .sendNotificationByDeteTask taskKeys → ∀ key ∈ taskKeys,
    ∀ record, s.taskAt key = some record → DetectedVisibly label.1 s taskKeys key record

/-! ## Steps -/

section Steps

variable {env : Env} {op : TaskOp} {s after : BgContinuousTaskMgr}

theorem Visible.unnoticed (visible : Visible s) (same : Unnoticed s after) : Visible after := by
  intro key edited found active given
  obtain ⟨record, stored, notices⟩ := same.backward key edited found
  have id : edited.notificationId = record.notificationId := congrArg Prod.snd notices.mainPair
  rw [notices.mainPair, same.shown]
  refine visible key record stored (notices.suspendState.symm.trans active) ?_
  rw [← id]
  exact given

/-- A publication for a record takes what is shown from no other record whose id is not that
of the publication. -/
theorem SendOutcome.keeps_shown {tools : NotificationTools} {record : ContinuousTaskRecord}
    {sent : Sent} {kind : SendKind} (outcome : SendOutcome tools record sent kind)
    {pair : String × Int} (shown : tools.Shown pair)
    (uncleared : kind = .clears → pair ≠ record.mainPair)
    (unwithdrawn : kind = .withdraws → pair ≠ ownPair tools record) : sent.tools.Shown pair := by
  cases outcome with
  | kept same isShown hash index => exact (isShown pair).mpr shown
  | cleared edited none sub isShown hash index => exact (isShown pair).mpr ⟨shown, uncleared rfl⟩
  | published ret edited main sub isShown hash index => exact (isShown pair).mpr (Or.inl shown)
  | both ret edited request main sub isShown hash index =>
      exact (isShown pair).mpr (Or.inl shown)
  | withdrawn edited main sub isShown hash index failed =>
      exact (isShown pair).mpr ⟨shown, unwithdrawn rfl⟩

/-- The record itself shows its notification after a publication, if it did before where the
publication changes nothing. -/
theorem SendOutcome.own_shown {tools : NotificationTools} {record : ContinuousTaskRecord}
    {sent : Sent} {kind : SendKind} (outcome : SendOutcome tools record sent kind)
    (remains : kind ≠ .withdraws) (wasShown : kind = .keeps → tools.Shown record.mainPair)
    (given : sent.record.notificationId ≠ -1) : sent.tools.Shown sent.record.mainPair := by
  cases outcome with
  | kept same isShown hash index =>
      rw [same.mainPair, isShown]
      exact wasShown rfl
  | cleared edited none sub isShown hash index => exact absurd none given
  | published ret edited main sub isShown hash index =>
      rw [main, isShown]
      exact Or.inr rfl
  | both ret edited request main sub isShown hash index =>
      rw [main, isShown]
      exact Or.inr (Or.inl rfl)
  | withdrawn edited main sub isShown hash index failed => exact absurd rfl remains

theorem ownPair_new {tools : NotificationTools} {record task : ContinuousTaskRecord}
    (absent : record.notificationId = -1) (labelled : Labelled tools task) :
    task.mainPair ≠ ownPair tools record := by
  intro same
  have id : task.notificationId = tools.chosenId record.notificationId := congrArg Prod.snd same
  have bounds := labelled.mainId
  unfold NotificationTools.chosenId at id
  rw [if_pos absent] at id
  omega

theorem Visible.started {record : ContinuousTaskRecord} (visible : Visible s)
    (numbered : Numbered s) (fresh : Fresh record) (outcome : StartOutcome s record after)
    (joins : JoinsShown s record) : Visible after := by
  -- a record without notification takes none from another one
  have others : ∀ {ready : BgContinuousTaskMgr} {sent : Sent} {kind : SendKind},
      Unnoticed s ready → SendOutcome ready.tools record sent kind →
      ∀ key task, ready.taskAt key = some task → task.suspendState = false →
        task.notificationId ≠ -1 → sent.tools.Shown task.mainPair := by
    intro ready sent kind same outcome key task found active given
    have shown := visible.unnoticed same key task found active given
    refine outcome.keeps_shown shown ?_ ?_
    · intro _ isOwn
      have id : task.notificationId = record.notificationId := congrArg Prod.snd isOwn
      exact given (id.trans fresh.notificationId)
    · intro _
      exact ownPair_new fresh.notificationId ((numbered.unnoticed same).labelled key task found)
  cases outcome with
  | refused same => exact visible.unnoticed same
  | unsent same outcome failed eq =>
      rw [eq]
      intro key task found active given
      have shown := others same outcome key task found active given
      exact shown
  | @started ready key sent kind same free outcome saved ret =>
      refine Visible.unnoticed ?_ saved.unnoticed
      intro other task lookup active given
      rw [taskAt_addTask] at lookup
      split at lookup
      · obtain rfl := Option.some.inj lookup
        refine outcome.own_shown ?_ ?_ given
        · intro withdraws
          rw [withdraws] at outcome
          cases outcome with
          | withdrawn edited main sub isShown hash index failed => exact failed ret
        · intro keeps
          rw [keeps] at outcome
          cases outcome with
          | kept notices isShown hash index =>
              have id : sent.record.notificationId = record.notificationId :=
                congrArg Prod.snd notices.mainPair
              exact absurd (id.trans fresh.notificationId) given
      · exact others same outcome other task lookup active given
  | @merged ready key taskKey task same free target agreed saved =>
      refine Visible.unnoticed ?_ saved.unnoticed
      obtain ⟨found, matched⟩ := taskAt_of_findTask s taskKey task target
      have given : task.notificationId ≠ -1 := by
        simp only [agreeToShare, Bool.and_eq_true, bne_iff_ne] at agreed
        tauto
      have shown : s.tools.Shown task.mainPair := by
        cases state : task.suspendState with
        | true => exact joins taskKey task target agreed state
        | false => exact visible taskKey task found state given
      intro other edited lookup active hasId
      rw [taskAt_addTask] at lookup
      split at lookup
      · obtain rfl := Option.some.inj lookup
        exact (same.shown task.mainPair).mpr shown
      · exact visible.unnoticed same other edited lookup active hasId

theorem Visible.stopped {chosen : ContinuousTaskRecord → Prop} (visible : Visible s)
    (stopped : Stopped chosen s after) : Visible after := by
  intro key record found active given
  exact stopped.keepsMain key record found given
    (visible key record (stopped.origin key record found) active given)

theorem Visible.swept {sweep : Sweep} (visible : Visible s)
    (made : sweepOf env s op = some sweep) (effect : SweepEffect sweep s after)
    (around : SweepsAround sweep s) : Visible after := by
  intro key edited found active given
  obtain ⟨record, left, stored, change, notices⟩ := effect.origin key edited found
  have isActive : left.suspendState = false := notices.suspendState.symm.trans active
  have id : edited.notificationId = left.notificationId := congrArg Prod.snd notices.mainPair
  have hasId : left.notificationId ≠ -1 := by
    rw [← id]
    exact given
  obtain ⟨undeleted, unwithdrawn⟩ := around key record left stored change isActive hasId
  rw [notices.mainPair, effect.shown]
  refine ⟨?_, undeleted, unwithdrawn⟩
  have main : left.mainPair = record.mainPair :=
    (lessened_sweepOf made change).main.resolve_right hasId
  have recordId : left.notificationId = record.notificationId := congrArg Prod.snd main
  rw [main]
  refine visible key record stored ((lessened_sweepOf made change).active isActive) ?_
  rw [← recordId]
  exact hasId

theorem sendKind_ne_withdraws (s : BgContinuousTaskMgr) (record : ContinuousTaskRecord) :
    sendKind env s record ≠ .withdraws := by
  unfold sendKind
  dsimp only
  split
  · simp
  split
  · split
    · simp
    · simp
  split
  · simp
  · simp

theorem avSessionKind_ne_withdraws (s : BgContinuousTaskMgr) (isPublish : Bool)
    (record : ContinuousTaskRecord) : avSessionKind env s isPublish record ≠ .withdraws := by
  unfold avSessionKind
  split
  · simp
  split
  · simp
  split
  · exact sendKind_ne_withdraws s record
  split
  · split
    · simp
    · simp
  · simp

theorem avSessionPublication_ne_withdraws {uid : Int} {isPublish : Bool} {made : Publication}
    (publishes : avSessionPublication env s uid isPublish = some made) :
    made.kind ≠ .withdraws := by
  unfold avSessionPublication at publishes
  obtain ⟨found, -, rfl⟩ := Option.map_eq_some_iff.mp publishes
  exact avSessionKind_ne_withdraws _ _ _

theorem publication_ne_withdraws {made : Publication}
    (publishes : publication env s op = some made) : made.kind ≠ .withdraws := by
  have chosen : ∀ (condition : Prop) [Decidable condition] (state : BgContinuousTaskMgr)
      (record : ContinuousTaskRecord),
      (if condition then sendKind env state record else .keeps) ≠ .withdraws := by
    intro condition _ state record
    split
    · exact sendKind_ne_withdraws state record
    · simp
  unfold publication at publishes
  split at publishes
  · split at publishes
    · exact absurd publishes (by simp)
    split at publishes
    · unfold updatePublicationById at publishes
      split at publishes
      · exact absurd publishes (by simp)
      split at publishes
      · exact absurd publishes (by simp)
      dsimp only at publishes
      split at publishes
      · exact absurd publishes (by simp)
      · obtain rfl := Option.some.inj publishes
        exact chosen _ _ _
    · unfold updatePublication at publishes
      split at publishes
      · exact absurd publishes (by simp)
      dsimp only at publishes
      split at publishes
      · exact absurd publishes (by simp)
      · obtain rfl := Option.some.inj publishes
        dsimp only
        split
        · simp
        · exact sendKind_ne_withdraws _ _
  · split at publishes
    · exact absurd publishes (by simp)
    unfold progressPublication at publishes
    split at publishes
    · exact absurd publishes (by simp)
    dsimp only at publishes
    split at publishes
    · exact absurd publishes (by simp)
    · obtain rfl := Option.some.inj publishes
      exact sendKind_ne_withdraws _ _
  · split at publishes
    · exact avSessionPublication_ne_withdraws publishes
    · exact absurd publishes (by simp)
  · obtain ⟨entry, -, made'⟩ := Option.bind_eq_some_iff.mp publishes
    exact avSessionPublication_ne_withdraws made'
  · exact absurd publishes (by simp)

/-- A publication for one task, whose notification is shown afterwards when it is active. -/
theorem Visible.published {made : Publication} {sent : Sent} (visible : Visible made.mgr)
    (found : made.mgr.taskAt made.key = some made.record)
    (outcome : SendOutcome made.mgr.tools made.record sent made.kind)
    (remains : made.kind ≠ .withdraws)
    (clears : made.kind = .clears →
      ¬ SharedByActive made.mgr made.key made.record.mainPair)
    (saved : Undisturbed (made.mgr.setSent made.key sent) after) : Visible after := by
  have replaced := replaced_setSent found saved
  intro key task lookup active given
  rw [replaced.tools]
  rcases replaced.cases lookup with ⟨rfl, rfl⟩ | ⟨different, old⟩
  · refine outcome.own_shown remains ?_ given
    intro keeps
    rw [keeps] at outcome
    cases outcome with
    | kept same isShown hash index =>
        have id : sent.record.notificationId = made.record.notificationId :=
          congrArg Prod.snd same.mainPair
        refine visible made.key made.record found (same.suspendState.symm.trans active) ?_
        rw [← id]
        exact given
  · refine outcome.keeps_shown (visible key task old active given) ?_ ?_
    · intro isCleared same
      exact clears isCleared ⟨key, task, different, old, active, same⟩
    · intro withdraws
      exact absurd withdraws remains

/-- The loop after a live view publishes for tasks that have no notification. -/
theorem Visible.liveViewGone (visible : Visible s) (succeed : env.NotificationsSucceed)
    (numbered : Numbered s) (uid : Int) : Visible (s.forEachTask (sendAfterLiveView env uid)) := by
  have step : ∀ key record current later, current.taskAt key = some record → Numbered current →
      LiveViewStep env uid key record current later → Visible current → Visible later := by
    intro key record current later found numbered next visible
    cases next with
    | skipped eq =>
        rw [eq]
        exact visible
    | @sent sent absent outcome replaced =>
        intro other task lookup active given
        rw [replaced.tools]
        rcases replaced.cases lookup with ⟨rfl, rfl⟩ | ⟨-, old⟩
        · refine outcome.own_shown (sendKind_ne_withdraws current record) ?_ given
          intro keeps
          rw [keeps] at outcome
          cases outcome with
          | kept same isShown hash index =>
              have id : sent.record.notificationId = record.notificationId :=
                congrArg Prod.snd same.mainPair
              exact absurd (id.trans absent) given
        · refine outcome.keeps_shown (visible other task old active given) ?_ ?_
          · intro _ same
            have id : task.notificationId = record.notificationId := congrArg Prod.snd same
            exact given (id.trans absent)
          · intro withdraws
            exact absurd withdraws (sendKind_ne_withdraws current record)
  exact (liveView_invariant succeed numbered uid step visible).2

/-! ### Reactivation -/

/-- The loop over suspended tasks: what is active is shown, an id that a task may take over
came before, and a task that is still to come shows what it showed. -/
structure Watching (uid : Int) (s : BgContinuousTaskMgr) (loop : ActiveLoop) : Prop where
  visible : Visible loop.mgr
  settled : ∀ key record, loop.mgr.taskAt key = some record → record.suspendState = false →
    record.notificationId = -1 ∨ record.notificationId ∈ loop.notificationOldIds ∨
      s.taskAt key = some record
  waiting : ∀ key record, s.taskAt key = some record → Pending uid record →
    record.notificationId ∉ loop.notificationOldIds → s.tools.Shown record.mainPair →
      loop.mgr.tools.Shown record.mainPair
  last : loop.notificationId = -2 ∨ loop.notificationId = -1 ∨
    (loop.notificationId ∈ loop.notificationOldIds ∧
      loop.mgr.tools.Shown (loop.notificationLabel, loop.notificationId))

theorem Watching.activateStep {uid : Int} {key : String} {record : ContinuousTaskRecord}
    {loop later : ActiveLoop} (reappear : AllReappear env uid s)
    (old : s.taskAt key = some record) (activating : Activating uid s loop)
    (step : ActivateStep env uid key record loop later) (watching : Watching uid s loop) :
    Watching uid s later := by
  cases step with
  | skipped notPending eq =>
      rw [eq]
      exact watching
  | bare pending absent replaced eq =>
      have ids : later.notificationOldIds = loop.notificationOldIds := by rw [eq]
      have label : later.notificationLabel = loop.notificationLabel := by rw [eq]
      have id : later.notificationId = loop.notificationId := by rw [eq]
      refine ⟨?_, ?_, ?_, ?_⟩
      · intro other task lookup active given
        rw [replaced.tools]
        rcases replaced.cases lookup with ⟨rfl, rfl⟩ | ⟨-, before⟩
        · exact absurd absent given
        · exact watching.visible other task before active given
      · intro other task lookup active
        rw [ids]
        rcases replaced.cases lookup with ⟨rfl, rfl⟩ | ⟨-, before⟩
        · exact Or.inl absent
        · exact watching.settled other task before active
      · rw [ids, replaced.tools]
        exact watching.waiting
      · rw [ids, label, id, replaced.tools]
        exact watching.last
  | @sent sent pending given first outcome unchanged replaced eq =>
      have kind : sendKindByModes env loop.mgr (reactivated record) =
          sendKindByModes env s (reactivated record) :=
        (activating.texts record.uid).sendKindByModes env
      rw [kind] at outcome
      have new : record.notificationId ∉ loop.notificationOldIds := by
        rcases first with none | new
        · rw [activating.fresh none]
          exact List.not_mem_nil
        · exact new
      have reappears := reappear key record old pending given
      have remains : sendKindByModes env s (reactivated record) ≠ .withdraws := by
        rcases reappears with publishes | ⟨keeps, -⟩ | ⟨clears, -⟩
        · simp [publishes]
        · simp [keeps]
        · simp [clears]
      have own : sent.record.notificationId ≠ -1 → sent.tools.Shown sent.record.mainPair := by
        refine outcome.own_shown remains ?_
        intro keeps
        rcases reappears with publishes | ⟨-, shown⟩ | ⟨clears, -⟩
        · exact absurd (publishes.symm.trans keeps) (by simp)
        · exact watching.waiting key record old pending new shown
        · exact absurd (clears.symm.trans keeps) (by simp)
      have listed : sent.record.notificationId = -1 ∨
          sent.record.notificationId ∈ loop.notificationOldIds ++ [record.notificationId] := by
        rcases outcome.id_cases with same | none | ⟨absent, -⟩
        · refine Or.inr ?_
          rw [same]
          simp [reactivated]
        · exact Or.inl none
        · exact absurd absent given
      have ids : later.notificationOldIds = loop.notificationOldIds ++ [record.notificationId] := by
        rw [eq]
      refine ⟨?_, ?_, ?_, ?_⟩
      · intro other task lookup active hasId
        rw [replaced.tools]
        rcases replaced.cases lookup with ⟨rfl, rfl⟩ | ⟨different, before⟩
        · exact own hasId
        · refine outcome.keeps_shown (watching.visible other task before active hasId) ?_
            (fun withdraws => absurd withdraws remains)
          intro clears same
          have id : task.notificationId = record.notificationId := congrArg Prod.snd same
          rcases watching.settled other task before active with none | isOld | untouched
          · exact hasId none
          · exact new (id ▸ isOld)
          · -- an active task that the loop does not concern
            rcases reappears with publishes | ⟨keeps, -⟩ | ⟨-, alone⟩
            · exact absurd (publishes.symm.trans clears) (by simp)
            · exact absurd (keeps.symm.trans clears) (by simp)
            · exact alone ⟨other, task, different, untouched, active, same⟩
      · intro other task lookup active
        rw [ids]
        rcases replaced.cases lookup with ⟨rfl, rfl⟩ | ⟨-, before⟩
        · exact listed.imp_right Or.inl
        · rcases watching.settled other task before active with none | isOld | untouched
          · exact Or.inl none
          · exact Or.inr (Or.inl (List.mem_append_left _ isOld))
          · exact Or.inr (Or.inr untouched)
      · intro other task stored waits unlisted shown
        rw [ids] at unlisted
        simp only [List.mem_append, List.mem_singleton, not_or] at unlisted
        rw [replaced.tools]
        refine outcome.keeps_shown (watching.waiting other task stored waits unlisted.1 shown) ?_
          (fun withdraws => absurd withdraws remains)
        intro _ same
        exact unlisted.2 (congrArg Prod.snd same)
      · rw [eq, replaced.tools]
        by_cases none : sent.record.notificationId = -1
        · exact Or.inr (Or.inl none)
        · exact Or.inr (Or.inr ⟨listed.resolve_left none, own none⟩)
  | shared pending given known isOld replaced eq =>
      have ids : later.notificationOldIds = loop.notificationOldIds := by rw [eq]
      have label : later.notificationLabel = loop.notificationLabel := by rw [eq]
      have id : later.notificationId = loop.notificationId := by rw [eq]
      have last := watching.last.resolve_left known
      refine ⟨?_, ?_, ?_, ?_⟩
      · intro other task lookup active hasId
        rw [replaced.tools]
        rcases replaced.cases lookup with ⟨rfl, rfl⟩ | ⟨-, before⟩
        · exact (last.resolve_left hasId).2
        · exact watching.visible other task before active hasId
      · intro other task lookup active
        rw [ids]
        rcases replaced.cases lookup with ⟨rfl, rfl⟩ | ⟨-, before⟩
        · exact last.imp_right (fun both => Or.inl both.1)
        · exact watching.settled other task before active
      · rw [ids, replaced.tools]
        exact watching.waiting
      · rw [ids, label, id, replaced.tools]
        exact watching.last

theorem Visible.reactivated (visible : Visible s) (succeed : env.NotificationsSucceed)
    (numbered : Numbered s) {uid : Int} (reappear : AllReappear env uid s) :
    Visible (s.handleActiveContinuousTask env uid) := by
  have step : ∀ key record (loop later : ActiveLoop), s.taskAt key = some record →
      loop.mgr.taskAt key = some record → Activating uid s loop →
      ActivateStep env uid key record loop later → Watching uid s loop → Watching uid s later :=
    fun _ _ _ _ old _ activating step watching => watching.activateStep reappear old activating step
  have start : Watching uid s { mgr := s } :=
    ⟨visible, fun _ _ found _ => Or.inr (Or.inr found), fun _ _ _ _ _ shown => shown, Or.inl rfl⟩
  obtain ⟨loop, eq, -, watching⟩ := activate_invariant succeed numbered step start
  rw [← eq]
  exact watching.visible

/-! ### Updates that reactivate -/

/-- What sending comes to depends on the contents of a record and on its id. -/
theorem sendKindByModes_congr {record edited : ContinuousTaskRecord}
    (same : contents edited = contents record)
    (id : edited.notificationId = record.notificationId) :
    sendKindByModes env s edited = sendKindByModes env s record := by
  rw [sendKindByModes_contents, same, id, ← sendKindByModes_contents]

section Update

variable {made : Publication} {sent : Sent} {middle : BgContinuousTaskMgr}

/-- The suspended task that is published for is no active task behind a notification. -/
theorem SharedByActive.of_replaced {key : String} {edited : ContinuousTaskRecord}
    {tools : NotificationTools} {other : String} {pair : String × Int}
    (suspended : edited.suspendState = true) (replaced : Replaced key edited tools s after)
    (shared : SharedByActive after other pair) : SharedByActive s other pair := by
  obtain ⟨another, task, different, lookup, active, same⟩ := shared
  rcases replaced.cases lookup with ⟨rfl, rfl⟩ | ⟨-, old⟩
  · exact absurd (active.symm.trans suspended) (by simp)
  · exact ⟨another, task, different, old, active, same⟩

theorem VisibleUpdate.allReappear (safe : VisibleUpdate env made)
    (suspended : made.record.suspendState = true)
    (outcome : SendOutcome made.mgr.tools made.record sent made.kind)
    (remains : made.kind ≠ .withdraws)
    (unchanged : contents sent.record = contents made.record)
    (replaced : Replaced made.key sent.record sent.tools made.mgr middle)
    (sources : SameSources made.record.uid made.mgr middle) :
    AllReappear env made.record.uid middle := by
  have stays : sent.record.suspendState = true := outcome.edited.suspendState.trans suspended
  intro key record lookup pending given
  rcases replaced.cases lookup with ⟨rfl, rfl⟩ | ⟨different, old⟩
  · have texts : SameSources (reactivated sent.record).uid made.mgr middle := by
      show SameSources sent.record.uid made.mgr middle
      rw [pending.1]
      exact sources
    have active : contents (reactivated sent.record) = contents (reactivated made.record) :=
      congrArg reactivated unchanged
    unfold Reappears
    rw [texts.sendKindByModes env, replaced.tools]
    cases kind : made.kind with
    | keeps =>
        rw [kind] at outcome
        cases outcome with
        | kept same isShown hash index =>
            have id : sent.record.notificationId = made.record.notificationId :=
              congrArg Prod.snd same.mainPair
            have sameKind : sendKindByModes env made.mgr (reactivated sent.record) =
                sendKindByModes env made.mgr (reactivated made.record) :=
              sendKindByModes_congr active id
            have kept : Reappears env made.mgr made.key made.record := by
              refine safe.kept kind ?_
              rw [← id]
              exact given
            rw [sameKind, same.mainPair, isShown]
            refine kept.imp_right (Or.imp_right ?_)
            rintro ⟨clears, alone⟩
            exact ⟨clears, fun shared => alone (shared.of_replaced stays replaced)⟩
    | clears =>
        rw [kind] at outcome
        cases outcome with
        | cleared edited none sub isShown hash index => exact absurd none given
    | publishes =>
        have shown : sent.tools.Shown sent.record.mainPair :=
          outcome.own_shown remains (fun keeps => absurd (kind.symm.trans keeps) (by simp)) given
        have sameKind : sendKindByModes env made.mgr (reactivated sent.record) =
            sendKindByModes env made.mgr (contents (reactivated made.record)) := by
          rw [sendKindByModes_contents, active, if_neg]
          rintro ⟨absent, -⟩
          exact given absent
        obtain ⟨shows, alone⟩ := safe.published kind
        rw [sameKind, outcome.main_published kind]
        cases again : sendKindByModes env made.mgr (contents (reactivated made.record)) with
        | keeps =>
            rw [outcome.main_published kind] at shown
            exact Or.inr (Or.inl ⟨rfl, shown⟩)
        | clears =>
            refine Or.inr (Or.inr ⟨rfl, ?_⟩)
            intro shared
            exact alone again (shared.of_replaced stays replaced)
        | publishes => exact Or.inl rfl
        | withdraws => exact absurd again shows
    | withdraws => exact absurd kind remains
  · have texts : SameSources (BgContinuousTaskMgr.reactivated record).uid made.mgr middle := by
      show SameSources record.uid made.mgr middle
      rw [pending.1]
      exact sources
    obtain ⟨reappears, unshared⟩ := safe.others key record different old pending given
    unfold Reappears
    rw [texts.sendKindByModes env, replaced.tools]
    rcases reappears with publishes | ⟨keeps, shown⟩ | ⟨clears, alone⟩
    · exact Or.inl publishes
    · refine Or.inr (Or.inl ⟨keeps, ?_⟩)
      exact outcome.keeps_shown shown (fun isCleared => unshared isCleared keeps)
        (fun withdraws => absurd withdraws remains)
    · exact Or.inr (Or.inr ⟨clears, fun shared => alone (shared.of_replaced stays replaced)⟩)

/-- An update publishes for a suspended task and reactivates the tasks of its app. -/
theorem Visible.updated (visible : Visible made.mgr) (succeed : env.NotificationsSucceed)
    (numbered : Numbered made.mgr) (found : made.mgr.taskAt made.key = some made.record)
    (suspended : made.record.suspendState = true)
    (outcome : SendOutcome made.mgr.tools made.record sent made.kind)
    (remains : made.kind ≠ .withdraws)
    (unchanged : contents sent.record = contents made.record)
    (stored : Undisturbed (made.mgr.setSent made.key sent) middle)
    (sources : SameSources made.record.uid made.mgr middle)
    (clears : made.kind = .clears → ¬ SharedByActive made.mgr made.key made.record.mainPair)
    (safe : VisibleUpdate env made) :
    Visible (middle.handleActiveContinuousTask env made.record.uid) := by
  have sentVisible : Visible middle := visible.published found outcome remains clears stored
  have sentNumbered : Numbered middle := (numbered.setSent found outcome).unnoticed stored.unnoticed
  exact sentVisible.reactivated succeed sentNumbered (safe.allReappear suspended outcome remains
    unchanged (replaced_setSent found stored) sources)

end Update

/-! ### Detection -/

theorem deteKind_suspended {record : ContinuousTaskRecord} (suspended : record.suspendState = true) :
    deteKind env s record = .keeps := by
  unfold deteKind activeKind
  rw [if_pos suspended]

theorem deteKind_active {record : ContinuousTaskRecord} (active : record.suspendState = false) :
    deteKind env s record = sendKindByModes env { s with
      avSessionNotification := s.avSessionNotification.insert record.uid false } record := by
  unfold deteKind activeKind
  rw [if_neg (by simp [active])]

/-- What a detection of a record comes to depends on its contents, and to clear a notification
it needs one. -/
theorem deteKind_contents (env : Env) (s : BgContinuousTaskMgr) (record : ContinuousTaskRecord) :
    deteKind env s record =
      if record.notificationId = -1 ∧ deteKind env s (contents record) = .clears then .keeps
      else deteKind env s (contents record) := by
  cases state : record.suspendState with
  | true =>
      have whole : (contents record).suspendState = true := state
      rw [deteKind_suspended state, deteKind_suspended whole]
      simp
  | false =>
      have whole : (contents record).suspendState = false := state
      have uid : (contents record).uid = record.uid := rfl
      rw [deteKind_active state, deteKind_active whole, sendKindByModes_contents, uid]

/-- What a detection made of a task so far: its contents are the same, and so is its
notification unless it went, or the task was published under its own label. -/
structure Detected (env : Env) (s : BgContinuousTaskMgr) (taskKeys : List String) (key : String)
    (old task : ContinuousTaskRecord) : Prop where
  unchanged : contents task = contents old
  edited : Edited old task
  main : task.mainPair = old.mainPair ∨ task.notificationId = -1 ∨
    ((key ∈ taskKeys ∧ deteKind env s old = .publishes) ∧
      task.notificationLabel = createNotificationLabel s.tools.hash old ∧
      (task.notificationId = old.notificationId ∨
        s.tools.notificationIdIndex < task.notificationId))

section Detected

variable {taskKeys : List String} {key : String} {old task record : ContinuousTaskRecord}

theorem Detected.kind (detected : Detected env s taskKeys key old task)
    {kind : SendKind} (same : deteKind env s task = kind) (remains : kind ≠ .keeps)
    (uncleared : kind ≠ .clears) : deteKind env s old = kind := by
  have whole := deteKind_contents env s task
  have first := deteKind_contents env s old
  rw [detected.unchanged] at whole
  grind

theorem Detected.cleared (detected : Detected env s taskKeys key old task)
    (clears : deteKind env s task = .clears) :
    deteKind env s old = .clears ∧ task.mainPair = old.mainPair := by
  have whole := deteKind_contents env s task
  have first := deteKind_contents env s old
  rw [detected.unchanged] at whole
  have given : task.notificationId ≠ -1 := by
    intro absent
    grind
  have contentsClear : deteKind env s (contents old) = .clears := by
    grind
  have main : task.mainPair = old.mainPair := by
    rcases detected.main with same | absent | ⟨⟨-, publishes⟩, -⟩
    · exact same
    · exact absurd absent given
    · grind
  refine ⟨?_, main⟩
  have id : task.notificationId = old.notificationId := congrArg Prod.snd main
  rw [first, if_neg (by rw [← id]; exact fun both => given both.1)]
  exact contentsClear

theorem Detected.apart {other : String} (detected : Detected env s taskKeys other old task)
    (stored : s.taskAt other = some old) (active : task.suspendState = false)
    (given : task.notificationId ≠ -1) (labelled : Labelled s.tools record)
    (different : other ≠ key) (clears : deteKind env s record = .clears)
    (visibly : DetectedVisibly env s taskKeys key record) : task.mainPair ≠ record.mainPair := by
  intro same
  have label : task.notificationLabel = record.notificationLabel := congrArg Prod.fst same
  have id : task.notificationId = record.notificationId := congrArg Prod.snd same
  have wasActive : old.suspendState = false := detected.edited.suspendState.symm.trans active
  have apart := visibly.2 clears other old different stored wasActive
  rcases detected.main with main | absent | ⟨⟨listed, publishes⟩, own, kept | new⟩
  · have oldLabel : task.notificationLabel = old.notificationLabel := congrArg Prod.fst main
    have oldId : task.notificationId = old.notificationId := congrArg Prod.snd main
    exact (apart (oldId.symm.trans id)).1 (oldLabel.symm.trans label)
  · exact given absent
  · exact (apart (kept.symm.trans id)).2 listed publishes (own.symm.trans label)
  · have bounds := labelled.mainId
    omega

theorem Detected.sent {current : BgContinuousTaskMgr} {sent : Sent}
    (detected : Detected env s taskKeys key old task) (listed : key ∈ taskKeys)
    (hash : current.tools.hash = s.tools.hash)
    (index : s.tools.notificationIdIndex ≤ current.tools.notificationIdIndex)
    (outcome : SendOutcome current.tools task sent (deteKind env s task))
    (unchanged : contents sent.record = contents task)
    (remains : deteKind env s task ≠ .withdraws) :
    Detected env s taskKeys key old sent.record := by
  refine ⟨unchanged.trans detected.unchanged, detected.edited.trans outcome.edited, ?_⟩
  cases kind : deteKind env s task with
  | keeps =>
      rw [kind] at outcome
      cases outcome with
      | kept same isShown isHash isIndex =>
          have label : sent.record.notificationLabel = task.notificationLabel :=
            congrArg Prod.fst same.mainPair
          have id : sent.record.notificationId = task.notificationId :=
            congrArg Prod.snd same.mainPair
          rw [same.mainPair, label, id]
          exact detected.main
  | clears =>
      rw [kind] at outcome
      cases outcome with
      | cleared edited none sub isShown isHash isIndex => exact Or.inr (Or.inl none)
  | publishes =>
      have publishes : deteKind env s old = .publishes := detected.kind kind (by simp) (by simp)
      have edited : Edited old sent.record := detected.edited.trans outcome.edited
      have label : sent.record.notificationLabel = createNotificationLabel s.tools.hash old := by
        rw [← createNotificationLabel_congr s.tools.hash edited.toSameTask, ← hash]
        exact outcome.label_published kind
      rcases id_of_ownPair (outcome.main_published kind) with ⟨same, given⟩ | ⟨-, new⟩
      · rcases detected.main with main | absent | ⟨-, -, kept | new⟩
        · have id : task.notificationId = old.notificationId := congrArg Prod.snd main
          exact Or.inr (Or.inr ⟨⟨listed, publishes⟩, label, Or.inl (same.trans id)⟩)
        · exact absurd absent given
        · exact Or.inr (Or.inr ⟨⟨listed, publishes⟩, label, Or.inl (same.trans kept)⟩)
        · exact Or.inr (Or.inr ⟨⟨listed, publishes⟩, label, Or.inr (same ▸ new)⟩)
      · refine Or.inr (Or.inr ⟨⟨listed, publishes⟩, label, Or.inr ?_⟩)
        omega
  | withdraws => exact absurd kind remains

end Detected

theorem Visible.detected (visible : Visible s) (succeed : env.NotificationsSucceed)
    (numbered : Numbered s) (taskKeys : List String)
    (visibly : ∀ key ∈ taskKeys, ∀ record, s.taskAt key = some record →
      DetectedVisibly env s taskKeys key record) :
    Visible (taskKeys.foldl (sendForDete env) s) := by
  let inv := fun current : BgContinuousTaskMgr => Visible current ∧
    current.tools.hash = s.tools.hash ∧
    s.tools.notificationIdIndex ≤ current.tools.notificationIdIndex ∧
    ∀ key task, current.taskAt key = some task →
      ∃ old, s.taskAt key = some old ∧ Detected env s taskKeys key old task
  have step : ∀ key ∈ taskKeys, ∀ current later, Numbered current → SameBooks s current →
      DeteStep env key current later → inv current → inv later := by
    rintro key listed current later isNumbered books next ⟨shows, hash, index, origin⟩
    cases next with
    | missing gone eq =>
        rw [eq]
        exact ⟨shows, hash, index, origin⟩
    | @sent record sent found outcome unchanged replaced =>
        rw [books.deteKind env record] at outcome
        obtain ⟨old, stored, detected⟩ := origin key record found
        have remains : deteKind env s record ≠ .withdraws := by
          intro withdraws
          exact (visibly key listed old stored).1 (detected.kind withdraws (by simp) (by simp))
        refine ⟨?_, ?_, ?_, ?_⟩
        · intro other task lookup active given
          rw [replaced.tools]
          rcases replaced.cases lookup with ⟨rfl, rfl⟩ | ⟨different, before⟩
          · refine outcome.own_shown remains ?_ given
            intro keeps
            rw [keeps] at outcome
            cases outcome with
            | kept same isShown isHash isIndex =>
                have id : sent.record.notificationId = record.notificationId :=
                  congrArg Prod.snd same.mainPair
                refine shows other record found (same.suspendState.symm.trans active) ?_
                rw [← id]
                exact given
          · refine outcome.keeps_shown (shows other task before active given) ?_
              (fun withdraws => absurd withdraws remains)
            intro clears
            obtain ⟨another, was, since⟩ := origin other task before
            obtain ⟨oldClears, main⟩ := detected.cleared clears
            rw [main]
            exact since.apart was active given (numbered.labelled key old stored) different
              oldClears (visibly key listed old stored)
        · rw [replaced.tools, outcome.hash]
          exact hash
        · rw [replaced.tools]
          exact index.trans outcome.index_le
        · intro other task lookup
          rcases replaced.cases lookup with ⟨rfl, rfl⟩ | ⟨-, before⟩
          · exact ⟨old, stored, detected.sent listed hash index outcome unchanged remains⟩
          · exact origin other task before
  have start : inv s :=
    ⟨visible, rfl, le_refl _, fun key task found =>
      ⟨task, found, rfl, Edited.refl task, Or.inl rfl⟩⟩
  exact (dete_invariant succeed numbered taskKeys step start).2.1

/-! ### Any operation -/

theorem Visible.noticeEffect (visible : Visible s) (numbered : Numbered s)
    (succeed : env.NotificationsSucceed) (clean : VisibleStep s (env, op))
    (effect : NoticeEffect env s op after) : Visible after := by
  cases effect with
  | unnoticed same => exact visible.unnoticed same
  | started request outcome =>
      exact visible.started numbered ((fresh_of_requested request).withId _) outcome
        (clean.start _ request)
  | stopped same stopped only => exact (visible.unnoticed same).stopped stopped
  | swept made effect => exact visible.swept made effect (clean.sweep _ made)
  | published publishes same found outcome saved =>
      exact (visible.unnoticed same).published found outcome (publication_ne_withdraws publishes)
        (clean.publication _ publishes).1 saved
  | updated publishes isUpdate suspended same found outcome unchanged stored sources saved =>
      obtain ⟨clears, safe⟩ := clean.publication _ publishes
      have reactivated := (visible.unnoticed same).updated succeed (numbered.unnoticed same) found
        suspended outcome (publication_ne_withdraws publishes) unchanged stored sources clears
        (safe ⟨isUpdate, suspended⟩)
      exact reactivated.unnoticed saved.unnoticed
  | @reactivated uid asks eq =>
      rw [eq]
      exact visible.reactivated succeed numbered (clean.reactivation uid asks)
  | @detected taskKeys asks eq =>
      rw [eq]
      exact visible.detected succeed numbered taskKeys (clean.detection taskKeys asks)
  | @liveViewGone uid noted same eq =>
      rw [eq]
      exact (visible.unnoticed same.unnoticed).liveViewGone succeed
        (numbered.unnoticed same.unnoticed) uid

/-- One operation that takes the notification of no active task. -/
theorem Visible.taskStep (visible : Visible s) (numbered : Numbered s)
    (succeed : env.NotificationsSucceed) (clean : VisibleStep s (env, op)) :
    Visible (s.taskStep (env, op)) :=
  visible.noticeEffect numbered succeed clean (noticeEffect_taskStep succeed numbered op)

end Steps

/-! ## Runs -/

theorem Blank.visible {s : BgContinuousTaskMgr} (blank : Blank s) : Visible s := by
  intro key record found
  exact absurd ((blank.noTask key).symm.trans found) (by simp)

/-- In every run in which notifications are published and cancelled without failure and no
operation takes the notification of an active task, the notification of every active task
is shown. -/
theorem run_visible (s : BgContinuousTaskMgr) (blank : Blank s) (labels : List (Env × TaskOp))
    (succeed : ∀ label ∈ labels, label.1.NotificationsSucceed)
    (clean : StepSystem.Admissible taskStep VisibleStep s labels) :
    Visible (StepSystem.run taskStep s labels) := by
  have preserve : ∀ (s : BgContinuousTaskMgr) (label : Env × TaskOp), Numbered s ∧ Visible s →
      label.1.NotificationsSucceed ∧ VisibleStep s label →
      Numbered (s.taskStep label) ∧ Visible (s.taskStep label) := by
    rintro s ⟨env, op⟩ ⟨numbered, visible⟩ ⟨succeed, step⟩
    exact ⟨numbered.taskStep succeed op, visible.taskStep numbered succeed step⟩
  exact (StepSystem.run_invariant preserve labels s ⟨blank.numbered, blank.visible⟩
    (clean.and_forall succeed)).2

/-- An operation that at most starts a task takes nothing from the others when none of them
is suspended. -/
theorem VisibleStep.of_awake {s : BgContinuousTaskMgr} {label : Env × TaskOp}
    (awake : ∀ key record, s.taskAt key = some record → record.suspendState = false)
    (unswept : sweepOf label.1 s label.2 = none)
    (unpublished : Continuous.publication label.1 s label.2 = none)
    (undetected : ∀ taskKeys, label.2 ≠ .sendNotificationByDeteTask taskKeys) :
    VisibleStep s label := by
  refine ⟨?_, ?_, ?_, ?_, ?_⟩
  · intro sweep made
    exact absurd (unswept.symm.trans made) (by simp)
  · intro record _ key task target _ suspended
    obtain ⟨found, -⟩ := taskAt_of_findTask s key task target
    exact absurd ((awake key task found).symm.trans suspended) (by simp)
  · intro made publishes
    exact absurd (unpublished.symm.trans publishes) (by simp)
  · intro uid _ key record found pending
    exact absurd pending (not_pending_of_active (awake key record found))
  · intro taskKeys asks
    exact absurd asks (undetected taskKeys)

theorem awake_of_entries {s : BgContinuousTaskMgr}
    (awake : ∀ entry ∈ s.continuousTaskInfosMap.entries, entry.2.suspendState = false)
    (key : String) (record : ContinuousTaskRecord) (found : s.taskAt key = some record) :
    record.suspendState = false :=
  awake ⟨key, record⟩ (KeyedMap.mem_entries_iff.mpr found)

def sharedRun (op : TaskOp) : List (Env × TaskOp) :=
  [(deviceEnv, .addSubscriber
      { remote := 1, uid := 100, pid := 7, isHap := true, flag := continuousTaskSuspend }),
    deviceStart 100 (combinedRequest (-1)), deviceStart 100 (combinedRequest 1), (deviceEnv, op)]

theorem notificationsSucceed_sharedRun (op : TaskOp) :
    ∀ label ∈ sharedRun op, label.1.NotificationsSucceed := by
  intro label member
  simp only [sharedRun, List.mem_cons, List.not_mem_nil, or_false] at member
  rcases member with rfl | rfl | rfl | rfl
  · exact notificationsSucceed_deviceEnv none
  · exact notificationsSucceed_deviceEnv (some [100])
  · exact notificationsSucceed_deviceEnv (some [100])
  · exact notificationsSucceed_deviceEnv none

/-- The first task is stopped, and the notification stays for the second one. -/
theorem run_visible_stopped :
    Visible (StepSystem.run taskStep initialised
      (sharedRun (.client 100 (.stopBackgroundRunning "EntryAbility" 1 1)))) := by
  refine run_visible initialised blank_initialised _ (notificationsSucceed_sharedRun _)
    ⟨?_, ?_, ?_, ?_, trivial⟩
  · exact .of_awake (awake_of_entries (by decide)) rfl rfl (by simp)
  · exact .of_awake (awake_of_entries (by decide)) rfl rfl (by simp [deviceStart])
  · exact .of_awake (awake_of_entries (by decide)) rfl rfl (by simp [deviceStart])
  · exact .of_awake (awake_of_entries (by decide)) rfl rfl (by simp)

/-- The first task is suspended: the notification goes, and the second task runs on without
one. -/
theorem suspension_hides_shared_notification :
    (∀ label ∈ sharedRun (.suspendContinuousTask 100 4 "100_EntryAbility_1_1" false),
        label.1.NotificationsSucceed) ∧
      ¬ Visible (StepSystem.run taskStep initialised
        (sharedRun (.suspendContinuousTask 100 4 "100_EntryAbility_1_1" false))) := by
  refine ⟨notificationsSucceed_sharedRun _, ?_⟩
  intro visible
  have runs : ((StepSystem.run taskStep initialised (sharedRun (.suspendContinuousTask 100 4
      "100_EntryAbility_1_1" false))).taskAt "100_EntryAbility_1_2").map
        (fun record => (record.suspendState, record.notificationId, record.mainPair)) =
          some (false, 0, ("bgmode_100_0_1_1", 0)) := by decide
  obtain ⟨record, found, fields⟩ := Option.map_eq_some_iff.mp runs
  simp only [Prod.mk.injEq] at fields
  obtain ⟨active, id, main⟩ := fields
  have shown := visible _ record found active (by omega)
  rw [main] at shown
  exact absurd shown (by decide)

end BgTaskMgr.Continuous
