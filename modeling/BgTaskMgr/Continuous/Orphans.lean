import BgTaskMgr.Continuous.Reactivation

/-!
# Notifications and their tasks

Whether every notification that is shown is the main or the sub-notification of a task, over
runs of the manager: what each operation must not meet for that.
-/

set_option autoImplicit false

namespace BgTaskMgr.Continuous

open BgContinuousTaskMgr

def NoOrphans (s : BgContinuousTaskMgr) : Prop :=
  ∀ pair, s.tools.Shown pair → ∃ key record, s.taskAt key = some record ∧ RefersTo pair record

/-! ## Witnesses -/

/-- The notification is the sub-notification of a task, or the main one of a task that is
`good`. -/
def Witnessed (good : String → ContinuousTaskRecord → Prop) (s : BgContinuousTaskMgr)
    (pair : String × Int) : Prop :=
  ∃ key record, s.taskAt key = some record ∧
    (record.subPair = pair ∨ (record.mainPair = pair ∧ good key record))

def AllWitnessed (good : String → ContinuousTaskRecord → Prop) (s : BgContinuousTaskMgr) : Prop :=
  ∀ pair, s.tools.Shown pair → Witnessed good s pair

theorem AllWitnessed.noOrphans {good : String → ContinuousTaskRecord → Prop}
    {s : BgContinuousTaskMgr} (each : AllWitnessed good s) : NoOrphans s := by
  intro pair shown
  obtain ⟨key, record, found, sub | ⟨main, -⟩⟩ := each pair shown
  · exact ⟨key, record, found, Or.inr sub⟩
  · exact ⟨key, record, found, Or.inl main⟩

theorem NoOrphans.allWitnessed {s : BgContinuousTaskMgr} (tidy : NoOrphans s) :
    AllWitnessed (fun _ _ => True) s := by
  intro pair shown
  obtain ⟨key, record, found, main | sub⟩ := tidy pair shown
  · exact ⟨key, record, found, Or.inr ⟨main, trivial⟩⟩
  · exact ⟨key, record, found, Or.inl sub⟩

section Witnessed

variable {good later : String → ContinuousTaskRecord → Prop} {before after : BgContinuousTaskMgr}
  {key : String} {stored record edited : ContinuousTaskRecord} {sent : Sent} {kind : SendKind}

def OtherWitness (good : String → ContinuousTaskRecord → Prop) (s : BgContinuousTaskMgr)
    (key : String) (pair : String × Int) : Prop :=
  ∃ other task, other ≠ key ∧ s.taskAt other = some task ∧ task.mainPair = pair ∧ good other task

theorem AllWitnessed.replaced (each : AllWitnessed good before)
    (found : before.taskAt key = some stored)
    (replaced : Replaced key edited before.tools before after)
    (sub : edited.subPair = stored.subPair)
    (others : ∀ other task, other ≠ key → before.taskAt other = some task → good other task →
      later other task)
    (own : good key stored → edited.mainPair = stored.mainPair ∧ later key edited) :
    AllWitnessed later after := by
  intro pair shown
  rw [replaced.tools] at shown
  obtain ⟨other, task, old, refers⟩ := each pair shown
  by_cases here : other = key
  · subst here
    obtain rfl := Option.some.inj (found.symm.trans old)
    refine ⟨other, edited, replaced.own, ?_⟩
    rcases refers with isSub | ⟨main, isGood⟩
    · exact Or.inl (sub.trans isSub)
    · obtain ⟨same, goodLater⟩ := own isGood
      exact Or.inr ⟨same.trans main, goodLater⟩
  · refine ⟨other, task, (replaced.other here).trans old, ?_⟩
    exact refers.imp_right (fun both => ⟨both.1, others other task here old both.2⟩)

/-- The kinds after which the main notification has the record's own label. -/
def SendKind.relabels (kind : SendKind) : Prop := kind = .publishes ∨ kind = .withdraws

instance (kind : SendKind) : Decidable kind.relabels := inferInstanceAs (Decidable (_ ∨ _))

/-- What is shown after a publication was shown before, or is one of the record's own. -/
theorem SendOutcome.shown_cases (outcome : SendOutcome before.tools record sent kind)
    {pair : String × Int} (shown : sent.tools.Shown pair) :
    before.tools.Shown pair ∨ (kind = .publishes ∧ sent.record.mainPair = pair) ∨
      sent.record.subPair = pair := by
  cases outcome with
  | kept same isShown hash index => exact Or.inl ((isShown pair).mp shown)
  | cleared edited none sub isShown hash index => exact Or.inl ((isShown pair).mp shown).1
  | published ret edited main sub isShown hash index =>
      rcases (isShown pair).mp shown with old | own
      · exact Or.inl old
      · exact Or.inr (Or.inl ⟨rfl, main.trans own.symm⟩)
  | both ret edited request main sub isShown hash index =>
      rcases (isShown pair).mp shown with old | own | ownSub
      · exact Or.inl old
      · exact Or.inr (Or.inl ⟨rfl, main.trans own.symm⟩)
      · exact Or.inr (Or.inr (sub.trans ownSub.symm))
  | withdrawn edited main sub isShown hash index => exact Or.inl ((isShown pair).mp shown).1

theorem SendOutcome.main_cases (outcome : SendOutcome before.tools record sent kind)
    (shown : sent.tools.Shown record.mainPair) :
    (kind = .keeps ∧ sent.record.mainPair = record.mainPair) ∨
      (kind = .publishes ∧ sent.record.mainPair = ownPair before.tools record) ∨
      (kind = .withdraws ∧ ownPair before.tools record ≠ record.mainPair) := by
  cases outcome with
  | kept same isShown hash index => exact Or.inl ⟨rfl, same.mainPair⟩
  | cleared edited none sub isShown hash index =>
      exact absurd rfl ((isShown record.mainPair).mp shown).2
  | published ret edited main sub isShown hash index => exact Or.inr (Or.inl ⟨rfl, main⟩)
  | both ret edited request main sub isShown hash index => exact Or.inr (Or.inl ⟨rfl, main⟩)
  | withdrawn edited main sub isShown hash index =>
      exact Or.inr (Or.inr ⟨rfl, ((isShown record.mainPair).mp shown).2.symm⟩)

/-- A sub-notification that is there has the label that it is published under. -/
theorem SendOutcome.subPair_kept (outcome : SendOutcome before.tools record sent kind)
    (labelled : Labelled before.tools record) (given : record.subNotificationId ≠ -1) :
    sent.record.subPair = record.subPair := by
  cases outcome with
  | kept same isShown hash index => exact same.subPair
  | cleared edited none sub isShown hash index => exact sub
  | published ret edited main sub isShown hash index => exact sub
  | both ret edited request main sub isShown hash index =>
      rw [sub]
      unfold ownSubPair NotificationTools.chosenId
      rw [if_neg given, NotificationTools.takeId_hash, ← (labelled.sub given).2]
      rfl
  | withdrawn edited main sub isShown hash index => exact sub

/-- A publication: what was shown under the old label needs another witness, or the label
was the record's own. -/
theorem SendOutcome.allWitnessed (outcome : SendOutcome before.tools record sent kind)
    (numbered : Numbered before) (each : AllWitnessed good before)
    (found : before.taskAt key = some stored) (mainSame : record.mainPair = stored.mainPair)
    (subSame : record.subPair = stored.subPair) (labelled : Labelled before.tools record)
    (replaced : Replaced key sent.record sent.tools before after)
    (others : ∀ other task, other ≠ key → before.taskAt other = some task → good other task →
      later other task)
    (ownKept : kind = .keeps → good key stored → later key sent.record)
    (ownPublished : kind = .publishes → later key sent.record)
    (anchored : kind.relabels → before.tools.Shown stored.mainPair → good key stored →
      ownPair before.tools record = stored.mainPair ∨
        OtherWitness good before key stored.mainPair) : AllWitnessed later after := by
  have fromOther : ∀ pair, OtherWitness good before key pair → Witnessed later after pair := by
    rintro pair ⟨other, task, different, old, same, isGood⟩
    exact ⟨other, task, (replaced.other different).trans old,
      Or.inr ⟨same, others other task different old isGood⟩⟩
  intro pair shown
  rw [replaced.tools] at shown
  rcases outcome.shown_cases shown with wasShown | ⟨publishes, main⟩ | sub
  · obtain ⟨other, task, old, refers⟩ := each pair wasShown
    by_cases here : other = key
    · subst here
      obtain rfl := Option.some.inj (found.symm.trans old)
      rcases refers with isSub | ⟨rfl, isGood⟩
      · have given : record.subNotificationId ≠ -1 := by
          have id := numbered.shownIds pair wasShown
          rw [← isSub, ← subSame] at id
          exact id
        have same := (outcome.subPair_kept labelled given).trans subSame
        exact ⟨other, sent.record, replaced.own, Or.inl (same.trans isSub)⟩
      · -- the main notification of the record itself
        rcases outcome.main_cases (mainSame ▸ shown) with
          ⟨keeps, same⟩ | ⟨publishes, same⟩ | ⟨withdraws, moved⟩
        · exact ⟨other, sent.record, replaced.own,
            Or.inr ⟨same.trans mainSame, ownKept keeps isGood⟩⟩
        · rcases anchored (Or.inl publishes) wasShown isGood with own | another
          · exact ⟨other, sent.record, replaced.own,
              Or.inr ⟨same.trans own, ownPublished publishes⟩⟩
          · exact fromOther _ another
        · rcases anchored (Or.inr withdraws) wasShown isGood with own | another
          · exact absurd (own.trans mainSame.symm) moved
          · exact fromOther _ another
    · refine ⟨other, task, (replaced.other here).trans old, ?_⟩
      exact refers.imp_right (fun both => ⟨both.1, others other task here old both.2⟩)
  · exact ⟨key, sent.record, replaced.own, Or.inr ⟨main, ownPublished publishes⟩⟩
  · exact ⟨key, sent.record, replaced.own, Or.inl sub⟩

end Witnessed

/-! ## Reactivation -/

def OwnLabelled (hash : String → Nat) (record : ContinuousTaskRecord) : Prop :=
  record.notificationLabel = createNotificationLabel hash record

theorem ownPair_of_ownLabelled {tools : NotificationTools} {record : ContinuousTaskRecord}
    (own : OwnLabelled tools.hash record) (given : record.notificationId ≠ -1) :
    ownPair tools record = record.mainPair := by
  unfold ownPair NotificationTools.chosenId
  rw [if_neg given, ← own]
  rfl

def AloneInId (uid : Int) (s : BgContinuousTaskMgr) (key : String) (id : Int) : Prop :=
  ∀ other task, s.taskAt other = some task → other ≠ key → Pending uid task →
    task.notificationId ≠ id

structure HoldsOn (env : Env) (uid : Int) (s : BgContinuousTaskMgr) (key : String)
    (record : ContinuousTaskRecord) : Prop where
  alone : AloneInId uid s key record.notificationId
  label : OwnLabelled s.tools.hash record ∨
    ¬ (sendKindByModes env s (reactivated record)).relabels

/-- Each main notification of a task to reactivate stays with that task, or with one that
the reactivation does not concern. -/
def SafeToReactivate (env : Env) (uid : Int) (s : BgContinuousTaskMgr) : Prop :=
  ∀ key record, s.taskAt key = some record → Pending uid record →
    s.tools.Shown record.mainPair → HoldsOn env uid s key record ∨
      ∃ other task, s.taskAt other = some task ∧ task.mainPair = record.mainPair ∧
        ¬ Pending uid task

def Resting (env : Env) (uid : Int) (s : BgContinuousTaskMgr) (key : String)
    (record : ContinuousTaskRecord) : Prop :=
  ¬ Pending uid record ∨ (HoldsOn env uid s key record ∧ record.notificationId ≠ -1)

theorem SafeToReactivate.allWitnessed {env : Env} {uid : Int} {s : BgContinuousTaskMgr}
    (safe : SafeToReactivate env uid s) (numbered : Numbered s) (tidy : NoOrphans s) :
    AllWitnessed (Resting env uid s) s := by
  intro pair shown
  obtain ⟨key, record, found, rfl | sub⟩ := tidy pair shown
  · by_cases pending : Pending uid record
    · rcases safe key record found pending shown with holds | ⟨other, task, stored, same, rests⟩
      · exact ⟨key, record, found, Or.inr ⟨rfl, Or.inr ⟨holds, numbered.shownIds _ shown⟩⟩⟩
      · exact ⟨other, task, stored, Or.inr ⟨same, Or.inl rests⟩⟩
    · exact ⟨key, record, found, Or.inr ⟨rfl, Or.inl pending⟩⟩
  · exact ⟨key, record, found, Or.inl sub⟩

section Reactivation

variable {env : Env} {uid : Int} {s : BgContinuousTaskMgr}

/-- Tasks whose main notification counts during the loop: a task that is still to come must
have an id that did not come yet. -/
def Waiting (env : Env) (uid : Int) (s : BgContinuousTaskMgr) (loop : ActiveLoop) (key : String)
    (record : ContinuousTaskRecord) : Prop :=
  ¬ Pending uid record ∨ (HoldsOn env uid s key record ∧ record.notificationId ≠ -1 ∧
    record.notificationId ∉ loop.notificationOldIds)

theorem not_pending_of_active {record : ContinuousTaskRecord}
    (active : record.suspendState = false) : ¬ Pending uid record := by
  intro pending
  exact absurd (active.symm.trans pending.2) (by simp)

theorem AllWitnessed.activateStep {key : String} {record : ContinuousTaskRecord}
    {loop later : ActiveLoop} (old : s.taskAt key = some record)
    (found : loop.mgr.taskAt key = some record) (activating : Activating uid s loop)
    (step : ActivateStep env uid key record loop later)
    (each : AllWitnessed (Waiting env uid s loop) loop.mgr) :
    AllWitnessed (Waiting env uid s later) later.mgr := by
  cases step with
  | skipped notPending eq =>
      rw [eq]
      exact each
  | bare pending absent replaced eq =>
      have same : later.notificationOldIds = loop.notificationOldIds := by rw [eq]
      refine each.replaced found replaced rfl ?_ ?_
      · intro other task _ _ waits
        unfold Waiting
        rw [same]
        exact waits
      · exact fun _ => ⟨rfl, Or.inl (not_pending_of_active rfl)⟩
  | @sent sent pending given first outcome unchanged replaced eq =>
      have active : sent.record.suspendState = false := outcome.edited.suspendState.trans rfl
      have oldIds : later.notificationOldIds =
          loop.notificationOldIds ++ [record.notificationId] := by rw [eq]
      have kind : sendKindByModes env loop.mgr (reactivated record) =
          sendKindByModes env s (reactivated record) :=
        (activating.texts record.uid).sendKindByModes env
      refine outcome.allWitnessed activating.numbered each found rfl rfl
        (activating.numbered.labelled key record found).reactivated replaced ?_
        (fun _ _ => Or.inl (not_pending_of_active active))
        (fun _ => Or.inl (not_pending_of_active active)) ?_
      · intro other task different stored waits
        rcases waits with rests | ⟨holds, isGiven, new⟩
        · exact Or.inl rests
        · have apart : task.notificationId ≠ record.notificationId :=
            (holds.alone key record old different.symm pending).symm
          refine Or.inr ⟨holds, isGiven, ?_⟩
          rw [oldIds]
          simp [new, apart]
      · intro relabels _ waits
        rcases waits with rests | ⟨holds, isGiven, -⟩
        · exact absurd pending rests
        · rcases holds.label with own | keepsLabel
          · have label : OwnLabelled loop.mgr.tools.hash (reactivated record) := by
              rw [activating.hash]
              exact own
            exact Or.inl (ownPair_of_ownLabelled label isGiven)
          · exact absurd (kind ▸ relabels) keepsLabel
  | shared pending given known isOld replaced eq =>
      have same : later.notificationOldIds = loop.notificationOldIds := by rw [eq]
      refine each.replaced found replaced rfl ?_ ?_
      · intro other task _ _ waits
        unfold Waiting
        rw [same]
        exact waits
      · intro waits
        rcases waits with rests | ⟨_, _, new⟩
        · exact absurd pending rests
        · exact absurd isOld new

theorem AllWitnessed.handleActiveContinuousTask (succeed : env.NotificationsSucceed)
    (numbered : Numbered s) (each : AllWitnessed (Resting env uid s) s) :
    NoOrphans (s.handleActiveContinuousTask env uid) := by
  have step : ∀ key record loop later, s.taskAt key = some record →
      loop.mgr.taskAt key = some record → Activating uid s loop →
      ActivateStep env uid key record loop later →
      AllWitnessed (Waiting env uid s loop) loop.mgr →
      AllWitnessed (Waiting env uid s later) later.mgr :=
    fun _ _ _ _ old found activating step each => each.activateStep old found activating step
  have start : AllWitnessed (Waiting env uid s { mgr := s }) s := by
    intro pair shown
    obtain ⟨key, record, found, refers⟩ := each pair shown
    refine ⟨key, record, found, refers.imp_right (fun both => ⟨both.1, ?_⟩)⟩
    exact both.2.imp_right (fun held => ⟨held.1, held.2, List.not_mem_nil⟩)
  obtain ⟨loop, eq, -, last⟩ := activate_invariant succeed numbered step start
  rw [← eq]
  exact last.noOrphans

end Reactivation

end BgTaskMgr.Continuous
