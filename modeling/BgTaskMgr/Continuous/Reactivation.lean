import BgTaskMgr.Continuous.NoticeEffects

/-!
# Loops that publish again

One iteration of the loop over suspended tasks, of the loop over detected tasks and of the
loop after a live view, and what every operation keeps of labels and ids.
-/

set_option autoImplicit false

namespace BgTaskMgr.Continuous

open BgContinuousTaskMgr

/-! ## One record and the notifications -/

structure Replaced (key : String) (edited : ContinuousTaskRecord) (tools : NotificationTools)
    (before after : BgContinuousTaskMgr) : Prop where
  taskAt : ∀ other, after.taskAt other = if other = key then some edited else before.taskAt other
  tools : after.tools = tools

section Replaced

variable {before after : BgContinuousTaskMgr} {key : String} {record edited : ContinuousTaskRecord}
  {tools : NotificationTools}

theorem Replaced.own (replaced : Replaced key edited tools before after) :
    after.taskAt key = some edited := by
  rw [replaced.taskAt, if_pos rfl]

theorem Replaced.other (replaced : Replaced key edited tools before after) {other : String}
    (different : other ≠ key) : after.taskAt other = before.taskAt other := by
  rw [replaced.taskAt, if_neg different]

theorem Replaced.cases (replaced : Replaced key edited tools before after) {other : String}
    {task : ContinuousTaskRecord} (found : after.taskAt other = some task) :
    (other = key ∧ task = edited) ∨ (other ≠ key ∧ before.taskAt other = some task) := by
  by_cases here : other = key
  · subst here
    exact Or.inl ⟨rfl, Option.some.inj (found.symm.trans replaced.own)⟩
  · exact Or.inr ⟨here, (replaced.other here).symm.trans found⟩

theorem replaced_setRecord (found : before.taskAt key = some record) :
    Replaced key edited before.tools before (before.setRecord key edited) := by
  refine ⟨?_, rfl⟩
  intro other
  rw [taskAt_setRecord]
  split
  · rename_i here
    rw [here, found]
    rfl
  · rfl

theorem Replaced.then_same {last : BgContinuousTaskMgr}
    (replaced : Replaced key edited tools before after) (same : Undisturbed after last) :
    Replaced key edited tools before last :=
  ⟨fun other => (same.taskAt other).trans (replaced.taskAt other), same.tools.trans replaced.tools⟩

theorem replaced_setSent {sent : Sent} (found : before.taskAt key = some record)
    (same : Undisturbed (before.setSent key sent) after) :
    Replaced key sent.record sent.tools before after := by
  have lookup : (before.setTools sent.tools).taskAt key = some record := found
  have stored : Replaced key sent.record sent.tools before (before.setSent key sent) :=
    ⟨(replaced_setRecord lookup).taskAt, rfl⟩
  exact stored.then_same same

theorem Replaced.trans {middle : ContinuousTaskRecord} {first : NotificationTools}
    {last : BgContinuousTaskMgr} (early : Replaced key middle first before after)
    (late : Replaced key edited tools after last) : Replaced key edited tools before last := by
  refine ⟨?_, late.tools⟩
  intro other
  rw [late.taskAt other]
  split
  · rfl
  · rename_i different
    exact early.other different

theorem Numbered.replaced (numbered : Numbered before)
    (replaced : Replaced key edited tools before after) (labelled : Labelled tools edited)
    (hash : tools.hash = before.tools.hash)
    (index : before.tools.notificationIdIndex ≤ tools.notificationIdIndex)
    (shownIds : ∀ pair, tools.Shown pair → pair.2 ≠ -1) : Numbered after := by
  refine ⟨?_, ?_, ?_⟩
  · intro other task found
    rw [replaced.tools]
    rcases replaced.cases found with ⟨rfl, rfl⟩ | ⟨-, old⟩
    · exact labelled
    · exact (numbered.labelled other task old).mono hash index
  · rw [replaced.tools]
    exact numbered.counter.trans index
  · rw [replaced.tools]
    exact shownIds

theorem Numbered.sent {sent : Sent} {kind : SendKind} (numbered : Numbered before)
    (labelled : Labelled before.tools record)
    (outcome : SendOutcome before.tools record sent kind)
    (replaced : Replaced key sent.record sent.tools before after) : Numbered after :=
  numbered.replaced replaced (outcome.labelled labelled numbered.counter) outcome.hash
    outcome.index_le (outcome.shownIds labelled numbered.counter numbered.shownIds)

end Replaced

/-! ## Reactivation -/

def SameTexts (before after : BgContinuousTaskMgr) : Prop := ∀ uid, SameSources uid before after

theorem SameTexts.refl (s : BgContinuousTaskMgr) : SameTexts s s := fun uid => SameSources.refl uid s

theorem SameTexts.trans {first second third : BgContinuousTaskMgr} (early : SameTexts first second)
    (late : SameTexts second third) : SameTexts first third :=
  fun uid => (early uid).trans (late uid)

theorem SameTexts.saveTasks {before after : BgContinuousTaskMgr} (same : SameTexts before after)
    (env : Env) : SameTexts before (after.saveTasks env) := by
  unfold BgContinuousTaskMgr.saveTasks refreshTaskRecord
  split
  · exact same.trans (fun _ => ⟨rfl, rfl, rfl, rfl⟩)
  · exact same

def activeKind (env : Env) (s : BgContinuousTaskMgr) (record : ContinuousTaskRecord) : SendKind :=
  if record.suspendState then .keeps else sendKindByModes env s record

theorem outcome_handleActiveNotification {env : Env} (succeed : env.NotificationsSucceed)
    {s : BgContinuousTaskMgr} {record : ContinuousTaskRecord}
    (labelled : Labelled s.tools record) (counter : -1 ≤ s.tools.notificationIdIndex) :
    SendOutcome s.tools record (s.handleActiveNotification env record)
      (activeKind env s record) := by
  have valid : s.tools.chosenId record.notificationId ≠ -1 := by
    have bounds := chosenId_bounds counter labelled.mainId
    omega
  unfold handleActiveNotification activeKind
  split
  · exact .of_tools (SameNotices.refl record) rfl
  · exact outcome_sendByModes succeed s record valid

def Pending (uid : Int) (record : ContinuousTaskRecord) : Prop :=
  record.uid = uid ∧ record.suspendState = true

/-- One iteration of the loop over suspended tasks: a task without a notification just
becomes active, the first task with an id publishes, and later ones with that id take over
label and id of the last publication. -/
inductive ActivateStep (env : Env) (uid : Int) (key : String) (record : ContinuousTaskRecord)
    (loop later : ActiveLoop) : Prop where
  | skipped (notPending : ¬ Pending uid record) (eq : later = loop)
  | bare (pending : Pending uid record) (absent : record.notificationId = -1)
      (replaced : Replaced key (reactivated record) loop.mgr.tools loop.mgr later.mgr)
      (eq : later = { loop with mgr := later.mgr })
  | sent {sent : Sent} (pending : Pending uid record) (given : record.notificationId ≠ -1)
      (first : loop.notificationId = -2 ∨ record.notificationId ∉ loop.notificationOldIds)
      (outcome : SendOutcome loop.mgr.tools (reactivated record) sent
        (sendKindByModes env loop.mgr (reactivated record)))
      (unchanged : contents sent.record = contents (reactivated record))
      (replaced : Replaced key sent.record sent.tools loop.mgr later.mgr)
      (eq : later =
        { mgr := later.mgr
          notificationLabel := sent.record.notificationLabel
          notificationId := sent.record.notificationId
          notificationOldIds := loop.notificationOldIds ++ [record.notificationId] })
  | shared (pending : Pending uid record) (given : record.notificationId ≠ -1)
      (known : loop.notificationId ≠ -2) (old : record.notificationId ∈ loop.notificationOldIds)
      (replaced : Replaced key
        { reactivated record with
          notificationLabel := loop.notificationLabel
          notificationId := loop.notificationId } loop.mgr.tools loop.mgr later.mgr)
      (eq : later = { loop with mgr := later.mgr })

section Activate

variable {env : Env} {uid : Int} {key : String} {record : ContinuousTaskRecord} {loop : ActiveLoop}

theorem Labelled.reactivated {tools : NotificationTools} (labelled : Labelled tools record) :
    Labelled tools (reactivated record) :=
  labelled.of_record ⟨rfl, rfl, rfl, rfl, rfl, rfl⟩ (Or.inl rfl) rfl

theorem activateStep_of_outcome (found : loop.mgr.taskAt key = some record)
    (outcome : Pending uid record → record.notificationId ≠ -1 →
      SendOutcome loop.mgr.tools (reactivated record)
        (((loop.mgr.setRecord key (reactivated record)).onContinuousTaskChanged
          (reactivated record) .taskActive).handleActiveNotification env (reactivated record))
        (sendKindByModes env loop.mgr (reactivated record))) :
    ActivateStep env uid key record loop (activateTask env uid key record loop) := by
  have marked : Replaced key (reactivated record) loop.mgr.tools loop.mgr
      ((loop.mgr.setRecord key (reactivated record)).onContinuousTaskChanged (reactivated record)
        .taskActive) :=
    ⟨(replaced_setRecord found).taskAt, rfl⟩
  unfold activateTask
  split
  · rename_i other
    refine .skipped ?_ rfl
    rintro ⟨owner, suspended⟩
    simp [owner, suspended] at other
  rename_i chosen
  have pending : Pending uid record := by
    simpa [Pending] using chosen
  dsimp only
  split
  · rename_i absent
    exact .bare pending absent (marked.then_same (undisturbed_saveTasks _ env)) rfl
  rename_i given
  split
  · rename_i first
    refine .sent pending given first (outcome pending given)
      (contents_handleActiveNotification env _ _) ?_ rfl
    exact marked.trans ((replaced_setSent marked.own (Undisturbed.refl _)).then_same
      (undisturbed_saveTasks _ env))
  · rename_i later
    simp only [not_or, not_not] at later
    exact .shared pending given later.1 later.2
      (marked.trans ((replaced_setRecord marked.own).then_same (undisturbed_saveTasks _ env))) rfl

theorem activateStep_activateTask (succeed : env.NotificationsSucceed)
    (numbered : Numbered loop.mgr) (found : loop.mgr.taskAt key = some record) :
    ActivateStep env uid key record loop (activateTask env uid key record loop) := by
  refine activateStep_of_outcome found ?_
  intro _ _
  exact outcome_handleActiveNotification (s := (loop.mgr.setRecord key
    (reactivated record)).onContinuousTaskChanged (reactivated record) .taskActive) succeed
    (numbered.labelled key record found).reactivated numbered.counter

theorem sameTexts_activateTask : SameTexts loop.mgr (activateTask env uid key record loop).mgr := by
  unfold activateTask
  split
  · exact SameTexts.refl loop.mgr
  dsimp only
  split
  · refine SameTexts.saveTasks ?_ env
    exact fun _ => ⟨rfl, rfl, rfl, rfl⟩
  split
  · refine SameTexts.saveTasks ?_ env
    exact fun _ => ⟨rfl, rfl, rfl, rfl⟩
  · refine SameTexts.saveTasks ?_ env
    exact fun _ => ⟨rfl, rfl, rfl, rfl⟩

def Progressed (uid : Int) (old task : ContinuousTaskRecord) : Prop :=
  task = old ∨ (Pending uid old ∧ task.suspendState = false)

structure Activating (uid : Int) (s : BgContinuousTaskMgr) (loop : ActiveLoop) : Prop where
  numbered : Numbered loop.mgr
  texts : SameTexts s loop.mgr
  hash : loop.mgr.tools.hash = s.tools.hash
  origin : ∀ other task, loop.mgr.taskAt other = some task →
    ∃ old, s.taskAt other = some old ∧ Progressed uid old task
  kept : ∀ other old, s.taskAt other = some old →
    ∃ task, loop.mgr.taskAt other = some task ∧ Progressed uid old task
  fresh : loop.notificationId = -2 → loop.notificationOldIds = []
  last : loop.notificationOldIds ≠ [] → ∃ record : ContinuousTaskRecord, record.uid = uid ∧
    MainLabelled loop.mgr.tools record ∧
      record.mainPair = (loop.notificationLabel, loop.notificationId)

theorem Activating.replaced {s after : BgContinuousTaskMgr} {edited : ContinuousTaskRecord}
    {tools : NotificationTools} (activating : Activating uid s loop) (pending : Pending uid record)
    (old : s.taskAt key = some record) (active : edited.suspendState = false)
    (replaced : Replaced key edited tools loop.mgr after) :
    (∀ other task, after.taskAt other = some task →
      ∃ old, s.taskAt other = some old ∧ Progressed uid old task) ∧
    ∀ other old, s.taskAt other = some old →
      ∃ task, after.taskAt other = some task ∧ Progressed uid old task := by
  constructor
  · intro other task found
    rcases replaced.cases found with ⟨rfl, rfl⟩ | ⟨-, before⟩
    · exact ⟨record, old, Or.inr ⟨pending, active⟩⟩
    · exact activating.origin other task before
  · intro other older stored
    by_cases here : other = key
    · rw [here] at stored ⊢
      obtain rfl := Option.some.inj (old.symm.trans stored)
      exact ⟨edited, replaced.own, Or.inr ⟨pending, active⟩⟩
    · rw [replaced.other here]
      exact activating.kept other older stored

theorem Activating.step {s : BgContinuousTaskMgr} {later : ActiveLoop}
    (activating : Activating uid s loop) (old : s.taskAt key = some record)
    (found : loop.mgr.taskAt key = some record) (texts : SameTexts loop.mgr later.mgr)
    (step : ActivateStep env uid key record loop later) : Activating uid s later := by
  have labelled := (activating.numbered.labelled key record found).reactivated
  have allTexts := activating.texts.trans texts
  cases step with
  | skipped notPending eq =>
      rw [eq]
      exact activating
  | bare pending absent replaced eq =>
      obtain ⟨origin, kept⟩ := activating.replaced pending old rfl replaced
      have numbered := activating.numbered.replaced replaced labelled rfl (le_refl _)
        activating.numbered.shownIds
      refine ⟨numbered, allTexts, ?_, origin, kept, ?_, ?_⟩
      · rw [replaced.tools]
        exact activating.hash
      · rw [eq]
        exact activating.fresh
      · rw [replaced.tools, eq]
        exact activating.last
  | sent pending given first outcome unchanged replaced eq =>
      have active : _ = false := outcome.edited.suspendState.trans rfl
      obtain ⟨origin, kept⟩ := activating.replaced pending old active replaced
      have sentLabelled := outcome.labelled labelled activating.numbered.counter
      refine ⟨activating.numbered.sent labelled outcome replaced, allTexts, ?_, origin, kept, ?_, ?_⟩
      · rw [replaced.tools]
        exact outcome.hash.trans activating.hash
      · intro none
        rw [eq] at none
        have bounds := sentLabelled.mainId
        dsimp only at none
        omega
      · intro _
        rw [replaced.tools, eq]
        exact ⟨_, outcome.edited.uid.trans pending.1, sentLabelled.toMainLabelled, rfl⟩
  | shared pending given known old' replaced eq =>
      obtain ⟨origin, kept⟩ := activating.replaced pending old rfl replaced
      obtain ⟨publisher, owner, main, pair⟩ := activating.last (List.ne_nil_of_mem old')
      have label : publisher.notificationLabel = loop.notificationLabel := congrArg Prod.fst pair
      have id : publisher.notificationId = loop.notificationId := congrArg Prod.snd pair
      have takenLabelled : Labelled loop.mgr.tools
          { reactivated record with
            notificationLabel := loop.notificationLabel
            notificationId := loop.notificationId } := by
        refine ⟨⟨?_, ?_, ?_⟩, ⟨labelled.sub, labelled.subId⟩⟩
        · intro given
          show OwnLabel record.uid loop.notificationLabel
          rw [pending.1, ← owner, ← label]
          exact main.ownMain (id ▸ given)
        · intro given
          exact label ▸ main.mainForm (id ▸ given)
        · exact id ▸ main.mainId
      have numbered := activating.numbered.replaced replaced takenLabelled rfl (le_refl _)
        activating.numbered.shownIds
      refine ⟨numbered, allTexts, ?_, origin, kept, ?_, ?_⟩
      · rw [replaced.tools]
        exact activating.hash
      · rw [eq]
        exact activating.fresh
      · rw [replaced.tools, eq]
        exact activating.last

theorem activating_start {s : BgContinuousTaskMgr} (numbered : Numbered s) :
    Activating uid s { mgr := s } :=
  ⟨numbered, SameTexts.refl s, rfl, fun _ task found => ⟨task, found, Or.inl rfl⟩,
    fun _ old found => ⟨old, found, Or.inl rfl⟩, fun _ => rfl, fun some => absurd rfl some⟩

theorem local_activateTask (env : Env) (uid : Int) :
    KeyedMap.Local (fun loop : ActiveLoop => loop.mgr.continuousTaskInfosMap)
      (activateTask env uid) := by
  intro key record loop _ other different
  show (activateTask env uid key record loop).mgr.taskAt other = loop.mgr.taskAt other
  unfold activateTask
  split
  · rfl
  dsimp only
  split
  · rw [(undisturbed_saveTasks _ env).taskAt]
    exact taskAt_setRecord_ne loop.mgr key other _ different
  split
  · rw [(undisturbed_saveTasks _ env).taskAt]
    exact (taskAt_setRecord_ne _ key other _ different).trans
      (taskAt_setRecord_ne loop.mgr key other _ different)
  · rw [(undisturbed_saveTasks _ env).taskAt]
    exact (taskAt_setRecord_ne _ key other _ different).trans
      (taskAt_setRecord_ne loop.mgr key other _ different)

/-- The rule for the loop over suspended tasks: each iteration stands on a record as it was
at the start. -/
theorem activate_invariant {inv : ActiveLoop → Prop} {s : BgContinuousTaskMgr}
    (succeed : env.NotificationsSucceed) (numbered : Numbered s)
    (step : ∀ key record loop later, s.taskAt key = some record →
      loop.mgr.taskAt key = some record → Activating uid s loop →
      ActivateStep env uid key record loop later → inv loop → inv later)
    (start : inv { mgr := s }) :
    ∃ loop, loop.mgr = s.handleActiveContinuousTask env uid ∧ Activating uid s loop ∧ inv loop := by
  have each : ∀ key record loop, s.taskAt key = some record → loop.mgr.taskAt key = some record →
      (Activating uid s loop ∧ inv loop) →
      Activating uid s (activateTask env uid key record loop) ∧
        inv (activateTask env uid key record loop) := by
    intro key record loop old found held
    have next : ActivateStep env uid key record loop (activateTask env uid key record loop) :=
      activateStep_activateTask succeed held.1.numbered found
    exact ⟨held.1.step old found sameTexts_activateTask next,
      step key record loop _ old found held.1 next held.2⟩
  have held := KeyedMap.forEach_untouched (local_activateTask env uid) { mgr := s } each
    ⟨activating_start numbered, start⟩
  exact ⟨_, rfl, held⟩

end Activate

theorem Numbered.handleActiveContinuousTask {s : BgContinuousTaskMgr} {env : Env} (numbered : Numbered s)
    (succeed : env.NotificationsSucceed) (uid : Int) :
    Numbered (s.handleActiveContinuousTask env uid) := by
  have step : ∀ key record (loop later : ActiveLoop), s.taskAt key = some record →
      loop.mgr.taskAt key = some record → Activating uid s loop →
      ActivateStep env uid key record loop later → True → True :=
    fun _ _ _ _ _ _ _ _ _ => trivial
  obtain ⟨loop, eq, activating, -⟩ := activate_invariant succeed numbered step trivial
  rw [← eq]
  exact activating.numbered

/-! ## Detection -/

/-- What sending comes to for a task whose playback was detected: AVSession is taken not to
show it. -/
def deteKind (env : Env) (s : BgContinuousTaskMgr) (record : ContinuousTaskRecord) : SendKind :=
  activeKind env { s with
    avSessionNotification := s.avSessionNotification.insert record.uid false } record

structure SameBooks (before after : BgContinuousTaskMgr) : Prop where
  texts : after.texts = before.texts
  cachedBundleInfos : after.cachedBundleInfos = before.cachedBundleInfos
  liveViewInfo : after.liveViewInfo = before.liveViewInfo

theorem SameBooks.deteKind {before after : BgContinuousTaskMgr} (same : SameBooks before after)
    (env : Env) (record : ContinuousTaskRecord) :
    Continuous.deteKind env after record = Continuous.deteKind env before record := by
  have sources : SameSources record.uid
      { before with
        avSessionNotification := before.avSessionNotification.insert record.uid false }
      { after with
        avSessionNotification := after.avSessionNotification.insert record.uid false } := by
    refine ⟨same.texts, by rw [same.cachedBundleInfos], by rw [same.liveViewInfo], ?_⟩
    rw [AList.lookup_insert, AList.lookup_insert]
  unfold Continuous.deteKind activeKind
  rw [sources.sendKindByModes env]

inductive DeteStep (env : Env) (key : String) (current later : BgContinuousTaskMgr) : Prop where
  | missing (gone : current.taskAt key = none) (eq : later = current)
  | sent {record : ContinuousTaskRecord} {sent : Sent} (found : current.taskAt key = some record)
      (outcome : SendOutcome current.tools record sent (deteKind env current record))
      (unchanged : contents sent.record = contents record)
      (replaced : Replaced key sent.record sent.tools current later)

section Detection

variable {env : Env} {s : BgContinuousTaskMgr} {key : String}

theorem deteStep_sendForDete (succeed : env.NotificationsSucceed) (numbered : Numbered s) :
    DeteStep env key s (sendForDete env s key) := by
  unfold sendForDete
  split
  · rename_i gone
    exact .missing gone rfl
  · rename_i record lookup
    have found : s.taskAt key = some record := lookup
    refine .sent found ?_ (contents_handleActiveNotification env _ record)
      (replaced_setSent found ⟨fun _ => rfl, rfl⟩)
    exact outcome_handleActiveNotification (s := { s with
      avSessionNotification := s.avSessionNotification.insert record.uid false }) succeed
      (numbered.labelled key record found) numbered.counter

theorem sameBooks_sendForDete : SameBooks s (sendForDete env s key) := by
  unfold sendForDete
  split
  · exact ⟨rfl, rfl, rfl⟩
  · exact ⟨rfl, rfl, rfl⟩

theorem Numbered.deteStep {later : BgContinuousTaskMgr} (numbered : Numbered s)
    (step : DeteStep env key s later) : Numbered later := by
  cases step with
  | missing gone eq =>
      rw [eq]
      exact numbered
  | sent found outcome unchanged replaced =>
      exact numbered.sent (numbered.labelled key _ found) outcome replaced

theorem dete_invariant {inv : BgContinuousTaskMgr → Prop} (succeed : env.NotificationsSucceed)
    (numbered : Numbered s) (taskKeys : List String)
    (step : ∀ key ∈ taskKeys, ∀ current later, Numbered current → SameBooks s current →
      DeteStep env key current later → inv current → inv later)
    (start : inv s) :
    Numbered (taskKeys.foldl (sendForDete env) s) ∧ inv (taskKeys.foldl (sendForDete env) s) := by
  have loop : ∀ keys : List String, (∀ key ∈ keys, key ∈ taskKeys) → ∀ current, Numbered current →
      SameBooks s current → inv current →
      Numbered (keys.foldl (sendForDete env) current) ∧
        inv (keys.foldl (sendForDete env) current) := by
    intro keys listed
    induction keys with
    | nil => exact fun current numbered _ held => ⟨numbered, held⟩
    | cons key rest ih =>
        intro current numbered books held
        have next : DeteStep env key current (sendForDete env current key) :=
          deteStep_sendForDete succeed numbered
        have changed : SameBooks current (sendForDete env current key) := sameBooks_sendForDete
        refine ih (fun later member => listed later (List.mem_cons_of_mem key member)) _
          (numbered.deteStep next) ?_ ?_
        · exact ⟨changed.texts.trans books.texts,
            changed.cachedBundleInfos.trans books.cachedBundleInfos,
            changed.liveViewInfo.trans books.liveViewInfo⟩
        · exact step key (listed key List.mem_cons_self) current _ numbered books next held
  exact loop taskKeys (fun _ member => member) s numbered ⟨rfl, rfl, rfl⟩ start

end Detection

/-! ## After a live view -/

section LiveView

variable {env : Env} {s : BgContinuousTaskMgr} {key : String}

inductive LiveViewStep (env : Env) (uid : Int) (key : String) (record : ContinuousTaskRecord)
    (current later : BgContinuousTaskMgr) : Prop where
  | skipped (eq : later = current)
  | sent {sent : Sent} (absent : record.notificationId = -1)
      (outcome : SendOutcome current.tools record sent (sendKind env current record))
      (replaced : Replaced key sent.record sent.tools current later)

theorem liveViewStep_sendAfterLiveView (succeed : env.NotificationsSucceed) (uid : Int)
    {record : ContinuousTaskRecord} (found : s.taskAt key = some record) :
    LiveViewStep env uid key record s (sendAfterLiveView env uid key record s) := by
  unfold sendAfterLiveView
  split
  · exact .skipped rfl
  · rename_i chosen
    simp only [not_or, not_not] at chosen
    exact .sent chosen.2 (outcome_sendContinuousTaskNotification succeed s record)
      (replaced_setSent found (undisturbed_saveTasks _ env))

theorem liveView_invariant {inv : BgContinuousTaskMgr → Prop} (succeed : env.NotificationsSucceed)
    (numbered : Numbered s) (uid : Int)
    (step : ∀ key record current later, current.taskAt key = some record → Numbered current →
      LiveViewStep env uid key record current later → inv current → inv later)
    (start : inv s) :
    Numbered (s.forEachTask (sendAfterLiveView env uid)) ∧
      inv (s.forEachTask (sendAfterLiveView env uid)) := by
  have each : ∀ key record current, current.taskAt key = some record →
      (Numbered current ∧ inv current) →
      Numbered (sendAfterLiveView env uid key record current) ∧
        inv (sendAfterLiveView env uid key record current) := by
    intro key record current found held
    have next : LiveViewStep env uid key record current
        (sendAfterLiveView env uid key record current) :=
      liveViewStep_sendAfterLiveView succeed uid found
    refine ⟨?_, step key record current _ found held.1 next held.2⟩
    cases next with
    | skipped eq =>
        rw [eq]
        exact held.1
    | sent absent outcome replaced =>
        exact held.1.sent (held.1.labelled key record found) outcome replaced
  exact KeyedMap.forEach_invariant each s ⟨numbered, start⟩

end LiveView

/-! ## Labels and ids in every run -/

section Runs

variable {env : Env} {s after : BgContinuousTaskMgr} {op : TaskOp}

/-- What a sweep makes of a record from which it withdraws notifications: it gives it no
other notification, and it makes no suspended task active. -/
structure Lessened (withdrawn : List (String × Int)) (before after : ContinuousTaskRecord) : Prop
    extends Softened before after where
  gone : after.mainPair = before.mainPair ∨ before.mainPair ∈ withdrawn
  active : after.suspendState = false → before.suspendState = false

theorem Lessened.refl (withdrawn : List (String × Int)) (record : ContinuousTaskRecord) :
    Lessened withdrawn record record :=
  ⟨Softened.refl record, Or.inl rfl, fun active => active⟩

theorem lessened_endingSweep {chosen : ContinuousTaskRecord → Bool}
    {pairs : ContinuousTaskRecord → List (String × Int)} {deleted withdrawn : List (String × Int)}
    {key : String} {record left : ContinuousTaskRecord}
    (change : (endingSweep chosen pairs deleted).change key record = some left) :
    Lessened withdrawn record left := by
  have stayed : ended chosen key record = some left := change
  obtain ⟨-, rfl⟩ := ended_eq_some.mp stayed
  exact Lessened.refl withdrawn record

theorem lessened_audioChange {uid : Int} {hasCallback : Bool} {withdrawn : List (String × Int)}
    (key : String) {record left : ContinuousTaskRecord}
    (change : audioChange uid hasCallback key record = some left) :
    Lessened withdrawn record left := by
  unfold audioChange audioOutcome at change
  split at change
  · split at change
    · obtain rfl := Option.some.inj change
      exact ⟨⟨⟨rfl, rfl, rfl, rfl, rfl, rfl⟩, Or.inl rfl, rfl⟩, Or.inl rfl, fun active => active⟩
    · split at change
      · obtain rfl := Option.some.inj change
        exact ⟨⟨⟨rfl, rfl, rfl, rfl, rfl, rfl⟩, Or.inl rfl, rfl⟩, Or.inl rfl,
          fun active => absurd active (by simp [audioSuspended])⟩
      · exact absurd change (by simp)
  · obtain rfl := Option.some.inj change
    exact Lessened.refl withdrawn record

theorem lessened_suspendChange {uid mode : Int} {key : String} {withdrawn : List (String × Int)}
    (other : String) {record left : ContinuousTaskRecord}
    (change : suspendChange uid mode key other record = some left) :
    Lessened withdrawn record left := by
  obtain rfl := Option.some.inj change
  split
  · exact ⟨⟨⟨rfl, rfl, rfl, rfl, rfl, rfl⟩, Or.inl rfl, rfl⟩, Or.inl rfl,
      fun active => absurd active (by simp [suspended])⟩
  · exact Lessened.refl withdrawn record

theorem lessened_liveViewChange {uid : Int} (key : String) {record left : ContinuousTaskRecord}
    (change : liveViewChange uid key record = some left) :
    Lessened (withdrawnOf (liveViewChosen uid) (fun record => [record.mainPair]) key record) record
      left := by
  unfold liveViewChange at change
  split at change
  · rename_i chosen
    obtain rfl := Option.some.inj change
    refine ⟨⟨⟨rfl, rfl, rfl, rfl, rfl, rfl⟩, Or.inr rfl, rfl⟩, Or.inr ?_, fun active => active⟩
    unfold withdrawnOf
    rw [if_pos chosen]
    exact List.mem_singleton.mpr rfl
  · obtain rfl := Option.some.inj change
    exact Lessened.refl _ record

theorem lessened_deletionSweep {notification : Notification} {pair : String × Int} {key : String}
    {withdrawn : List (String × Int)} {record left : ContinuousTaskRecord}
    (change : (deletionSweep s notification pair).change key record = some left) :
    Lessened withdrawn record left := by
  have deleting : (deletingSweep pair).change key record = some left →
      Lessened withdrawn record left := by
    intro same
    obtain rfl : record = left := Option.some.inj same
    exact Lessened.refl withdrawn record
  unfold deletionSweep at change
  split at change
  · exact deleting change
  · split at change
    · exact deleting change
    · split at change
      · exact lessened_endingSweep change
      · exact deleting change

theorem lessened_sweepOf {sweep : Sweep} (made : sweepOf env s op = some sweep) {key : String}
    {record left : ContinuousTaskRecord} (change : sweep.change key record = some left) :
    Lessened (sweep.withdrawn key record) record left := by
  unfold sweepOf at made
  split at made
  · obtain rfl := Option.some.inj (Option.ite_none_right_eq_some.mp made).2
    exact lessened_endingSweep change
  · obtain rfl := Option.some.inj (Option.ite_none_right_eq_some.mp made).2
    exact lessened_suspendChange key change
  · obtain rfl := Option.some.inj (Option.ite_none_right_eq_some.mp made).2
    exact lessened_audioChange key change
  · obtain rfl := Option.some.inj (Option.ite_none_right_eq_some.mp made).2
    exact lessened_endingSweep change
  · obtain rfl := Option.some.inj (Option.ite_none_right_eq_some.mp made).2
    exact lessened_endingSweep change
  · obtain ⟨ids, -, rfl⟩ := Option.map_eq_some_iff.mp made
    exact lessened_endingSweep change
  · obtain rfl := Option.some.inj (Option.ite_none_right_eq_some.mp made).2
    exact lessened_liveViewChange key change
  · split at made
    · exact absurd made (by simp)
    · obtain ⟨notification, -, rfl⟩ := Option.map_eq_some_iff.mp made
      exact lessened_deletionSweep change
  · obtain rfl := Option.some.inj (Option.ite_none_right_eq_some.mp made).2
    exact absurd change (by simp)
  · exact absurd made (by simp)

theorem Numbered.sweepEffect {sweep : Sweep} (numbered : Numbered s)
    (effect : SweepEffect sweep s after)
    (softens : ∀ key record left, sweep.change key record = some left → Softened record left) :
    Numbered after := by
  refine ⟨?_, effect.notificationIdIndex ▸ numbered.counter, ?_⟩
  · intro key edited found
    obtain ⟨record, left, stored, change, notices⟩ := effect.origin key edited found
    have soft := softens key record left change
    have labelled := (numbered.labelled key record stored).of_record soft.toSameTask soft.main
      soft.sub
    have same := labelled.of_record notices.toSameTask (Or.inl notices.mainPair) notices.subPair
    exact same.mono effect.hash (le_of_eq effect.notificationIdIndex.symm)
  · intro pair shown
    exact numbered.shownIds pair ((effect.shown pair).mp shown).1

theorem fresh_of_requested {record : ContinuousTaskRecord}
    (request : requested env op = some record) : Fresh record := by
  unfold requested at request
  split at request
  · exact (fresh_startRecord request).1
  · obtain rfl := Option.some.inj request
    exact fresh_innerRecord _ _ _
  · obtain rfl := Option.some.inj request
    exact fresh_innerRecord _ _ _
  · exact absurd request (by simp)

theorem Fresh.withId {record : ContinuousTaskRecord} (fresh : Fresh record) (id : Int) :
    Fresh { record with continuousTaskId := id } :=
  ⟨fresh.suspendState, fresh.notificationId, fresh.subNotificationId⟩

theorem Numbered.noticeEffect (numbered : Numbered s) (succeed : env.NotificationsSucceed)
    (effect : NoticeEffect env s op after) : Numbered after := by
  cases effect with
  | unnoticed same => exact numbered.unnoticed same
  | started request outcome =>
      exact numbered_of_startOutcome numbered ((fresh_of_requested request).withId _) outcome
  | stopped same stopped only => exact (numbered.unnoticed same).stopped stopped
  | swept made effect =>
      exact numbered.sweepEffect effect
        (fun _ _ _ change => (lessened_sweepOf made change).toSoftened)
  | published publishes same found outcome saved =>
      exact ((numbered.unnoticed same).setSent found outcome).unnoticed saved.unnoticed
  | updated publishes isUpdate suspended same found outcome unchanged stored sources saved =>
      have middle := ((numbered.unnoticed same).setSent found outcome).unnoticed stored.unnoticed
      exact (middle.handleActiveContinuousTask succeed _).unnoticed saved.unnoticed
  | @reactivated uid asks eq =>
      rw [eq]
      exact numbered.handleActiveContinuousTask succeed uid
  | @detected taskKeys asks eq =>
      have step : ∀ key ∈ taskKeys, ∀ current later, Numbered current → SameBooks s current →
          DeteStep env key current later → True → True := fun _ _ _ _ _ _ _ held => held
      rw [eq]
      exact (dete_invariant succeed numbered taskKeys step trivial).1
  | @liveViewGone uid noted same eq =>
      have ready := numbered.unnoticed same.unnoticed
      have step : ∀ key record current later, current.taskAt key = some record →
          Numbered current → LiveViewStep env uid key record current later → True → True :=
        fun _ _ _ _ _ _ _ held => held
      rw [eq]
      exact (liveView_invariant succeed ready uid step trivial).1

theorem Numbered.taskStep (numbered : Numbered s) (succeed : env.NotificationsSucceed)
    (op : TaskOp) : Numbered (s.taskStep (env, op)) :=
  numbered.noticeEffect succeed (noticeEffect_taskStep succeed numbered op)

end Runs

end BgTaskMgr.Continuous
