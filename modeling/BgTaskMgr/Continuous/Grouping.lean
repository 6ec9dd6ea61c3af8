import BgTaskMgr.Continuous.Deletion
import BgTaskMgr.Continuous.Reactivation
import BgTaskMgr.Lib.Regroup

/-!
# Notifications of reactivated tasks

A reactivation gives each task the notification that the pass over the map comes to: the
loop compares bare ids and remembers only the last publication.
-/

set_option autoImplicit false

namespace BgTaskMgr.Continuous

open BgContinuousTaskMgr

/-- Reactivated tasks share a notification when they shared one before, and what they refer
to is shown. -/
structure Regrouped (uid : Int) (before after : BgContinuousTaskMgr) : Prop where
  grouping : ∀ first firstRecord second secondRecord,
    before.taskAt first = some firstRecord → Pending uid firstRecord →
    before.taskAt second = some secondRecord → Pending uid secondRecord →
    ∃ firstTask secondTask, after.taskAt first = some firstTask ∧
      after.taskAt second = some secondTask ∧
      (firstTask.mainPair = secondTask.mainPair ↔ firstRecord.mainPair = secondRecord.mainPair)
  published : ∀ key record, before.taskAt key = some record → Pending uid record →
    ∃ task, after.taskAt key = some task ∧ task.suspendState = false ∧
      (task.notificationId ≠ -1 → after.tools.Shown task.mainPair)

def Noticed (uid : Int) (record : ContinuousTaskRecord) : Prop :=
  Pending uid record ∧ record.notificationId ≠ -1

instance (uid : Int) (record : ContinuousTaskRecord) : Decidable (Noticed uid record) :=
  inferInstanceAs (Decidable ((record.uid = uid ∧ record.suspendState = true) ∧
    record.notificationId ≠ -1))

def noticedTasks (uid : Int) (s : BgContinuousTaskMgr) :
    List (Σ _ : String, ContinuousTaskRecord) :=
  s.continuousTaskInfosMap.entries.filter (fun entry => Noticed uid entry.2)

/-- Every notification of a suspended task of the app can be published, under an id that
stands for one. -/
structure PublishesAll (env : Env) (uid : Int) (s : BgContinuousTaskMgr) : Prop where
  accepted : ∀ label id, env.publishOk label id = true
  publishes : ∀ key record, s.taskAt key = some record → Noticed uid record →
    sendKindByModes env s (reactivated record) = .publishes
  legal : ∀ key record, s.taskAt key = some record → Noticed uid record →
    record.notificationId ≠ -2

section Loop

variable {env : Env} {uid : Int} {s : BgContinuousTaskMgr} {key : String}
  {record : ContinuousTaskRecord} {loop : ActiveLoop}

def ownNotice (s : BgContinuousTaskMgr) (entry : Σ _ : String, ContinuousTaskRecord) :
    String × Int :=
  (createNotificationLabel s.tools.hash entry.2, entry.2.notificationId)

def notices (uid : Int) (s : BgContinuousTaskMgr) (loop : ActiveLoop)
    (entries : List (Σ _ : String, ContinuousTaskRecord)) :
    List ((Σ _ : String, ContinuousTaskRecord) × (String × Int)) :=
  Regroup.assign (fun entry => entry.2.notificationId) (ownNotice s)
    (loop.notificationLabel, loop.notificationId) loop.notificationOldIds
    (entries.filter (fun entry => Noticed uid entry.2))

structure Regrouping (s : BgContinuousTaskMgr) (loop : ActiveLoop) : Prop where
  texts : SameTexts s loop.mgr
  hash : loop.mgr.tools.hash = s.tools.hash
  known : loop.notificationOldIds ≠ [] → loop.notificationId ≠ -2 ∧
    loop.mgr.tools.Shown (loop.notificationLabel, loop.notificationId)

/-- One iteration for a task of the loop: it is not concerned, gets active without a
notification, publishes, or takes over the last publication. -/
inductive RegroupStep (uid : Int) (s : BgContinuousTaskMgr) (key : String)
    (record : ContinuousTaskRecord) (loop later : ActiveLoop) : Prop where
  | skipped (notPending : ¬ Pending uid record) (eq : later = loop)
  | bare (pending : Pending uid record) (absent : record.notificationId = -1)
      (found : later.mgr.taskAt key = some (reactivated record))
      (tools : later.mgr.tools = loop.mgr.tools)
      (eq : later = { loop with mgr := later.mgr })
  | published (noticed : Noticed uid record)
      (new : record.notificationId ∉ loop.notificationOldIds)
      (found : ∃ task, later.mgr.taskAt key = some task ∧ task.suspendState = false ∧
        task.mainPair = ownNotice s ⟨key, record⟩)
      (shown : later.mgr.tools.Shown (ownNotice s ⟨key, record⟩))
      (stays : ∀ pair, loop.mgr.tools.Shown pair → later.mgr.tools.Shown pair)
      (last : (later.notificationLabel, later.notificationId) = ownNotice s ⟨key, record⟩)
      (oldIds : later.notificationOldIds = loop.notificationOldIds ++ [record.notificationId])
  | shared (noticed : Noticed uid record) (old : record.notificationId ∈ loop.notificationOldIds)
      (found : ∃ task, later.mgr.taskAt key = some task ∧ task.suspendState = false ∧
        task.mainPair = (loop.notificationLabel, loop.notificationId))
      (tools : later.mgr.tools = loop.mgr.tools)
      (eq : later = { loop with mgr := later.mgr })

theorem outcome_activeNotification (accepted : ∀ label id, env.publishOk label id = true)
    (active : record.suspendState = false) (given : record.notificationId ≠ -1)
    (kind : sendKindByModes env s record = .publishes) :
    SendOutcome s.tools record (s.handleActiveNotification env record)
      (sendKindByModes env s record) := by
  have valid : s.tools.chosenId record.notificationId ≠ -1 := by
    unfold NotificationTools.chosenId
    rw [if_neg given]
    exact given
  unfold handleActiveNotification
  rw [if_neg (by simp [active])]
  exact outcome_of_publishes_sendByModes s record accepted (fun other => absurd kind other) valid

theorem SendOutcome.published_main {tools : NotificationTools} {sent : Sent}
    (outcome : SendOutcome tools record sent .publishes) :
    sent.record.mainPair = ownPair tools record ∧ sent.tools.Shown (ownPair tools record) ∧
      ∀ pair, tools.Shown pair → sent.tools.Shown pair := by
  cases outcome with
  | published ret edited main sub shown hash index =>
      exact ⟨main, (shown _).mpr (Or.inr rfl), fun pair old => (shown pair).mpr (Or.inl old)⟩
  | both ret edited request main sub shown hash index =>
      exact ⟨main, (shown _).mpr (Or.inr (Or.inl rfl)),
        fun pair old => (shown pair).mpr (Or.inl old)⟩

theorem regroupStep_activateTask (publishes : PublishesAll env uid s)
    (regrouping : Regrouping s loop)
    (stored : s.taskAt key = some record) (found : loop.mgr.taskAt key = some record) :
    Regrouping s (activateTask env uid key record loop) ∧
      RegroupStep uid s key record loop (activateTask env uid key record loop) := by
  have texts := regrouping.texts.trans
    (@sameTexts_activateTask env uid key record loop)
  have kind : Noticed uid record →
      sendKindByModes env loop.mgr (reactivated record) = .publishes := by
    intro noticed
    have sources : SameSources (reactivated record).uid s loop.mgr := regrouping.texts _
    rw [sources.sendKindByModes env]
    exact publishes.publishes key record stored noticed
  have step : ActivateStep env uid key record loop (activateTask env uid key record loop) := by
    refine activateStep_of_outcome found ?_
    intro pending given
    exact outcome_activeNotification (s := (loop.mgr.setRecord key
      (reactivated record)).onContinuousTaskChanged (reactivated record) .taskActive)
      publishes.accepted rfl given (kind ⟨pending, given⟩)
  cases step with
  | skipped notPending eq =>
      rw [eq]
      exact ⟨regrouping, .skipped notPending rfl⟩
  | bare pending absent replaced eq =>
      refine ⟨⟨texts, ?_, ?_⟩, .bare pending absent replaced.own replaced.tools eq⟩
      · rw [replaced.tools]
        exact regrouping.hash
      · rw [replaced.tools, eq]
        exact regrouping.known
  | @sent sent pending given first outcome unchanged replaced eq =>
      have noticed : Noticed uid record := ⟨pending, given⟩
      rw [kind noticed] at outcome
      have own : ownPair loop.mgr.tools (reactivated record) = ownNotice s ⟨key, record⟩ := by
        unfold ownPair ownNotice NotificationTools.chosenId
        rw [if_neg (show (reactivated record).notificationId ≠ -1 from given), regrouping.hash]
        rfl
      obtain ⟨main, shown, stays⟩ := outcome.published_main
      rw [own] at main shown
      have last : (sent.record.notificationLabel, sent.record.notificationId) =
          ownNotice s ⟨key, record⟩ := main
      have new : record.notificationId ∉ loop.notificationOldIds := by
        rcases first with none | new
        · intro old
          exact (regrouping.known (List.ne_nil_of_mem old)).1 none
        · exact new
      refine ⟨⟨texts, ?_, ?_⟩, .published noticed new
        ⟨_, replaced.own, outcome.edited.suspendState.trans rfl, main⟩ ?_ ?_ ?_ ?_⟩
      · rw [replaced.tools]
        exact outcome.hash.trans regrouping.hash
      · intro _
        rw [replaced.tools, eq]
        dsimp only
        rw [last]
        refine ⟨?_, shown⟩
        rw [show sent.record.notificationId = record.notificationId from congrArg Prod.snd main]
        exact publishes.legal key record stored noticed
      · rw [replaced.tools]
        exact shown
      · rw [replaced.tools]
        exact stays
      · rw [eq]
        exact last
      · rw [eq]
  | shared pending given known old replaced eq =>
      refine ⟨⟨texts, ?_, ?_⟩, .shared ⟨pending, given⟩ old ⟨_, replaced.own, rfl, rfl⟩
        replaced.tools eq⟩
      · rw [replaced.tools]
        exact regrouping.hash
      · rw [replaced.tools, eq]
        exact regrouping.known

structure GivesNotices (uid : Int) (s : BgContinuousTaskMgr)
    (entries : List (Σ _ : String, ContinuousTaskRecord)) (loop last : ActiveLoop) : Prop where
  untouched : ∀ other, other ∉ entries.map Sigma.fst →
    last.mgr.taskAt other = loop.mgr.taskAt other
  stays : ∀ pair, loop.mgr.tools.Shown pair → last.mgr.tools.Shown pair
  bare : ∀ entry ∈ entries, Pending uid entry.2 → entry.2.notificationId = -1 →
    last.mgr.taskAt entry.1 = some (reactivated entry.2)
  noticed : ∀ given ∈ notices uid s loop entries,
    ∃ task, last.mgr.taskAt given.1.1 = some task ∧ task.suspendState = false ∧
      task.mainPair = given.2 ∧ last.mgr.tools.Shown given.2

theorem notices_cons (entry : Σ _ : String, ContinuousTaskRecord)
    (rest : List (Σ _ : String, ContinuousTaskRecord)) :
    notices uid s loop (entry :: rest) =
      if ¬ Noticed uid entry.2 then notices uid s loop rest
      else if entry.2.notificationId ∈ loop.notificationOldIds then
        (entry, (loop.notificationLabel, loop.notificationId)) :: notices uid s loop rest
      else
        (entry, ownNotice s entry) :: notices uid s
          { loop with
            notificationLabel := (ownNotice s entry).1
            notificationId := (ownNotice s entry).2
            notificationOldIds := loop.notificationOldIds ++ [entry.2.notificationId] } rest := by
  unfold notices
  by_cases noticed : Noticed uid entry.2
  · rw [List.filter_cons_of_pos (by simpa using noticed), if_neg (not_not.mpr noticed)]
    rfl
  · rw [List.filter_cons_of_neg (by simpa using noticed), if_pos noticed]

theorem GivesNotices.cons {rest : List (Σ _ : String, ContinuousTaskRecord)}
    {later last : ActiveLoop} (gives : GivesNotices uid s rest later last)
    (regrouping : Regrouping s loop)
    (fresh : key ∉ rest.map Sigma.fst)
    (others : ∀ other, other ≠ key → later.mgr.taskAt other = loop.mgr.taskAt other)
    (step : RegroupStep uid s key record loop later) :
    GivesNotices uid s (⟨key, record⟩ :: rest) loop last := by
  have own := gives.untouched key fresh
  have untouched : ∀ other, other ∉ (⟨key, record⟩ :: rest : List (Σ _ : String, _)).map Sigma.fst →
      last.mgr.taskAt other = loop.mgr.taskAt other := by
    intro other absent
    rw [List.map_cons, List.mem_cons, not_or] at absent
    exact (gives.untouched other absent.2).trans (others other absent.1)
  cases step with
  | skipped notPending eq =>
      refine ⟨untouched, eq ▸ gives.stays, ?_, ?_⟩
      · intro entry member pending absent
        rcases List.mem_cons.mp member with rfl | inRest
        · exact absurd pending notPending
        · exact gives.bare entry inRest pending absent
      · rw [notices_cons, if_pos (fun noticed => notPending noticed.1), ← eq]
        exact gives.noticed
  | bare pending absent found tools eq =>
      refine ⟨untouched, tools ▸ gives.stays, ?_, ?_⟩
      · intro entry member pending absent
        rcases List.mem_cons.mp member with rfl | inRest
        · exact own.trans found
        · exact gives.bare entry inRest pending absent
      · rw [notices_cons, if_pos (fun noticed => noticed.2 absent)]
        rw [eq] at gives
        exact gives.noticed
  | published noticed new found shown stays lastPair oldIds =>
      refine ⟨untouched, fun pair old => gives.stays pair (stays pair old), ?_, ?_⟩
      · intro entry member pending absent
        rcases List.mem_cons.mp member with rfl | inRest
        · exact absurd absent noticed.2
        · exact gives.bare entry inRest pending absent
      · rw [notices_cons, if_neg (not_not.mpr noticed), if_neg new]
        intro given member
        rcases List.mem_cons.mp member with rfl | inRest
        · obtain ⟨task, stored, active, pair⟩ := found
          exact ⟨task, own.trans stored, active, pair, gives.stays _ shown⟩
        · refine gives.noticed given ?_
          unfold notices at inRest ⊢
          rw [lastPair, oldIds]
          exact inRest
  | shared noticed old found tools eq =>
      refine ⟨untouched, tools ▸ gives.stays, ?_, ?_⟩
      · intro entry member pending absent
        rcases List.mem_cons.mp member with rfl | inRest
        · exact absurd absent noticed.2
        · exact gives.bare entry inRest pending absent
      · rw [notices_cons, if_neg (not_not.mpr noticed), if_pos old]
        intro given member
        rcases List.mem_cons.mp member with rfl | inRest
        · obtain ⟨task, stored, active, pair⟩ := found
          refine ⟨task, own.trans stored, active, pair, gives.stays _ ?_⟩
          rw [tools]
          exact (regrouping.known (List.ne_nil_of_mem old)).2
        · rw [eq] at gives
          exact gives.noticed given inRest

theorem givesNotices_foldl (publishes : PublishesAll env uid s)
    (entries : List (Σ _ : String, ContinuousTaskRecord))
    (distinct : (entries.map Sigma.fst).Nodup) (loop : ActiveLoop)
    (stored : ∀ entry ∈ entries, s.taskAt entry.1 = some entry.2)
    (found : ∀ entry ∈ entries, loop.mgr.taskAt entry.1 = some entry.2)
    (regrouping : Regrouping s loop) :
    GivesNotices uid s entries loop
      ((entries.map Sigma.fst).foldl (KeyedMap.visit
        (fun loop : ActiveLoop => loop.mgr.continuousTaskInfosMap) (activateTask env uid))
          loop) := by
  induction entries generalizing loop with
  | nil => exact ⟨fun _ _ => rfl, fun _ shown => shown, by simp, by simp [notices, Regroup.assign]⟩
  | cons entry rest ih =>
      obtain ⟨key, record⟩ := entry
      rw [List.map_cons, List.nodup_cons] at distinct
      obtain ⟨fresh, distinctRest⟩ := distinct
      have here := found _ List.mem_cons_self
      have visited : KeyedMap.visit (fun loop : ActiveLoop => loop.mgr.continuousTaskInfosMap)
          (activateTask env uid) loop key = activateTask env uid key record loop := by
        unfold KeyedMap.visit
        rw [show loop.mgr.continuousTaskInfosMap.lookup key = some record from here]
      have others : ∀ other, other ≠ key →
          (activateTask env uid key record loop).mgr.taskAt other = loop.mgr.taskAt other :=
        local_activateTask env uid key record loop here
      have foundLater : ∀ entry ∈ rest,
          (activateTask env uid key record loop).mgr.taskAt entry.1 = some entry.2 := by
        intro entry member
        have different : entry.1 ≠ key := by
          intro same
          have listed : entry.1 ∈ rest.map Sigma.fst := List.mem_map_of_mem member
          exact fresh (same ▸ listed)
        exact (others entry.1 different).trans (found entry (List.mem_cons_of_mem _ member))
      obtain ⟨regroupingLater, step⟩ := regroupStep_activateTask publishes regrouping
        (stored _ List.mem_cons_self) here
      have gives := ih distinctRest (activateTask env uid key record loop)
        (fun entry member => stored entry (List.mem_cons_of_mem _ member)) foundLater
        regroupingLater
      rw [List.map_cons, List.foldl_cons, visited]
      exact gives.cons regrouping fresh others step

end Loop

theorem mainPair_ne {first second : ContinuousTaskRecord}
    (apart : first.notificationId ≠ second.notificationId) : first.mainPair ≠ second.mainPair :=
  fun same => apart (congrArg Prod.snd same)

theorem mem_noticedTasks {uid : Int} {s : BgContinuousTaskMgr}
    {entry : Σ _ : String, ContinuousTaskRecord} :
    entry ∈ noticedTasks uid s ↔ s.taskAt entry.1 = some entry.2 ∧ Noticed uid entry.2 := by
  unfold noticedTasks taskAt
  rw [List.mem_filter, ← KeyedMap.mem_entries_iff]
  simp

/-- A reactivation keeps the grouping exactly when, in the order of the map, tasks with one
notification id stand together, and such tasks refer to one notification. -/
theorem reactivation_regroups_iff (env : Env) (uid : Int) (s : BgContinuousTaskMgr)
    (publishes : PublishesAll env uid s) :
    Regrouped uid s (s.handleActiveContinuousTask env uid) ↔
      Regroup.Together (fun entry => entry.2.notificationId) (noticedTasks uid s) ∧
        ∀ first ∈ noticedTasks uid s, ∀ second ∈ noticedTasks uid s,
          first.2.notificationId = second.2.notificationId →
            first.2.mainPair = second.2.mainPair := by
  have gives : GivesNotices uid s s.continuousTaskInfosMap.entries { mgr := s } _ :=
    givesNotices_foldl publishes s.continuousTaskInfosMap.entries
      s.continuousTaskInfosMap.nodupKeys { mgr := s }
      (fun entry member => KeyedMap.mem_entries_iff.mp member)
      (fun entry member => KeyedMap.mem_entries_iff.mp member)
      ⟨SameTexts.refl s, rfl, fun some => absurd rfl some⟩
  have groups := @Regroup.names_keep_groups_iff _ _ _ _ _
    (fun entry : Σ _ : String, ContinuousTaskRecord => entry.2.notificationId) (ownNotice s)
    ("default", -2) (noticedTasks uid s) Prod.snd (fun _ => rfl)
    (fun entry => entry.2.mainPair) (fun first second same => congrArg Prod.snd same)
  rw [← groups]
  constructor
  · intro regrouped first firstGiven second secondGiven
    obtain ⟨firstStored, firstNoticed⟩ := mem_noticedTasks.mp
      (Regroup.mem_of_mem_assign firstGiven)
    obtain ⟨secondStored, secondNoticed⟩ := mem_noticedTasks.mp
      (Regroup.mem_of_mem_assign secondGiven)
    obtain ⟨firstTask, firstFound, -, firstPair, -⟩ := gives.noticed first firstGiven
    obtain ⟨secondTask, secondFound, -, secondPair, -⟩ := gives.noticed second secondGiven
    obtain ⟨firstLeft, secondLeft, firstAt, secondAt, same⟩ := regrouped.grouping _ _ _ _
      firstStored firstNoticed.1 secondStored secondNoticed.1
    obtain rfl := Option.some.inj (firstAt.symm.trans firstFound)
    obtain rfl := Option.some.inj (secondAt.symm.trans secondFound)
    rw [← firstPair, ← secondPair]
    exact same
  · intro keeps
    have together := (Regroup.together_iff (-2)).mp (groups.mp keeps).1
    have ids := @Regroup.name_of_together _ _ _ _ _ (ownNotice s) ("default", -2) []
      (noticedTasks uid s) Prod.snd (fun _ => rfl) together
    -- what a suspended task refers to afterwards
    have settled : ∀ key record, s.taskAt key = some record → Pending uid record →
        ∃ task, (s.handleActiveContinuousTask env uid).taskAt key = some task ∧
          task.suspendState = false ∧
          ((record.notificationId = -1 ∧ task.mainPair = record.mainPair) ∨
            (Noticed uid record ∧ task.notificationId = record.notificationId ∧
              (s.handleActiveContinuousTask env uid).tools.Shown task.mainPair ∧
              (⟨key, record⟩, task.mainPair) ∈ notices uid s { mgr := s }
                s.continuousTaskInfosMap.entries)) := by
      intro key record stored pending
      by_cases absent : record.notificationId = -1
      · exact ⟨reactivated record, gives.bare ⟨key, record⟩ (KeyedMap.mem_entries_iff.mpr stored)
          pending absent, rfl, Or.inl ⟨absent, rfl⟩⟩
      · obtain ⟨⟨entry, pair⟩, given, rfl⟩ := @Regroup.exists_mem_assign _ _ _ _
          (fun entry : Σ _ : String, ContinuousTaskRecord => entry.2.notificationId) (ownNotice s)
          ("default", -2) [] (noticedTasks uid s) ⟨key, record⟩
          (mem_noticedTasks.mpr ⟨stored, pending, absent⟩)
        obtain ⟨task, found, active, rfl, shown⟩ := gives.noticed _ given
        exact ⟨task, found, active, Or.inr ⟨⟨pending, absent⟩, (ids _ given).1, shown, given⟩⟩
    refine ⟨?_, ?_⟩
    · intro first firstRecord second secondRecord firstStored firstPending secondStored
        secondPending
      obtain ⟨firstTask, firstFound, -, firstCase⟩ := settled _ _ firstStored firstPending
      obtain ⟨secondTask, secondFound, -, secondCase⟩ := settled _ _ secondStored secondPending
      refine ⟨firstTask, secondTask, firstFound, secondFound, ?_⟩
      rcases firstCase with ⟨firstAbsent, firstPair⟩ | ⟨firstNoticed, firstId, -, firstGiven⟩
      · rcases secondCase with ⟨secondAbsent, secondPair⟩ | ⟨secondNoticed, secondId, -, -⟩
        · rw [firstPair, secondPair]
        · have apart : firstRecord.notificationId ≠ secondRecord.notificationId :=
            fun same => secondNoticed.2 (same ▸ firstAbsent)
          rw [firstPair]
          exact iff_of_false (mainPair_ne (secondId ▸ apart)) (mainPair_ne apart)
      · rcases secondCase with ⟨secondAbsent, secondPair⟩ | ⟨secondNoticed, -, -, secondGiven⟩
        · have apart : firstRecord.notificationId ≠ secondRecord.notificationId :=
            fun same => firstNoticed.2 (same ▸ secondAbsent)
          rw [secondPair]
          exact iff_of_false (mainPair_ne (firstId ▸ apart)) (mainPair_ne apart)
        · exact keeps _ firstGiven _ secondGiven
    · intro key record stored pending
      obtain ⟨task, found, active, absent | ⟨-, -, shown, -⟩⟩ := settled key record stored pending
      · exact ⟨task, found, active,
          fun given => absurd ((congrArg Prod.snd absent.2).trans absent.1) given⟩
      · exact ⟨task, found, active, fun _ => shown⟩

def suspendedTasksRun (requests : List ContinuousTaskParam) (keys : List String) :
    List (Env × ServiceOp) :=
  [(deviceEnv, .initRequiredResourceInfo),
    (deviceEnv, .task (.addSubscriber
      { remote := 1, uid := 100, pid := 7, isHap := true, flag := continuousTaskSuspend }))] ++
    requests.map (fun request =>
      ((deviceStart 100 request).1, .task (deviceStart 100 request).2)) ++
    keys.map (fun key => (deviceEnv, .task (.suspendContinuousTask 100 4 key false)))

def sharingTasks : BgContinuousTaskMgr :=
  StepSystem.run serviceStep (installed (fun _ => 0))
    (suspendedTasksRun [combinedRequest (-1), combinedRequest 1]
      ["100_EntryAbility_1_1", "100_EntryAbility_1_2"])

def interleavedTasks : BgContinuousTaskMgr :=
  StepSystem.run serviceStep (installed (fun _ => 0))
    (suspendedTasksRun [combinedRequest (-1), requestOf [BackgroundMode.location] [2],
      combinedRequest 1]
      ["100_EntryAbility_1_1", "100_EntryAbility_1_2", "100_EntryAbility_1_3"])

theorem publishesAll_of_entries {uid : Int} {s : BgContinuousTaskMgr}
    (all : s.continuousTaskInfosMap.entries.all (fun entry =>
      sendKindByModes deviceEnv s (reactivated entry.2) == .publishes &&
        entry.2.notificationId != -2) = true) : PublishesAll deviceEnv uid s := by
  have each : ∀ key record, s.taskAt key = some record →
      sendKindByModes deviceEnv s (reactivated record) = .publishes ∧
        record.notificationId ≠ -2 := by
    intro key record stored
    have here := List.all_eq_true.mp all ⟨key, record⟩ (KeyedMap.mem_entries_iff.mpr stored)
    simpa using here
  exact ⟨fun _ _ => rfl, fun key record stored _ => (each key record stored).1,
    fun key record stored _ => (each key record stored).2⟩

theorem reactivation_regroups_sharing :
    Regrouped 100 sharingTasks (sharingTasks.handleActiveContinuousTask deviceEnv 100) :=
  (reactivation_regroups_iff deviceEnv 100 sharingTasks (publishesAll_of_entries (by decide))).mpr
    ⟨(Regroup.together_iff 0).mpr (by decide), by decide⟩

/-- The first task takes over the notification of the one in between. -/
theorem reactivation_joins_groups :
    PublishesAll deviceEnv 100 interleavedTasks ∧
      ¬ Regrouped 100 interleavedTasks
        (interleavedTasks.handleActiveContinuousTask deviceEnv 100) := by
  refine ⟨publishesAll_of_entries (by decide), ?_⟩
  intro regrouped
  have stored : ∀ key pair, (interleavedTasks.taskAt key).map (fun task =>
      (task.uid, task.suspendState, task.mainPair)) = some (100, true, pair) →
        ∃ record, interleavedTasks.taskAt key = some record ∧ Pending 100 record ∧
          record.mainPair = pair := by
    intro key pair fields
    obtain ⟨record, found, same⟩ := Option.map_eq_some_iff.mp fields
    simp only [Prod.mk.injEq] at same
    exact ⟨record, found, ⟨same.1, same.2.1⟩, same.2.2⟩
  obtain ⟨first, firstStored, firstPending, firstPair⟩ := stored "100_EntryAbility_1_1"
    ("bgmode_100_0_1_1", 0) (by decide)
  obtain ⟨second, secondStored, secondPending, secondPair⟩ := stored "100_EntryAbility_1_2"
    ("bgmode_100_0_1_2", 1) (by decide)
  obtain ⟨firstTask, secondTask, firstFound, secondFound, same⟩ := regrouped.grouping _ _ _ _
    firstStored firstPending secondStored secondPending
  have joined : ((interleavedTasks.handleActiveContinuousTask deviceEnv 100).taskAt
      "100_EntryAbility_1_1").map (fun task => task.mainPair) =
        ((interleavedTasks.handleActiveContinuousTask deviceEnv 100).taskAt
          "100_EntryAbility_1_2").map (fun task => task.mainPair) := by
    decide
  rw [firstFound, secondFound] at joined
  have before := same.mp (Option.some.inj joined)
  rw [firstPair, secondPair] at before
  exact absurd before (by decide)

end BgTaskMgr.Continuous
