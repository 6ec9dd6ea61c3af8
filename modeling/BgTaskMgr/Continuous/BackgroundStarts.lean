import BgTaskMgr.Continuous.ModeChanges

/-!
# Starts from the background

`appOnForeground_` and `applyTaskOnForeground_` decide whether an app in the background may
start a task by request object.  They follow the state of an app from one foreground or
background event to the next, but the stop of the app clears neither: what they hold then is
left over for its next life.
-/

set_option autoImplicit false

namespace BgTaskMgr.Continuous

open BgContinuousTaskMgr

/-! ## The state of the apps -/

/-- The latest event of an app; one without an event counts as in the background. -/
inductive AppState where
  | foreground
  | background
  | stopped
  deriving DecidableEq, Repr

def BgContinuousTaskMgr.liveModes (self : BgContinuousTaskMgr) (uid : Int) : List Nat :=
  ((KeyedMap.vals self.continuousTaskInfosMap).filter (fun record => record.uid == uid)).flatMap
    (fun record => record.bgModeIds)

/-- The manager with the latest event of each app and the modes its live tasks had at its
latest background event since its latest stop. -/
structure AppLives where
  mgr : BgContinuousTaskMgr
  latest : Int → AppState
  applied : Int → List Nat

namespace AppLives

/-- After the first start of the service; apps that are shown are in the foreground. -/
def start (hash : String → Nat) (env : Env) : AppLives where
  mgr := (installed hash).initRequiredResourceInfo env
  latest uid :=
    if uid ∈ ((installed hash).initRequiredResourceInfo env).appOnForeground then .foreground
    else .background
  applied _ := []

def step (self : AppLives) (label : Env × TaskOp) : AppLives where
  mgr := self.mgr.taskStep label
  latest :=
    match label.2 with
    | .onAppStateChanged uid true => Function.update self.latest uid .foreground
    | .onAppStateChanged uid false => Function.update self.latest uid .background
    | .onAppStopped uid => Function.update self.latest uid .stopped
    | _ => self.latest
  applied :=
    match label.2 with
    | .onAppStateChanged uid false => Function.update self.applied uid (self.mgr.liveModes uid)
    | .onAppStopped uid => Function.update self.applied uid []
    | _ => self.applied

def startOf : TaskOp → Option (Int × ContinuousTaskParam)
  | .client callingUid (.startBackgroundRunning taskParam) => some (callingUid, taskParam)
  | _ => none

/-- A start by request object of an app that is not in the foreground succeeds only with
playback and the modes the app had when it went to the background. -/
def Gated (self : AppLives) (label : Env × TaskOp) : Prop :=
  ∀ start ∈ startOf label.2, start.2.isByRequestObject = true →
    self.latest start.1 ≠ .foreground →
    start.1 ∉ label.1.foregroundApplications.getD [] →
    (self.mgr.startBackgroundRunning label.1 start.1 start.2).1 = .ok →
      ∀ mode ∈ startedModes start.2,
        mode = BackgroundMode.audioPlayback ∨ mode ∈ self.applied start.1

/-- An app that starts a task after its stop, before its next foreground or background event,
finds nothing of its last life in the caches, besides playback. -/
def NothingLeft (self : AppLives) (label : Env × TaskOp) : Prop :=
  ∀ start ∈ startOf label.2, self.latest start.1 = .stopped →
    start.1 ∉ self.mgr.appOnForeground ∧
      ∀ mode ∈ (self.mgr.applyTaskOnForeground.lookup start.1).getD [],
        mode = BackgroundMode.audioPlayback

instance Gated.decidable (self : AppLives) (label : Env × TaskOp) : Decidable (self.Gated label) :=
  inferInstanceAs (Decidable (∀ start ∈ startOf label.2, _))

instance NothingLeft.decidable (self : AppLives) (label : Env × TaskOp) :
    Decidable (self.NothingLeft label) :=
  inferInstanceAs (Decidable (∀ start ∈ startOf label.2, _))

/-! ## The caches -/

/-- The caches hold what the events say, except of an app that was stopped. -/
structure Follows (lives : AppLives) : Prop where
  ready : lives.mgr.isSysReady = true
  foreground : ∀ uid, lives.latest uid = .background → uid ∉ lives.mgr.appOnForeground
  applied : ∀ uid, lives.latest uid = .background →
    ∀ mode ∈ (lives.mgr.applyTaskOnForeground.lookup uid).getD [], mode ∈ lives.applied uid

end AppLives

section Caches

variable {s : BgContinuousTaskMgr}

theorem mem_addModes {applied modes : List Nat} {mode : Nat} :
    mode ∈ addModes applied modes ↔ mode ∈ applied ∨ mode ∈ modes := by
  unfold addModes
  induction modes generalizing applied with
  | nil => simp
  | cons first rest ih =>
      rw [List.foldl_cons, ih]
      split
      · rename_i known
        constructor
        · rintro (before | later)
          · exact Or.inl before
          · exact Or.inr (List.mem_cons_of_mem first later)
        · rintro (before | here)
          · exact Or.inl before
          · rcases List.mem_cons.mp here with rfl | later
            · exact Or.inl known
            · exact Or.inr later
      · rw [List.mem_append, List.mem_singleton, List.mem_cons, or_assoc]

/-- The modes collected at a background event are those of the live tasks. -/
theorem mem_foldl_addModes {records : List ContinuousTaskRecord} {applied : List Nat} {mode : Nat} :
    mode ∈ records.foldl (fun applied task => addModes applied task.bgModeIds) applied ↔
      mode ∈ applied ∨ mode ∈ records.flatMap (fun record => record.bgModeIds) := by
  induction records generalizing applied with
  | nil => simp
  | cons first rest ih =>
      rw [List.foldl_cons, ih, mem_addModes, List.flatMap_cons, List.mem_append, or_assoc]

/-- Every step besides the events of the app state leaves the caches alone. -/
theorem taskStep_caches {label : Env × TaskOp}
    (other : ∀ uid foreground, label.2 ≠ .onAppStateChanged uid foreground) :
    (s.taskStep label).appOnForeground = s.appOnForeground ∧
      (s.taskStep label).applyTaskOnForeground = s.applyTaskOnForeground ∧
      (s.taskStep label).isSysReady = s.isSysReady := by
  have effect := taskStep_modes (s := s) label
  generalize s.taskStep label = after at effect ⊢
  have of_keeps : ∀ early : BgContinuousTaskMgr, early.appOnForeground = s.appOnForeground →
      early.applyTaskOnForeground = s.applyTaskOnForeground → early.isSysReady = s.isSysReady →
      ∀ later, KeepsModes early later → later.appOnForeground = s.appOnForeground ∧
        later.applyTaskOnForeground = s.applyTaskOnForeground ∧
        later.isSysReady = s.isSysReady := by
    intro early front applied ready later keeps
    exact ⟨keeps.appOnForeground.trans front, keeps.applyTaskOnForeground.trans applied,
      keeps.isSysReady.trans ready⟩
  cases effect with
  | kept keeps => exact of_keeps s rfl rfl rfl _ keeps
  | started record named asked start =>
      cases start with
      | refused keeps => exact of_keeps s.nextTaskId rfl rfl rfl _ keeps
      | @added middle _ key stored keeps same modes saved =>
          obtain ⟨front, applied, ready⟩ := of_keeps s.nextTaskId rfl rfl rfl _ keeps
          exact of_keeps (middle.addTask key stored) front applied ready _ saved
  | updated env callingUid taskParam update =>
      cases update with
      | kept keeps => exact of_keeps s rfl rfl rfl _ keeps
      | @replaced key record edited chosen same modes keeps =>
          exact of_keeps (s.setRecord key edited) rfl rfl rfl _ keeps
  | appState env uid foreground => exact absurd rfl (other uid foreground)

theorem onAppStateChanged_foreground (ready : s.isSysReady = true) (uid : Int) :
    s.onAppStateChanged uid true = { s with appOnForeground := s.appOnForeground.insert uid } := by
  unfold onAppStateChanged
  rw [ready]
  rfl

/-- After a background event of the app the caches hold the modes of its live tasks. -/
theorem onAppStateChanged_background (ready : s.isSysReady = true) (uid : Int) :
    (s.onAppStateChanged uid false).isSysReady = true ∧
      (s.onAppStateChanged uid false).appOnForeground =
        s.appOnForeground.filter (fun other => other ≠ uid) ∧
      (∀ mode ∈ ((s.onAppStateChanged uid false).applyTaskOnForeground.lookup uid).getD [],
        mode ∈ s.liveModes uid) ∧
      ∀ other, other ≠ uid →
        (s.onAppStateChanged uid false).applyTaskOnForeground.lookup other =
          s.applyTaskOnForeground.lookup other := by
  unfold onAppStateChanged
  rw [ready]
  dsimp only
  rw [if_neg (by simp), if_neg (by simp)]
  split
  · refine ⟨rfl, rfl, ?_, ?_⟩
    · dsimp only
      rw [KeyedMap.lookup_erase, if_pos rfl]
      simp
    · intro other different
      dsimp only
      rw [KeyedMap.lookup_erase, if_neg different]
  · refine ⟨rfl, rfl, ?_, ?_⟩
    · dsimp only
      rw [KeyedMap.lookup_insert, if_pos rfl]
      intro mode member
      exact (mem_foldl_addModes.mp member).resolve_left (by simp)
    · intro other different
      dsimp only
      rw [KeyedMap.lookup_insert, if_neg different, KeyedMap.lookup_erase, if_neg different]

end Caches

/-! ## What a start needs -/

section Gate

variable {s : BgContinuousTaskMgr}

theorem startRecord_fields {env : Env} {callingUid : Int} {taskParam : ContinuousTaskParam}
    {record : ContinuousTaskRecord} (built : startRecord env callingUid taskParam = some record) :
    record.uid = callingUid ∧ record.isByRequestObject = taskParam.isByRequestObject ∧
      record.isFromWebview = false := by
  unfold startRecord checkSubMode at built
  dsimp only at built
  split at built
  · obtain rfl := Option.some.inj built
    exact ⟨rfl, rfl, rfl⟩
  · split at built
    · obtain rfl := Option.some.inj built
      exact ⟨rfl, rfl, rfl⟩
    · split at built
      · obtain rfl := Option.some.inj built
        exact ⟨rfl, rfl, rfl⟩
      · exact absurd built (by simp)

/-- A start by request object that succeeds was let through by the caches, by playback, or by
the query for the apps in the foreground. -/
theorem mayApply_of_start {env : Env} {callingUid : Int} {taskParam : ContinuousTaskParam}
    (object : taskParam.isByRequestObject = true)
    (success : (s.startBackgroundRunning env callingUid taskParam).1 = .ok) :
    callingUid ∈ s.appOnForeground ∨
      (∀ mode ∈ startedModes taskParam, mode = BackgroundMode.audioPlayback ∨
        mode ∈ (s.applyTaskOnForeground.lookup callingUid).getD []) ∨
      callingUid ∈ env.foregroundApplications.getD [] := by
  unfold startBackgroundRunning at success
  split at success
  · exact absurd success (by simp)
  split at success
  · exact absurd success (by simp)
  split at success
  · exact absurd success (by simp)
  split at success
  · exact absurd success (by simp)
  rename_i record built
  obtain ⟨uid, byObject, client⟩ := startRecord_fields built
  have modes := bgModeIds_startRecord built
  subst uid
  unfold startBackgroundRunningInner at success
  split at success
  · exact absurd success (by simp)
  split at success
  · rename_i refused
    exact absurd success refused
  rename_i allowed
  have applies : s.mayApply env record = true := by
    by_contra denied
    refine allowed ?_
    unfold allowApplyContinuousTask
    rw [byObject, object]
    simp only [denied]
    split
    · simp
    · rw [if_neg (by simp)]
      split
      · assumption
      · simp
  unfold mayApply at applies
  simp only [client, Bool.false_or, Bool.or_eq_true, decide_eq_true_eq, modes,
    List.contains_iff_mem] at applies
  rcases applies with (front | applied) | shown
  · exact Or.inl front
  · refine Or.inr (Or.inl ?_)
    intro mode member
    unfold checkApplyMode at applied
    have listed := of_decide_eq_true (List.all_eq_true.mp applied mode member)
    rcases List.mem_append.mp listed with before | playback
    · exact Or.inr before
    · exact Or.inl (List.mem_singleton.mp playback)
  · exact Or.inr (Or.inr shown)

end Gate

/-! ## Runs -/

namespace AppLives

theorem Follows.gated {self : AppLives} (held : self.Follows) {label : Env × TaskOp}
    (nothing : self.NothingLeft label) : self.Gated label := by
  rintro ⟨callingUid, taskParam⟩ starts object away hidden success mode member
  have fresh := nothing ⟨callingUid, taskParam⟩ starts
  dsimp only at object away hidden success member fresh ⊢
  -- an app that is not in the foreground went to the background or was stopped
  have known : callingUid ∉ self.mgr.appOnForeground ∧
      ∀ mode ∈ (self.mgr.applyTaskOnForeground.lookup callingUid).getD [],
        mode = BackgroundMode.audioPlayback ∨ mode ∈ self.applied callingUid := by
    cases latest : self.latest callingUid with
    | foreground => exact absurd latest away
    | background =>
        exact ⟨held.foreground callingUid latest,
          fun mode cached => Or.inr (held.applied callingUid latest mode cached)⟩
    | stopped =>
        obtain ⟨absent, playback⟩ := fresh latest
        exact ⟨absent, fun mode cached => Or.inl (playback mode cached)⟩
  rcases mayApply_of_start object success with front | applied | shown
  · exact absurd front known.1
  · rcases applied mode member with playback | cached
    · exact Or.inl playback
    · exact known.2 mode cached
  · exact absurd shown hidden

theorem applyTaskOnForeground_first_start (hash : String → Nat) (env : Env) :
    ((installed hash).initRequiredResourceInfo env).applyTaskOnForeground = ∅ := by
  unfold initRequiredResourceInfo handlePersistenceData refreshAuthRecord restoreAuthRecord
    restoreApplyRecord saveTasks refreshTaskRecord restoreTaskRecord
  cases running : env.allRunningProcesses with
  | none =>
      cases readable : env.fileReadable with
      | false => rfl
      | true => rfl
  | some allProcesses =>
      cases readable : env.fileReadable <;> cases saves : env.saveOk <;>
        cases front : env.foregroundApplications <;> rfl

theorem follows_start (hash : String → Nat) (env : Env) : (start hash env).Follows := by
  refine ⟨rfl, ?_, ?_⟩
  · intro uid latest
    unfold start at latest ⊢
    dsimp only at latest ⊢
    intro listed
    rw [if_pos listed] at latest
    exact absurd latest (by simp)
  · intro uid _ mode member
    have empty : (start hash env).mgr.applyTaskOnForeground = ∅ :=
      applyTaskOnForeground_first_start hash env
    rw [empty] at member
    exact absurd member (by simp [AList.lookup_empty])

theorem follows_step {self : AppLives} (held : self.Follows) (label : Env × TaskOp) :
    (self.step label).Follows := by
  obtain ⟨env, op⟩ := label
  by_cases changes : ∃ uid foreground, op = .onAppStateChanged uid foreground
  · obtain ⟨uid, foreground, rfl⟩ := changes
    cases foreground with
    | true =>
        have after : (self.step (env, .onAppStateChanged uid true)).mgr =
            { self.mgr with appOnForeground := self.mgr.appOnForeground.insert uid } :=
          onAppStateChanged_foreground held.ready uid
        have state : (self.step (env, .onAppStateChanged uid true)).latest =
            Function.update self.latest uid .foreground := rfl
        refine ⟨?_, ?_, ?_⟩
        · rw [after]
          exact held.ready
        · intro other latest
          rw [state] at latest
          have different : other ≠ uid := by
            rintro rfl
            rw [Function.update_self] at latest
            exact absurd latest (by simp)
          rw [Function.update_of_ne different] at latest
          rw [after]
          intro listed
          exact held.foreground other latest ((List.mem_insert_iff.mp listed).resolve_left different)
        · intro other latest
          rw [state] at latest
          have different : other ≠ uid := by
            rintro rfl
            rw [Function.update_self] at latest
            exact absurd latest (by simp)
          rw [Function.update_of_ne different] at latest
          rw [after]
          exact held.applied other latest
    | false =>
        have state : (self.step (env, .onAppStateChanged uid false)).latest =
            Function.update self.latest uid .background := rfl
        have modes : (self.step (env, .onAppStateChanged uid false)).applied =
            Function.update self.applied uid (self.mgr.liveModes uid) := rfl
        obtain ⟨ready, front, own, rest⟩ := onAppStateChanged_background held.ready uid
        refine ⟨ready, ?_, ?_⟩
        · intro other latest listed
          have left : other ∈ self.mgr.appOnForeground.filter (fun other => other ≠ uid) :=
            front ▸ listed
          obtain ⟨before, different⟩ := List.mem_filter.mp left
          rw [state, Function.update_of_ne (by simpa using different)] at latest
          exact held.foreground other latest before
        · intro other latest mode member
          by_cases same : other = uid
          · subst same
            rw [modes, Function.update_self]
            exact own mode member
          · rw [state, Function.update_of_ne same] at latest
            rw [modes, Function.update_of_ne same]
            refine held.applied other latest mode ?_
            rw [← rest other same]
            exact member
  · simp only [not_exists] at changes
    obtain ⟨front, applied, ready⟩ := @taskStep_caches self.mgr (env, op) changes
    -- a stop only takes an app out of the background
    have back : ∀ uid, (self.step (env, op)).latest uid = .background →
        self.latest uid = .background ∧ (self.step (env, op)).applied uid = self.applied uid := by
      intro uid latest
      cases op with
      | onAppStateChanged other foreground => exact absurd rfl (changes other foreground)
      | onAppStopped other =>
          have state : (self.step (env, .onAppStopped other)).latest =
              Function.update self.latest other .stopped := rfl
          have modes : (self.step (env, .onAppStopped other)).applied =
              Function.update self.applied other [] := rfl
          by_cases same : uid = other
          · subst same
            rw [state, Function.update_self] at latest
            exact absurd latest (by simp)
          · rw [state, Function.update_of_ne same] at latest
            rw [modes, Function.update_of_ne same]
            exact ⟨latest, rfl⟩
      | _ => exact ⟨latest, rfl⟩
    refine ⟨ready.trans held.ready, ?_, ?_⟩
    · intro uid latest listed
      exact held.foreground uid (back uid latest).1 (front ▸ listed)
    · intro uid latest mode member
      obtain ⟨before, same⟩ := back uid latest
      have cached : (self.step (env, op)).mgr.applyTaskOnForeground =
          self.mgr.applyTaskOnForeground := applied
      rw [cached] at member
      rw [same]
      exact held.applied uid before mode member

/-- In every run in which an app that starts a task after its stop finds nothing left in the
caches, no start from the background gains new modes. -/
theorem background_starts_gated (hash : String → Nat) (env : Env) (labels : List (Env × TaskOp))
    (nothing : StepSystem.Admissible step NothingLeft (start hash env) labels) :
    StepSystem.Admissible step Gated (start hash env) labels := by
  have both : ∀ (labels : List (Env × TaskOp)) (self : AppLives), self.Follows →
      StepSystem.Admissible step NothingLeft self labels →
      StepSystem.Admissible step Gated self labels := by
    intro labels
    induction labels with
    | nil => exact fun _ _ _ => trivial
    | cons label rest ih =>
        intro self held nothing
        exact ⟨held.gated nothing.1, ih (self.step label) (follows_step held label) nothing.2⟩
  exact both labels (start hash env) (follows_start hash env) nothing

def locationStart : Env × TaskOp :=
  (deviceEnv, .client 100 (.startBackgroundRunning (requestOf [BackgroundMode.location] [2])))

/-- An app that has a task when it goes to the background may start another one there. -/
theorem background_starts_gated_second_task :
    StepSystem.Admissible step NothingLeft (start (fun _ => 0) deviceEnv)
        [(deviceEnv, .onAppStateChanged 100 true), locationStart,
          (deviceEnv, .onAppStateChanged 100 false), locationStart] ∧
      StepSystem.Admissible step Gated (start (fun _ => 0) deviceEnv)
        [(deviceEnv, .onAppStateChanged 100 true), locationStart,
          (deviceEnv, .onAppStateChanged 100 false), locationStart] :=
  ⟨by decide, background_starts_gated (fun _ => 0) deviceEnv
    [(deviceEnv, .onAppStateChanged 100 true), locationStart,
      (deviceEnv, .onAppStateChanged 100 false), locationStart] (by decide)⟩

/-- An app that stops in the foreground stays in `appOnForeground_`, and its next life starts
a task for its location from the background. -/
theorem start_after_stop_in_foreground :
    ¬ StepSystem.Admissible step Gated (start (fun _ => 0) deviceEnv)
      [(deviceEnv, .onAppStateChanged 100 true), (deviceEnv, .onAppStopped 100),
        locationStart] := by
  decide

end AppLives

end BgTaskMgr.Continuous
