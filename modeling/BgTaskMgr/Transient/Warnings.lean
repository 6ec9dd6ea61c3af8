import BgTaskMgr.Transient.Timers

/-!
# Warnings and watchdogs of a request

A request whose timer fires is warned and gets a watchdog.  As long as no package with such a
request is stopped, this happens once for each request, and its watchdog finds it accounted.
-/

set_option autoImplicit false

namespace BgTaskMgr.Transient

open DecisionMaker

namespace Ledger

/-- Warnings and watchdogs so far, for each id since it was last handed out: none before the
timer fires, one afterwards. -/
structure Warned (warned armed : Int → Nat) (l : Ledger) : Prop where
  once : ∀ id, warned id ≤ 1 ∧ armed id ≤ 1
  quiet : ∀ id ∈ l.keyInfoMap, ¬ l.Running id ∨ id ∈ l.timers → warned id = 0 ∧ armed id = 0
  watched : ∀ id ∈ l.watchdog, l.Running id ∧ id ∉ l.timers

/-- The packages that may be stopped have no accounted request without its timer. -/
def Spares (stops : String × Int → Prop) (l : Ledger) : Prop :=
  ∀ key, stops key → ∀ info ∈ l.requests key, info.Accounted → info.requestId ∈ l.timers

section

variable {l : Ledger} {now : Int} {fired : Int → Prop} {warned armed : Int → Nat}
  {stops : String × Int → Prop}

theorem not_running_of_started (sound : l.Sound) {key : String × Int} {requestId id : Int}
    (started : id ∈ startedTimers requestId (l.requests key)) : ¬ l.Running id := by
  obtain ⟨idle, stored, -, unaccounted, ofId⟩ := mem_startedTimers.mp started
  rintro ⟨a, info, member, sameId, accounted⟩
  have same := (sound.same stored member (ofId.trans sameId.symm)).2
  exact unaccounted (same ▸ accounted)

theorem mem_keyInfoMap_of_running (sound : l.Sound) {id : Int} (running : l.Running id) :
    id ∈ l.keyInfoMap := by
  obtain ⟨key, info, stored, ofId, -⟩ := running
  obtain ⟨keyInfo, held, -⟩ := sound.held key id (mem_ids.mpr ⟨info, stored, ofId⟩)
  exact KeyedMap.mem_iff_lookup.mpr ⟨keyInfo, held⟩

/-! ## Sparing along a step -/

theorem spares_start (spares : l.Spares stops) (key : String × Int) (requestId : Int) :
    (l.start now key requestId).Spares stops := by
  intro a may info member accounted
  refine List.mem_append.mpr ?_
  rcases of_mem_start member with ⟨stored, -⟩ | ⟨here, before, stored, idle, selected, sameId⟩
  · exact Or.inl (spares a may info stored accounted)
  · exact Or.inr (mem_startedTimers.mpr ⟨before, here ▸ stored, selected, idle, sameId⟩)

theorem spares_stop (sound : l.Sound) (spares : l.Spares stops) (key : String × Int) :
    (l.stop now key).Spares stops := by
  intro a may info member accounted
  rw [requests_stop] at member
  split at member
  · obtain ⟨before, -, rfl⟩ := List.mem_map.mp member
    exact absurd accounted (before.stopAccounting_not_accounted now)
  · rename_i elsewhere
    refine List.mem_filter.mpr ⟨spares a may info member accounted, ?_⟩
    rw [Bool.not_eq_true', ← Bool.not_eq_true, accountedIn_iff]
    rintro ⟨other, stored, sameId, -⟩
    exact elsewhere (sound.same member stored sameId.symm).1

theorem spares_remove (timed : Timed fired l) (spares : l.Spares stops) {requestId : Int}
    {keyInfo : KeyInfo} (held : l.keyInfoMap.lookup requestId = some keyInfo) :
    (l.remove now requestId keyInfo).Spares stops := by
  intro a may info member accounted
  obtain ⟨stored, other⟩ := (mem_remove timed.sound held a info).mp member
  exact (mem_timers_remove timed held info.requestId).mpr
    ⟨spares a may info stored accounted, other⟩

theorem spares_move {next : Ledger} (timed : Timed fired l) (spares : l.Spares stops)
    (move : Move now stops l next) : next.Spares stops := by
  cases move with
  | start key => exact spares_start spares key (-1)
  | stop key _ => exact spares_stop timed.sound spares key
  | remove held => exact spares_remove timed spares held
  | drop _ => exact spares
  | bark _ => exact spares

/-! ## Warnings along a step -/

theorem warned_start (sound : l.Sound) (counts : Warned warned armed l) (clock : now ≠ 0)
    (key : String × Int) (requestId : Int) :
    Warned warned armed (l.start now key requestId) where
  once := counts.once
  quiet id held still := by
    rw [running_start clock] at still
    refine counts.quiet id held ?_
    rcases still with idle | isPending
    · exact Or.inl (fun running => idle (Or.inl running))
    · rcases List.mem_append.mp isPending with old | new
      · exact Or.inr old
      · exact Or.inl (not_running_of_started sound new)
  watched id member := by
    obtain ⟨running, expired⟩ := counts.watched id member
    refine ⟨(running_start clock key requestId id).mpr (Or.inl running), ?_⟩
    intro isPending
    rcases List.mem_append.mp isPending with old | new
    · exact expired old
    · exact not_running_of_started sound new running

theorem warned_stop (sound : l.Sound) (counts : Warned warned armed l)
    (spares : l.Spares stops) {key : String × Int} (may : stops key) :
    Warned warned armed (l.stop now key) := by
  have accounted : ∀ id, accountedIn (l.requests key) id = true → id ∈ l.timers := by
    intro id isAccounted
    obtain ⟨info, stored, ofId, running⟩ := accountedIn_iff.mp isAccounted
    exact ofId ▸ spares key may info stored running
  refine ⟨counts.once, fun id held still => ?_, fun id member => ?_⟩
  · refine counts.quiet id held ?_
    rcases still with idle | isPending
    · rw [running_stop sound, not_and_or, Bool.not_eq_false] at idle
      exact idle.imp_right (accounted id)
    · exact Or.inr (List.mem_of_mem_filter isPending)
  · obtain ⟨running, expired⟩ := counts.watched id member
    refine ⟨(running_stop sound key id).mpr ⟨running, ?_⟩, ?_⟩
    · rw [← Bool.not_eq_true]
      exact fun isAccounted => expired (accounted id isAccounted)
    · exact fun isPending => expired (List.mem_of_mem_filter isPending)

theorem warned_remove (timed : Timed fired l) (counts : Warned warned armed l) {requestId : Int}
    {keyInfo : KeyInfo} (held : l.keyInfoMap.lookup requestId = some keyInfo) :
    Warned warned armed (l.remove now requestId keyInfo) where
  once := counts.once
  quiet id isHeld still := by
    obtain ⟨other, before⟩ := AList.mem_erase.mp isHeld
    refine counts.quiet id before ?_
    rcases still with idle | isPending
    · rw [running_remove timed.sound held] at idle
      exact Or.inl (fun running => idle ⟨running, other⟩)
    · exact Or.inr ((mem_timers_remove timed held id).mp isPending).1
  watched id member := by
    obtain ⟨isWatched, different⟩ := List.mem_filter.mp member
    obtain ⟨running, expired⟩ := counts.watched id isWatched
    refine ⟨(running_remove timed.sound held id).mpr ⟨running, by simpa using different⟩, ?_⟩
    exact fun isPending => expired ((mem_timers_remove timed held id).mp isPending).1

theorem warned_move {next : Ledger} (clock : now ≠ 0) (timed : Timed fired l)
    (spares : l.Spares stops) (counts : Warned warned armed l) (move : Move now stops l next) :
    Warned warned armed next := by
  cases move with
  | start key => exact warned_start timed.sound counts clock key (-1)
  | stop key may => exact warned_stop timed.sound counts spares may
  | remove held => exact warned_remove timed counts held
  | drop _ =>
      exact ⟨counts.once, counts.quiet,
        fun id member => counts.watched id (List.mem_of_mem_filter member)⟩
  | bark _ =>
      exact ⟨counts.once, counts.quiet,
        fun id member => counts.watched id (List.mem_of_mem_erase member)⟩

theorem warned_reset (counts : Warned warned armed l) (anew : Int → Bool) :
    Warned (fun id => if anew id then 0 else warned id) (fun id => if anew id then 0 else armed id)
      l where
  once id := by
    split
    · exact ⟨Nat.zero_le 1, Nat.zero_le 1⟩
    · exact counts.once id
  quiet id held still := by
    split
    · exact ⟨rfl, rfl⟩
    · exact counts.quiet id held still
  watched := counts.watched

theorem warned_grant (counts : Warned warned armed l) (keyInfo : KeyInfo) (remote : Remote)
    {info : DelaySuspendInfoEx} (idle : ¬ info.Accounted)
    (anew : warned info.requestId = 0 ∧ armed info.requestId = 0) :
    Warned warned armed (l.grant keyInfo remote info) where
  once := counts.once
  quiet id held still := by
    rcases (AList.mem_insert _).mp held with same | before
    · exact same ▸ anew
    · rw [running_grant idle] at still
      exact counts.quiet id before still
  watched id member := by
    obtain ⟨running, expired⟩ := counts.watched id member
    exact ⟨(running_grant idle id).mpr running, expired⟩

end

def rise (before after : List Int) (id : Int) : Nat := after.count id - before.count id

theorem rise_of_sublist {before after : List Int} (sublist : after.Sublist before) (id : Int) :
    rise before after id = 0 :=
  Nat.sub_eq_zero_of_le (sublist.count_le id)

theorem rise_append (before : List Int) (requestId id : Int) :
    rise before (before ++ [requestId]) id = if id = requestId then 1 else 0 := by
  unfold rise
  rw [List.count_append, Nat.add_sub_cancel_left]
  split
  · rename_i same
    rw [same, List.count_singleton_self]
  · rename_i different
    exact List.count_eq_zero_of_not_mem (by simpa using different)

section

variable {l : Ledger} {now : Int} {fired : Int → Prop} {warned armed : Int → Nat}
  {stops : String × Int → Prop}

theorem rise_fire (l : Ledger) (requestId id : Int) :
    (rise l.expiredNotices (l.fire requestId).expiredNotices id ≤ if id = requestId then 1 else 0) ∧
      rise l.watchdog (l.fire requestId).watchdog id ≤ if id = requestId then 1 else 0 := by
  unfold fire
  dsimp only
  refine ⟨?_, ?_⟩
  · split
    · rw [rise_append]
    · rw [rise_of_sublist (List.Sublist.refl _)]
      exact Nat.zero_le _
  · split
    · rw [rise_append]
    · rw [rise_of_sublist (List.Sublist.refl _)]
      exact Nat.zero_le _

/-- A pending timer is that of a request nothing was counted for. -/
theorem warned_fire (timed : Timed fired l) (counts : Warned warned armed l) {requestId : Int}
    (isPending : requestId ∈ l.timers) :
    Warned (fun id => warned id + rise l.expiredNotices (l.fire requestId).expiredNotices id)
      (fun id => armed id + rise l.watchdog (l.fire requestId).watchdog id)
      (l.fire requestId) := by
  have running := timed.pending requestId isPending
  have silent := counts.quiet requestId (mem_keyInfoMap_of_running timed.sound running)
    (Or.inr isPending)
  have gone : requestId ∉ (l.fire requestId).timers := timed.once.not_mem_erase
  refine ⟨fun id => ?_, fun id held still => ?_, fun id member => ?_⟩
  · have rises := rise_fire l requestId id
    by_cases same : id = requestId
    · subst same
      rw [if_pos rfl] at rises
      omega
    · rw [if_neg same] at rises
      have before := counts.once id
      omega
  · have rises := rise_fire l requestId id
    have different : id ≠ requestId := by
      rintro rfl
      rcases still with idle | later
      · exact idle running
      · exact gone later
    rw [if_neg different] at rises
    have before := counts.quiet id held (still.imp_right List.mem_of_mem_erase)
    omega
  · have watched : id ∈ l.watchdog ∨ id = requestId := by
      unfold fire at member
      dsimp only at member
      split at member
      · exact (List.mem_append.mp member).imp_right List.mem_singleton.mp
      · exact Or.inl member
    rcases watched with old | same
    · obtain ⟨stillRunning, expired⟩ := counts.watched id old
      exact ⟨stillRunning, fun later => expired (List.mem_of_mem_erase later)⟩
    · subst same
      exact ⟨running, gone⟩

theorem rise_move {next : Ledger} (move : Move now stops l next) :
    next.expiredNotices = l.expiredNotices ∧ next.watchdog.Sublist l.watchdog := by
  cases move with
  | start key => exact ⟨rfl, List.Sublist.refl _⟩
  | stop key _ => exact ⟨rfl, List.Sublist.refl _⟩
  | remove _ => exact ⟨rfl, List.filter_sublist⟩
  | drop _ => exact ⟨rfl, List.filter_sublist⟩
  | bark _ => exact ⟨rfl, List.erase_sublist⟩

theorem rise_moves {next : Ledger} (chain : Moves now stops l next) :
    next.expiredNotices = l.expiredNotices ∧ next.watchdog.Sublist l.watchdog := by
  induction chain with
  | refl => exact ⟨rfl, List.Sublist.refl _⟩
  | tail _ move ih =>
      have last := rise_move move
      exact ⟨last.1.trans ih.1, last.2.trans ih.2⟩

end

end Ledger

/-! ## Warnings of a run -/

namespace BgTransientTaskMgr

/-- The manager with the `OnExpired` calls and the watchdogs of each id since it was last
handed out. -/
structure Tallied where
  mgr : BgTransientTaskMgr := {}
  warned : Int → Nat := fun _ => 0
  armed : Int → Nat := fun _ => 0

def handsOut (params : Params) (s : BgTransientTaskMgr) (label : Env × Op) (id : Int) : Bool :=
  granted params s label && s.decisionMaker.newDelaySuspendRequestId.1 = id

def Tallied.step (params : Params) (self : Tallied) (label : Env × Op) : Tallied :=
  let next := self.mgr.step params label
  { mgr := next
    warned id := (if handsOut params self.mgr label id then 0 else self.warned id) +
      Ledger.rise self.mgr.expiredNotices next.expiredNotices id
    armed id := (if handsOut params self.mgr label id then 0 else self.armed id) +
      Ledger.rise self.mgr.watchdog next.watchdog id }

instance (env : Env) (s : BgTransientTaskMgr) (op : Op) : DecidablePred (stopsOf env s op) :=
  fun key => match op with
  | .pause uid => inferInstanceAs (Decidable (s.isReady = true ∧ checkProcessName env = true ∧
      0 ≤ uid ∧ key.2 = uid ∧ env.bundleNameForUid uid = some key.1 ∧
        s.decisionMaker.isUidForeground uid = false))
  | .processStateChanged processData => inferInstanceAs (Decidable
      ((processData.state = .foreground ∨ processData.state = .focus) ∧
        key = (processData.bundleName, processData.uid)))
  | .inputEvent .screenOn _ =>
      inferInstanceAs (Decidable (key ∈ env.foregroundApplications.getD []))
  | .inputEvent .appRunFront _ | .inputEvent .screenOff _ | .inputEvent .screenUnlock _
  | .inputEvent .batteryLow _ | .inputEvent .batteryOkay _ | .initNecessaryState _
  | .requestSuspendDelay _ _ _ | .cancelSuspendDelay _ _ _ | .watchdogEvent _ | .timerEvent _
  | .expiredCallbackDeath _ | .appCacheStateChanged _ _ _ | .appCacheLocked _
  | .getAllTransientTasks _ _ | .dumpAllRequestId | .start _ | .suspendManagerDie | .processDied _
  | .setDump _ => inferInstanceAs (Decidable False)

/-- The step stops no package that has an accounted request whose timer has fired. -/
def SparesExpired (s : BgTransientTaskMgr) (label : Env × Op) : Prop :=
  ∀ key ∈ s.decisionMaker.pkgDelaySuspendInfoMap.keys, stopsOf label.1 s label.2 key →
    ∀ info ∈ s.decisionMaker.requestsAt key, info.Accounted →
      info.requestId ∈ s.decisionMaker.timerIds

instance (s : BgTransientTaskMgr) (label : Env × Op) : Decidable (s.SparesExpired label) :=
  inferInstanceAs (Decidable (∀ key ∈ s.decisionMaker.pkgDelaySuspendInfoMap.keys, _ → _))

section

variable {s : BgTransientTaskMgr} {fired : Int → Prop} {warned armed : Int → Nat}

theorem spares_of_sparesExpired {env : Env} {op : Op} (spares : s.SparesExpired (env, op)) :
    s.ledger.Spares (stopsOf env s op) := by
  intro key may info stored accounted
  have isStored : info ∈ s.decisionMaker.requestsAt key := stored
  cases found : s.decisionMaker.pkgDelaySuspendInfoMap.lookup key with
  | none =>
      rw [s.decisionMaker.requestsAt_of_none found] at isStored
      exact absurd isStored List.not_mem_nil
  | some pkgInfo =>
      have isKey : key ∈ s.decisionMaker.pkgDelaySuspendInfoMap.keys :=
        KeyedMap.mem_iff_lookup.mpr ⟨pkgInfo, found⟩
      exact spares key isKey may info isStored accounted

theorem warned_of_ledgerStep {params : Params} {env : Env} {op : Op} {l : Ledger}
    (timed : s.ledger.Timed fired) (counts : s.ledger.Warned warned armed) (clock : env.now ≠ 0)
    (isPending : EventPending s (env, op)) (free : GrantsFreeId params s (env, op))
    (spares : s.SparesExpired (env, op)) (step : LedgerStep params env s op l) :
    l.Warned
      (fun id => (if handsOut params s (env, op) id then 0 else warned id) +
        Ledger.rise s.expiredNotices l.expiredNotices id)
      (fun id => (if handsOut params s (env, op) id then 0 else armed id) +
        Ledger.rise s.watchdog l.watchdog id) := by
  have anew := Ledger.warned_reset counts (handsOut params s (env, op))
  -- nothing is counted in a step that warns nobody and arms nothing
  have still : ∀ {l : Ledger}, l.expiredNotices = s.expiredNotices →
      l.watchdog.Sublist s.watchdog → l.Warned
        (fun id => if handsOut params s (env, op) id then 0 else warned id)
        (fun id => if handsOut params s (env, op) id then 0 else armed id) → l.Warned
        (fun id => (if handsOut params s (env, op) id then 0 else warned id) +
          Ledger.rise s.expiredNotices l.expiredNotices id)
        (fun id => (if handsOut params s (env, op) id then 0 else armed id) +
          Ledger.rise s.watchdog l.watchdog id) := by
    intro l notices watchdog kept
    simp only [notices, Ledger.rise_of_sublist watchdog,
      Ledger.rise_of_sublist (List.Sublist.refl s.expiredNotices), Nat.add_zero]
    exact kept
  cases step with
  | moves chain =>
      have kept : l.Timed fired ∧ l.Spares (stopsOf env s op) ∧ l.Warned
          (fun id => if handsOut params s (env, op) id then 0 else warned id)
          (fun id => if handsOut params s (env, op) id then 0 else armed id) := by
        induction chain with
        | refl => exact ⟨timed, spares_of_sparesExpired spares, anew⟩
        | tail _ move ih =>
            obtain ⟨isTimed, isSpared, isWarned⟩ := ih
            exact ⟨Ledger.timed_move clock move isTimed, Ledger.spares_move isTimed isSpared move,
              Ledger.warned_move clock isTimed isSpared isWarned move⟩
      have silent := Ledger.rise_moves chain
      exact still silent.1 silent.2 kept.2.2
  | @granted uid pid callback name remote info _ ok isNew result =>
      have isGranted : granted params s (env, .requestSuspendDelay uid pid callback) = true := by
        simpa [granted] using ok
      have isFree : ∀ key, info.requestId ∉ s.ledger.ids key := by
        intro key
        rw [isNew.1]
        exact not_mem_ids_of_free (free isGranted) key
      have idle : ¬ info.Accounted := fun accounted => accounted isNew.2.2.1
      have out : handsOut params s (env, .requestSuspendDelay uid pid callback)
          info.requestId = true := by
        unfold handsOut
        rw [isGranted, isNew.1]
        simp
      have kept := Ledger.warned_grant anew ⟨name, uid, pid⟩ remote idle
        ⟨by rw [if_pos out], by rw [if_pos out]⟩
      rw [result]
      split
      · refine still rfl (List.Sublist.refl _) ?_
        exact Ledger.warned_start (Ledger.sound_grant timed.sound _ remote isFree) kept clock _ _
      · exact still rfl (List.Sublist.refl _) kept
  | @fired requestId _ result =>
      rw [result]
      exact Ledger.warned_fire timed anew isPending

end

structure Tallied.Kept (tallied : Tallied) : Prop where
  uids : tallied.mgr.decisionMaker.UidsMatch
  timed : tallied.mgr.ledger.Timed (fun _ => True)
  counts : tallied.mgr.ledger.Warned tallied.warned tallied.armed

theorem kept_initial : Tallied.Kept {} where
  uids := inOrder_initial.uids
  timed := { inOrder_initial.timed with armed := fun _ _ => Or.inr trivial }
  counts := ⟨fun _ => ⟨Nat.zero_le 1, Nat.zero_le 1⟩, fun _ _ _ => ⟨rfl, rfl⟩,
    fun _ member => absurd member List.not_mem_nil⟩

/-- What a step has to meet: the clock is not at zero, an event is handled only when it is
pending, a granted request gets a free id, and no package with a request whose timer has
fired is stopped. -/
def Tallied.Spared (params : Params) (tallied : Tallied) (label : Env × Op) : Prop :=
  label.1.now ≠ 0 ∧ EventPending tallied.mgr label ∧ GrantsFreeId params tallied.mgr label ∧
    tallied.mgr.SparesExpired label

instance (params : Params) (tallied : Tallied) (label : Env × Op) :
    Decidable (tallied.Spared params label) :=
  inferInstanceAs (Decidable (_ ∧ _ ∧ _ ∧ _))

theorem kept_step (params : Params) (tallied : Tallied) (label : Env × Op)
    (kept : tallied.Kept) (spared : tallied.Spared params label) :
    (tallied.step params label).Kept := by
  obtain ⟨env, op⟩ := label
  obtain ⟨clock, isPending, free, spares⟩ := spared
  have stepped := ledgerStep_step params env kept.uids kept.timed.sound.owned op
  have timed := timed_of_ledgerStep kept.timed clock free stepped
  exact ⟨uidsMatch_step params env kept.uids op,
    { timed with armed := fun _ _ => Or.inr trivial },
    warned_of_ledgerStep kept.timed kept.counts clock isPending free spares stepped⟩

/-- A request is warned once, gets one watchdog, and its watchdog finds it accounted, in every
run that stops no package with a request whose timer has fired. -/
theorem warned_at_most_once (params : Params) (labels : List (Env × Op))
    (spared : StepSystem.Admissible (Tallied.step params) (Tallied.Spared params) {} labels) :
    let last := StepSystem.run (Tallied.step params) {} labels
    ∀ id, last.warned id ≤ 1 ∧ last.armed id ≤ 1 ∧
      (id ∈ last.mgr.watchdog → last.mgr.accounts id = true) := by
  have kept : (StepSystem.run (Tallied.step params) {} labels).Kept :=
    StepSystem.run_invariant (kept_step params) labels _ kept_initial spared
  intro last id
  obtain ⟨warned, armed⟩ := kept.counts.once id
  refine ⟨warned, armed, fun member => ?_⟩
  exact (accounts_iff kept.timed.sound id).mpr (kept.counts.watched id member).1

def expiringLabels : List (Env × Op) :=
  [(quietEnv 1000, .initNecessaryState true),
    (quietEnv 2000, .requestSuspendDelay 100 7 (.of 1)),
    (quietEnv 176000, .timerEvent 1),
    (quietEnv 182000, .watchdogEvent 1),
    (quietEnv 183000, .requestSuspendDelay 100 7 (.of 2)),
    (quietEnv 184000, .processStateChanged ⟨"app", 100, 7, .foreground⟩),
    (quietEnv 185000, .processStateChanged ⟨"app", 100, 7, .background⟩),
    (quietEnv 359000, .timerEvent 2)]

theorem warned_at_most_once_expiring :
    let last := StepSystem.run (Tallied.step {}) {} expiringLabels
    last.warned 2 = 1 ∧ last.warned 2 ≤ 1 ∧ last.mgr.watchdog = [2] ∧
      last.mgr.accounts 2 = true := by
  have once := warned_at_most_once {} expiringLabels (by decide) 2
  exact ⟨by decide, once.1, by decide, once.2.2 (by decide)⟩

def warnedTwiceLabels : List (Env × Op) :=
  [(quietEnv 1000, .initNecessaryState true),
    (quietEnv 2000, .requestSuspendDelay 100 7 (.of 1)),
    (quietEnv 176000, .timerEvent 1),
    (quietEnv 177000, .processStateChanged ⟨"app", 100, 7, .foreground⟩),
    (quietEnv 178000, .processStateChanged ⟨"app", 100, 7, .background⟩),
    (quietEnv 178001, .timerEvent 1),
    (quietEnv 179000, .processStateChanged ⟨"app", 100, 7, .foreground⟩)]

theorem warned_twice_and_cancelled_in_front :
    let last := StepSystem.run (Tallied.step {}) {} warnedTwiceLabels
    StepSystem.Admissible (Tallied.step {}) (fun tallied label => label.1.now ≠ 0 ∧
        EventPending tallied.mgr label ∧ GrantsFreeId {} tallied.mgr label) {} warnedTwiceLabels ∧
      last.warned 1 = 2 ∧ last.armed 1 = 2 ∧ 1 ∈ last.mgr.watchdog ∧
        last.mgr.accounts 1 = false ∧ 1 ∈ last.mgr.keyInfoMap ∧
          1 ∉ (last.mgr.step {} (quietEnv 182000, .watchdogEvent 1)).keyInfoMap := by
  decide

end BgTransientTaskMgr

end BgTaskMgr.Transient
