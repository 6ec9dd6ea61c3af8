import BgTaskMgr.Transient.Ledger

/-!
# The events of a package

Subscribers see each package through its own events: a start or an end of one request, and
the start or the end of the app's transient work as a whole.  `Told` is the protocol these
events follow next to the number of requests; every run keeps to it.
-/

set_option autoImplicit false

namespace BgTaskMgr.Transient

open DecisionMaker

/-! ## The protocol -/

inductive Told : List TransientTaskEventType → Nat → Prop where
  | nil : Told [] 0
  | started {stream : List TransientTaskEventType} {live : Nat} (told : Told stream live) :
      Told (stream ++ ([.taskStart] ++ if live = 0 then [.appTaskStart] else [])) (live + 1)
  | ended {stream : List TransientTaskEventType} {live : Nat} (told : Told stream (live + 1)) :
      Told (stream ++ ([.taskEnd] ++ if live = 0 then [.appTaskEnd] else [])) live

def Leaves (stream : List TransientTaskEventType) (live : Nat) : Prop :=
  stream.count .taskStart = stream.count .taskEnd + live

def appEvents (stream : List TransientTaskEventType) : List TransientTaskEventType :=
  stream.filter (fun event => event = .appTaskStart ∨ event = .appTaskEnd)

/-- The first `n` app events in turn, a start first. -/
def inTurn (n : Nat) : List TransientTaskEventType :=
  (List.range n).map (fun i => if i % 2 = 0 then .appTaskStart else .appTaskEnd)

/-- An app start is told right after the start that makes the first request, and there only;
an app end right after the end that takes the last one, and there only. -/
structure AtEdges (stream : List TransientTaskEventType) : Prop where
  first : ∀ before after, stream = before ++ .taskStart :: after → Leaves before 0 →
    ∃ rest, after = .appTaskStart :: rest
  onlyFirst : ∀ before after, stream = before ++ .appTaskStart :: after →
    ∃ earlier, before = earlier ++ [.taskStart] ∧ Leaves earlier 0
  last : ∀ before after, stream = before ++ .taskEnd :: after → Leaves before 1 →
    ∃ rest, after = .appTaskEnd :: rest
  onlyLast : ∀ before after, stream = before ++ .appTaskEnd :: after →
    ∃ earlier, before = earlier ++ [.taskEnd] ∧ Leaves earlier 1

section

variable {stream : List TransientTaskEventType} {live : Nat}

theorem Told.leaves (told : Told stream live) : Leaves stream live := by
  unfold Leaves
  induction told with
  | nil => rfl
  | @started stream live _ ih =>
      by_cases empty : live = 0
      · simp [empty] at ih ⊢
        omega
      · simp [empty] at ih ⊢
        omega
  | @ended stream live _ ih =>
      by_cases empty : live = 0
      · simp [empty] at ih ⊢
        omega
      · simp [empty] at ih ⊢
        omega

theorem inTurn_succ (n : Nat) :
    inTurn (n + 1) = inTurn n ++ [if n % 2 = 0 then .appTaskStart else .appTaskEnd] := by
  unfold inTurn
  rw [List.range_succ, List.map_append]
  rfl

/-- App events come in turn; the last one was a start exactly while requests are left. -/
theorem Told.turns (told : Told stream live) :
    ∃ n, appEvents stream = inTurn n ∧ (n % 2 = 1 ↔ 0 < live) := by
  unfold appEvents
  induction told with
  | nil => exact ⟨0, rfl, by simp⟩
  | @started stream live _ ih =>
      obtain ⟨n, events, parity⟩ := ih
      by_cases empty : live = 0
      · refine ⟨n + 1, ?_, by omega⟩
        have even : n % 2 = 0 := by omega
        rw [inTurn_succ, if_pos even, ← events]
        simp [empty]
      · refine ⟨n, ?_, by omega⟩
        rw [← events]
        simp [empty]
  | @ended stream live _ ih =>
      obtain ⟨n, events, parity⟩ := ih
      by_cases empty : live = 0
      · refine ⟨n + 1, ?_, by omega⟩
        have odd : n % 2 ≠ 0 := by omega
        rw [inTurn_succ, if_neg odd, ← events]
        simp [empty]
      · refine ⟨n, ?_, by omega⟩
        rw [← events]
        simp [empty]

/-- A place in a stream of two parts is in the first or in the second. -/
theorem split_append {α : Type} {first second before after : List α} {event : α}
    (whole : first ++ second = before ++ event :: after) :
    (∃ rest, first = before ++ event :: rest ∧ after = rest ++ second) ∨
      ∃ more, before = first ++ more ∧ second = more ++ event :: after := by
  rcases List.append_eq_append_iff.mp whole with ⟨more, isBefore, isSecond⟩ | ⟨rest, isFirst, isRest⟩
  · exact Or.inr ⟨more, isBefore, isSecond⟩
  · cases rest with
    | nil =>
        rw [List.append_nil] at isFirst
        exact Or.inr ⟨[], by rw [isFirst, List.append_nil], isRest.symm⟩
    | cons head rest =>
        rw [List.cons_append, List.cons.injEq] at isRest
        exact Or.inl ⟨rest, by rw [isFirst, isRest.1], isRest.2⟩

/-- The events of one change: `edge` follows `kind` when the change is at the edge. -/
theorem split_block {kind edge event : TransientTaskEventType} {atEdge : Prop} [Decidable atEdge]
    {more after : List TransientTaskEventType}
    (block : [kind] ++ (if atEdge then [edge] else []) = more ++ event :: after) :
    (more = [] ∧ event = kind ∧ after = if atEdge then [edge] else []) ∨
      (atEdge ∧ more = [kind] ∧ event = edge) := by
  cases more with
  | nil =>
      rw [List.singleton_append, List.nil_append, List.cons.injEq] at block
      exact Or.inl ⟨rfl, block.1.symm, block.2.symm⟩
  | cons head more =>
      rw [List.singleton_append, List.cons_append, List.cons.injEq] at block
      split at block
      · rename_i isEdge
        cases more with
        | nil =>
            rw [List.nil_append, List.cons.injEq] at block
            exact Or.inr ⟨isEdge, by rw [block.1], block.2.1.symm⟩
        | cons next more => exact absurd block.2 (by simp)
      · exact absurd block.2 (by simp)

theorem Leaves.unique {first second : Nat} (one : Leaves stream first)
    (two : Leaves stream second) : first = second := by
  unfold Leaves at one two
  omega

theorem atEdges_started (edges : AtEdges stream) (leaves : Leaves stream live) :
    AtEdges (stream ++ ([.taskStart] ++ if live = 0 then [.appTaskStart] else [])) where
  first before after whole empty := by
    rcases split_append whole with ⟨rest, isStream, isAfter⟩ | ⟨more, isBefore, block⟩
    · obtain ⟨later, isRest⟩ := edges.first before rest isStream empty
      exact ⟨_, by rw [isAfter, isRest, List.cons_append]⟩
    · rcases split_block block with ⟨isMore, -, isAfter⟩ | ⟨-, -, impossible⟩
      · rw [isBefore, isMore, List.append_nil] at empty
        exact ⟨[], by rw [isAfter, if_pos (leaves.unique empty)]⟩
      · exact absurd impossible (by simp)
  onlyFirst before after whole := by
    rcases split_append whole with ⟨rest, isStream, -⟩ | ⟨more, isBefore, block⟩
    · exact edges.onlyFirst before rest isStream
    · rcases split_block block with ⟨-, impossible, -⟩ | ⟨empty, isMore, -⟩
      · exact absurd impossible (by simp)
      · exact ⟨stream, by rw [isBefore, isMore], empty ▸ leaves⟩
  last before after whole one := by
    rcases split_append whole with ⟨rest, isStream, isAfter⟩ | ⟨more, -, block⟩
    · obtain ⟨later, isRest⟩ := edges.last before rest isStream one
      exact ⟨_, by rw [isAfter, isRest, List.cons_append]⟩
    · rcases split_block block with ⟨-, impossible, -⟩ | ⟨-, -, impossible⟩
      · exact absurd impossible (by simp)
      · exact absurd impossible (by simp)
  onlyLast before after whole := by
    rcases split_append whole with ⟨rest, isStream, -⟩ | ⟨more, -, block⟩
    · exact edges.onlyLast before rest isStream
    · rcases split_block block with ⟨-, impossible, -⟩ | ⟨-, -, impossible⟩
      · exact absurd impossible (by simp)
      · exact absurd impossible (by simp)

theorem atEdges_ended (edges : AtEdges stream) (leaves : Leaves stream (live + 1)) :
    AtEdges (stream ++ ([.taskEnd] ++ if live = 0 then [.appTaskEnd] else [])) where
  first before after whole empty := by
    rcases split_append whole with ⟨rest, isStream, isAfter⟩ | ⟨more, -, block⟩
    · obtain ⟨later, isRest⟩ := edges.first before rest isStream empty
      exact ⟨_, by rw [isAfter, isRest, List.cons_append]⟩
    · rcases split_block block with ⟨-, impossible, -⟩ | ⟨-, -, impossible⟩
      · exact absurd impossible (by simp)
      · exact absurd impossible (by simp)
  onlyFirst before after whole := by
    rcases split_append whole with ⟨rest, isStream, -⟩ | ⟨more, -, block⟩
    · exact edges.onlyFirst before rest isStream
    · rcases split_block block with ⟨-, impossible, -⟩ | ⟨-, -, impossible⟩
      · exact absurd impossible (by simp)
      · exact absurd impossible (by simp)
  last before after whole one := by
    rcases split_append whole with ⟨rest, isStream, isAfter⟩ | ⟨more, isBefore, block⟩
    · obtain ⟨later, isRest⟩ := edges.last before rest isStream one
      exact ⟨_, by rw [isAfter, isRest, List.cons_append]⟩
    · rcases split_block block with ⟨isMore, -, isAfter⟩ | ⟨-, -, impossible⟩
      · rw [isBefore, isMore, List.append_nil] at one
        have same := leaves.unique one
        exact ⟨[], by rw [isAfter, if_pos (by omega)]⟩
      · exact absurd impossible (by simp)
  onlyLast before after whole := by
    rcases split_append whole with ⟨rest, isStream, -⟩ | ⟨more, isBefore, block⟩
    · exact edges.onlyLast before rest isStream
    · rcases split_block block with ⟨-, impossible, -⟩ | ⟨empty, isMore, -⟩
      · exact absurd impossible (by simp)
      · exact ⟨stream, by rw [isBefore, isMore], by rw [empty] at leaves; exact leaves⟩

theorem Told.atEdges (told : Told stream live) : AtEdges stream := by
  induction told with
  | nil =>
      exact ⟨fun _ _ whole => absurd whole (by simp), fun _ _ whole => absurd whole (by simp),
        fun _ _ whole => absurd whole (by simp), fun _ _ whole => absurd whole (by simp)⟩
  | started told ih => exact atEdges_started ih told.leaves
  | ended told ih => exact atEdges_ended ih told.leaves

end

/-! ## The events of a run -/

namespace Ledger

def stream (l : Ledger) (key : String × Int) : List TransientTaskEventType :=
  (l.tasks.filter (fun task => (task.2.packageName, task.2.uid) = key)).map (fun task => task.1)

def Telling (l : Ledger) : Prop :=
  ∀ key, Told (l.stream key) (l.requests key).length

theorem stream_told (l : Ledger) (keyInfo : KeyInfo) (kind edge : TransientTaskEventType)
    (atEdge : Prop) [Decidable atEdge] {next : Ledger}
    (tasks : next.tasks = l.tasks ++ [(kind, ⟨keyInfo.pkg, keyInfo.uid, keyInfo.pid⟩)] ++
      if atEdge then [(edge, { packageName := keyInfo.pkg, uid := keyInfo.uid })] else [])
    (key : String × Int) :
    next.stream key = if key = keyInfo.mapKey
      then l.stream key ++ ([kind] ++ if atEdge then [edge] else []) else l.stream key := by
  unfold stream
  rw [tasks, List.append_assoc, List.filter_append, List.map_append]
  by_cases here : key = keyInfo.mapKey
  · have own : (keyInfo.pkg, keyInfo.uid) = key := here.symm
    rw [if_pos here]
    by_cases edged : atEdge
    · simp [edged, own]
    · simp [edged, own]
  · have other : ¬ (keyInfo.pkg, keyInfo.uid) = key := fun same => here same.symm
    rw [if_neg here]
    by_cases edged : atEdge
    · simp [edged, other]
    · simp [edged, other]

section

variable {l next : Ledger} {now : Int}

theorem telling_of_same (telling : l.Telling) (tasks : next.tasks = l.tasks)
    (lengths : ∀ key, (next.requests key).length = (l.requests key).length) : next.Telling := by
  intro key
  have same : next.stream key = l.stream key := by
    unfold stream
    rw [tasks]
  rw [same, lengths]
  exact telling key

theorem telling_start (telling : l.Telling) (key : String × Int) (requestId : Int) :
    (l.start now key requestId).Telling := by
  refine telling_of_same telling rfl (fun a => ?_)
  rw [requests_start]
  split
  · exact List.length_map _
  · rfl

theorem telling_stop (telling : l.Telling) (key : String × Int) : (l.stop now key).Telling := by
  refine telling_of_same telling rfl (fun a => ?_)
  rw [requests_stop]
  split
  · exact List.length_map _
  · rfl

theorem telling_grant (telling : l.Telling) (keyInfo : KeyInfo) (remote : Remote)
    (info : DelaySuspendInfoEx) : (l.grant keyInfo remote info).Telling := by
  intro key
  rw [stream_told l keyInfo .taskStart .appTaskStart (l.requests keyInfo.mapKey = []) rfl,
    requests_grant]
  by_cases here : key = keyInfo.mapKey
  · rw [if_pos here, if_pos here, here, List.length_append]
    have told := Told.started (telling keyInfo.mapKey)
    simp only [List.length_eq_zero_iff] at told
    exact told
  · rw [if_neg here, if_neg here]
    exact telling key

theorem length_removedList (now : Int) {requests : List DelaySuspendInfoEx} {requestId : Int}
    (stored : ∃ info ∈ requests, info.requestId = requestId) :
    (removedList now requestId requests).length + 1 = requests.length := by
  obtain ⟨info, member, ofId⟩ := stored
  unfold removedList
  have positive : 0 < requests.length := List.length_pos_of_mem member
  rw [List.length_map, List.length_eraseP_of_mem member (by simpa using ofId)]
  omega

theorem telling_remove (telling : l.Telling) (owned : l.Owned) {requestId : Int}
    {keyInfo : KeyInfo} (held : l.keyInfoMap.lookup requestId = some keyInfo) :
    (l.remove now requestId keyInfo).Telling := by
  have shorter := length_removedList now (owned requestId keyInfo held)
  intro key
  rw [stream_told l keyInfo .taskEnd .appTaskEnd
    (removedList now requestId (l.requests keyInfo.mapKey) = []) rfl, requests_remove]
  by_cases here : key = keyInfo.mapKey
  · have before := telling keyInfo.mapKey
    rw [← shorter] at before
    have told := before.ended
    simp only [List.length_eq_zero_iff] at told
    rw [if_pos here, if_pos here, here]
    exact told
  · rw [if_neg here, if_neg here]
    exact telling key

theorem telling_move {stops : String × Int → Prop} (telling : l.Telling) (owned : l.Owned)
    (move : Move now stops l next) : next.Telling := by
  cases move with
  | start key => exact telling_start telling key (-1)
  | stop key _ => exact telling_stop telling key
  | remove held => exact telling_remove telling owned held
  | drop _ => exact telling
  | bark _ => exact telling

end

end Ledger

namespace BgTransientTaskMgr

structure Reports (s : BgTransientTaskMgr) : Prop where
  uids : s.decisionMaker.UidsMatch
  owned : s.ledger.Owned
  telling : s.ledger.Telling

theorem reports_initial : Reports {} where
  uids _ _ found := absurd found (by simp)
  owned _ _ held := absurd held (by simp [ledger, ledgerOf])
  telling _ := Told.nil

theorem reports_step (params : Params) (s : BgTransientTaskMgr) (label : Env × Op)
    (reports : Reports s) : Reports (s.step params label) := by
  obtain ⟨env, op⟩ := label
  have step := ledgerStep_step params env reports.uids reports.owned op
  refine ⟨uidsMatch_step params env reports.uids op, owned_ledgerStep params env reports.owned step, ?_⟩
  generalize (s.step params (env, op)).ledger = after at step ⊢
  cases step with
  | moves chain =>
      have preserve : ∀ l next, Move env.now (stopsOf env s op) l next →
          l.Owned ∧ l.Telling → next.Owned ∧ next.Telling := by
        intro l next move held
        exact ⟨owned_move held.1 move, Ledger.telling_move held.2 held.1 move⟩
      exact (of_moves preserve chain ⟨reports.owned, reports.telling⟩).2
  | granted ok isNew result =>
      have granted := Ledger.telling_grant reports.telling
      rw [result]
      split
      · exact Ledger.telling_start (granted _ _ _) _ _
      · exact granted _ _ _
  | fired result =>
      rw [result]
      exact reports.telling

/-- In every run the events of a package match its requests: starts less ends are the
requests, app starts and app ends come in turn with a start first, and they are told exactly
when the first request comes and the last one goes. -/
theorem events_match_requests (params : Params) (labels : List (Env × Op)) (pkg : String)
    (uid : Int) :
    let s := StepSystem.run (step params) {} labels
    let stream := s.ledger.stream (pkg, uid)
    stream.count .taskStart = stream.count .taskEnd + (s.requestsAt (pkg, uid)).length ∧
      (∃ n, appEvents stream = inTurn n) ∧ AtEdges stream := by
  have reports := StepSystem.run_preserves (reports_step params) labels _ reports_initial
  have told := reports.telling (pkg, uid)
  obtain ⟨n, turns, -⟩ := told.turns
  exact ⟨told.leaves, ⟨n, turns⟩, told.atEdges⟩

def twoRoundsLabels : List (Env × Op) :=
  [(quietEnv 1000, .initNecessaryState true),
    (quietEnv 2000, .requestSuspendDelay 100 7 (.of 1)),
    (quietEnv 3000, .requestSuspendDelay 100 8 (.of 2)),
    (quietEnv 176000, .timerEvent 1),
    (quietEnv 182000, .watchdogEvent 1),
    (quietEnv 183000, .cancelSuspendDelay 100 8 2),
    (quietEnv 184000, .requestSuspendDelay 100 7 (.of 3))]

theorem events_match_requests_two_rounds :
    let s := StepSystem.run (step {}) {} twoRoundsLabels
    s.ledger.stream ("app", 100) =
        [.taskStart, .appTaskStart, .taskStart, .taskEnd, .taskEnd, .appTaskEnd, .taskStart,
          .appTaskStart] ∧
      (s.requestsAt ("app", 100)).length = 1 ∧ AtEdges (s.ledger.stream ("app", 100)) :=
  ⟨by decide, by decide, (events_match_requests {} twoRoundsLabels "app" 100).2.2⟩

end BgTransientTaskMgr

end BgTaskMgr.Transient
