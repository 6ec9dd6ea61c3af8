import BgTaskMgr.Transient.IdReuse

/-!
# When a granted id is free

`NewDelaySuspendRequestId` counts: the id of grant `n` is known from `n` alone, and comes
again `INT_MAX - 1` grants later.  So a grant collides with an id in use exactly when that id
is older than that.
-/

set_option autoImplicit false

namespace BgTaskMgr.Transient

open DecisionMaker

namespace Ledger

def Knows (l : Ledger) (id : Int) : Prop :=
  (∃ key, id ∈ l.ids key) ∨ id ∈ l.keyInfoMap ∨ id ∈ l.expiredCallbackMap ∨ id ∈ l.timers ∨
    id ∈ l.watchdog

section

variable {l : Ledger} {now id : Int}

theorem mem_ids_of_mem_startedTimers {requests : List DelaySuspendInfoEx} {requestId : Int}
    (member : id ∈ startedTimers requestId requests) :
    id ∈ requests.map (fun info => info.requestId) := by
  unfold startedTimers at member
  obtain ⟨info, filtered, ofId⟩ := List.mem_map.mp member
  exact List.mem_map.mpr ⟨info, (List.mem_filter.mp filtered).1, ofId⟩

theorem knows_start {key : String × Int} {requestId : Int}
    (known : (l.start now key requestId).Knows id) : l.Knows id := by
  rcases known with ⟨a, member⟩ | held | called | timed | guarded
  · rw [ids_start] at member
    exact Or.inl ⟨a, member⟩
  · exact Or.inr (Or.inl held)
  · exact Or.inr (Or.inr (Or.inl called))
  · rcases List.mem_append.mp timed with old | started
    · exact Or.inr (Or.inr (Or.inr (Or.inl old)))
    · exact Or.inl ⟨key, mem_ids_of_mem_startedTimers started⟩
  · exact Or.inr (Or.inr (Or.inr (Or.inr guarded)))

theorem knows_stop {key : String × Int} (known : (l.stop now key).Knows id) : l.Knows id := by
  rcases known with ⟨a, member⟩ | held | called | timed | guarded
  · rw [ids_stop] at member
    exact Or.inl ⟨a, member⟩
  · exact Or.inr (Or.inl held)
  · exact Or.inr (Or.inr (Or.inl called))
  · exact Or.inr (Or.inr (Or.inr (Or.inl (List.mem_filter.mp timed).1)))
  · exact Or.inr (Or.inr (Or.inr (Or.inr guarded)))

theorem knows_drop {requestId : Int} (known : (l.drop requestId).Knows id) : l.Knows id := by
  rcases known with stored | held | called | timed | guarded
  · exact Or.inl stored
  · exact Or.inr (Or.inl held)
  · exact Or.inr (Or.inr (Or.inl (AList.mem_erase.mp called).2))
  · exact Or.inr (Or.inr (Or.inr (Or.inl timed)))
  · exact Or.inr (Or.inr (Or.inr (Or.inr (List.mem_filter.mp guarded).1)))

theorem knows_remove {requestId : Int} {keyInfo : KeyInfo}
    (known : (l.remove now requestId keyInfo).Knows id) : l.Knows id := by
  rcases known with ⟨a, member⟩ | held | called | timed | guarded
  · rw [ids_remove] at member
    split at member
    · exact Or.inl ⟨a, List.mem_of_mem_erase member⟩
    · exact Or.inl ⟨a, member⟩
  · exact Or.inr (Or.inl (AList.mem_erase.mp held).2)
  · exact Or.inr (Or.inr (Or.inl (AList.mem_erase.mp called).2))
  · refine Or.inr (Or.inr (Or.inr (Or.inl ?_)))
    unfold remove at timed
    dsimp only at timed
    split at timed
    · exact (List.mem_filter.mp timed).1
    · exact timed
  · exact Or.inr (Or.inr (Or.inr (Or.inr (List.mem_filter.mp guarded).1)))

theorem knows_bark {requestId : Int} (known : (l.bark requestId).Knows id) : l.Knows id := by
  rcases known with stored | held | called | timed | guarded
  · exact Or.inl stored
  · exact Or.inr (Or.inl held)
  · exact Or.inr (Or.inr (Or.inl called))
  · exact Or.inr (Or.inr (Or.inr (Or.inl timed)))
  · exact Or.inr (Or.inr (Or.inr (Or.inr (List.mem_of_mem_erase guarded))))

/-- A handled timer event moves an id that is held to the watchdog. -/
theorem knows_fire {requestId : Int} (known : (l.fire requestId).Knows id) : l.Knows id := by
  rcases known with stored | held | called | timed | guarded
  · exact Or.inl stored
  · exact Or.inr (Or.inl held)
  · exact Or.inr (Or.inr (Or.inl called))
  · exact Or.inr (Or.inr (Or.inr (Or.inl (List.mem_of_mem_erase timed))))
  · unfold fire at guarded
    dsimp only at guarded
    split at guarded
    · rename_i bothKnow
      rcases List.mem_append.mp guarded with old | new
      · exact Or.inr (Or.inr (Or.inr (Or.inr old)))
      · rw [List.mem_singleton.mp new]
        exact Or.inr (Or.inl bothKnow.2)
    · exact Or.inr (Or.inr (Or.inr (Or.inr guarded)))

theorem knows_grant {keyInfo : KeyInfo} {remote : Remote} {info : DelaySuspendInfoEx}
    (known : (l.grant keyInfo remote info).Knows id) : l.Knows id ∨ id = info.requestId := by
  rcases known with ⟨a, member⟩ | held | called | timed | guarded
  · rw [ids_grant] at member
    split at member
    · rcases List.mem_append.mp member with old | new
      · exact Or.inl (Or.inl ⟨a, old⟩)
      · exact Or.inr (List.mem_singleton.mp new)
    · exact Or.inl (Or.inl ⟨a, member⟩)
  · rcases AList.mem_insert _ |>.mp held with same | old
    · exact Or.inr same
    · exact Or.inl (Or.inr (Or.inl old))
  · rcases AList.mem_insert _ |>.mp called with same | old
    · exact Or.inr same
    · exact Or.inl (Or.inr (Or.inr (Or.inl old)))
  · exact Or.inl (Or.inr (Or.inr (Or.inr (Or.inl timed))))
  · exact Or.inl (Or.inr (Or.inr (Or.inr (Or.inr guarded))))

theorem knows_move {stops : String × Int → Prop} {next : Ledger} (move : Move now stops l next)
    (known : next.Knows id) : l.Knows id := by
  cases move with
  | start key => exact knows_start known
  | stop key _ => exact knows_stop known
  | remove _ => exact knows_remove known
  | drop _ => exact knows_drop known
  | bark _ => exact knows_bark known

theorem knows_moves {stops : String × Int → Prop} {next : Ledger}
    (chain : Moves now stops l next) (known : next.Knows id) : l.Knows id := by
  induction chain with
  | refl => exact known
  | tail _ move ih => exact ih (knows_move move known)

end

end Ledger

namespace BgTransientTaskMgr

/-- A request of the id is stored, or one of the maps, timers and watchdogs still has it. -/
def InUse (s : BgTransientTaskMgr) (id : Int) : Prop :=
  id ∈ s.decisionMaker.allRequestIds ∨ id ∈ s.keyInfoMap ∨ id ∈ s.expiredCallbackMap ∨
    id ∈ s.decisionMaker.timerIds ∨ id ∈ s.watchdog

instance (s : BgTransientTaskMgr) : DecidablePred s.InUse := fun _ =>
  inferInstanceAs (Decidable (_ ∨ _ ∨ _ ∨ _ ∨ _))

def nextId (s : BgTransientTaskMgr) : Int :=
  s.decisionMaker.newDelaySuspendRequestId.1

section

variable {s : BgTransientTaskMgr}

theorem mem_ledger_ids {key : String × Int} {id : Int} :
    id ∈ s.ledger.ids key ↔ id ∈ s.decisionMaker.requestIds key := by
  change id ∈ (s.decisionMaker.requestsAt key).map (fun info => info.requestId) ↔ _
  unfold DecisionMaker.requestIds
  cases found : s.decisionMaker.pkgDelaySuspendInfoMap.lookup key with
  | none =>
      rw [s.decisionMaker.requestsAt_of_none found]
      rfl
  | some pkgInfo =>
      rw [s.decisionMaker.requestsAt_of_lookup found]
      rfl

theorem inUse_iff {id : Int} : s.InUse id ↔ s.ledger.Knows id := by
  unfold InUse Ledger.Knows
  rw [mem_allRequestIds]
  simp only [mem_ledger_ids]
  rfl

/-- Only a grant brings an id into use, and it is the one it hands out. -/
theorem inUse_step (params : Params) (uids : s.decisionMaker.UidsMatch) (owned : s.ledger.Owned)
    (label : Env × Op) {id : Int} (after : (s.step params label).InUse id) :
    s.InUse id ∨ granted params s label = true ∧ id = s.nextId := by
  obtain ⟨env, op⟩ := label
  have stepped := ledgerStep_step params env uids owned op
  rw [inUse_iff] at after ⊢
  generalize (s.step params (env, op)).ledger = l at stepped after
  cases stepped with
  | moves chain => exact Or.inl (Ledger.knows_moves chain after)
  | @granted uid pid callback name remote info _ ok isNew result =>
      have onGrant : (s.ledger.grant ⟨name, uid, pid⟩ remote info).Knows id := by
        rw [result] at after
        split at after
        · exact Ledger.knows_start after
        · exact after
      refine (Ledger.knows_grant onGrant).imp_right (fun same => ⟨?_, same.trans isNew.1⟩)
      simpa [granted] using ok
  | fired result =>
      rw [result] at after
      exact Or.inl (Ledger.knows_fire after)

theorem uidsMatch_owned_step (params : Params) (label : Env × Op)
    (held : s.decisionMaker.UidsMatch ∧ s.ledger.Owned) :
    (s.step params label).decisionMaker.UidsMatch ∧ (s.step params label).ledger.Owned := by
  obtain ⟨env, op⟩ := label
  refine ⟨uidsMatch_step params env held.1 op, ?_⟩
  exact owned_ledgerStep params env held.2 (ledgerStep_step params env held.1 held.2 op)

/-! ## The generator -/

/-- A grant moves the generator past the id it hands out; nothing else moves it. -/
theorem requestId_step (params : Params) (label : Env × Op) :
    (s.step params label).decisionMaker.requestId =
      if granted params s label then s.nextId + 1 else s.decisionMaker.requestId := by
  obtain ⟨env, op⟩ := label
  by_cases request : ∃ uid pid callback, op = .requestSuspendDelay uid pid callback
  · obtain ⟨uid, pid, callback, rfl⟩ := request
    unfold granted step requestSuspendDelay
    dsimp only
    split
    · rfl
    · split
      · rename_i ret illegal
        have failed : ret ≠ .ok := by
          rintro rfl
          unfold isCallingInfoLegal at illegal
          split at illegal
          · cases illegal
          · split at illegal <;> cases illegal
        rw [if_neg (by simpa using failed)]
      · rename_i name remote _
        have spec := DecisionMaker.decide_spec params env s.decisionMaker ⟨name, uid, pid⟩
          { pid := pid }
        unfold requestSuspendDelayLocked
        split
        · rfl
        dsimp only
        split
        · rename_i passed
          obtain ⟨given, next, -⟩ := spec.granted passed
          rw [if_pos (by simp)]
          exact next.trans (congrArg (fun id => id + 1) given)
        · rename_i failed
          rw [if_neg (by simpa using failed)]
          exact (spec.refused failed).generator
  · have other : ∀ uid pid callback, op ≠ .requestSuspendDelay uid pid callback :=
      fun uid pid callback same => request ⟨uid, pid, callback, same⟩
    have grantsNothing : granted params s (env, op) = false := by
      cases op with
      | requestSuspendDelay uid pid callback => exact absurd rfl (other uid pid callback)
      | _ => rfl
    rw [grantsNothing]
    exact (keeps_step params env s op other).2

end

def idPeriod : Nat := (intMax - initRequestId).toNat

/-- The id that grant `n` hands out, counted from 0. -/
def idOfGrant (n : Nat) : Int := initRequestId + (n % idPeriod : Nat)

theorem idOfGrant_succ (n : Nat) :
    idOfGrant (n + 1) = if idOfGrant n + 1 = intMax then initRequestId else idOfGrant n + 1 := by
  have period : idPeriod = 2147483646 := by decide
  have first : initRequestId = 1 := rfl
  have last : intMax = 2147483647 := by decide
  unfold idOfGrant
  rw [period, first, last]
  split
  · omega
  · omega

theorem idOfGrant_eq_iff {m n : Nat} :
    idOfGrant m = idOfGrant n ↔ m % idPeriod = n % idPeriod := by
  unfold idOfGrant
  omega

/-- A manager with the number of grants so far and the last grant of each id. -/
structure Granting where
  mgr : BgTransientTaskMgr := {}
  grants : Nat := 0
  lastGrant : Int → Nat := fun _ => 0

def Granting.step (params : Params) (self : Granting) (label : Env × Op) : Granting :=
  if granted params self.mgr label then
    { mgr := self.mgr.step params label
      grants := self.grants + 1
      lastGrant := Function.update self.lastGrant self.mgr.nextId self.grants }
  else { self with mgr := self.mgr.step params label }

@[simp]
theorem Granting.mgr_step (params : Params) (self : Granting) (label : Env × Op) :
    (self.step params label).mgr = self.mgr.step params label := by
  unfold Granting.step
  split
  · rfl
  · rfl

def GrantsFresh (params : Params) (self : Granting) (label : Env × Op) : Prop :=
  granted params self.mgr label = true → ¬ self.mgr.InUse self.mgr.nextId

/-- At a grant every id in use was handed out less than a round of the generator ago. -/
def GrantsInRound (params : Params) (self : Granting) (label : Env × Op) : Prop :=
  granted params self.mgr label = true →
    ∀ id, self.mgr.InUse id → self.grants < self.lastGrant id + idPeriod

/-- The generator follows the count of grants, and an id in use is that of its last grant. -/
structure Granting.Counted (granting : Granting) : Prop where
  uids : granting.mgr.decisionMaker.UidsMatch
  owned : granting.mgr.ledger.Owned
  next : granting.mgr.nextId = idOfGrant granting.grants
  issued : ∀ id, granting.mgr.InUse id →
    granting.lastGrant id < granting.grants ∧ idOfGrant (granting.lastGrant id) = id
  latest : ∀ n, n < granting.grants → n ≤ granting.lastGrant (idOfGrant n)

theorem Granting.counted_initial : Granting.Counted {} where
  uids _ _ found := absurd found (by simp)
  owned _ _ held := absurd held (by simp [ledger, ledgerOf])
  next := by decide
  issued id inUse := by
    rcases inUse with stored | held | called | timed | guarded
    · obtain ⟨key, member⟩ := mem_allRequestIds.mp stored
      exact absurd member List.not_mem_nil
    · exact absurd held (AList.notMem_empty id)
    · exact absurd called (AList.notMem_empty id)
    · exact absurd timed List.not_mem_nil
    · exact absurd guarded List.not_mem_nil
  latest _ small := absurd small (Nat.not_lt_zero _)

/-- The count is kept by every step, also by a grant of an id in use. -/
theorem Granting.counted_step (params : Params) (self : Granting) (label : Env × Op)
    (counted : self.Counted) : (self.step params label).Counted := by
  have known := uidsMatch_owned_step params label ⟨counted.uids, counted.owned⟩
  have moved := requestId_step (s := self.mgr) params label
  have nextId : (self.mgr.step params label).nextId =
      if (self.mgr.step params label).decisionMaker.requestId = intMax then initRequestId
        else (self.mgr.step params label).decisionMaker.requestId := rfl
  have brought : ∀ id, (self.mgr.step params label).InUse id →
      self.mgr.InUse id ∨ granted params self.mgr label = true ∧ id = self.mgr.nextId :=
    fun _ => inUse_step params counted.uids counted.owned label
  cases grants : granted params self.mgr label with
  | false =>
      have stepped : self.step params label = { self with mgr := self.mgr.step params label } := by
        unfold Granting.step
        rw [if_neg (by simp [grants])]
      rw [grants, if_neg (by simp)] at moved
      rw [stepped]
      refine ⟨known.1, known.2, ?_, fun id inUse => ?_, counted.latest⟩
      · rw [nextId, moved]
        exact counted.next
      · rcases brought id inUse with before | new
        · exact counted.issued id before
        · exact absurd (grants.symm.trans new.1) (by simp)
  | true =>
      have stepped : self.step params label =
          { mgr := self.mgr.step params label
            grants := self.grants + 1
            lastGrant := Function.update self.lastGrant self.mgr.nextId self.grants } := by
        unfold Granting.step
        rw [if_pos grants]
      rw [grants, if_pos rfl, counted.next] at moved
      rw [stepped]
      refine ⟨known.1, known.2, ?_, fun id inUse => ?_, fun n small => ?_⟩
      · rw [nextId, moved]
        exact (idOfGrant_succ self.grants).symm
      · dsimp only
        rw [Function.update_apply]
        split
        · rename_i same
          exact ⟨Nat.lt_succ_self _, by rw [same, counted.next]⟩
        · rename_i other
          rcases brought id inUse with before | new
          · obtain ⟨earlier, ofId⟩ := counted.issued id before
            exact ⟨Nat.lt_succ_of_lt earlier, ofId⟩
          · exact absurd new.2 other
      · dsimp only at small ⊢
        rw [Function.update_apply]
        split
        · exact Nat.le_of_lt_succ small
        · rename_i other
          refine counted.latest n (lt_of_le_of_ne (Nat.le_of_lt_succ small) ?_)
          rintro rfl
          exact other counted.next.symm

/-- The next id is in use exactly when some id in use is a round old. -/
theorem Granting.fresh_iff {self : Granting} (counted : self.Counted) :
    ¬ self.mgr.InUse self.mgr.nextId ↔
      ∀ id, self.mgr.InUse id → self.grants < self.lastGrant id + idPeriod := by
  constructor
  · intro free id inUse
    obtain ⟨earlier, ofId⟩ := counted.issued id inUse
    rw [← not_le]
    intro old
    -- the id was handed out again a round later, unless it is the next one
    have again : idOfGrant (self.lastGrant id + idPeriod) = id := by
      rw [← ofId, idOfGrant_eq_iff, ofId, Nat.add_mod_right]
    rcases Nat.lt_or_eq_of_le old with passed | isNext
    · have last := counted.latest _ passed
      rw [again] at last
      have positive : 0 < idPeriod := by decide
      omega
    · rw [counted.next, ← isNext, again] at free
      exact free inUse
  · intro inRound inUse
    obtain ⟨earlier, ofId⟩ := counted.issued _ inUse
    have young := inRound _ inUse
    have ofNext : idOfGrant (self.lastGrant self.mgr.nextId) = idOfGrant self.grants :=
      ofId.trans counted.next
    have apart : idPeriod ∣ self.grants - self.lastGrant self.mgr.nextId :=
      Nat.dvd_of_mod_eq_zero
        (Nat.sub_mod_eq_zero_of_mod_eq (idOfGrant_eq_iff.mp ofNext.symm))
    have far := Nat.le_of_dvd (by omega) apart
    omega

/-- Every grant of a run hands out a fresh id exactly when at every grant the ids in use are
of the running round. -/
theorem grants_fresh_iff (params : Params) (labels : List (Env × Op)) :
    StepSystem.Admissible (Granting.step params) (GrantsFresh params) {} labels ↔
      StepSystem.Admissible (Granting.step params) (GrantsInRound params) {} labels := by
  have agree : ∀ (self : Granting) (label : Env × Op), self.Counted → True →
      (GrantsFresh params self label ↔ GrantsInRound params self label) := by
    intro self label counted _
    exact imp_congr_right (fun _ => Granting.fresh_iff counted)
  refine StepSystem.admissible_iff_of_invariant agree ?_ labels {} Granting.counted_initial
    (fun _ _ => trivial)
  exact fun self label counted _ _ => Granting.counted_step params self label counted

theorem Granting.mgr_run (params : Params) (labels : List (Env × Op)) (self : Granting) :
    (StepSystem.run (Granting.step params) self labels).mgr =
      StepSystem.run (BgTransientTaskMgr.step params) self.mgr labels := by
  induction labels generalizing self with
  | nil => rfl
  | cons label rest ih =>
      rw [StepSystem.run_cons, StepSystem.run_cons, ih, Granting.mgr_step]

def wrappedGrantLabels : List (Env × Op) :=
  openingLabels ++ cycles 3 (intMax - 3).toNat

theorem grant_of_id_in_use :
    ¬ StepSystem.Admissible (Granting.step {}) (GrantsFresh {}) {}
      (wrappedGrantLabels ++ [(quietEnv 1000, .requestSuspendDelay 200 8 (.of 2))]) := by
  intro admissible
  have last := admissible.last
  have wrapped := idle_cycles idle_opening (intMax - 3).toNat (by decide)
  have atMax : (3 : Int) + (intMax - 3).toNat = intMax := by decide
  rw [atMax, ← StepSystem.run_append] at wrapped
  have sameRun := Granting.mgr_run {} wrappedGrantLabels {}
  unfold GrantsFresh at last
  rw [sameRun] at last
  change Idle intMax (StepSystem.run (BgTransientTaskMgr.step {}) {} wrappedGrantLabels) at wrapped
  change _ → ¬ (StepSystem.run (BgTransientTaskMgr.step {}) {} wrappedGrantLabels).InUse _ at last
  generalize StepSystem.run (BgTransientTaskMgr.step {}) {} wrappedGrantLabels = s at wrapped last
  have isOne : s.nextId = 1 := by
    change (if s.decisionMaker.requestId = intMax then initRequestId
      else s.decisionMaker.requestId) = 1
    rw [wrapped.generator, if_pos rfl]
    rfl
  refine last ?_ ?_
  · change decide ((s.requestSuspendDelay {} (quietEnv 1000) 200 8 (.of 2)).1 = .ok) = true
    rw [requestSuspendDelay_eq_of_idle wrapped]
    rfl
  · rw [isOne]
    refine Or.inl (mem_allRequestIds.mpr ⟨("app", 100), ?_⟩)
    unfold DecisionMaker.requestIds
    rw [wrapped.staying]
    decide

end BgTransientTaskMgr

end BgTaskMgr.Transient
