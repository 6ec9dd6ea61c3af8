import BgTaskMgr.Transient.DecisionMaker

/-!
# The counting flag and the accounted requests

`isCounting_` says that the quota of a package is being spent.  It follows the
requests of the package as long as no removal takes the only accounted request
away from a package that keeps others: `RemoveRequest` clears the flag only with
the last request.
-/

set_option autoImplicit false

namespace BgTaskMgr.Transient

open StepSystem

namespace PkgDelaySuspendInfo

def SomeAccounted (self : PkgDelaySuspendInfo) : Prop :=
  ∃ info ∈ self.requestList, info.Accounted

instance (self : PkgDelaySuspendInfo) : Decidable self.SomeAccounted :=
  inferInstanceAs (Decidable (∃ info ∈ self.requestList, info.Accounted))

def FlagAgrees (self : PkgDelaySuspendInfo) : Prop :=
  self.isCounting = true ↔ self.SomeAccounted

/-- Removing `requestId` from the package strands the flag: the package has an
accounted request, keeps some request, and keeps no accounted one. -/
def Strands (self : PkgDelaySuspendInfo) (requestId : Int) : Prop :=
  self.SomeAccounted ∧ self.requestsWithout requestId ≠ [] ∧
    ∀ info ∈ self.requestsWithout requestId, info.Accounted → info.requestId = requestId

instance (self : PkgDelaySuspendInfo) (requestId : Int) : Decidable (self.Strands requestId) :=
  inferInstanceAs (Decidable (_ ∧ _ ∧ _))

section

variable (params : Params) (config : BgtaskConfig) {now : Int} (timers : TimerManager)
  {self : PkgDelaySuspendInfo}

theorem startAccounting_flagAgrees (running : now ≠ 0) (requestId : Int)
    (agrees : self.FlagAgrees) :
    (self.startAccounting params config now requestId timers).1.FlagAgrees := by
  unfold FlagAgrees SomeAccounted
  rw [startAccounting_isCounting, startAccounting_requestList, Bool.or_eq_true, List.any_eq_true]
  constructor
  · rintro (counting | ⟨info, member, selected⟩)
    · obtain ⟨info, member, accounted⟩ := agrees.mp counting
      refine ⟨_, List.mem_map_of_mem member, ?_⟩
      split
      · exact info.startAccounting_accounted running
      · exact accounted
    · refine ⟨_, List.mem_map_of_mem member, ?_⟩
      rw [if_pos selected]
      exact info.startAccounting_accounted running
  · rintro ⟨_, mapped, accounted⟩
    obtain ⟨info, member, rfl⟩ := List.mem_map.mp mapped
    cases selected : selects requestId info with
    | true => exact Or.inr ⟨info, member, selected⟩
    | false =>
        rw [selected, if_neg Bool.false_ne_true] at accounted
        exact Or.inl (agrees.mpr ⟨info, member, accounted⟩)

theorem stopAccountingAll_flagAgrees :
    (self.stopAccountingAll params config now timers).1.FlagAgrees := by
  unfold FlagAgrees SomeAccounted
  rw [stopAccountingAll_isCounting, stopAccountingAll_requestList]
  simp

theorem addRequest_flagAgrees {delayInfo : DelaySuspendInfoEx} (fresh : delayInfo.baseTime = 0)
    (delayTime : Int) (needSetTime : Bool) (agrees : self.FlagAgrees) :
    (self.addRequest config delayInfo delayTime needSetTime).2.FlagAgrees := by
  unfold FlagAgrees SomeAccounted at agrees ⊢
  simp only [addRequest, List.mem_append, List.mem_singleton, or_and_right, exists_or,
    exists_eq_left]
  rw [agrees]
  simp [DelaySuspendInfoEx.Accounted, fresh]

theorem removeRequest_flagAgrees {requestId : Int} (agrees : self.FlagAgrees)
    (unstranded : ¬ self.Strands requestId) :
    (self.removeRequest params config now requestId timers).1.FlagAgrees := by
  by_cases present : ∃ info ∈ self.requestList, info.requestId = requestId
  · unfold FlagAgrees SomeAccounted
    rw [removeRequest_isCounting params config now timers self present,
      removeRequest_requestList, Bool.and_eq_true, Bool.not_eq_true', List.isEmpty_eq_false_iff]
    constructor
    · rintro ⟨counting, remaining⟩
      have kept : ∃ info ∈ self.requestsWithout requestId,
          info.Accounted ∧ info.requestId ≠ requestId := by
        by_contra nothing
        push Not at nothing
        exact unstranded ⟨agrees.mp counting, remaining, nothing⟩
      obtain ⟨info, member, accounted, other⟩ := kept
      refine ⟨_, List.mem_map_of_mem member, ?_⟩
      rwa [if_neg other]
    · rintro ⟨_, mapped, accounted⟩
      obtain ⟨info, member, rfl⟩ := List.mem_map.mp mapped
      by_cases same : info.requestId = requestId
      · rw [if_pos same] at accounted
        exact absurd accounted (info.stopAccounting_not_accounted now)
      · rw [if_neg same] at accounted
        exact ⟨agrees.mpr ⟨info, List.mem_of_mem_eraseP member, accounted⟩,
          List.ne_nil_of_mem member⟩
  · push Not at present
    rwa [removeRequest_absent params config now timers self present]

end

end PkgDelaySuspendInfo

open PkgDelaySuspendInfo in
theorem flagAgrees_closed (params : Params) (env : Env) (running : env.now ≠ 0) :
    DecisionMaker.Closed params env (fun _ pkgInfo => pkgInfo.FlagAgrees) where
  make _ := by
    simp [FlagAgrees, SomeAccounted, make]
  call _ _ call timers agrees := by
    cases call with
    | updateQuota => exact agrees
    | start requestId =>
        exact startAccounting_flagAgrees params env.config timers running requestId agrees
    | stopAll => exact stopAccountingAll_flagAgrees params env.config timers
  reset _ _ agrees := agrees
  add _ _ _ delayTime needSetTime agrees _ fresh :=
    addRequest_flagAgrees env.config fresh delayTime needSetTime agrees

/-- The step does not take the only accounted request away from a package that keeps
others. -/
def RemovalKeepsAccounted (decision : DecisionMaker) : Env × DecisionOp → Prop
  | (_, .removeRequest (some key) requestId) =>
      ∀ pkgInfo ∈ decision.pkgDelaySuspendInfoMap.lookup key.mapKey, ¬ pkgInfo.Strands requestId
  | _ => True

instance (decision : DecisionMaker) (label : Env × DecisionOp) :
    Decidable (RemovalKeepsAccounted decision label) := by
  unfold RemovalKeepsAccounted
  split <;> infer_instance

theorem step_keeps_flagAgrees (params : Params) (decision : DecisionMaker)
    (label : Env × DecisionOp)
    (agrees : decision.ForallPkg (fun _ pkgInfo => pkgInfo.FlagAgrees))
    (ok : label.1.now ≠ 0 ∧ RemovalKeepsAccounted decision label) :
    (decision.step params label).ForallPkg (fun _ pkgInfo => pkgInfo.FlagAgrees) := by
  obtain ⟨env, op⟩ := label
  obtain ⟨running, keeps⟩ := ok
  refine decision.forallPkg_step env op (flagAgrees_closed params env running) ?_ agrees
  rintro key requestId rfl pkgInfo found held
  exact PkgDelaySuspendInfo.removeRequest_flagAgrees params env.config decision.timerManager held
    (keeps pkgInfo found)

/-- Along every run whose removals keep an accounted request, the flag of a stored
package is up exactly when one of its requests is accounted, and settling the quota
then charges the package exactly in that case. -/
theorem isCounting_iff_accounted (params : Params) (labels : List (Env × DecisionOp))
    (clock : ∀ label ∈ labels, label.1.now ≠ 0)
    (keeps : Admissible (DecisionMaker.step params) RemovalKeepsAccounted {} labels)
    (key : String × Int) (pkgInfo : PkgDelaySuspendInfo)
    (found : (run (DecisionMaker.step params) {} labels).pkgDelaySuspendInfoMap.lookup key =
      some pkgInfo) :
    (pkgInfo.isCounting = true ↔ ∃ info ∈ pkgInfo.requestList, info.baseTime ≠ 0) ∧
      ∀ config now, (pkgInfo.updateQuota params config now false).quota =
        max 0 (pkgInfo.quota - if ∃ info ∈ pkgInfo.requestList, info.baseTime ≠ 0
          then pkgInfo.getModifiedTime config now else 0) := by
  have start : ({} : DecisionMaker).ForallPkg (fun _ pkgInfo => pkgInfo.FlagAgrees) := by
    intro key pkgInfo found
    cases found
  have reached := run_invariant (step_keeps_flagAgrees params) labels {} start
    (keeps.and_forall clock)
  have agrees : pkgInfo.FlagAgrees := reached key pkgInfo found
  refine ⟨agrees, fun config now => ?_⟩
  have charged : (if ∃ info ∈ pkgInfo.requestList, info.baseTime ≠ 0
      then pkgInfo.getModifiedTime config now else 0) =
      if pkgInfo.isCounting then pkgInfo.getModifiedTime config now else 0 :=
    if_congr agrees.symm rfl rfl
  rw [charged]
  simp only [PkgDelaySuspendInfo.updateQuota, Bool.false_eq_true, if_false]
  split <;> omega

def twoRequestsLabels : List (Env × DecisionOp) :=
  [(quietEnv 1000, .decide ⟨"app", 100, 7⟩), (quietEnv 1500, .decide ⟨"app", 100, 7⟩),
    (quietEnv 2000, .removeRequest (some ⟨"app", 100, 7⟩) 1)]

theorem isCounting_iff_accounted_two_requests :
    ∃ pkgInfo, (run (DecisionMaker.step {}) {}
        twoRequestsLabels).pkgDelaySuspendInfoMap.lookup ("app", 100) = some pkgInfo ∧
      pkgInfo.isCounting = true ∧ ∃ info ∈ pkgInfo.requestList, info.baseTime ≠ 0 := by
  refine ⟨_, rfl, rfl, ?_⟩
  exact (isCounting_iff_accounted {} twoRequestsLabels (by decide) (by decide) ("app", 100) _
    rfl).1.mp rfl

/-- A paused package, a new request that is accounted from its grant on, and the
cancellation of that request. -/
def strandingLabels : List (Env × DecisionOp) :=
  [(quietEnv 1000, .decide ⟨"app", 100, 7⟩), (quietEnv 1500, .pause 100 "app"),
    (quietEnv 2000, .decide ⟨"app", 100, 7⟩),
    (quietEnv 2500, .removeRequest (some ⟨"app", 100, 7⟩) 2)]

/-- The flag stays up with nothing accounted. -/
theorem isCounting_stranded_after_pause :
    (∀ label ∈ strandingLabels, label.1.now ≠ 0) ∧
      ∃ pkgInfo, (run (DecisionMaker.step {}) {}
          strandingLabels).pkgDelaySuspendInfoMap.lookup ("app", 100) = some pkgInfo ∧
        ¬ (pkgInfo.isCounting = true ↔ ∃ info ∈ pkgInfo.requestList, info.baseTime ≠ 0) :=
  ⟨by decide, _, rfl, by decide⟩

end BgTaskMgr.Transient
