import BgTaskMgr.Continuous.Asides

/-!
# Delayed AVSession checks

`delayTasks_` is to hold the uids whose delayed check is still posted.  The checks of all uids
are posted under one name and removed by it, so that the two agree as long as a removal finds
no check of another uid.  Every other operation leaves both alone.
-/

set_option autoImplicit false

namespace BgTaskMgr.Continuous

namespace BgContinuousTaskMgr

def delays (self : BgContinuousTaskMgr) : List Int × List (Int × Int) :=
  (self.delayTasks, self.delayedNotify)

/-! ## What leaves the checks alone -/

section

variable {s after : BgContinuousTaskMgr}

theorem delays_of_asides (same : after.asides = s.asides) : after.delays = s.delays := by
  have tasks : after.delayTasks = s.delayTasks := congrArg Asides.delayTasks same
  have checks : after.delayedNotify = s.delayedNotify := congrArg Asides.delayedNotify same
  unfold delays
  rw [tasks, checks]

variable (s) (env : Env)

@[grind =]
theorem delays_removeBanners (chosen : BannerNotificationRecord → Bool) :
    (s.removeBanners env chosen).delays = s.delays := by
  unfold removeBanners refreshAuthRecord
  grind [delays]

theorem delays_onAppStopped (uid : Int) : (s.onAppStopped env uid).delays = s.delays := by
  have ended := delays_of_asides (asides_endStopped s env uid)
  unfold onAppStopped
  grind

theorem delays_onBundleInfoChanged (action : PackageAction) (bundleName : String)
    (uid userId appIndex : Int) :
    (s.onBundleInfoChanged env action bundleName uid userId appIndex).delays = s.delays := by
  have ended := fun s : BgContinuousTaskMgr => delays_of_asides (asides_endCleared s env uid)
  unfold onBundleInfoChanged
  grind [delays]

theorem delays_stopBannerContinuousTaskByUser (label : String) :
    (s.stopBannerContinuousTaskByUser env label).delays = s.delays := by
  unfold stopBannerContinuousTaskByUser refreshAuthRecord
  grind [delays]

theorem delays_onCanceled (pair : String × Int) (deleteReason : DeleteReason) :
    (s.onCanceled env pair deleteReason).delays = s.delays := by
  have byUser := fun (s : BgContinuousTaskMgr) key isSubNotification => delays_of_asides
    (asides_stopContinuousTaskByUser s env key isSubNotification deleteReason)
  have banner := delays_stopBannerContinuousTaskByUser
  have withdrawn : ∀ tools, (s.setTools tools).delays = s.delays := fun _ => rfl
  unfold onCanceled cancelNotificationByBgTask
  grind

theorem delays_onBundleResourcesChanged : (s.onBundleResourcesChanged env).delays = s.delays := by
  unfold onBundleResourcesChanged
  grind [delays]

end

/-! ## What the AVSession operations make of them -/

def removed (uid : Int) (pending : List Int × List (Int × Int)) : List Int × List (Int × Int) :=
  if uid ∈ pending.1 then (pending.1.filter (fun other => other ≠ uid), []) else pending

section

variable (s : BgContinuousTaskMgr) (env : Env)

theorem delays_removeAudioPlaybackDelayTask (uid : Int) :
    (s.removeAudioPlaybackDelayTask uid).delays = removed uid s.delays := by
  unfold removeAudioPlaybackDelayTask removed delays
  split
  · rfl
  · rfl

theorem removed_removed (uid : Int) (pending : List Int × List (Int × Int)) :
    removed uid (removed uid pending) = removed uid pending := by
  have gone : uid ∉ (removed uid pending).1 := by
    unfold removed
    split
    · simp
    · assumption
  exact if_neg gone

theorem delays_avSessionNotifyUpdateNotificationInner (uid : Int) (isPublish : Bool) :
    (s.avSessionNotifyUpdateNotificationInner env uid isPublish).2.delays =
      removed uid s.delays := by
  unfold avSessionNotifyUpdateNotificationInner
  dsimp only
  have noted : ({ s with
      avSessionNotification := s.avSessionNotification.insert uid isPublish } :
        BgContinuousTaskMgr).delays = s.delays := rfl
  have notified := fun (s : BgContinuousTaskMgr) key record =>
    delays_of_asides (asides_avSessionNotifyTask s env isPublish key record)
  cases isPublish with
  | false =>
      rw [if_neg (by simp)]
      split
      · rw [delays_removeAudioPlaybackDelayTask, noted]
      · rw [delays_removeAudioPlaybackDelayTask, notified, noted]
  | true =>
      rw [if_pos rfl]
      split
      · rw [delays_removeAudioPlaybackDelayTask, delays_removeAudioPlaybackDelayTask, noted,
          removed_removed]
      · rw [delays_removeAudioPlaybackDelayTask, notified, delays_removeAudioPlaybackDelayTask,
          noted, removed_removed]

def checkedUid : TaskOp → Option Int
  | .avSessionNotifyUpdateNotification _ uid _ _ => some uid
  | .runDelayedNotify => s.delayedNotify.head?.map (fun check => check.1)
  | _ => none

def removesChecks : TaskOp → Bool
  | .avSessionNotifyUpdateNotification callingUid uid _ isPublish =>
      s.isSysReady && callingUid = avsessionSaUid && isPublish && uid ∈ s.delayTasks
  | .runDelayedNotify => true
  | _ => false

inductive DelayStep (op : TaskOp) : List Int × List (Int × Int) → Prop where
  | same : DelayStep op s.delays
  | posted {uid pid : Int} (own : s.checkedUid op = some uid) :
      DelayStep op (s.delayTasks.insert uid, s.delayedNotify ++ [(uid, pid)])
  | published {uid : Int} (own : s.checkedUid op = some uid) (removes : s.removesChecks op = true) :
      DelayStep op (removed uid s.delays)
  | ran {uid pid : Int} {rest : List (Int × Int)} (isRun : op = .runDelayedNotify)
      (first : s.delayedNotify = (uid, pid) :: rest) :
      DelayStep op (removed uid (s.delayTasks, rest))

theorem delayStep_avSessionNotifyUpdateNotification (callingUid uid pid : Int)
    (isPublish : Bool) :
    s.DelayStep (.avSessionNotifyUpdateNotification callingUid uid pid isPublish)
      (s.avSessionNotifyUpdateNotification env callingUid uid pid isPublish).2.delays := by
  unfold avSessionNotifyUpdateNotification
  split
  · exact .same
  rename_i ready
  split
  · exact .same
  rename_i caller
  split
  · rename_i publishes
    rw [delays_avSessionNotifyUpdateNotificationInner]
    by_cases noted : uid ∈ s.delayTasks
    · refine .published rfl ?_
      unfold removesChecks
      simp_all
    · have unchanged : removed uid s.delays = s.delays := if_neg noted
      rw [unchanged]
      exact .same
  · exact .posted rfl

theorem delayStep_runDelayedNotify :
    s.DelayStep .runDelayedNotify (s.runDelayedNotify env).delays := by
  unfold runDelayedNotify
  split
  · exact .same
  · rename_i uid pid rest first
    rw [delays_avSessionNotifyUpdateNotificationInner]
    exact .ran rfl first

theorem delayStep_taskStep (label : Env × TaskOp) :
    s.DelayStep label.2 (s.taskStep label).delays := by
  obtain ⟨env, op⟩ := label
  have kept : (s.taskStep (env, op)).delays = s.delays →
      s.DelayStep op (s.taskStep (env, op)).delays := fun same => same ▸ .same
  by_cases concerned : concernsAsides op = true
  · cases op with
    | avSessionNotifyUpdateNotification callingUid uid pid isPublish =>
        exact delayStep_avSessionNotifyUpdateNotification s env callingUid uid pid isPublish
    | runDelayedNotify => exact delayStep_runDelayedNotify s env
    | onAppStopped uid => exact kept (delays_onAppStopped s env uid)
    | onBundleInfoChanged action bundleName uid userId appIndex =>
        exact kept (delays_onBundleInfoChanged s env action bundleName uid userId appIndex)
    | onCanceled pair deleteReason => exact kept (delays_onCanceled s env pair deleteReason)
    | stopBannerContinuousTaskByUser label =>
        exact kept (delays_stopBannerContinuousTaskByUser s env label)
    | onBundleResourcesChanged => exact kept (delays_onBundleResourcesChanged s env)
    | _ => exact absurd concerned (by simp [concernsAsides])
  · exact kept (delays_of_asides (asides_taskStep s env op (by simpa using concerned)))

end

/-! ## Runs -/

/-- A uid is noted exactly while a check of it is posted. -/
def ChecksPending (s : BgContinuousTaskMgr) : Prop :=
  ∀ uid, uid ∈ s.delayTasks ↔ ∃ pid, (uid, pid) ∈ s.delayedNotify

/-- Where checks are removed, none of another uid is posted. -/
def RemovesOwn (s : BgContinuousTaskMgr) (label : Env × TaskOp) : Prop :=
  s.removesChecks label.2 = true →
    ∀ check ∈ s.delayedNotify, s.checkedUid label.2 = some check.1

instance (s : BgContinuousTaskMgr) (label : Env × TaskOp) : Decidable (s.RemovesOwn label) :=
  inferInstanceAs (Decidable (_ → _))

section

variable {s : BgContinuousTaskMgr}

/-- Once every check is of the uid, removing them leaves neither a check nor a uid. -/
theorem removed_of_own {uid : Int} {rest : List (Int × Int)} (pending : s.ChecksPending)
    (noted : uid ∈ s.delayTasks) (own : ∀ check ∈ s.delayedNotify, check.1 = uid) :
    removed uid (s.delayTasks, rest) = ([], []) := by
  have only : s.delayTasks.filter (fun other => other ≠ uid) = [] := by
    rw [List.filter_eq_nil_iff]
    intro other member
    obtain ⟨pid, posted⟩ := (pending other).mp member
    simpa using own (other, pid) posted
  unfold removed
  rw [if_pos noted, only]

theorem checksPending_taskStep (label : Env × TaskOp) (pending : s.ChecksPending)
    (removesOwn : s.RemovesOwn label) :
    (s.taskStep label).ChecksPending ∧
      ∀ check ∈ s.delayedNotify, check ∈ (s.taskStep label).delayedNotify ∨
        s.checkedUid label.2 = some check.1 := by
  have step := s.delayStep_taskStep label
  change (∀ uid, uid ∈ (s.taskStep label).delays.1 ↔
      ∃ pid, (uid, pid) ∈ (s.taskStep label).delays.2) ∧
    ∀ check ∈ s.delayedNotify, check ∈ (s.taskStep label).delays.2 ∨
      s.checkedUid label.2 = some check.1
  generalize (s.taskStep label).delays = after at step ⊢
  have nothing : ∀ uid : Int, uid ∈ ([] : List Int) ↔
      ∃ pid, (uid, pid) ∈ ([] : List (Int × Int)) := fun uid => by simp
  cases step with
  | same => exact ⟨pending, fun check member => Or.inl member⟩
  | @posted uid pid own =>
      refine ⟨fun other => ?_, fun check member => Or.inl (List.mem_append_left _ member)⟩
      rw [List.mem_insert_iff, pending other]
      constructor
      · rintro (rfl | ⟨known, posted⟩)
        · exact ⟨pid, by simp⟩
        · exact ⟨known, List.mem_append_left _ posted⟩
      · rintro ⟨known, posted⟩
        rcases List.mem_append.mp posted with old | new
        · exact Or.inr ⟨known, old⟩
        · exact Or.inl (by simpa using congrArg Prod.fst (List.mem_singleton.mp new))
  | @published uid own removes =>
      have ownChecks : ∀ check ∈ s.delayedNotify, check.1 = uid := by
        intro check member
        have same := removesOwn removes check member
        rw [own] at same
        exact (Option.some.inj same).symm
      refine ⟨?_, fun check member => Or.inr (removesOwn removes check member)⟩
      by_cases noted : uid ∈ s.delayTasks
      · have gone : removed uid s.delays = ([], []) := removed_of_own pending noted ownChecks
        rw [gone]
        exact nothing
      · have unchanged : removed uid s.delays = s.delays := if_neg noted
        rw [unchanged]
        exact pending
  | @ran uid pid rest isRun first =>
      have posted : (uid, pid) ∈ s.delayedNotify := by
        rw [first]
        exact List.mem_cons_self
      have removes : s.removesChecks label.2 = true := by
        rw [isRun]
        rfl
      have ownUid : s.checkedUid label.2 = some uid := by
        rw [isRun]
        unfold checkedUid
        rw [first]
        rfl
      have ownChecks : ∀ check ∈ s.delayedNotify, check.1 = uid := by
        intro check member
        have same := removesOwn removes check member
        rw [ownUid] at same
        exact (Option.some.inj same).symm
      refine ⟨?_, fun check member => Or.inr (removesOwn removes check member)⟩
      rw [removed_of_own pending ((pending uid).mpr ⟨pid, posted⟩) ownChecks]
      exact nothing

end

/-- In every run in which checks are removed only while all that are posted are of the same
uid, a uid is noted exactly while a check of it is posted, and a further such operation drops
no check of another uid. -/
theorem noted_iff_check_pending (start : BgContinuousTaskMgr) (nothing : start.delays = ([], []))
    (labels : List (Env × TaskOp)) (own : StepSystem.Admissible taskStep RemovesOwn start labels) :
    let last := StepSystem.run taskStep start labels
    (∀ uid, uid ∈ last.delayTasks ↔ ∃ pid, (uid, pid) ∈ last.delayedNotify) ∧
      ∀ label, last.RemovesOwn label → ∀ check ∈ last.delayedNotify,
        check ∈ (last.taskStep label).delayedNotify ∨
          last.checkedUid label.2 = some check.1 := by
  have initial : start.ChecksPending := by
    have tasks : start.delayTasks = [] := congrArg Prod.fst nothing
    have checks : start.delayedNotify = [] := congrArg Prod.snd nothing
    intro uid
    rw [tasks, checks]
    simp
  have keeps : ∀ (s : BgContinuousTaskMgr) label, s.ChecksPending → s.RemovesOwn label →
      (s.taskStep label).ChecksPending :=
    fun s label held ok => (checksPending_taskStep label held ok).1
  have pending : (StepSystem.run taskStep start labels).ChecksPending :=
    StepSystem.run_invariant keeps labels start initial own
  exact ⟨pending, fun label removesOwn => (checksPending_taskStep label pending removesOwn).2⟩

/-- One app loses its AVSession notification twice and gets it back, then another one loses
it. -/
def oneAppAtATime : List (Env × TaskOp) :=
  [(deviceEnv, .avSessionNotifyUpdateNotification 6700 100 7 false),
    (deviceEnv, .avSessionNotifyUpdateNotification 6700 100 7 false),
    (deviceEnv, .avSessionNotifyUpdateNotification 6700 100 7 true),
    (deviceEnv, .avSessionNotifyUpdateNotification 6700 200 8 false),
    (deviceEnv, .onAppStopped 200)]

theorem noted_iff_check_pending_one_app :
    let last := StepSystem.run taskStep { isSysReady := true } oneAppAtATime
    last.delayTasks = [200] ∧ ∃ pid, (200, pid) ∈ last.delayedNotify := by
  have pending := noted_iff_check_pending { isSysReady := true } rfl oneAppAtATime (by decide)
  exact ⟨by decide, (pending.1 200).mp (by decide)⟩

/-- Two apps lose their AVSession notification; the first gets it back. -/
def twoAppsAtOnce : List (Env × TaskOp) :=
  [(deviceEnv, .avSessionNotifyUpdateNotification 6700 100 7 false),
    (deviceEnv, .avSessionNotifyUpdateNotification 6700 200 8 false),
    (deviceEnv, .avSessionNotifyUpdateNotification 6700 100 7 true)]

theorem check_of_other_app_lost :
    let last := StepSystem.run taskStep { isSysReady := true } twoAppsAtOnce
    200 ∈ last.delayTasks ∧ ¬ ∃ pid, (200, pid) ∈ last.delayedNotify := by
  have tasks : (StepSystem.run taskStep { isSysReady := true } twoAppsAtOnce).delayTasks =
      [200] := by
    decide
  have checks : (StepSystem.run taskStep { isSysReady := true } twoAppsAtOnce).delayedNotify =
      [] := by
    decide
  refine ⟨by rw [tasks]; simp, ?_⟩
  rintro ⟨pid, posted⟩
  rw [checks] at posted
  exact absurd posted List.not_mem_nil

end BgContinuousTaskMgr

end BgTaskMgr.Continuous
