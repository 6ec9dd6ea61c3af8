import BgTaskMgr.Continuous.LabelParts

/-!
# Clearing authorisations

Deleting a banner and stopping an app take authorisations out of the store.  A banner is known
by the parts of its label, so one whose bundle has a separator in its name is not taken for a
banner at all; the stop of an app looks at the bundle and the index, and not at the user.
-/

set_option autoImplicit false

namespace BgTaskMgr.Continuous

open BgContinuousTaskMgr

/-- The records taken out are exactly these, and no other one changes. -/
def Clears (taken : String → BannerNotificationRecord → Prop)
    (before after : BgContinuousTaskMgr) : Prop :=
  ∀ key record, after.bannerNotificationRecord.lookup key = some record ↔
    before.bannerNotificationRecord.lookup key = some record ∧ ¬ taken key record

section Cleanup

variable {taken : String → BannerNotificationRecord → Prop} {s : BgContinuousTaskMgr} {env : Env}

theorem clears_self_iff {after : BgContinuousTaskMgr}
    (same : after.bannerNotificationRecord = s.bannerNotificationRecord) :
    Clears taken s after ↔
      ∀ key record, s.bannerNotificationRecord.lookup key = some record → ¬ taken key record := by
  unfold Clears
  rw [same]
  constructor
  · intro clears key record found
    exact ((clears key record).mp found).2
  · intro none key record
    constructor
    · intro found
      exact ⟨found, none key record found⟩
    · intro kept
      exact kept.1

theorem clears_removeBanners {chosen : BannerNotificationRecord → Bool} :
    Clears (fun _ record => chosen record = true) s (s.removeBanners env chosen) := by
  unfold removeBanners
  split
  · intro key record
    rw [refreshAuthRecord_records, KeyedMap.lookup_filterVal, Option.filter_eq_some_iff]
    simp
  · rename_i none
    rw [clears_self_iff rfl]
    intro key record found isChosen
    apply none
    rw [List.any_eq_true]
    exact ⟨record, List.mem_map.mpr ⟨⟨key, record⟩, KeyedMap.mem_entries_iff.mpr found, rfl⟩,
      isChosen⟩

/-! ## Deletion of a banner -/

/-- The label is known as a banner, and the record under it goes unless it is granted. -/
structure BannerDeleted (label : String) (before after : BgContinuousTaskMgr) : Prop where
  isBanner : isBannerLabel label = true
  clears : Clears (fun key record => key = label ∧ notGranted record = true) before after

theorem clears_stopBannerContinuousTaskByUser (label : String) (ready : s.isSysReady = true) :
    Clears (fun key record => key = label ∧ notGranted record = true) s
      (s.stopBannerContinuousTaskByUser env label) := by
  unfold stopBannerContinuousTaskByUser
  cases search : s.bannerNotificationRecord.lookup label with
  | none =>
      rw [clears_self_iff rfl]
      rintro key record found ⟨rfl, -⟩
      rw [search] at found
      exact absurd found (by simp)
  | some banner =>
      dsimp only
      split
      · rename_i refused
        intro key record
        rw [refreshAuthRecord_records, KeyedMap.lookup_erase]
        by_cases same : key = label
        · subst same
          simp only [if_pos, search, Option.some.injEq, true_and, reduceCtorEq, false_iff]
          rintro ⟨rfl, granted⟩
          apply granted
          simpa [notGranted, ready] using refused
        · simp [same]
      · rename_i granted
        rw [clears_self_iff rfl]
        rintro key record found ⟨rfl, ungranted⟩
        rw [search] at found
        obtain rfl := Option.some.inj found
        apply granted
        simpa [notGranted, ready] using ungranted

theorem stopBannerContinuousTaskByUser_of_unready (label : String)
    (unready : s.isSysReady = false) : s.stopBannerContinuousTaskByUser env label = s := by
  unfold stopBannerContinuousTaskByUser
  split
  · rfl
  · rw [unready]
    rfl

/-- The deletion of a banner clears its record exactly when the name of the bundle is one part
and, while the service starts, there is no record to clear. -/
theorem deleteBanner_iff (env : Env) (s : BgContinuousTaskMgr) (app : AuthApp)
    (abilityName : String) (deleteReason : DeleteReason) :
    BannerDeleted app.label s
        (s.cancelNotificationByBgTask env app.label abilityName deleteReason) ↔
      OnePart app.bundleName ∧ (s.isSysReady = true ∨
        ∀ record, s.bannerNotificationRecord.lookup app.label = some record →
          notGranted record = false) := by
  rw [← isBannerLabel_iff]
  have deletes (isBanner : isBannerLabel app.label = true) :
      s.cancelNotificationByBgTask env app.label abilityName deleteReason =
        s.stopBannerContinuousTaskByUser env app.label := if_pos isBanner
  constructor
  · rintro ⟨isBanner, clears⟩
    refine ⟨isBanner, ?_⟩
    cases ready : s.isSysReady with
    | true => exact .inl rfl
    | false =>
        rw [deletes isBanner, stopBannerContinuousTaskByUser_of_unready _ ready,
          clears_self_iff rfl] at clears
        right
        intro record found
        simpa using clears app.label record found
  · rintro ⟨isBanner, ready⟩
    refine ⟨isBanner, ?_⟩
    rw [deletes isBanner]
    cases running : s.isSysReady with
    | true => exact clears_stopBannerContinuousTaskByUser app.label running
    | false =>
        have granted := ready.resolve_left (by simp [running])
        rw [stopBannerContinuousTaskByUser_of_unready _ running, clears_self_iff rfl]
        rintro key record found ⟨rfl, ungranted⟩
        rw [granted record found] at ungranted
        exact absurd ungranted (by simp)

def holding (banners : List BannerNotificationRecord) : BgContinuousTaskMgr :=
  { isSysReady := true
    bannerNotificationRecord :=
      banners.foldl (fun records banner => records.insert banner.app.label banner) ∅ }

/-- The user deletes the banner of `com.example_app`. -/
theorem deleteBanner_misses :
    ∃ (env : Env) (s : BgContinuousTaskMgr) (app : AuthApp) (abilityName : String)
      (deleteReason : DeleteReason), s.isSysReady = true ∧
        (s.bannerNotificationRecord.lookup app.label).map notGranted = some true ∧
        ¬ BannerDeleted app.label s
          (s.cancelNotificationByBgTask env app.label abilityName deleteReason) := by
  refine ⟨{}, holding [{ bundleName := "com.example_app", userId := 100, appIndex := 0 }],
    ⟨"com.example_app", 100, 0⟩, "", .userDelete, rfl, by decide, ?_⟩
  rintro ⟨isBanner, -⟩
  exact absurd isBanner (by decide)

/-! ## Stop of an app -/

/-- The bundle manager knows the app of the uid, if it answers. -/
def BelongsTo (env : Env) (uid : Int) (app : AuthApp) : Prop :=
  ∀ answer, env.appIndexAndBundleName uid = some answer → answer = (app.appIndex, app.bundleName)

def OnceOf (app : AuthApp) (record : BannerNotificationRecord) : Prop :=
  record.app = app ∧ record.authResult = UserAuthResult.grantedOnce

/-- Who is authorised once for this bundle and index is the app itself. -/
def AloneOnce (app : AuthApp) (s : BgContinuousTaskMgr) : Prop :=
  ∀ key record, s.bannerNotificationRecord.lookup key = some record →
    record.bundleName = app.bundleName → record.appIndex = app.appIndex →
      record.authResult = UserAuthResult.grantedOnce → record.userId = app.userId

def NeverOnce (app : AuthApp) (s : BgContinuousTaskMgr) : Prop :=
  ∀ key record, s.bannerNotificationRecord.lookup key = some record → ¬ OnceOf app record

theorem Clears.iff {taken' : String → BannerNotificationRecord → Prop}
    {before after : BgContinuousTaskMgr} (clears : Clears taken before after) :
    Clears taken' before after ↔ ∀ key record,
      before.bannerNotificationRecord.lookup key = some record →
        (taken key record ↔ taken' key record) := by
  constructor
  · intro clears' key record found
    have left := (clears key record).symm.trans (clears' key record)
    simp only [found, true_and] at left
    exact not_iff_not.mp left
  · intro same key record
    rw [clears key record]
    exact and_congr_right (fun found => not_congr (same key record found))

theorem clears_onAppStopped (uid : Int) :
    Clears (fun _ record => s.isSysReady = true ∧ ∃ answer,
      env.appIndexAndBundleName uid = some answer ∧ record.bundleName = answer.2 ∧
        record.appIndex = answer.1 ∧ record.authResult = UserAuthResult.grantedOnce)
      s (s.onAppStopped env uid) := by
  have ended : (s.endTasks (fun record => record.uid == uid) markSystemCancel
      (cancelExisting env) (stopAndSave env)).bannerNotificationRecord =
        s.bannerNotificationRecord :=
    congrArg Asides.bannerNotificationRecord (asides_endStopped s env uid)
  unfold onAppStopped
  split
  · rename_i unready
    rw [clears_self_iff rfl]
    rintro - - - ⟨ready, -⟩
    simp [ready] at unready
  · rename_i ready
    dsimp only
    split
    · rename_i unanswered
      rw [clears_self_iff ended]
      rintro - - - ⟨-, answer, isAnswer, -⟩
      rw [unanswered] at isAnswer
      exact absurd isAnswer (by simp)
    · rename_i answered
      intro key record
      rw [clears_removeBanners key record, ended]
      simp [answered, by simpa using ready, and_assoc]

/-- The stop of an app takes out its own authorisation alone exactly when no other user has
authorised the same bundle once; before the service runs, and while the bundle manager does
not answer, when the app is not authorised once. -/
theorem onAppStopped_clears_own_iff (env : Env) (s : BgContinuousTaskMgr) (uid : Int)
    (app : AuthApp) (belongs : BelongsTo env uid app) :
    Clears (fun _ record => OnceOf app record) s (s.onAppStopped env uid) ↔
      if s.isSysReady = true ∧ (env.appIndexAndBundleName uid).isSome = true then AloneOnce app s
      else NeverOnce app s := by
  rw [(clears_onAppStopped uid).iff]
  split
  · rename_i answers
    obtain ⟨ready, answered⟩ := answers
    obtain ⟨answer, isAnswer⟩ := Option.isSome_iff_exists.mp answered
    obtain rfl := belongs answer isAnswer
    constructor
    · intro same key record found bundle index once
      have own := (same key record found).mp ⟨ready, _, isAnswer, bundle, index, once⟩
      rw [← own.1]
      rfl
    · intro alone key record found
      constructor
      · rintro ⟨-, answer, isOther, bundle, index, once⟩
        obtain rfl := Option.some.inj (isOther.symm.trans isAnswer)
        refine ⟨?_, once⟩
        rw [BannerNotificationRecord.app, bundle, index, alone key record found bundle index once]
      · rintro ⟨rfl, once⟩
        exact ⟨ready, _, isAnswer, rfl, rfl, once⟩
  · rename_i silent
    have none (record : BannerNotificationRecord) : ¬ (s.isSysReady = true ∧ ∃ answer,
        env.appIndexAndBundleName uid = some answer ∧ record.bundleName = answer.2 ∧
          record.appIndex = answer.1 ∧ record.authResult = UserAuthResult.grantedOnce) := by
      rintro ⟨ready, answer, isAnswer, -⟩
      exact silent ⟨ready, Option.isSome_iff_exists.mpr ⟨answer, isAnswer⟩⟩
    constructor
    · intro same key record found own
      exact none record ((same key record found).mpr own)
    · intro never key record found
      exact iff_of_false (none record) (never key record found)

def onceBy (userId : Int) : BannerNotificationRecord :=
  { bundleName := "com.example.app", userId := userId, appIndex := 0
    authResult := UserAuthResult.grantedOnce }

def knowsExample : Env := { appIndexAndBundleName := fun _ => some (0, "com.example.app") }

/-- Two users have authorised the same bundle once, and the app of the first one stops. -/
theorem onAppStopped_clears_other :
    ∃ (env : Env) (s : BgContinuousTaskMgr) (uid : Int) (app : AuthApp),
      BelongsTo env uid app ∧
        ¬ Clears (fun _ record => OnceOf app record) s (s.onAppStopped env uid) := by
  refine ⟨knowsExample, holding [onceBy 100, onceBy 101], 20001, (onceBy 100).app, ?_, ?_⟩
  · intro answer isAnswer
    exact (Option.some.inj isAnswer).symm
  · intro clears
    have gone : ((holding [onceBy 100, onceBy 101]).onAppStopped knowsExample
        20001).bannerNotificationRecord.lookup (onceBy 101).app.label = none := by decide
    have kept := (clears (onceBy 101).app.label (onceBy 101)).mpr
      ⟨by decide, fun own => absurd own.1 (by decide)⟩
    rw [gone] at kept
    exact absurd kept (by simp)

/-- The app of the first user has a task, another user has authorised it for good, and the first
user a clone of it and another bundle, once each. -/
def authorised : BgContinuousTaskMgr :=
  { afterRun plainRun with
    bannerNotificationRecord := (holding
      [onceBy 100, { onceBy 101 with authResult := UserAuthResult.grantedAlways },
        { onceBy 100 with appIndex := 1 },
        { onceBy 100 with bundleName := "com.example.other" }]).bannerNotificationRecord }

theorem onAppStopped_clears_own_alone :
    authorised.bannerNotificationRecord.entries.length = 4 ∧
      (authorised.onAppStopped knowsExample 100).bannerNotificationRecord.entries.length = 3 ∧
      BelongsTo knowsExample 100 (onceBy 100).app ∧
      Clears (fun _ record => OnceOf (onceBy 100).app record) authorised
        (authorised.onAppStopped knowsExample 100) := by
  have belongs : BelongsTo knowsExample 100 (onceBy 100).app := by
    intro answer isAnswer
    exact (Option.some.inj isAnswer).symm
  refine ⟨by decide, by decide, belongs,
    (onAppStopped_clears_own_iff knowsExample authorised 100 (onceBy 100).app belongs).mpr ?_⟩
  rw [if_pos (by decide)]
  intro key record found bundle index once
  have others : authorised.bannerNotificationRecord.entries.all (fun entry =>
      decide (entry.2.bundleName = "com.example.app" → entry.2.appIndex = 0 →
        entry.2.authResult = UserAuthResult.grantedOnce → entry.2.userId = 100)) = true := by
    decide
  have alone := List.all_eq_true.mp others ⟨key, record⟩ (KeyedMap.mem_entries_iff.mpr found)
  exact of_decide_eq_true alone bundle index once

end Cleanup

end BgTaskMgr.Continuous
