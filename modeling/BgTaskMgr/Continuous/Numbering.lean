import BgTaskMgr.Continuous.Sweep
import BgTaskMgr.Continuous.Isolation

/-!
# Labels and ids of notifications

What the notification fields of every stored record look like: ids come from one counter,
the label of a main notification names the app, and that of a sub-notification the task.
-/

set_option autoImplicit false

namespace BgTaskMgr.Continuous

open BgContinuousTaskMgr

/-! ## Labels -/

def OwnLabel (uid : Int) (label : String) : Prop :=
  ∃ rest, OwnKey uid rest ∧ label = "bgmode_" ++ rest

theorem ownLabel_createNotificationLabel (hash : String → Nat) (record : ContinuousTaskRecord) :
    OwnLabel record.uid (createNotificationLabel hash record) := by
  unfold createNotificationLabel
  dsimp only
  split
  · refine ⟨toString record.uid ++ "_" ++ (toString (hash record.abilityName) ++ "_" ++
      toString record.abilityId ++ "_" ++ toString record.continuousTaskId), ⟨_, rfl⟩, ?_⟩
    simp only [String.append_assoc]
  · refine ⟨toString record.uid ++ "_" ++ (toString (hash record.abilityName) ++ "_" ++
      toString record.abilityId), ⟨_, rfl⟩, ?_⟩
    simp only [String.append_assoc]

def separators (label : String) : Nat := label.toList.count '_'

theorem separators_append (first second : String) :
    separators (first ++ second) = separators first + separators second := by
  simp [separators]

theorem separators_toString_int (number : Int) : separators (toString number) = 0 :=
  List.count_eq_zero.mpr (underscore_notMem_toString number)

theorem separators_toString_nat (number : Nat) : separators (toString number) = 0 :=
  List.count_eq_zero.mpr (underscore_notMem_toString_nat number)

theorem separators_createNotificationLabel (hash : String → Nat) (record : ContinuousTaskRecord) :
    separators (createNotificationLabel hash record) ≤ 4 := by
  have own : separators "bgmode_" = 1 := by decide
  have one : separators "_" = 1 := by decide
  unfold createNotificationLabel
  dsimp only
  split
  · simp only [separators_append, separators_toString_int, separators_toString_nat, own, one]
    omega
  · simp only [separators_append, separators_toString_int, separators_toString_nat, own, one]
    omega

theorem separators_createSubNotificationLabel (hash : String → Nat)
    (record : ContinuousTaskRecord) :
    separators (createSubNotificationLabel hash record) = 5 := by
  have own : separators "bgmode_" = 1 := by decide
  have one : separators "_" = 1 := by decide
  unfold createSubNotificationLabel
  simp only [separators_append, separators_toString_int, separators_toString_nat, own, one]

theorem createNotificationLabel_congr {before after : ContinuousTaskRecord} (hash : String → Nat)
    (same : ContinuousTaskRecord.SameTask before after) :
    createNotificationLabel hash after = createNotificationLabel hash before := by
  unfold createNotificationLabel
  rw [same.uid, same.abilityName, same.abilityId, same.continuousTaskId, same.isByRequestObject]

theorem createSubNotificationLabel_congr {before after : ContinuousTaskRecord}
    (hash : String → Nat) (same : ContinuousTaskRecord.SameTask before after) :
    createSubNotificationLabel hash after = createSubNotificationLabel hash before := by
  unfold createSubNotificationLabel
  rw [same.uid, same.abilityName, same.abilityId, same.continuousTaskId, same.pid]

/-! ## The invariant -/

structure MainLabelled (tools : NotificationTools) (record : ContinuousTaskRecord) : Prop where
  ownMain : record.notificationId ≠ -1 → OwnLabel record.uid record.notificationLabel
  mainForm : record.notificationId ≠ -1 → separators record.notificationLabel ≤ 4
  mainId : -1 ≤ record.notificationId ∧ record.notificationId ≤ tools.notificationIdIndex

structure SubLabelled (tools : NotificationTools) (record : ContinuousTaskRecord) : Prop where
  sub : record.subNotificationId ≠ -1 → record.isByRequestObject = true ∧
    record.subNotificationLabel = createSubNotificationLabel tools.hash record
  subId : -1 ≤ record.subNotificationId ∧ record.subNotificationId ≤ tools.notificationIdIndex

structure Labelled (tools : NotificationTools) (record : ContinuousTaskRecord) : Prop
    extends MainLabelled tools record, SubLabelled tools record

/-- The notification fields of every record, and the ids of what is shown. -/
structure Numbered (s : BgContinuousTaskMgr) : Prop where
  labelled : ∀ key record, s.taskAt key = some record → Labelled s.tools record
  counter : -1 ≤ s.tools.notificationIdIndex
  shownIds : ∀ pair, s.tools.Shown pair → pair.2 ≠ -1

section Labelled

variable {tools : NotificationTools} {record edited other : ContinuousTaskRecord}

theorem labelled_fresh (counter : -1 ≤ tools.notificationIdIndex)
    (main : record.notificationId = -1) (sub : record.subNotificationId = -1) :
    Labelled tools record :=
  ⟨⟨fun given => absurd main given, fun given => absurd main given, by omega⟩,
    ⟨fun given => absurd sub given, by omega⟩⟩

theorem Labelled.mainPair_ne_subPair (labelled : Labelled tools record)
    (given : record.notificationId ≠ -1) (otherLabelled : Labelled tools other)
    (otherGiven : other.subNotificationId ≠ -1) : record.mainPair ≠ other.subPair := by
  intro same
  have labels : record.notificationLabel = other.subNotificationLabel := congrArg Prod.fst same
  have few := labelled.mainForm given
  rw [labels, (otherLabelled.sub otherGiven).2, separators_createSubNotificationLabel] at few
  omega

theorem Labelled.mainPair_notMem_subPairs (labelled : Labelled tools record)
    (given : record.notificationId ≠ -1) (otherLabelled : Labelled tools other) :
    record.mainPair ∉ subPairs other := by
  unfold subPairs
  split
  · rename_i both
    simp only [Bool.and_eq_true, decide_eq_true_eq] at both
    rw [List.mem_singleton]
    exact labelled.mainPair_ne_subPair given otherLabelled both.1
  · simp

theorem MainLabelled.of_record (labelled : MainLabelled tools record)
    (same : ContinuousTaskRecord.SameTask record edited)
    (main : edited.mainPair = record.mainPair ∨ edited.notificationId = -1) :
    MainLabelled tools edited := by
  have bounds := labelled.mainId
  rcases main with main | none
  · have label : edited.notificationLabel = record.notificationLabel := congrArg Prod.fst main
    have id : edited.notificationId = record.notificationId := congrArg Prod.snd main
    refine ⟨?_, ?_, id ▸ bounds⟩
    · intro given
      rw [label, same.uid]
      exact labelled.ownMain (id ▸ given)
    · intro given
      rw [label]
      exact labelled.mainForm (id ▸ given)
  · exact ⟨fun given => absurd none given, fun given => absurd none given, by omega⟩

theorem SubLabelled.of_record (labelled : SubLabelled tools record)
    (same : ContinuousTaskRecord.SameTask record edited) (sub : edited.subPair = record.subPair) :
    SubLabelled tools edited := by
  have subLabel : edited.subNotificationLabel = record.subNotificationLabel :=
    congrArg Prod.fst sub
  have subId : edited.subNotificationId = record.subNotificationId := congrArg Prod.snd sub
  refine ⟨?_, subId ▸ labelled.subId⟩
  intro given
  rw [subId] at given
  rw [subLabel, createSubNotificationLabel_congr tools.hash same, same.isByRequestObject]
  exact labelled.sub given

theorem MainLabelled.mono {later : NotificationTools} (labelled : MainLabelled tools record)
    (counter : tools.notificationIdIndex ≤ later.notificationIdIndex) :
    MainLabelled later record := by
  have bounds := labelled.mainId
  exact ⟨labelled.ownMain, labelled.mainForm, by omega⟩

theorem SubLabelled.mono {later : NotificationTools} (labelled : SubLabelled tools record)
    (hash : later.hash = tools.hash)
    (counter : tools.notificationIdIndex ≤ later.notificationIdIndex) :
    SubLabelled later record := by
  have bounds := labelled.subId
  refine ⟨?_, by omega⟩
  rw [hash]
  exact labelled.sub

theorem Labelled.mono {later : NotificationTools} (labelled : Labelled tools record)
    (hash : later.hash = tools.hash)
    (counter : tools.notificationIdIndex ≤ later.notificationIdIndex) : Labelled later record :=
  ⟨labelled.toMainLabelled.mono counter, labelled.toSubLabelled.mono hash counter⟩

/-- A record of the same task, with the same notifications or with the main one gone. -/
theorem Labelled.of_record (labelled : Labelled tools record)
    (same : ContinuousTaskRecord.SameTask record edited)
    (main : edited.mainPair = record.mainPair ∨ edited.notificationId = -1)
    (sub : edited.subPair = record.subPair) : Labelled tools edited :=
  ⟨labelled.toMainLabelled.of_record same main, labelled.toSubLabelled.of_record same sub⟩

end Labelled

/-! ## Changes that keep it -/

/-- Neither the notifications of the tasks nor what is shown changes; ids may be taken. -/
structure Unnoticed (before after : BgContinuousTaskMgr) : Prop
    extends SameTasks before after where
  shown : ∀ pair, after.tools.Shown pair ↔ before.tools.Shown pair
  hash : after.tools.hash = before.tools.hash
  notificationIdIndex : before.tools.notificationIdIndex ≤ after.tools.notificationIdIndex

theorem Undisturbed.unnoticed {before after : BgContinuousTaskMgr}
    (same : Undisturbed before after) : Unnoticed before after :=
  ⟨SameTasks.of_taskAt same.taskAt, fun _ => by rw [same.tools], by rw [same.tools],
    by rw [same.tools]⟩

theorem Unnoticed.refl (s : BgContinuousTaskMgr) : Unnoticed s s :=
  (Undisturbed.refl s).unnoticed

theorem Unnoticed.trans {first second third : BgContinuousTaskMgr}
    (early : Unnoticed first second) (late : Unnoticed second third) : Unnoticed first third :=
  ⟨early.toSameTasks.trans late.toSameTasks, fun pair => (late.shown pair).trans (early.shown pair),
    late.hash.trans early.hash, early.notificationIdIndex.trans late.notificationIdIndex⟩

theorem unnoticed_setRecord {s : BgContinuousTaskMgr} {key : String}
    {record edited : ContinuousTaskRecord} (found : s.taskAt key = some record)
    (same : SameNotices record edited) : Unnoticed s (s.setRecord key edited) :=
  ⟨sameTasks_setRecord found same, fun _ => Iff.rfl, rfl, le_refl _⟩

section Numbered

variable {before after : BgContinuousTaskMgr}

theorem Numbered.unnoticed (numbered : Numbered before) (same : Unnoticed before after) :
    Numbered after := by
  refine ⟨?_, numbered.counter.trans same.notificationIdIndex, ?_⟩
  · intro key edited found
    obtain ⟨record, stored, notices⟩ := same.backward key edited found
    have labelled := (numbered.labelled key record stored).of_record notices.toSameTask
      (Or.inl notices.mainPair) notices.subPair
    exact labelled.mono same.hash same.notificationIdIndex
  · intro pair shown
    exact numbered.shownIds pair ((same.shown pair).mp shown)

/-- What a sweep may make of a record: the same task, with its notifications or without the
main one. -/
structure Softened (before after : ContinuousTaskRecord) : Prop
    extends ContinuousTaskRecord.SameTask before after where
  main : after.mainPair = before.mainPair ∨ after.notificationId = -1
  sub : after.subPair = before.subPair

theorem Softened.refl (record : ContinuousTaskRecord) : Softened record record :=
  ⟨ContinuousTaskRecord.SameTask.refl record, Or.inl rfl, rfl⟩

end Numbered

/-! ## Operations that concern no notification -/

theorem sameNotices_note (prompt : Prompt) (record : ContinuousTaskRecord) :
    SameNotices record (prompt.note record) := by
  refine ⟨edited_note record prompt, ?_, ?_⟩
  · unfold Prompt.note
    split
    · rfl
    · rfl
  · unfold Prompt.note
    split
    · rfl
    · rfl

section Silent

variable (s : BgContinuousTaskMgr) (env : Env)

theorem unnoticed_of_fields {before after : BgContinuousTaskMgr}
    (tasks : after.continuousTaskInfosMap = before.continuousTaskInfosMap)
    (tools : after.tools = before.tools) : Unnoticed before after := by
  refine Undisturbed.unnoticed ⟨?_, tools⟩
  intro key
  rw [BgContinuousTaskMgr.taskAt, tasks]
  rfl

theorem pair_refreshed (env : NotificationEnv) (newPromptInfos : PromptInfos)
    (notification : Notification) :
    (NotificationTools.refreshed env newPromptInfos notification).pair = notification.pair := by
  unfold NotificationTools.refreshed
  split
  · rfl
  · split
    · rfl
    · rfl

theorem shown_refreshContinuousNotifications (tools : NotificationTools) (env : NotificationEnv)
    (newPromptInfos : PromptInfos) (pair : String × Int) :
    (tools.refreshContinuousNotifications env newPromptInfos).Shown pair ↔ tools.Shown pair := by
  have kept : Notification.pair ∘ NotificationTools.refreshed env newPromptInfos =
      Notification.pair := by
    funext notification
    exact pair_refreshed env newPromptInfos notification
  unfold NotificationTools.refreshContinuousNotifications
  split
  · exact Iff.rfl
  · unfold NotificationTools.Shown
    rw [List.map_map, kept]

theorem refreshContinuousNotifications_keeps (tools : NotificationTools) (env : NotificationEnv)
    (newPromptInfos : PromptInfos) :
    (tools.refreshContinuousNotifications env newPromptInfos).hash = tools.hash ∧
      (tools.refreshContinuousNotifications env newPromptInfos).notificationIdIndex =
        tools.notificationIdIndex := by
  unfold NotificationTools.refreshContinuousNotifications
  split
  · exact ⟨rfl, rfl⟩
  · exact ⟨rfl, rfl⟩

theorem unnoticed_refresh (newPromptInfos : PromptInfos) :
    Unnoticed s (s.setTools
      (s.tools.refreshContinuousNotifications env.toNotificationEnv newPromptInfos)) := by
  obtain ⟨hash, index⟩ :=
    refreshContinuousNotifications_keeps s.tools env.toNotificationEnv newPromptInfos
  exact ⟨SameTasks.of_taskAt (fun _ => rfl),
    shown_refreshContinuousNotifications s.tools env.toNotificationEnv newPromptInfos, hash,
    le_of_eq index.symm⟩

theorem unnoticed_onBundleResourcesChanged : Unnoticed s (s.onBundleResourcesChanged env) := by
  obtain ⟨hash, index⟩ := refreshContinuousNotifications_keeps s.tools env.toNotificationEnv
    ((KeyedMap.vals s.continuousTaskInfosMap).flatMap (fun record =>
      ({ s with
        texts := getNotificationPrompt env.resourceString s.texts
        cachedBundleInfos := ∅ } : BgContinuousTaskMgr).newPromptInfo env record))
  have notices : ∀ (mgr : BgContinuousTaskMgr) (record : ContinuousTaskRecord),
      SameNotices record (mgr.notedByTexts env record) := by
    intro mgr record
    unfold notedByTexts
    split
    · exact sameNotices_note _ record
    · exact SameNotices.refl record
  refine ⟨⟨?_, ?_⟩, ?_, hash, le_of_eq index.symm⟩
  · intro key record found
    refine ⟨_, ?_, notices { s with
      texts := getNotificationPrompt env.resourceString s.texts
      cachedBundleInfos := ∅ } record⟩
    exact (KeyedMap.lookup_mapVal _ _ key).trans (congrArg _ found)
  · intro key edited found
    obtain ⟨record, stored, rfl⟩ := Option.map_eq_some_iff.mp
      ((KeyedMap.lookup_mapVal _ _ key).symm.trans found)
    exact ⟨record, stored, notices _ record⟩
  · exact shown_refreshContinuousNotifications s.tools env.toNotificationEnv _

theorem unnoticed_notifyAudioStartInner (uid : Int) :
    Unnoticed s (s.notifyAudioStartInner env uid) := by
  apply notifyAudioStartInner_keeps env uid (Unnoticed.refl s)
  · intro key record mgr found early
    exact early.trans (unnoticed_setRecord found
      ⟨⟨⟨rfl, rfl, rfl, rfl, rfl, rfl⟩, rfl⟩, rfl, rfl⟩)
  · intro mgr newPromptInfos early
    exact (early.trans (unnoticed_refresh _ env _)).trans (undisturbed_saveTasks _ env).unnoticed

def Silent : TaskOp → Prop
  | .onAppStateChanged _ _ => True
  | .stopBannerContinuousTaskByUser _ => True
  | .onBundleResourcesChanged => True
  | .notifyAudioStart _ => True
  | .addSubscriber _ => True
  | .removeSubscriber _ _ => True
  | .onRemoteSubscriberDied _ => True
  | .enableContinuousTaskRequest _ _ => True
  | .publishBannerNotification => True
  | .rehash _ => True
  | _ => False

theorem unnoticed_stopBannerContinuousTaskByUser (label : String) :
    Unnoticed s (s.stopBannerContinuousTaskByUser env label) := by
  unfold stopBannerContinuousTaskByUser refreshAuthRecord
  split
  · exact Unnoticed.refl s
  · split
    · split
      · exact unnoticed_of_fields rfl rfl
      · exact unnoticed_of_fields rfl rfl
    · exact Unnoticed.refl s

theorem unnoticed_taskStep {op : TaskOp} (silent : Silent op) :
    Unnoticed s (s.taskStep (env, op)) := by
  cases op with
  | onAppStateChanged uid foreground =>
      show Unnoticed s (s.onAppStateChanged uid foreground)
      unfold onAppStateChanged
      split
      · exact Unnoticed.refl s
      split
      · exact unnoticed_of_fields rfl rfl
      dsimp only
      split
      · exact unnoticed_of_fields rfl rfl
      · exact unnoticed_of_fields rfl rfl
  | stopBannerContinuousTaskByUser label =>
      exact unnoticed_stopBannerContinuousTaskByUser s env label
  | onBundleResourcesChanged => exact unnoticed_onBundleResourcesChanged s env
  | notifyAudioStart uid =>
      show Unnoticed s (if s.isSysReady then s.notifyAudioStartInner env uid else s)
      split
      · exact unnoticed_notifyAudioStartInner s env uid
      · exact Unnoticed.refl s
  | addSubscriber info =>
      show Unnoticed s (s.addSubscriber info)
      unfold addSubscriber
      split
      · exact unnoticed_of_fields rfl rfl
      · exact unnoticed_of_fields rfl rfl
  | removeSubscriber remote flag => exact unnoticed_of_fields rfl rfl
  | onRemoteSubscriberDied remote =>
      show Unnoticed s (s.onRemoteSubscriberDied remote)
      unfold onRemoteSubscriberDied
      split
      · exact unnoticed_of_fields rfl rfl
      · exact Unnoticed.refl s
  | enableContinuousTaskRequest uid isEnable =>
      show Unnoticed s (s.enableContinuousTaskRequest uid isEnable)
      unfold enableContinuousTaskRequest
      split
      · exact Unnoticed.refl s
      split
      · exact unnoticed_of_fields rfl rfl
      · exact unnoticed_of_fields rfl rfl
  | publishBannerNotification =>
      refine ⟨SameTasks.of_taskAt (fun _ => rfl), fun _ => Iff.rfl, rfl, ?_⟩
      show s.tools.notificationIdIndex ≤ s.tools.notificationIdIndex + 1
      omega
  | rehash rank => exact Undisturbed.unnoticed ⟨(quiet_rehash s rank).taskAt, rfl⟩
  | _ => exact absurd silent (by simp [Silent])

end Silent

end BgTaskMgr.Continuous
