import BgTaskMgr.Continuous.AuthFrame
import BgTaskMgr.Continuous.Decomposition

/-!
# Who hears of which task

A system ability hears of every task, an app of its own ones, and of those of the other apps
where it has subscribed to the state of background tasks.  `Hears` is what an operation on a
running manager does to the subscribers and to what they are told.
-/

set_option autoImplicit false

namespace BgTaskMgr.Continuous

open BgContinuousTaskMgr

def SubscriberCall.uid : SubscriberCall → Int
  | .onContinuousTaskStart info => info.creatorUid
  | .onContinuousTaskUpdate info => info.creatorUid
  | .onContinuousTaskStop info => info.creatorUid
  | .onContinuousTaskSuspend info => info.creatorUid
  | .onContinuousTaskActive info => info.creatorUid
  | .onAppContinuousTaskStop uid => uid

def SubscriberInfo.MayHear (uid : Int) (self : SubscriberInfo) : Prop :=
  self.isHap = false ∨ self.uid = uid ∨ self.wantsTaskState = true

/-- The subscribers stay, and only those are told of a task who may hear of it. -/
structure Hears (before after : BgContinuousTaskMgr) : Prop where
  subscribers : after.bgTaskSubscribers = before.bgTaskSubscribers
  told : ∃ more, after.calls = before.calls ++ more ∧ ∀ call ∈ more,
    ∃ subscriber ∈ before.bgTaskSubscribers,
      subscriber.remote = call.1 ∧ subscriber.MayHear call.2.uid

namespace Hears

variable {before middle after : BgContinuousTaskMgr}

theorem of_silent (subscribers : after.bgTaskSubscribers = before.bgTaskSubscribers)
    (calls : after.calls = before.calls) : Hears before after :=
  ⟨subscribers, [], by rw [calls, List.append_nil], by simp⟩

theorem refl (s : BgContinuousTaskMgr) : Hears s s := of_silent rfl rfl

theorem of_quiet (same : Quiet before after) : Hears before after :=
  of_silent same.bgTaskSubscribers same.calls

theorem trans (early : Hears before middle) (late : Hears middle after) : Hears before after := by
  obtain ⟨first, toldFirst, allFirst⟩ := early.told
  obtain ⟨second, toldSecond, allSecond⟩ := late.told
  refine ⟨late.subscribers.trans early.subscribers, first ++ second, ?_, ?_⟩
  · rw [toldSecond, toldFirst, List.append_assoc]
  · intro call member
    rcases List.mem_append.mp member with here | there
    · exact allFirst call here
    · rw [← early.subscribers]
      exact allSecond call there

end Hears

/-! ## Calls about one task -/

/-- Whoever is told of a change of a task may hear of it. -/
theorem SubscriberInfo.mayHear_of_callsOf {type : ContinuousTaskEventTriggerType}
    {info : ContinuousTaskCallbackInfo} {call : SubscriberCall} {subscriber : SubscriberInfo}
    (told : call ∈ subscriber.callsOf type info) : subscriber.MayHear call.uid := by
  have about : call.uid = info.creatorUid := by
    unfold callsOf at told
    grind [SubscriberCall.uid]
  rw [about]
  unfold MayHear
  unfold callsOf canNotifyHap at told
  grind

section

variable {touch : Int → Prop} {unheard : ContinuousTaskRecord → Prop}
  {s before after : BgContinuousTaskMgr}

theorem hears_onContinuousTaskChanged (record : ContinuousTaskRecord)
    (type : ContinuousTaskEventTriggerType) (s : BgContinuousTaskMgr) :
    Hears s (s.onContinuousTaskChanged record type) := by
  refine ⟨rfl, _, rfl, ?_⟩
  intro call member
  obtain ⟨subscriber, present, told⟩ := List.mem_flatMap.mp member
  obtain ⟨made, isMade, rfl⟩ := List.mem_map.mp told
  exact ⟨subscriber, present, rfl, subscriber.mayHear_of_callsOf isMade⟩

theorem hears_handleAppContinuousTaskStop (uid : Int) (s : BgContinuousTaskMgr) :
    Hears s (s.handleAppContinuousTaskStop uid) := by
  unfold handleAppContinuousTaskStop
  split
  · exact .refl s
  refine ⟨rfl, _, rfl, ?_⟩
  intro call member
  obtain ⟨subscriber, present, rfl⟩ := List.mem_map.mp member
  obtain ⟨listed, native⟩ := List.mem_filter.mp present
  exact ⟨subscriber, listed, rfl, Or.inl (by simpa using native)⟩

theorem hears_sendAudioCallBackTaskState (record : ContinuousTaskRecord)
    (s : BgContinuousTaskMgr) : Hears s (s.sendAudioCallBackTaskState record) := by
  refine ⟨rfl, _, rfl, ?_⟩
  intro call member
  obtain ⟨subscriber, present, rfl⟩ := List.mem_map.mp member
  obtain ⟨listed, wants⟩ := List.mem_filter.mp present
  rw [Bool.and_eq_true] at wants
  exact ⟨subscriber, listed, rfl, Or.inr (Or.inr wants.2)⟩

/-! ## Sequences of changes -/

theorem hears_change (change : Change touch unheard before after) : Hears before after := by
  cases change with
  | quiet same => exact .of_quiet same
  | edit edited found touched keeps => exact .of_silent rfl rfl
  | editAll edit all keeps => exact .of_silent rfl rfl
  | tell record type unmoved => exact hears_onContinuousTaskChanged record type _
  | appStop uid => exact hears_handleAppContinuousTaskStop uid _
  | audioCallback record => exact hears_sendAudioCallBackTaskState record _
  | @suspend key _ edited found touched same suspended heard =>
      have stored : Hears before (before.setRecord key edited) := .of_silent rfl rfl
      exact stored.trans (hears_onContinuousTaskChanged edited .taskSuspend _)
  | @activate key _ edited found touched same active heard =>
      have stored : Hears before (before.setRecord key edited) := .of_silent rfl rfl
      exact stored.trans (hears_onContinuousTaskChanged edited .taskActive _)
  | finish marked found touched same =>
      exact (hears_onContinuousTaskChanged marked .taskCancel _).trans (.of_silent rfl rfl)

theorem hears_edits (edits : Edits touch unheard before after) : Hears before after := by
  induction edits with
  | refl => exact .refl before
  | tail _ change ih => exact ih.trans (hears_change change)

theorem hears_started {record : ContinuousTaskRecord}
    (started : Started touch unheard record s after) : Hears s after := by
  cases started with
  | refused edits => exact hears_edits edits
  | @added middle _ stored edits keeps free saved =>
      have inserted : Hears middle { middle with
          continuousTaskInfosMap :=
            middle.continuousTaskInfosMap.insert (taskInfoMapKey record) stored } :=
        .of_silent rfl rfl
      have added := inserted.trans (hears_onContinuousTaskChanged stored .taskStart _)
      exact ((hears_edits edits).trans added).trans (.of_quiet saved)

theorem hears_dumpCancelAll (env : Env) (s : BgContinuousTaskMgr) :
    Hears s (s.dumpCancelAll env) := by
  have looped : Hears s (s.forEachTask (dumpCancel env)) := by
    refine KeyedMap.forEach_invariant ?_ s (Hears.refl s)
    intro key record current _ early
    exact early.trans ((Hears.of_quiet (quiet_cancelPair current env record.mainPair)).trans
      (hears_onContinuousTaskChanged record .taskCancel _))
  have cleared : Hears (s.forEachTask (dumpCancel env)) (dumpCleared env s) := .of_silent rfl rfl
  have edits : Edits (fun _ => True) (fun _ => True) (dumpCleared env s) (s.dumpCancelAll env) :=
    edits_dumpCancelAll env
  exact (looped.trans cleared).trans (hears_edits edits)

/-! ## Operations -/

def TaskOp.onSubscribers : TaskOp → Bool
  | .addSubscriber _ => true
  | .removeSubscriber _ _ => true
  | .onRemoteSubscriberDied _ => true
  | _ => false

theorem hears_effect {op : TaskOp} (effect : Effect unheard s op after)
    (apart : op.onSubscribers = false) : Hears s after := by
  cases effect with
  | edits edits => exact hears_edits edits
  | started record fresh ready start =>
      have numbered : Hears s s.nextTaskId := .of_silent rfl rfl
      exact numbered.trans (hears_started start)
  | cleared env => exact hears_dumpCancelAll env s
  | addSubscriber info => exact absurd apart.symm Bool.false_ne_true
  | removeSubscriber remote flag => exact absurd apart.symm Bool.false_ne_true
  | subscriberDied remote => exact absurd apart.symm Bool.false_ne_true

theorem hears_taskStep (env : Env) (op : TaskOp) (apart : op.onSubscribers = false)
    (s : BgContinuousTaskMgr) : Hears s (s.taskStep (env, op)) :=
  hears_effect (@taskStep_effect (fun _ => True) s (env, op)
    (fun _ _ _ _ _ _ => trivial)) apart

theorem hears_checkPersistenceData (env : Env) (allProcesses : List Int)
    (s : BgContinuousTaskMgr) : Hears s (s.checkPersistenceData env allProcesses) := by
  have looped : Hears s (s.forEachTask (checkRestored env allProcesses)) := by
    refine KeyedMap.forEach_invariant ?_ s (Hears.refl s)
    intro key record current _ early
    refine early.trans ?_
    unfold checkRestored
    split
    · have erased : Hears current (current.eraseRecord key) := .of_silent rfl rfl
      exact erased.trans (.of_quiet (quiet_cancelNotification _ env record))
    split
    · exact .refl current
    · exact (Hears.of_quiet (quiet_setCachedBundleInfo current env record)).trans
        (.of_silent rfl rfl)
  exact looped.trans (.of_silent rfl rfl)

theorem hears_initRequiredResourceInfo (env : Env) (s : BgContinuousTaskMgr) :
    Hears s (s.initRequiredResourceInfo env) := by
  have restored (s : BgContinuousTaskMgr) : Hears s (s.restoreTaskRecord env) := by
    unfold restoreTaskRecord
    split
    · exact .of_silent rfl rfl
    · exact .refl s
  have applied (s : BgContinuousTaskMgr) : Hears s (s.restoreApplyRecord env) := by
    unfold restoreApplyRecord
    split
    · exact .of_silent rfl rfl
    · exact .of_silent rfl rfl
  have authorised (s : BgContinuousTaskMgr) : Hears s (s.restoreAuthRecord env) := by
    unfold restoreAuthRecord
    split
    · exact .refl s
    · exact .of_silent rfl rfl
  have persisted (s : BgContinuousTaskMgr) : Hears s (s.handlePersistenceData env) := by
    unfold handlePersistenceData
    dsimp only
    split
    · exact restored s
    · rename_i allProcesses _
      have checked := (restored s).trans (hears_checkPersistenceData env allProcesses _)
      have saved := checked.trans (.of_quiet (quiet_saveTasks _ env))
      exact ((saved.trans (applied _)).trans (authorised _)).trans
        (.of_quiet (quiet_refreshAuthRecord _ env))
  have prompted : Hears s { s with
      texts := getNotificationPrompt env.resourceString
        { s.texts with modeForNotificationText := initNotificationText } } := .of_silent rfl rfl
  exact (prompted.trans (persisted _)).trans (.of_silent rfl rfl)

theorem hears_authStep (env : AuthEnv) (op : AuthOp) (lives : op ≠ .service .restart)
    (apart : ∀ task, op = .service (.task task) → task.onSubscribers = false) (s : AuthMgr) :
    Hears s.mgr (s.authStep (env, op)).mgr := by
  by_cases isService : ∃ service, op = .service service
  · obtain ⟨service, rfl⟩ := isService
    cases service with
    | task task => exact hears_taskStep env.toEnv task (apart task rfl) s.mgr
    | initRequiredResourceInfo =>
        show Hears s.mgr (s.mgr.serviceStep (env.toEnv, .initRequiredResourceInfo))
        unfold serviceStep
        dsimp only
        split
        · exact .refl s.mgr
        · exact hears_initRequiredResourceInfo env.toEnv s.mgr
    | restart => exact absurd rfl lives
  · exact .of_quiet (AuthMgr.beside_authStep env op (fun service same =>
      isService ⟨service, same⟩) s).quiet

end

end BgTaskMgr.Continuous
