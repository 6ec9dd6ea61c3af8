import BgTaskMgr.Continuous.Resending
import BgTaskMgr.Continuous.TaskIds

/-!
# The record file over runs

In a run in which every write succeeds and no step returns without saving after it changed a
written field, the file decodes to the map whenever the manager is ready.  Before that the map
is empty, and the file has what was written last.
-/

set_option autoImplicit false

namespace BgTaskMgr.Continuous

open BgContinuousTaskMgr

/-! ## One step -/

/-- A step does not return without saving after it changed a written field. -/
def TaskSaved (s : BgContinuousTaskMgr) : Env × TaskOp → Prop
  | (env, .client callingUid (.updateBackgroundRunning taskParam)) =>
      s.checkIsSysReadyAndPermission env callingUid = .ok →
        (taskParam.isByRequestObject = true → TaskIdUpdateSaved env callingUid taskParam s) ∧
        (taskParam.isByRequestObject = false → AbilityUpdateSaved env
          (abilityKey callingUid taskParam.abilityName taskParam.abilityId) taskParam s)
  | (env, .client callingUid (.updateDataTransferProgress progress)) =>
      s.checkIsSysReadyAndPermission env callingUid = .ok →
        ProgressSaved env callingUid progress s
  | (_, .onCanceled pair deleteReason) => DeletionSaved pair deleteReason s
  | (env, .onBundleResourcesChanged) => ResourcesSaved env s
  | (env, .sendNotificationByDeteTask taskKeys) => DeteSaved env taskKeys s
  | (env, .notifyAudioStart uid) => AudioStartSaved env uid s
  | _ => True

section Step

variable {env : Env} (saves : env.saveOk = true) {s : BgContinuousTaskMgr}

include saves

theorem fileFollows_clientCall (follows : s.FileFollows) (callingUid : Int) (call : ClientCall)
    (saved : TaskSaved s (env, .client callingUid call)) :
    (s.clientCall env callingUid call).2.FileFollows := by
  cases call with
  | startBackgroundRunning taskParam =>
      show (s.startBackgroundRunning env callingUid taskParam).2.FileFollows
      unfold startBackgroundRunning
      split
      · exact follows
      split
      · exact follows
      split
      · exact follows
      split
      · exact follows
      · exact follows.startInner saves _
  | updateBackgroundRunning taskParam =>
      show (s.updateBackgroundRunning env callingUid taskParam).2.FileFollows
      unfold updateBackgroundRunning
      split
      · exact follows
      rename_i permitted
      obtain ⟨byId, byAbility⟩ := saved (not_not.mp permitted)
      split
      · rename_i object
        exact fileFollows_updateBackgroundRunningByTaskIdInner saves follows callingUid taskParam
          (byId object)
      · rename_i ability
        exact fileFollows_updateBackgroundRunningInner saves follows taskParam
          (byAbility (by simpa using ability))
  | stopBackgroundRunning abilityName abilityId continuousTaskId =>
      show (s.stopBackgroundRunning env callingUid abilityName abilityId
        continuousTaskId).2.FileFollows
      unfold stopBackgroundRunning
      split
      · exact follows
      split
      · exact follows
      · exact follows.stopInner saves callingUid abilityName abilityId continuousTaskId
  | updateDataTransferProgress progress =>
      show (s.updateDataTransferProgress env callingUid progress).2.FileFollows
      unfold updateDataTransferProgress
      split
      · exact follows
      · rename_i permitted
        exact fileFollows_updateDataTransferProgressInner saves follows callingUid progress
          (saved (not_not.mp permitted))

theorem fileFollows_taskStep (follows : s.FileFollows) (op : TaskOp)
    (saved : TaskSaved s (env, op)) : (s.taskStep (env, op)).FileFollows := by
  cases op with
  | client callingUid call => exact fileFollows_clientCall saves follows callingUid call saved
  | requestBackgroundRunningForInner callingUid taskParam =>
      show (s.requestBackgroundRunningForInner env callingUid taskParam).2.FileFollows
      obtain ⟨starts, stops⟩ := follows.forInner saves taskParam callingUid
      unfold requestBackgroundRunningForInner
      split
      · exact follows
      split
      · exact follows
      split
      · exact starts
      · exact stops
  | debugContinuousTask taskParam =>
      show (s.debugContinuousTaskInner env taskParam).2.FileFollows
      obtain ⟨starts, stops⟩ := follows.forInner saves taskParam 0
      unfold debugContinuousTaskInner
      split
      · exact follows
      split
      · exact starts
      · exact stops
  | stopContinuousTask uid taskType key =>
      show (s.stopContinuousTask env uid taskType key).FileFollows
      unfold stopContinuousTask
      split
      · exact follows.handleStop saves uid taskType key
      · exact follows
  | suspendContinuousTask uid mode key isStandby =>
      exact follows.suspend saves uid mode key isStandby
  | activeContinuousTask uid isStandby => exact follows.activate saves uid isStandby
  | suspendContinuousAudioTask uid =>
      show (s.suspendContinuousAudioTask env uid).FileFollows
      unfold suspendContinuousAudioTask
      split
      · exact follows.handleSuspendAudio saves uid
      · exact follows
  | avSessionNotifyUpdateNotification callingUid uid pid isPublish =>
      exact follows.avSession saves callingUid uid pid isPublish
  | runDelayedNotify => exact follows.delayedNotify saves
  | onAbilityStateChanged uid abilityName abilityId =>
      show (s.onAbilityStateChanged env uid abilityName abilityId).FileFollows
      unfold onAbilityStateChanged
      split
      · exact follows
      · exact follows.stopTasks saves _
  | onAppStopped uid => exact follows.appStopped saves uid
  | onAppStateChanged uid foreground => exact follows.of_quiet (quiet_onAppStateChanged s uid foreground)
  | onBundleInfoChanged action bundleName uid userId appIndex =>
      exact follows.bundleInfo saves action bundleName uid userId appIndex
  | onAccountsStateChanged =>
      show (s.onAccountsStateChanged env).FileFollows
      unfold onAccountsStateChanged
      split
      · exact follows
      · exact follows.endTasks (BgContinuousTaskMgr.FileFollows.stopAndSave saves)
  | onRemoveSystemAbility mode =>
      show (s.onRemoveSystemAbility env mode).FileFollows
      unfold onRemoveSystemAbility
      split
      · exact follows.removeByMode saves mode
      · exact follows
  | onConsumed uid => exact follows.consumed saves uid
  | onLiveViewCanceled uid => exact follows.liveViewCanceled saves uid
  | onCanceled pair deleteReason => exact fileFollows_onCanceled saves follows pair deleteReason saved
  | stopBannerContinuousTaskByUser label =>
      exact follows.of_quiet (quiet_stopBannerContinuousTaskByUser s env label)
  | shellDumpCancel taskKey =>
      show (s.shellDumpCancel env taskKey).FileFollows
      unfold shellDumpCancel
      split
      · exact follows
      split
      · exact BgContinuousTaskMgr.FileFollows.dumpCancelAll saves s
      split
      · exact follows
      · exact follows.stopByTask saves _
  | onBundleResourcesChanged => exact fileFollows_onBundleResourcesChanged follows saved
  | sendNotificationByDeteTask taskKeys =>
      exact fileFollows_sendNotificationByDeteTask follows saved
  | notifyAudioStart uid => exact fileFollows_notifyAudioStart saves follows uid saved
  | addSubscriber info =>
      show (s.addSubscriber info).FileFollows
      unfold addSubscriber
      split
      · exact follows.of_eq rfl rfl
      · exact follows.of_eq rfl rfl
  | removeSubscriber remote flag => exact follows.of_eq rfl rfl
  | onRemoteSubscriberDied remote =>
      show (s.onRemoteSubscriberDied remote).FileFollows
      unfold onRemoteSubscriberDied
      split
      · exact follows.of_eq rfl rfl
      · exact follows
  | enableContinuousTaskRequest uid isEnable =>
      exact follows.of_quiet (quiet_enableContinuousTaskRequest s uid isEnable)
  | publishBannerNotification => exact follows.of_eq rfl rfl
  | rehash rank => exact follows.of_quiet (quiet_rehash s rank)

omit saves in
/-- A step leaves the readiness of the manager alone, and before it is ready there is no task
that could be started. -/
theorem taskStep_ready (label : Env × TaskOp) :
    (s.taskStep label).isSysReady = s.isSysReady ∧
      (s.isSysReady = false → Traces s (s.taskStep label)) := by
  have effect : Effect (fun _ => True) s label.2 (s.taskStep label) :=
    taskStep_effect label (fun _ _ _ _ _ _ => trivial)
  generalize s.taskStep label = after at effect ⊢
  obtain ⟨env, op⟩ := label
  cases effect with
  | edits edits => exact ⟨Edits.isSysReady edits, fun _ => Edits.traces edits⟩
  | started record fresh ready start =>
      refine ⟨?_, fun notReady => absurd (ready.symm.trans notReady) (by simp)⟩
      cases start with
      | refused edits => exact (Edits.isSysReady edits).trans rfl
      | @added middle _ stored edits keeps free saved =>
          have same : middle.isSysReady = s.isSysReady := (Edits.isSysReady edits).trans rfl
          exact saved.isSysReady.trans same
  | cleared env =>
      obtain ⟨-, ready, -⟩ := dumpCancelAll_keeps (s := s) env
      exact ⟨ready, fun _ => traces_dumpCancelAll env⟩
  | addSubscriber info =>
      unfold addSubscriber
      split
      · exact ⟨rfl, fun _ => Traces.of_eq rfl rfl⟩
      · exact ⟨rfl, fun _ => Traces.of_eq rfl rfl⟩
  | removeSubscriber remote flag => exact ⟨rfl, fun _ => Traces.of_eq rfl rfl⟩
  | subscriberDied remote =>
      unfold onRemoteSubscriberDied
      split
      · exact ⟨rfl, fun _ => Traces.of_eq rfl rfl⟩
      · exact ⟨rfl, fun _ => Traces.refl s⟩

end Step

/-! ## Runs of the service -/

/-- The same of a step of the service; records that the file has are read at the start, or
the file is written. -/
def ServiceSaved (s : BgContinuousTaskMgr) : Env × ServiceOp → Prop
  | (env, .task op) => s.isSysReady = true → TaskSaved s (env, op)
  | (env, .initRequiredResourceInfo) => s.isSysReady = false →
      env.fileReadable = true ∨ env.allRunningProcesses.isSome = true ∨ s.file.entries = []
  | (_, .restart) => True

/-- While the manager is ready the file follows the map; before, the map is empty, and the
file has what was written. -/
structure FileHeld (s : BgContinuousTaskMgr) : Prop where
  follows : s.isSysReady = true → s.FileFollows
  unready : s.isSysReady = false → ∀ key, s.taskAt key = none
  written : ∀ key record, s.file.lookup key = some record → record.persisted = record

section Runs

variable {s : BgContinuousTaskMgr} {env : Env}

theorem BgContinuousTaskMgr.FileFollows.written (follows : s.FileFollows) (key : String)
    (record : ContinuousTaskRecord) (stored : s.file.lookup key = some record) :
    record.persisted = record := by
  rw [follows key] at stored
  obtain ⟨old, -, rfl⟩ := Option.map_eq_some_iff.mp stored
  rfl

theorem BgContinuousTaskMgr.FileFollows.held (follows : s.FileFollows)
    (ready : s.isSysReady = true) : FileHeld s :=
  ⟨fun _ => follows, fun notReady => absurd (ready.symm.trans notReady) (by simp), follows.written⟩

theorem fileHeld_installed (hash : String → Nat) : FileHeld (installed hash) := by
  refine ⟨fun _ _ => rfl, fun _ => AList.lookup_empty, ?_⟩
  intro key record stored
  exact absurd ((AList.lookup_empty key).symm.trans stored) (by simp)

theorem FileHeld.taskStep (held : FileHeld s) (saves : env.saveOk = true) (op : TaskOp)
    (saved : s.isSysReady = true → TaskSaved s (env, op)) : FileHeld (s.taskStep (env, op)) := by
  obtain ⟨same, traces⟩ := taskStep_ready (s := s) (env, op)
  cases ready : s.isSysReady with
  | true =>
      have follows := fileFollows_taskStep saves (held.follows ready) op (saved ready)
      exact follows.held (same.trans ready)
  | false =>
      have origin := traces ready
      have none := held.unready ready
      refine ⟨fun isReady => ?_, fun _ key => ?_, ?_⟩
      · exact absurd (ready.symm.trans (same.symm.trans isReady)) (by simp)
      · refine Option.eq_none_iff_forall_ne_some.mpr ?_
        intro record found
        obtain ⟨old, stored, -⟩ := origin.origin key record found
        exact absurd ((none key).symm.trans stored) (by simp)
      · intro key record stored
        rcases origin.file with kept | rewritten
        · rw [kept] at stored
          exact held.written key record stored
        · obtain ⟨old, found, -⟩ := rewritten key record stored
          exact absurd ((none key).symm.trans found) (by simp)

/-- The records come back from the file, or the file is written after the check. -/
theorem FileHeld.initRequiredResourceInfo (held : FileHeld s) (saves : env.saveOk = true)
    (notReady : s.isSysReady = false)
    (saved : env.fileReadable = true ∨ env.allRunningProcesses.isSome = true ∨
      s.file.entries = []) : FileHeld (s.initRequiredResourceInfo env) := by
  let prompted := { s with
    texts := getNotificationPrompt env.resourceString
      { s.texts with modeForNotificationText := initNotificationText } }
  have none : ∀ key, prompted.taskAt key = none := held.unready notReady
  refine BgContinuousTaskMgr.FileFollows.held ?_ rfl
  show ({ prompted.handlePersistenceData env with isSysReady := true } :
    BgContinuousTaskMgr).FileFollows
  have follows : (prompted.handlePersistenceData env).FileFollows → ({ prompted.handlePersistenceData
      env with isSysReady := true } : BgContinuousTaskMgr).FileFollows :=
    fun follows => BgContinuousTaskMgr.FileFollows.of_eq follows rfl rfl
  refine follows ?_
  unfold handlePersistenceData
  cases query : env.allRunningProcesses with
  | some allProcesses =>
      have checked := BgContinuousTaskMgr.FileFollows.save saves
        ((prompted.restoreTaskRecord env).checkPersistenceData env allProcesses)
      exact ((checked.of_quiet (quiet_restoreApplyRecord _ env)).of_quiet
        (quiet_restoreAuthRecord _ env)).of_quiet (quiet_refreshAuthRecord _ env)
  | none =>
      intro key
      show (prompted.restoreTaskRecord env).file.lookup key = _
      unfold restoreTaskRecord
      split
      · have absent : key ∉ prompted.continuousTaskInfosMap := AList.lookup_eq_none.mp (none key)
        have restored : ({ prompted with
            continuousTaskInfosMap := prompted.continuousTaskInfosMap ∪ prompted.file } :
              BgContinuousTaskMgr).taskAt key = s.file.lookup key :=
          AList.lookup_union_right absent
        rw [restored]
        show s.file.lookup key = _
        cases stored : s.file.lookup key with
        | none => rfl
        | some record => exact congrArg some (held.written key record stored).symm
      · rename_i unreadable
        have empty : s.file.entries = [] := by
          rcases saved with readable | answered | empty
          · exact absurd readable unreadable
          · rw [query] at answered
            exact absurd answered (by simp)
          · exact empty
        rw [none key]
        refine Option.eq_none_iff_forall_ne_some.mpr ?_
        intro record stored
        have listed := KeyedMap.mem_entries_iff.mpr stored
        have member : (⟨key, record⟩ : Sigma fun _ => ContinuousTaskRecord) ∈ s.file.entries := listed
        rw [empty] at member
        exact absurd member (by simp)

theorem FileHeld.serviceStep (held : FileHeld s) (label : Env × ServiceOp)
    (saves : label.1.saveOk = true) (saved : ServiceSaved s label) :
    FileHeld (s.serviceStep label) := by
  obtain ⟨env, op⟩ := label
  cases op with
  | task op => exact held.taskStep saves op saved
  | initRequiredResourceInfo =>
      show FileHeld (if s.isSysReady then s else s.initRequiredResourceInfo env)
      split
      · exact held
      · rename_i notReady
        have unready : s.isSysReady = false := by simpa using notReady
        exact held.initRequiredResourceInfo saves unready (saved unready)
  | restart =>
      have unready : s.restart.isSysReady = false := rfl
      exact ⟨fun ready => absurd (unready.symm.trans ready) (by simp),
        fun _ => AList.lookup_empty, held.written⟩

end Runs

/-- In every run of the service in which the file is written and no step returns without
saving after it changed a written field, the file decodes to the map whenever the manager is
ready. -/
theorem run_file_follows (hash : String → Nat) (labels : List (Env × ServiceOp))
    (saves : ∀ label ∈ labels, label.1.saveOk = true)
    (saved : StepSystem.Admissible serviceStep ServiceSaved (installed hash) labels)
    (ready : (StepSystem.run serviceStep (installed hash) labels).isSysReady = true) :
    (StepSystem.run serviceStep (installed hash) labels).FileFollows := by
  have preserve : ∀ (s : BgContinuousTaskMgr) (label : Env × ServiceOp), FileHeld s →
      label.1.saveOk = true ∧ ServiceSaved s label → FileHeld (s.serviceStep label) :=
    fun _ label held ok => held.serviceStep label ok.1 ok.2
  have held := StepSystem.run_invariant preserve labels (installed hash)
    (fileHeld_installed hash) (saved.and_forall saves)
  exact held.follows ready

def renewedRun (playing : Bool) : List (Env × ServiceOp) :=
  [(deviceEnv, .initRequiredResourceInfo),
    ((deviceStart 100 (requestOf [BackgroundMode.audioPlayback] [4])).1,
      .task (deviceStart 100 (requestOf [BackgroundMode.audioPlayback] [4])).2),
    ({ deviceEnv with appIsPlaying := fun _ => playing }, .task .onBundleResourcesChanged)]

theorem run_file_follows_renewed :
    (StepSystem.run serviceStep (installed (fun _ => 0)) (renewedRun true)).FileFollows := by
  refine run_file_follows (fun _ => 0) (renewedRun true) (by decide) ?_ (by decide)
  have resources : ResourcesSaved { deviceEnv with appIsPlaying := fun _ => true }
      (StepSystem.run serviceStep (installed (fun _ => 0)) (renewedRun true).dropLast) := by decide
  exact ⟨fun _ => Or.inl rfl, fun _ => trivial, fun _ => resources, trivial⟩

/-- The app does not play when the language changes: its task waits for audio, and the file
says that it does not. -/
theorem renewal_not_saved :
    (∀ label ∈ renewedRun false, label.1.saveOk = true) ∧
      (StepSystem.run serviceStep (installed (fun _ => 0)) (renewedRun false)).isSysReady = true ∧
      ¬ (StepSystem.run serviceStep (installed (fun _ => 0)) (renewedRun false)).FileFollows := by
  refine ⟨by decide, by decide, ?_⟩
  intro follows
  have waits : ((StepSystem.run serviceStep (installed (fun _ => 0)) (renewedRun false)).taskAt
      "100_EntryAbility_1_1").map (fun record => record.audioPlayState) = some false := by decide
  have stored : ((StepSystem.run serviceStep (installed (fun _ => 0)) (renewedRun false)).file.lookup
      "100_EntryAbility_1_1").map (fun record => record.audioPlayState) = some true := by decide
  rw [follows, Option.map_map] at stored
  exact absurd (waits.symm.trans stored) (by simp)

end BgTaskMgr.Continuous
