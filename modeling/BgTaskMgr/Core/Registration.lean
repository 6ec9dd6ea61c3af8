import BgTaskMgr.Continuous.Hearing
import BgTaskMgr.Core.Subscriptions

/-!
# Subscribers of the service

The service does to the lists of its managers what `Registry` does, event by event.
-/

set_option autoImplicit false

namespace BgTaskMgr.Core

open BgTaskMgr.Continuous StepSystem

namespace BackgroundTaskMgrService

def registry (self : BackgroundTaskMgrService) : Registry where
  infos := self.continuous.mgr.bgTaskSubscribers
  continuousDeaths := self.continuousDeaths
  transient := ⟨self.transientSubscribers, self.transientDeaths⟩
  resource := ⟨self.resourceSubscribers, self.resourceDeaths⟩
  underWay := self.underWay
  dead := self.dead

def registryOp (env : ServiceEnv) (self : BackgroundTaskMgrService) :
    ServiceEvent → Option RegistryOp
  | .request (.subscribeBackgroundTask (some remote) flag) =>
      if self.publications = 0 then none
      else
        match checkSubscription env flag with
        | .error _ => none
        | .ok isHap => some (.subscribe ⟨remote, env.caller.uid, env.caller.pid, isHap, flag⟩)
  | .request (.unsubscribeBackgroundTask (some remote) flag) =>
      if self.publications = 0 then none
      else
        match checkSubscription env flag with
        | .error _ => none
        | .ok isHap => some (.unsubscribe remote flag isHap)
  | .proceed index => some (.proceed index)
  | .remoteDies remote => some (.remoteDies remote)
  | .subscriberDied owner remote => some (.subscriberDied owner remote)
  | .restart => some .restart
  | _ => none

section

variable {env : ServiceEnv} {params : Transient.Params} {s after : BackgroundTaskMgrService}

/-! ## Steps on the lists -/

theorem inContinuous_iff (remote : Nat) (s : BackgroundTaskMgrService) :
    s.inContinuous remote = true ↔ s.registry.Knows remote := by
  unfold inContinuous Registry.Knows
  simp [registry]

theorem registry_addContinuousSubscriber (info : SubscriberInfo) :
    (s.addContinuousSubscriber env info).registry = s.registry.addContinuous info := by
  have stepped : (s.taskStep env (.addSubscriber info)).continuous.mgr =
      s.continuous.mgr.addSubscriber info := rfl
  unfold addContinuousSubscriber Registry.addContinuous
  dsimp only
  by_cases known : s.registry.Knows info.remote
  · have listed := (inContinuous_iff info.remote s).mpr known
    rw [if_pos listed, if_pos known]
    unfold registry
    rw [stepped, BgContinuousTaskMgr.addSubscriber]
    unfold inContinuous at listed
    rw [if_pos listed]
    rfl
  · have unlisted : ¬ s.inContinuous info.remote = true :=
      fun listed => known ((inContinuous_iff info.remote s).mp listed)
    rw [if_neg unlisted, if_neg known]
    unfold registry
    dsimp only
    rw [stepped, BgContinuousTaskMgr.addSubscriber]
    unfold inContinuous at unlisted
    rw [if_neg unlisted]
    rfl

theorem registry_removeContinuousSubscriber (remote : Nat) (flag : BitVec 32) :
    (s.removeContinuousSubscriber env remote flag).registry =
      s.registry.removeContinuous remote flag := by
  have removed : (s.taskStep env (.removeSubscriber remote flag)).registry =
      { s.registry with
        infos := s.registry.infos.filterMap (Registry.withoutFlag remote flag) } := rfl
  unfold removeContinuousSubscriber Registry.removeContinuous
  dsimp only
  rw [← removed]
  simp only [Bool.and_eq_true, Bool.not_eq_true', ← Bool.not_eq_true, inContinuous_iff]
  split
  · rfl
  · rfl

theorem registry_proceed (index : Nat) :
    (s.proceed index).registry = s.registry.proceed index := by
  have transient (call : SubscriptionCall) :
      (if call.subscribes then s.addTransientSubscriber call.remote
        else s.removeTransientSubscriber call.remote).registry =
        { s.registry with
          transient := Registry.settle s.dead call s.registry.transient } := by
    unfold Registry.settle addTransientSubscriber removeTransientSubscriber Roster.join Roster.leave
    grind [registry]
  have resource (call : SubscriptionCall) :
      (if call.subscribes then s.addResourceSubscriber call.remote
        else s.removeResourceSubscriber call.remote).registry =
        { s.registry with
          resource := Registry.settle s.dead call s.registry.resource } := by
    unfold Registry.settle addResourceSubscriber removeResourceSubscriber Roster.join Roster.leave
    grind [registry]
  have underWay_registry : s.registry.underWay = s.underWay := rfl
  unfold proceed Registry.proceed
  rw [underWay_registry]
  cases s.underWay[index]? with
  | none => rfl
  | some call =>
      dsimp only
      split
      · exact congrArg (fun lists => { lists with
          underWay := s.underWay.set index { call with transientDone := true } }) (transient call)
      · exact congrArg (fun lists => { lists with underWay := s.underWay.eraseIdx index })
          (resource call)

/-- The recipient of the continuous task manager is heard once the manager is ready. -/
theorem registry_subscriberDied (owner : SubscriberOwner) (remote : Nat)
    (ready : remote ∈ s.continuousDeaths.underWay → s.continuous.mgr.isSysReady = true) :
    (s.subscriberDied env owner remote).registry = s.registry.subscriberDied owner remote := by
  cases owner with
  | continuous =>
      unfold subscriberDied Registry.subscriberDied
      show registry (if remote ∈ s.continuousDeaths.underWay then _ else _) =
        if remote ∈ s.continuousDeaths.underWay then _ else _
      split
      · rename_i arrives
        have stepped : (s.taskStep env (.onRemoteSubscriberDied remote)).continuous.mgr =
            s.continuous.mgr.onRemoteSubscriberDied remote := rfl
        unfold registry
        dsimp only
        rw [stepped, BgContinuousTaskMgr.onRemoteSubscriberDied, if_pos (ready arrives)]
        rfl
      · rfl
  | transient =>
      unfold subscriberDied Registry.subscriberDied Roster.told
      grind [registry]
  | efficiency =>
      unfold subscriberDied Registry.subscriberDied Roster.told
      grind [registry]

/-! ## Everything else -/

/-- The lists stay, and who is told of a task may hear of it. -/
def Apart (s after : BackgroundTaskMgrService) : Prop :=
  after.registry = s.registry ∧ Hears s.continuous.mgr after.continuous.mgr

theorem Apart.refl (s : BackgroundTaskMgrService) : Apart s s := ⟨rfl, .refl _⟩

theorem Apart.trans {middle : BackgroundTaskMgrService} (early : Apart s middle)
    (late : Apart middle after) : Apart s after :=
  ⟨late.1.trans early.1, early.2.trans late.2⟩

/-- An event that the managers take only when it is one of theirs. -/
theorem Apart.whenever {p : Prop} [Decidable p] (apart : p → Apart s after) :
    Apart s (if p then after else s) := by
  split
  · rename_i holds
    exact apart holds
  · exact .refl s

theorem apart_continuousStep (env : ServiceEnv) (op : AuthOp) (lives : op ≠ .service .restart)
    (apart : ∀ task, op = .service (.task task) → task.onSubscribers = false)
    (s : BackgroundTaskMgrService) : Apart s (s.continuousStep env op) := by
  have hears := hears_authStep (s.continuousEnv env) op lives apart s.continuous
  refine ⟨?_, hears⟩
  show Registry.mk (s.continuous.authStep (s.continuousEnv env, op)).mgr.bgTaskSubscribers
    _ _ _ _ _ = _
  rw [hears.subscribers]
  rfl

theorem apart_taskStep (env : ServiceEnv) (op : TaskOp) (apart : op.onSubscribers = false)
    (s : BackgroundTaskMgrService) : Apart s (s.taskStep env op) :=
  apart_continuousStep env _ (fun same => by injection same with same; injection same)
    (fun task same => by
      injection same with same
      injection same with same
      exact same ▸ apart) s

theorem apart_transientStep (env : ServiceEnv) (params : Transient.Params) (op : Transient.Op)
    (s : BackgroundTaskMgrService) : Apart s (s.transientStep env params op) := ⟨rfl, .refl _⟩

theorem apart_efficiencyStep (env : ServiceEnv) (op : Efficiency.ServiceOp)
    (s : BackgroundTaskMgrService) : Apart s (s.efficiencyStep env op) := ⟨rfl, .refl _⟩

theorem apart_setReady (env : ServiceEnv) (flag : BitVec 32) (s : BackgroundTaskMgrService) :
    Apart s (s.setReady env flag) := by
  unfold setReady
  dsimp only
  split
  · exact .refl s
  split
  · exact ⟨rfl, .refl _⟩
  split
  · exact ⟨rfl, .refl _⟩
  split
  · exact ⟨rfl, .refl _⟩
  · exact ⟨rfl, .refl _⟩

theorem apart_initTransient (env : ServiceEnv) (params : Transient.Params) (servicesUp : Bool)
    (s : BackgroundTaskMgrService) : Apart s (s.initTransient env params servicesUp) := by
  unfold initTransient
  dsimp only
  split
  · exact .refl s
  split
  · exact (apart_transientStep env params _ s).trans (apart_setReady env _ _)
  · exact apart_transientStep env params _ s

theorem apart_initContinuous (env : ServiceEnv) (s : BackgroundTaskMgrService) :
    Apart s (s.initContinuous env) := by
  unfold initContinuous
  split
  · exact .refl s
  · exact (apart_continuousStep env _ (by simp) (by simp) s).trans (apart_setReady env _ _)

theorem apart_onAddSystemAbility (env : ServiceEnv) (ability : Efficiency.DependedAbility)
    (s : BackgroundTaskMgrService) : Apart s (s.onAddSystemAbility env ability) := by
  unfold onAddSystemAbility
  dsimp only
  split
  · exact (apart_efficiencyStep env _ s).trans (apart_setReady env _ _)
  · exact apart_efficiencyStep env _ s

theorem apart_onRemoveSystemAbility (env : ServiceEnv) (params : Transient.Params)
    (ability : SystemAbility) (s : BackgroundTaskMgrService) :
    Apart s (s.onRemoveSystemAbility env params ability) := by
  cases ability with
  | appMgr => exact apart_efficiencyStep env _ s
  | bundleMgr => exact apart_efficiencyStep env _ s
  | resSched => exact apart_efficiencyStep env _ s
  | voipCallManager => exact apart_taskStep env _ rfl s
  | healthSport => exact apart_taskStep env _ rfl s
  | aamConn => exact apart_taskStep env _ rfl s
  | suspendManager => exact apart_transientStep env params _ s

theorem apart_gated {allowed : Bool} {call : ServiceErrCode × BackgroundTaskMgrService}
    (apart : Apart s call.2) : Apart s (s.gated allowed call).2 := by
  unfold gated
  split
  · exact apart
  · exact .refl s

theorem apart_checkedBy {code : ErrCode} {call : ServiceErrCode × BackgroundTaskMgrService}
    (apart : Apart s call.2) : Apart s (s.checkedBy code call).2 := by
  unfold checkedBy
  split
  · exact apart
  · exact .refl s

theorem apart_setBgTaskConfig (env : ServiceEnv) (configData : Option Json) (sourceType : Int)
    (s : BackgroundTaskMgrService) :
    Apart s (s.setBgTaskConfig env configData sourceType).2 := by
  unfold setBgTaskConfig
  split
  · exact .refl s
  split
  · exact .refl s
  dsimp only
  split
  · exact .refl s
  · exact .refl s

theorem apart_dump (env : ServiceEnv) (params : Transient.Params) (command : DumpCommand)
    (s : BackgroundTaskMgrService) : Apart s (s.dump env params command) := by
  cases command with
  | allRequestId => exact apart_transientStep env params _ s
  | setDump isDump => exact apart_transientStep env params _ s
  | taskTime pause uid =>
      unfold dump
      dsimp only
      split
      · exact apart_transientStep env params _ s
      · exact .refl s
  | cancelTask taskKey => exact apart_taskStep env _ rfl s
  | innerTask taskParam => exact apart_taskStep env _ rfl s
  | efficiency dumpOption => exact apart_efficiencyStep env _ s

def Request.onSubscribers : Request → Bool
  | .subscribeBackgroundTask _ _ => true
  | .unsubscribeBackgroundTask _ _ => true
  | _ => false

theorem apart_request (env : ServiceEnv) (params : Transient.Params) (call : Request)
    (apart : Request.onSubscribers call = false) (s : BackgroundTaskMgrService) :
    Apart s (s.request env params call).2 := by
  cases call with
  | requestSuspendDelay callback => exact apart_gated (apart_transientStep env params _ s)
  | cancelSuspendDelay requestId => exact apart_transientStep env params _ s
  | getAllTransientTasks => exact apart_transientStep env params _ s
  | pauseTransientTaskTimeForInner uid => exact apart_transientStep env params _ s
  | startTransientTaskTimeForInner uid => exact apart_transientStep env params _ s
  | setBgTaskConfig configData sourceType =>
      exact apart_gated (apart_setBgTaskConfig env configData sourceType s)
  | startBackgroundRunning taskParam => exact apart_gated (apart_taskStep env _ rfl s)
  | updateBackgroundRunning taskParam => exact apart_gated (apart_taskStep env _ rfl s)
  | requestBackgroundRunningForInner taskParam => exact apart_taskStep env _ rfl s
  | stopBackgroundRunning abilityName abilityId continuousTaskId =>
      exact apart_taskStep env _ rfl s
  | updateDataTransferProgress progressInfo => exact apart_gated (apart_taskStep env _ rfl s)
  | subscribeBackgroundTask subscriber flag => exact absurd apart.symm Bool.false_ne_true
  | unsubscribeBackgroundTask subscriber flag => exact absurd apart.symm Bool.false_ne_true
  | applyEfficiencyResources resourceInfo => exact apart_efficiencyStep env _ s
  | resetAllEfficiencyResources => exact apart_efficiencyStep env _ s
  | stopContinuousTask uid pid taskType key => exact apart_gated (apart_taskStep env _ rfl s)
  | suspendContinuousTask uid pid reason key isStandby =>
      exact apart_gated (apart_taskStep env _ rfl s)
  | activeContinuousTask uid pid key isStandby => exact apart_gated (apart_taskStep env _ rfl s)
  | avSessionNotifyUpdateNotification uid pid isPublish =>
      exact apart_gated (apart_taskStep env _ rfl s)
  | suspendContinuousAudioTask uid => exact apart_gated (apart_taskStep env _ rfl s)
  | setSupportedTaskKeepingProcesses processSet => exact apart_gated ⟨rfl, .refl _⟩
  | setMaliciousAppConfig maliciousAppSet => exact apart_gated ⟨rfl, .refl _⟩
  | setSpecialExemptedProcess bundleNameSet => exact apart_gated ⟨rfl, .refl _⟩
  | requestAuthFromUser taskParam requestAuthApiVersion callback =>
      exact apart_checkedBy (apart_continuousStep env _ (by simp) (by simp) s)
  | enableContinuousTaskRequest uid isEnable => exact apart_gated (apart_taskStep env _ rfl s)
  | setBackgroundTaskState taskParam =>
      exact apart_checkedBy (apart_continuousStep env _ (by simp) (by simp) s)
  | sendNotificationByDeteTask taskKeys => exact apart_gated (apart_taskStep env _ rfl s)
  | removeAuthRecord taskParam =>
      exact apart_gated (apart_continuousStep env _ (by simp) (by simp) s)
  | dump command => exact apart_gated (apart_dump env params command s)

theorem apart_continuousEvent (env : ServiceEnv) (op : AuthOp) (isEvent : continuousEvent op = true)
    (s : BackgroundTaskMgrService) : Apart s (s.continuousStep env op) := by
  refine apart_continuousStep env op ?_ ?_ s
  · rintro rfl
    exact absurd isEvent Bool.false_ne_true
  · rintro task rfl
    cases task with
    | addSubscriber info => exact absurd isEvent Bool.false_ne_true
    | removeSubscriber remote flag => exact absurd isEvent Bool.false_ne_true
    | onRemoteSubscriberDied remote => exact absurd isEvent Bool.false_ne_true
    | _ => rfl

/-! ## One event -/

inductive SubscriberStep (env : ServiceEnv) (s after : BackgroundTaskMgrService)
    (event : ServiceEvent) : Prop where
  | apart (none : s.registryOp env event = none) (apart : Apart s after) :
      SubscriberStep env s after event
  | lists (op : RegistryOp) (isOp : s.registryOp env event = some op)
      (registry : after.registry = s.registry.step op)
      (silent : after.continuous.mgr.calls = s.continuous.mgr.calls) :
      SubscriberStep env s after event
  | restarted (isRestart : event = .restart)
      (registry : after.registry = s.registry.step .restart)
      (silent : after.continuous.mgr.calls = []) : SubscriberStep env s after event

theorem calls_addSubscriber (info : SubscriberInfo) (s : BgContinuousTaskMgr) :
    (s.addSubscriber info).calls = s.calls := by
  unfold BgContinuousTaskMgr.addSubscriber
  split
  · rfl
  · rfl

theorem calls_onRemoteSubscriberDied (remote : Nat) (s : BgContinuousTaskMgr) :
    (s.onRemoteSubscriberDied remote).calls = s.calls := by
  unfold BgContinuousTaskMgr.onRemoteSubscriberDied
  split
  · rfl
  · rfl

/-- A call of a system ability succeeds exactly if its last task changes the list of the
efficiency resources manager. -/
theorem proceedCode_eq_ok_iff {index : Nat} {call : SubscriptionCall}
    (next : s.underWay[index]? = some call) (last : call.transientDone = true) :
    s.proceedCode index = some .ok ↔
      (s.proceed index).resourceSubscribers ≠ s.resourceSubscribers := by
  unfold proceedCode proceed
  rw [next]
  simp only [last, Bool.not_true, Bool.false_eq_true, if_false]
  unfold addResourceSubscriber removeResourceSubscriber
  by_cases known : call.remote ∈ s.resourceSubscribers
  · have shorter : s.resourceSubscribers.erase call.remote ≠ s.resourceSubscribers := by
      intro same
      have fewer := List.length_erase_of_mem known
      have some := List.length_pos_of_mem known
      rw [same] at fewer
      omega
    cases call.subscribes with
    | true => simp [known]
    | false => simp [known, shorter]
  · cases call.subscribes with
    | true => simp [known]
    | false => simp [known]

theorem registryOp_unpublished (unpublished : s.publications = 0) (call : Request) :
    s.registryOp env (.request call) = none := by
  unfold registryOp
  grind

theorem subscriberStep_subscribe (subscriber : Option Nat) (flag : BitVec 32)
    (published : s.publications ≠ 0) :
    SubscriberStep env s (s.subscribeBackgroundTask env subscriber flag).2
      (.request (.subscribeBackgroundTask subscriber flag)) := by
  cases subscriber with
  | none =>
      refine .apart rfl ?_
      unfold subscribeBackgroundTask
      split
      · exact .refl s
      · exact .refl s
      · rename_i impossible
        exact nomatch impossible
  | some remote =>
      unfold subscribeBackgroundTask
      cases check : checkSubscription env flag with
      | error code =>
          refine .apart ?_ (.refl s)
          show (if _ then _ else _) = _
          rw [if_neg published, check]
      | ok isHap =>
          have registry := @registry_addContinuousSubscriber env s
            ⟨remote, env.caller.uid, env.caller.pid, isHap, flag⟩
          have silent : (s.addContinuousSubscriber env
              ⟨remote, env.caller.uid, env.caller.pid, isHap, flag⟩).continuous.mgr.calls =
              s.continuous.mgr.calls := by
            unfold addContinuousSubscriber
            dsimp only
            split
            · exact calls_addSubscriber _ _
            · exact calls_addSubscriber _ _
          refine .lists (.subscribe ⟨remote, env.caller.uid, env.caller.pid, isHap, flag⟩) ?_ ?_ ?_
          · show (if _ then _ else _) = _
            rw [if_neg published, check]
          · unfold Registry.step
            dsimp only
            rw [← registry]
            cases isHap with
            | true => rfl
            | false => rfl
          · cases isHap with
            | true => exact silent
            | false => exact silent

theorem subscriberStep_unsubscribe (subscriber : Option Nat) (flag : BitVec 32)
    (published : s.publications ≠ 0) :
    SubscriberStep env s (s.unsubscribeBackgroundTask env subscriber flag).2
      (.request (.unsubscribeBackgroundTask subscriber flag)) := by
  cases subscriber with
  | none =>
      refine .apart rfl ?_
      unfold unsubscribeBackgroundTask
      split
      · exact .refl s
      · exact .refl s
      · rename_i impossible
        exact nomatch impossible
  | some remote =>
      unfold unsubscribeBackgroundTask
      cases check : checkSubscription env flag with
      | error code =>
          refine .apart ?_ (.refl s)
          show (if _ then _ else _) = _
          rw [if_neg published, check]
      | ok isHap =>
          have registry := @registry_removeContinuousSubscriber env s remote flag
          have silent : (s.removeContinuousSubscriber env remote flag).continuous.mgr.calls =
              s.continuous.mgr.calls := by
            unfold removeContinuousSubscriber
            dsimp only
            split
            · rfl
            · rfl
          refine .lists (.unsubscribe remote flag isHap) ?_ ?_ ?_
          · show (if _ then _ else _) = _
            rw [if_neg published, check]
          · unfold Registry.step
            dsimp only
            rw [← registry]
            cases isHap with
            | true => rfl
            | false => rfl
          · cases isHap with
            | true => exact silent
            | false => exact silent

theorem calls_proceed (index : Nat) (s : BackgroundTaskMgrService) :
    (s.proceed index).continuous = s.continuous := by
  unfold proceed addTransientSubscriber removeTransientSubscriber addResourceSubscriber
    removeResourceSubscriber
  grind

theorem calls_subscriberDied (owner : SubscriberOwner) (remote : Nat)
    (s : BackgroundTaskMgrService) :
    (s.subscriberDied env owner remote).continuous.mgr.calls = s.continuous.mgr.calls := by
  unfold subscriberDied
  cases owner with
  | continuous =>
      dsimp only
      split
      · exact calls_onRemoteSubscriberDied remote s.continuous.mgr
      · rfl
  | transient =>
      dsimp only
      split
      · rfl
      · rfl
  | efficiency =>
      dsimp only
      split
      · rfl
      · rfl

theorem subscriberStep_step (event : ServiceEvent) (s : BackgroundTaskMgrService)
    (ready : ∀ remote ∈ s.continuousDeaths.underWay, s.continuous.mgr.isSysReady = true) :
    SubscriberStep env s (step params s (env, event)) event := by
  cases event with
  | request call =>
      unfold step
      dsimp only
      by_cases published : s.publications = 0
      · rw [if_pos published]
        exact .apart (registryOp_unpublished published call) (.refl s)
      rw [if_neg published]
      cases call with
      | subscribeBackgroundTask subscriber flag =>
          exact subscriberStep_subscribe subscriber flag published
      | unsubscribeBackgroundTask subscriber flag =>
          exact subscriberStep_unsubscribe subscriber flag published
      | _ => exact .apart rfl (apart_request env params _ rfl s)
  | proceed index =>
      exact .lists (.proceed index) rfl (registry_proceed index)
        (congrArg (fun continuous => continuous.mgr.calls) (calls_proceed index s))
  | initTransient servicesUp => exact .apart rfl (apart_initTransient env params servicesUp s)
  | initContinuous => exact .apart rfl (apart_initContinuous env s)
  | addSystemAbility ability =>
      refine .apart rfl ?_
      cases ability with
      | appMgr => exact apart_onAddSystemAbility env .appMgr s
      | bundleMgr => exact apart_onAddSystemAbility env .bundleMgr s
      | resSched => exact apart_onAddSystemAbility env .resSched s
      | _ => exact .refl s
  | removeSystemAbility ability =>
      exact .apart rfl (apart_onRemoveSystemAbility env params ability s)
  | transient op =>
      exact .apart rfl (.whenever fun _ => apart_transientStep env params op s)
  | continuous op =>
      exact .apart rfl (.whenever fun isEvent => apart_continuousEvent env op isEvent s)
  | efficiency op =>
      exact .apart rfl (.whenever fun _ => apart_efficiencyStep env _ s)
  | remoteDies remote => exact .lists (.remoteDies remote) rfl rfl rfl
  | subscriberDied owner remote =>
      exact .lists (.subscriberDied owner remote) rfl
        (registry_subscriberDied owner remote (ready remote)) (calls_subscriberDied owner remote s)
  | expiredCallbackDied remote =>
      refine .apart rfl ?_
      exact (apart_transientStep env params (.expiredCallbackDeath remote) s).trans
        (apart_continuousStep env (.handleAuthExpiredCallbackDeath remote) (by simp) (by simp) _)
  | stop => exact .apart rfl ⟨rfl, .refl _⟩
  | restart => exact .restarted rfl rfl rfl

end

end BackgroundTaskMgrService

/-! ## Runs -/

open BackgroundTaskMgrService

section

variable {params : Transient.Params} {hash : String → Nat} {env : ServiceEnv}
  {s : BackgroundTaskMgrService}

/-- A process that has published nothing has no death recipient. -/
theorem continuousDeaths_step (event : ServiceEvent)
    (unattended : s.publications = 0 → s.continuousDeaths = {})
    (effect : SubscriberStep env s (step params s (env, event)) event) :
    (step params s (env, event)).publications = 0 →
      (step params s (env, event)).continuousDeaths = {} := by
  intro unpublished
  have progress := @readinessStep_step params env event s
  generalize step params s (env, event) = after at effect progress unpublished
  have before : event ≠ .restart → s.publications = 0 := by
    intro lives
    cases progress with
    | kept _ _ publications _ _ => exact publications.symm.trans unpublished
    | reported _ manager progress _ =>
        have publications : after.publications =
            (s.progress.report (Publishes env) (readyFlag manager)).publications :=
          congrArg Progress.publications progress
        unfold Progress.report at publications
        grind [progress]
    | restarted => exact absurd rfl lives
  cases effect with
  | apart none apart =>
      have lives : event ≠ .restart := by
        rintro rfl
        exact nomatch none
      have same : after.continuousDeaths = s.continuousDeaths :=
        congrArg Registry.continuousDeaths apart.1
      rw [same]
      exact unattended (before lives)
  | restarted isRestart registry silent =>
      have same : after.continuousDeaths = {} := congrArg Registry.continuousDeaths registry
      exact same
  | lists op isOp registry silent =>
      have same : after.continuousDeaths = (s.registry.step op).continuousDeaths :=
        congrArg Registry.continuousDeaths registry
      rw [same]
      by_cases lives : event = .restart
      · subst lives
        obtain rfl := Option.some.inj isOp
        rfl
      have quiet : s.registry.continuousDeaths = {} := unattended (before lives)
      cases event with
      | request call =>
          rw [registryOp_unpublished (before lives) call] at isOp
          exact nomatch isOp
      | proceed index =>
          obtain rfl := Option.some.inj isOp
          show (s.registry.proceed index).continuousDeaths = {}
          unfold Registry.proceed
          grind
      | remoteDies remote =>
          obtain rfl := Option.some.inj isOp
          show s.registry.continuousDeaths.die remote = {}
          rw [quiet]
          rfl
      | subscriberDied owner remote =>
          obtain rfl := Option.some.inj isOp
          show (s.registry.subscriberDied owner remote).continuousDeaths = {}
          unfold Registry.subscriberDied
          rw [quiet]
          grind
      | restart => exact absurd rfl lives
      | _ => exact nomatch isOp

/-- In every run a recipient that the continuous task manager has attached finds it ready. -/
theorem attended_run (params : Transient.Params) (hash : String → Nat)
    (labels : List (ServiceEnv × ServiceEvent)) :
    ∀ remote ∈ (run (step params) (installed hash) labels).continuousDeaths.underWay,
      (run (step params) (installed hash) labels).continuous.mgr.isSysReady = true := by
  have ready (labels : List (ServiceEnv × ServiceEvent))
      (unattended : (run (step params) (installed hash) labels).publications = 0 →
        (run (step params) (installed hash) labels).continuousDeaths = {}) :
      ∀ remote ∈ (run (step params) (installed hash) labels).continuousDeaths.underWay,
        (run (step params) (installed hash) labels).continuous.mgr.isSysReady = true := by
    intro remote told
    have held := @reported_run params hash labels
    have published : (run (step params) (installed hash) labels).publications = 1 := by
      have := held.once
      by_contra never
      rw [unattended (by omega)] at told
      exact absurd told (Finset.notMem_empty remote)
    exact held.stays .continuous (by simp) (held.complete published .continuous)
  refine ready labels ?_
  exact @run_history _ _ (step params) (installed hash)
    (fun s _ => s.publications = 0 → s.continuousDeaths = {}) (fun _ => rfl)
    (fun labels label unattended => continuousDeaths_step label.2 unattended
      (subscriberStep_step label.2 _ (ready labels unattended))) labels

/-! ### The three lists -/

/-- A process calls for its own remote objects, one call at a time and while it lives, and it
does not end during a call. -/
def Orderly (appOwned : Nat → Bool) (s : BackgroundTaskMgrService)
    (label : ServiceEnv × ServiceEvent) : Prop :=
  match label.2 with
  | .request (.subscribeBackgroundTask (some remote) _)
  | .request (.unsubscribeBackgroundTask (some remote) _) =>
      (label.1.caller.tokenType == .hap) = appOwned remote ∧
        remote ∉ s.underWay.map SubscriptionCall.remote ∧ remote ∉ s.dead
  | .remoteDies remote => remote ∉ s.underWay.map SubscriptionCall.remote
  | _ => True

theorem isHap_of_checkSubscription {flag : BitVec 32} {isHap : Bool}
    (check : checkSubscription env flag = .ok isHap) :
    isHap = (env.caller.tokenType == .hap) := by
  unfold checkSubscription checkHapCalling Caller.checkCallingToken at check
  generalize env.caller.tokenType = tokenType at check ⊢
  cases tokenType with
  | invalid => exact nomatch check
  | hap =>
      dsimp only at check
      grind
  | native =>
      dsimp only at check
      grind
  | shell =>
      dsimp only at check
      grind

theorem registry_orderly {appOwned : Nat → Bool} {event : ServiceEvent} {op : RegistryOp}
    (orderly : Orderly appOwned s (env, event)) (isOp : s.registryOp env event = some op) :
    s.registry.Orderly appOwned op := by
  unfold registryOp at isOp
  split at isOp
  · rename_i remote flag
    split at isOp
    · exact nomatch isOp
    split at isOp
    · exact nomatch isOp
    · rename_i isHap check
      obtain rfl := Option.some.inj isOp
      obtain ⟨own, free, alive⟩ := orderly
      exact ⟨(isHap_of_checkSubscription check).trans own, free, alive⟩
  · rename_i remote flag
    split at isOp
    · exact nomatch isOp
    split at isOp
    · exact nomatch isOp
    · rename_i isHap check
      obtain rfl := Option.some.inj isOp
      obtain ⟨own, free, alive⟩ := orderly
      exact ⟨(isHap_of_checkSubscription check).trans own, free, alive⟩
  · obtain rfl := Option.some.inj isOp
    trivial
  · obtain rfl := Option.some.inj isOp
    exact orderly
  · obtain rfl := Option.some.inj isOp
    trivial
  · obtain rfl := Option.some.inj isOp
    trivial
  · exact nomatch isOp

theorem linked_event {appOwned : Nat → Bool} (label : ServiceEnv × ServiceEvent)
    (ready : ∀ remote ∈ s.continuousDeaths.underWay, s.continuous.mgr.isSysReady = true)
    (held : s.registry.Linked appOwned) (orderly : Orderly appOwned s label) :
    (step params s label).registry.Linked appOwned := by
  obtain ⟨env, event⟩ := label
  cases @subscriberStep_step env params event s ready with
  | apart none apart =>
      rw [apart.1]
      exact held
  | lists op isOp registry silent =>
      rw [registry]
      exact Registry.linked_step op held (registry_orderly orderly isOp)
  | restarted isRestart registry silent =>
      rw [registry]
      exact Registry.linked_step .restart held trivial

theorem linked_run (appOwned : Nat → Bool) (labels : List (ServiceEnv × ServiceEvent))
    (orderly : Admissible (step params) (Orderly appOwned) (installed hash) labels) :
    (run (step params) (installed hash) labels).registry.Linked appOwned :=
  @run_admissible_history _ _ (step params) (installed hash) (Orderly appOwned)
    (fun s _ => s.registry.Linked appOwned) (Registry.linked_restart ∅)
    (fun labels label held orderly =>
      linked_event label (attended_run params hash labels) held orderly) labels orderly

end

/-- In every orderly run of the service the three managers agree on a remote object once no
call of it is under way and no manager has yet to be told of its death: the transient task
manager and the efficiency resources manager list it exactly if the continuous task manager
does and it belongs to a system ability, none of them lists it when it is dead, and none
lists it twice. -/
theorem subscribers_agree (params : Transient.Params) (hash : String → Nat)
    (appOwned : Nat → Bool) (labels : List (ServiceEnv × ServiceEvent))
    (orderly : Admissible (step params) (Orderly appOwned) (installed hash) labels) (remote : Nat)
    (settled : remote ∉ (run (step params) (installed hash) labels).underWay.map
      SubscriptionCall.remote)
    (continuousTold :
      remote ∉ (run (step params) (installed hash) labels).continuousDeaths.underWay)
    (transientTold :
      remote ∉ (run (step params) (installed hash) labels).transientDeaths.underWay)
    (resourceTold :
      remote ∉ (run (step params) (installed hash) labels).resourceDeaths.underWay) :
    let s := run (step params) (installed hash) labels
    (s.inContinuous remote = true → remote ∉ s.dead) ∧
      (remote ∈ s.transientSubscribers ↔ appOwned remote = false ∧ s.inContinuous remote = true) ∧
      (remote ∈ s.resourceSubscribers ↔ appOwned remote = false ∧ s.inContinuous remote = true) ∧
      (s.continuous.mgr.bgTaskSubscribers.map SubscriberInfo.remote).count remote ≤ 1 ∧
      s.transientSubscribers.count remote ≤ 1 ∧ s.resourceSubscribers.count remote ≤ 1 := by
  have held := @linked_run params hash appOwned labels orderly
  generalize run (step params) (installed hash) labels = s
    at held settled continuousTold transientTold resourceTold
  have known := inContinuous_iff remote s
  have knownAlive : s.inContinuous remote = true → remote ∉ s.dead :=
    fun listed => held.covers.alive (known.mp listed) continuousTold
  have transientAlive : remote ∈ s.transientSubscribers → remote ∉ s.dead :=
    fun listed => held.transient.covers.alive listed transientTold
  have resourceAlive : remote ∈ s.resourceSubscribers → remote ∉ s.dead :=
    fun listed => held.resource.covers.alive listed resourceTold
  refine ⟨knownAlive, ?_, ?_, List.nodup_iff_count_le_one.mp held.nodup remote,
    List.nodup_iff_count_le_one.mp held.transient.nodup remote,
    List.nodup_iff_count_le_one.mp held.resource.nodup remote⟩
  · constructor
    · intro listed
      have native : appOwned remote = false :=
        eq_false_of_ne_true (fun app => (held.apps remote app).1 listed)
      have agree := (held.agree remote native (transientAlive listed) settled).1
      exact ⟨native, known.mpr (agree.mp listed)⟩
    · rintro ⟨native, listed⟩
      exact (held.agree remote native (knownAlive listed) settled).1.mpr (known.mp listed)
  · constructor
    · intro listed
      have native : appOwned remote = false :=
        eq_false_of_ne_true (fun app => (held.apps remote app).2 listed)
      have agree := (held.agree remote native (resourceAlive listed) settled).2
      exact ⟨native, known.mpr (agree.mp listed)⟩
    · rintro ⟨native, listed⟩
      exact (held.agree remote native (knownAlive listed) settled).2.mpr (known.mp listed)

def subscribedRun : List (ServiceEnv × ServiceEvent) :=
  boot ++ [.request (.subscribeBackgroundTask (some 5) 0#32), .proceed 0,
    .request (.subscribeBackgroundTask (some 6) 0#32), .proceed 1, .proceed 0, .proceed 0,
    .remoteDies 6, .subscriberDied .transient 6, .subscriberDied .continuous 6].map
      (fun event => (nativeEnv 0, event))

theorem subscribers_agree_subscribed :
    5 ∈ (run (step {}) (installed (fun _ => 0)) subscribedRun).transientSubscribers := by
  have orderly : Admissible (step {}) (Orderly (fun _ => false)) (installed (fun _ => 0))
      subscribedRun := by
    refine ⟨trivial, trivial, trivial, trivial, trivial, ⟨rfl, ?_, ?_⟩, trivial, ⟨rfl, ?_, ?_⟩,
      trivial, trivial, trivial, ?_, trivial, trivial, trivial⟩
    · decide
    · decide
    · decide
    · decide
    · show (6 : Nat) ∉ List.map _ _
      decide
  have settled := subscribers_agree {} (fun _ => 0) (fun _ => false) subscribedRun orderly 5
    (by decide) (by decide) (by decide) (by decide)
  exact settled.2.1.mpr ⟨rfl, by decide⟩

end BgTaskMgr.Core
