import BgTaskMgr.Continuous.AuthStore
import BgTaskMgr.Core.Service
import BgTaskMgr.Efficiency.Readiness
import BgTaskMgr.Transient.Readiness
import BgTaskMgr.Lib.Histories

/-!
# Start of the service

Each manager reports once it is ready, in any order and with anything in between, and the
last report publishes the service.  `ReadinessStep` says what one event makes of the three
managers' readiness and of the reports.
-/

set_option autoImplicit false

/-! ## Readiness of the managers -/

namespace BgTaskMgr.Continuous.AuthMgr

/-- Only its initialisation makes the manager ready, and only the end of its process makes
it unready. -/
theorem isSysReady_authStep (env : AuthEnv) (op : AuthOp) (self : AuthMgr)
    (started : op ≠ .service .initRequiredResourceInfo) (lives : op ≠ .service .restart) :
    (self.authStep (env, op)).mgr.isSysReady = self.mgr.isSysReady := by
  cases @authStep_effect env self op with
  | restarted isOp => exact absurd isOp lives
  | loaded isOp => exact absurd isOp started
  | unloaded isOp => exact absurd isOp started
  | kept _ _ _ ready => exact ready
  | renamed _ _ _ _ ready => exact ready
  | taken _ _ _ _ ready => exact ready
  | decided _ _ _ _ _ _ _ _ _ ready => exact ready
  | inserted _ _ _ _ _ _ ready => exact ready
  | erased _ _ _ _ _ _ ready => exact ready
  | replaced _ _ _ _ _ _ _ ready => exact ready
  | restored _ _ _ _ _ _ _ ready => exact ready

end BgTaskMgr.Continuous.AuthMgr

namespace BgTaskMgr.Core

open StepSystem

namespace BackgroundTaskMgrService

/-! ## Reports -/

def ready (self : BackgroundTaskMgrService) : SubscriberOwner → Bool
  | .continuous => self.continuous.mgr.isSysReady
  | .transient => self.transient.isReady
  | .efficiency => self.efficiency.isSysReady

def readyFlag : SubscriberOwner → BitVec 32
  | .continuous => continuousServiceReady
  | .transient => transientServiceReady
  | .efficiency => efficiencyResourcesServiceReady

def flagsOf (reported : SubscriberOwner → Bool) : BitVec 32 :=
  (if reported .transient then transientServiceReady else 0#32) |||
    (if reported .continuous then continuousServiceReady else 0#32) |||
      (if reported .efficiency then efficiencyResourcesServiceReady else 0#32)

theorem flagsOf_or (reported : SubscriberOwner → Bool) (manager : SubscriberOwner) :
    flagsOf reported ||| readyFlag manager = flagsOf (Function.update reported manager true) := by
  unfold flagsOf
  cases manager with
  | continuous =>
      simp only [Function.update, readyFlag, reduceCtorEq, dite_false, dite_true]
      cases reported .transient <;> cases reported .continuous <;>
        cases reported .efficiency <;> decide
  | transient =>
      simp only [Function.update, readyFlag, reduceCtorEq, dite_false, dite_true]
      cases reported .transient <;> cases reported .continuous <;>
        cases reported .efficiency <;> decide
  | efficiency =>
      simp only [Function.update, readyFlag, reduceCtorEq, dite_false, dite_true]
      cases reported .transient <;> cases reported .continuous <;>
        cases reported .efficiency <;> decide

theorem flagsOf_eq_allReady (reported : SubscriberOwner → Bool) :
    flagsOf reported = allReady ↔ ∀ manager, reported manager = true := by
  have each : (∀ manager, reported manager = true) ↔
      (reported .transient = true ∧ reported .continuous = true ∧ reported .efficiency = true) :=
    ⟨fun all => ⟨all .transient, all .continuous, all .efficiency⟩, fun ⟨first, second, third⟩
      manager => by cases manager <;> assumption⟩
  rw [each]
  unfold flagsOf
  cases reported .transient <;> cases reported .continuous <;>
    cases reported .efficiency <;> decide

/-! ## What one event does -/

structure Progress where
  dependsReady : BitVec 32
  publications : Nat
  state : ServiceRunningState
  deriving DecidableEq

def progress (self : BackgroundTaskMgrService) : Progress :=
  ⟨self.dependsReady, self.publications, self.state⟩

/-- The last report leads to a service: the configuration is read, and `Publish` succeeds. -/
def Publishes (env : ServiceEnv) : Prop :=
  ListsStrings env.suspendManagerConfigFile ∧ env.publishOk = true

instance (env : ServiceEnv) : Decidable (Publishes env) := inferInstanceAs (Decidable (_ ∧ _))

def Progress.report (publishes : Prop) [Decidable publishes] (flag : BitVec 32)
    (self : Progress) : Progress :=
  if self.dependsReady = allReady then self
  else if self.dependsReady ||| flag = allReady ∧ publishes then
    ⟨allReady, self.publications + 1, .stateRunning⟩
  else { self with dependsReady := self.dependsReady ||| flag }

/-- One event as far as the start of the service goes: nothing but the loss of an ability, a
report of a manager that has become ready, or a new process. -/
inductive ReadinessStep (env : ServiceEnv) (s after : BackgroundTaskMgrService) :
    ServiceEvent → Prop where
  | kept {event : ServiceEvent} (lives : event ≠ .restart)
      (dependsReady : after.dependsReady = s.dependsReady)
      (publications : after.publications = s.publications)
      (state : after.state = s.state ∨ after.state = .stateNotStart)
      (ready : ∀ manager, after.ready manager = s.ready manager ∨
        manager = .efficiency ∧ after.ready manager = false) :
      ReadinessStep env s after event
  | reported {event : ServiceEvent} (lives : event ≠ .restart) (manager : SubscriberOwner)
      (progress : after.progress = s.progress.report (Publishes env) (readyFlag manager))
      (ready : after.ready = Function.update s.ready manager true) :
      ReadinessStep env s after event
  | restarted (progress : after.progress = ⟨0#32, 0, .stateNotStart⟩)
      (ready : ∀ manager, after.ready manager = false) : ReadinessStep env s after .restart

section

variable {env : ServiceEnv} {params : Transient.Params} {s after : BackgroundTaskMgrService}
  {event : ServiceEvent}

theorem progress_setReady (env : ServiceEnv) (flag : BitVec 32) (s : BackgroundTaskMgrService) :
    (s.setReady env flag).progress = s.progress.report (Publishes env) flag := by
  unfold setReady Progress.report progress
  dsimp only
  by_cases all : s.dependsReady = allReady
  · rw [if_pos all, if_pos all]
  rw [if_neg all, if_neg all]
  by_cases last : s.dependsReady ||| flag = allReady
  swap
  · rw [if_pos last, if_neg (fun both => last both.1)]
  rw [if_neg (not_not_intro last)]
  have reads := @loadConfigFile_eq_ok_iff env.suspendManagerConfigFile s.config
  cases outcome : loadConfigFile env.suspendManagerConfigFile s.config with
  | mk result config =>
      rw [outcome] at reads
      cases result with
      | error exception =>
          have thrown : ¬ Publishes env := fun publishes => nomatch reads.mpr publishes.1
          rw [if_neg (fun both => thrown both.2)]
      | ok value =>
          have listed := reads.mp rfl
          cases ok : env.publishOk with
          | false => simp [last, Publishes, ok]
          | true => simp [last, Publishes, ok, listed]

theorem ready_setReady (env : ServiceEnv) (flag : BitVec 32) (s : BackgroundTaskMgrService) :
    (s.setReady env flag).ready = s.ready := by
  unfold setReady
  dsimp only
  split
  · rfl
  split
  · rfl
  split
  · rfl
  split
  · rfl
  · rfl

theorem ReadinessStep.of_same (lives : event ≠ .restart) (progress : after.progress = s.progress)
    (ready : after.ready = s.ready) : ReadinessStep env s after event := by
  obtain ⟨dependsReady, publications, state⟩ := Progress.mk.inj progress
  exact .kept lives dependsReady publications (Or.inl state)
    (fun manager => Or.inl (congrFun ready manager))

theorem ready_ext {one other : BackgroundTaskMgrService}
    (continuous : one.continuous.mgr.isSysReady = other.continuous.mgr.isSysReady)
    (transient : one.transient.isReady = other.transient.isReady)
    (efficiency : one.efficiency.isSysReady = other.efficiency.isSysReady) :
    one.ready = other.ready := by
  funext manager
  cases manager with
  | continuous => exact continuous
  | transient => exact transient
  | efficiency => exact efficiency

def SameReadiness (s after : BackgroundTaskMgrService) : Prop :=
  after.progress = s.progress ∧ after.ready = s.ready

theorem SameReadiness.refl (s : BackgroundTaskMgrService) : SameReadiness s s := ⟨rfl, rfl⟩

theorem SameReadiness.trans {middle : BackgroundTaskMgrService} (early : SameReadiness s middle)
    (late : SameReadiness middle after) : SameReadiness s after :=
  ⟨late.1.trans early.1, late.2.trans early.2⟩

theorem SameReadiness.step (same : SameReadiness s after) (lives : event ≠ .restart) :
    ReadinessStep env s after event :=
  .of_same lives same.1 same.2

theorem same_continuousStep (env : ServiceEnv) (op : Continuous.AuthOp)
    (started : op ≠ .service .initRequiredResourceInfo) (lives : op ≠ .service .restart)
    (s : BackgroundTaskMgrService) : SameReadiness s (s.continuousStep env op) :=
  ⟨rfl, ready_ext (Continuous.AuthMgr.isSysReady_authStep _ op _ started lives) rfl rfl⟩

theorem same_taskStep (env : ServiceEnv) (op : Continuous.TaskOp) (s : BackgroundTaskMgrService) :
    SameReadiness s (s.taskStep env op) :=
  same_continuousStep env _ (fun same => by injection same with same; injection same)
    (fun same => by injection same with same; injection same) s

theorem same_transientStep (env : ServiceEnv) (params : Transient.Params) (op : Transient.Op)
    (started : ∀ servicesUp, op ≠ .initNecessaryState servicesUp) (s : BackgroundTaskMgrService) :
    SameReadiness s (s.transientStep env params op) :=
  ⟨rfl, ready_ext rfl
    (Transient.BgTransientTaskMgr.isReady_step params _ _ op started) rfl⟩

theorem same_resourceStep (env : ServiceEnv) (op : Efficiency.ResourceOp)
    (s : BackgroundTaskMgrService) : SameReadiness s (s.efficiencyStep env (.resource op)) :=
  ⟨rfl, ready_ext rfl rfl
    (Efficiency.BgEfficiencyResourcesMgr.isSysReady_resourceStep _ _ op)⟩

theorem same_gated {allowed : Bool} {call : ServiceErrCode × BackgroundTaskMgrService}
    (same : SameReadiness s call.2) : SameReadiness s (s.gated allowed call).2 := by
  unfold gated
  split
  · exact same
  · exact .refl s

theorem same_checkedBy {code : ErrCode} {call : ServiceErrCode × BackgroundTaskMgrService}
    (same : SameReadiness s call.2) : SameReadiness s (s.checkedBy code call).2 := by
  unfold checkedBy
  split
  · exact same
  · exact .refl s

theorem same_subscribeBackgroundTask (env : ServiceEnv) (subscriber : Option Nat)
    (flag : BitVec 32) (s : BackgroundTaskMgrService) :
    SameReadiness s (s.subscribeBackgroundTask env subscriber flag).2 := by
  have added (info : Continuous.SubscriberInfo) :
      SameReadiness s (s.addContinuousSubscriber env info) := by
    unfold addContinuousSubscriber
    dsimp only
    split
    · exact same_taskStep env _ s
    · exact same_taskStep env (.addSubscriber info) s
  unfold subscribeBackgroundTask
  split
  · exact .refl s
  · exact .refl s
  dsimp only
  split
  · exact added _
  · exact added _

theorem same_unsubscribeBackgroundTask (env : ServiceEnv) (subscriber : Option Nat)
    (flag : BitVec 32) (s : BackgroundTaskMgrService) :
    SameReadiness s (s.unsubscribeBackgroundTask env subscriber flag).2 := by
  have removed (remote : Nat) :
      SameReadiness s (s.removeContinuousSubscriber env remote flag) := by
    unfold removeContinuousSubscriber
    dsimp only
    split
    · exact same_taskStep env (.removeSubscriber remote flag) s
    · exact same_taskStep env _ s
  unfold unsubscribeBackgroundTask
  split
  · exact .refl s
  · exact .refl s
  dsimp only
  split
  · exact removed _
  · exact removed _

theorem same_setBgTaskConfig (env : ServiceEnv) (configData : Option Json) (sourceType : Int)
    (s : BackgroundTaskMgrService) :
    SameReadiness s (s.setBgTaskConfig env configData sourceType).2 := by
  unfold setBgTaskConfig
  split
  · exact .refl s
  split
  · exact .refl s
  dsimp only
  split
  · exact .refl s
  · exact .refl s

theorem same_dump (env : ServiceEnv) (params : Transient.Params) (command : DumpCommand)
    (s : BackgroundTaskMgrService) : SameReadiness s (s.dump env params command) := by
  cases command with
  | allRequestId => exact same_transientStep env params _ (by simp) s
  | setDump isDump => exact same_transientStep env params _ (by simp) s
  | taskTime pause uid =>
      unfold dump
      dsimp only
      split
      · cases pause with
        | true => exact same_transientStep env params (.pause uid) (by simp) s
        | false => exact same_transientStep env params (.start uid) (by simp) s
      · exact .refl s
  | cancelTask taskKey => exact same_taskStep env _ s
  | innerTask taskParam => exact same_taskStep env _ s
  | efficiency dumpOption => exact same_resourceStep env _ s

theorem same_request (env : ServiceEnv) (params : Transient.Params) (call : Request)
    (s : BackgroundTaskMgrService) : SameReadiness s (s.request env params call).2 := by
  cases call with
  | requestSuspendDelay callback => exact same_gated (same_transientStep env params _ (by simp) s)
  | cancelSuspendDelay requestId => exact same_transientStep env params _ (by simp) s
  | getAllTransientTasks => exact same_transientStep env params _ (by simp) s
  | pauseTransientTaskTimeForInner uid => exact same_transientStep env params _ (by simp) s
  | startTransientTaskTimeForInner uid => exact same_transientStep env params _ (by simp) s
  | setBgTaskConfig configData sourceType =>
      exact same_gated (same_setBgTaskConfig env configData sourceType s)
  | startBackgroundRunning taskParam => exact same_gated (same_taskStep env _ s)
  | updateBackgroundRunning taskParam => exact same_gated (same_taskStep env _ s)
  | requestBackgroundRunningForInner taskParam => exact same_taskStep env _ s
  | stopBackgroundRunning abilityName abilityId continuousTaskId => exact same_taskStep env _ s
  | updateDataTransferProgress progressInfo => exact same_gated (same_taskStep env _ s)
  | subscribeBackgroundTask subscriber flag =>
      exact same_subscribeBackgroundTask env subscriber flag s
  | unsubscribeBackgroundTask subscriber flag =>
      exact same_unsubscribeBackgroundTask env subscriber flag s
  | applyEfficiencyResources resourceInfo => exact same_resourceStep env _ s
  | resetAllEfficiencyResources => exact same_resourceStep env _ s
  | stopContinuousTask uid pid taskType key => exact same_gated (same_taskStep env _ s)
  | suspendContinuousTask uid pid reason key isStandby =>
      exact same_gated (same_taskStep env _ s)
  | activeContinuousTask uid pid key isStandby => exact same_gated (same_taskStep env _ s)
  | avSessionNotifyUpdateNotification uid pid isPublish =>
      exact same_gated (same_taskStep env _ s)
  | suspendContinuousAudioTask uid => exact same_gated (same_taskStep env _ s)
  | setSupportedTaskKeepingProcesses processSet => exact same_gated (.refl s)
  | setMaliciousAppConfig maliciousAppSet => exact same_gated (.refl s)
  | setSpecialExemptedProcess bundleNameSet => exact same_gated (.refl s)
  | requestAuthFromUser taskParam requestAuthApiVersion callback =>
      exact same_checkedBy (same_continuousStep env _ (by simp) (by simp) s)
  | enableContinuousTaskRequest uid isEnable => exact same_gated (same_taskStep env _ s)
  | setBackgroundTaskState taskParam =>
      exact same_checkedBy (same_continuousStep env _ (by simp) (by simp) s)
  | sendNotificationByDeteTask taskKeys => exact same_gated (same_taskStep env _ s)
  | removeAuthRecord taskParam =>
      exact same_gated (same_continuousStep env _ (by simp) (by simp) s)
  | dump command => exact same_gated (same_dump env params command s)

theorem same_proceed (index : Nat) (s : BackgroundTaskMgrService) :
    SameReadiness s (s.proceed index) := by
  have transient (call : SubscriptionCall) : SameReadiness s
      (if call.subscribes then s.addTransientSubscriber call.remote
        else s.removeTransientSubscriber call.remote) := by
    unfold addTransientSubscriber removeTransientSubscriber
    split
    · split
      · exact .refl s
      · exact .refl s
    · split
      · exact .refl s
      · exact .refl s
  have efficiency (call : SubscriptionCall) : SameReadiness s
      (if call.subscribes then s.addResourceSubscriber call.remote
        else s.removeResourceSubscriber call.remote) := by
    unfold addResourceSubscriber removeResourceSubscriber
    split
    · split
      · exact .refl s
      · exact .refl s
    · split
      · exact .refl s
      · exact .refl s
  unfold proceed
  split
  · exact .refl s
  dsimp only
  split
  · exact transient _
  · exact efficiency _

theorem same_subscriberDied (env : ServiceEnv) (owner : SubscriberOwner) (remote : Nat)
    (s : BackgroundTaskMgrService) : SameReadiness s (s.subscriberDied env owner remote) := by
  cases owner with
  | continuous =>
      unfold subscriberDied
      dsimp only
      split
      · exact same_taskStep env (.onRemoteSubscriberDied remote) s
      · exact .refl s
  | transient =>
      unfold subscriberDied
      dsimp only
      split
      · exact .refl s
      · exact .refl s
  | efficiency =>
      unfold subscriberDied
      dsimp only
      split
      · exact .refl s
      · exact .refl s

theorem same_continuousEvent (env : ServiceEnv) (op : Continuous.AuthOp)
    (isEvent : continuousEvent op = true) (s : BackgroundTaskMgrService) :
    SameReadiness s (s.continuousStep env op) :=
  same_continuousStep env op (fun same => by rw [same] at isEvent; exact absurd isEvent (by decide))
    (fun same => by rw [same] at isEvent; exact absurd isEvent (by decide)) s

theorem readinessStep_initTransient (env : ServiceEnv) (params : Transient.Params)
    (servicesUp : Bool) (s : BackgroundTaskMgrService) :
    ReadinessStep env s (s.initTransient env params servicesUp) (.initTransient servicesUp) := by
  unfold initTransient
  dsimp only
  split
  · exact (SameReadiness.refl s).step (by simp)
  cases servicesUp with
  | false => exact (SameReadiness.refl s).step (by simp)
  | true =>
      rw [if_pos rfl]
      refine .reported (by simp) .transient (progress_setReady env _ _) ?_
      rw [ready_setReady]
      funext manager
      cases manager with
      | continuous => rfl
      | transient => rfl
      | efficiency => rfl

theorem readinessStep_initContinuous (env : ServiceEnv) (s : BackgroundTaskMgrService) :
    ReadinessStep env s (s.initContinuous env) .initContinuous := by
  unfold initContinuous
  split
  · exact (SameReadiness.refl s).step (by simp)
  rename_i unready
  refine .reported (by simp) .continuous (progress_setReady env _ _) ?_
  rw [ready_setReady]
  funext manager
  cases manager with
  | continuous =>
      show ((s.continuousStep env (.service .initRequiredResourceInfo)).continuous.mgr.isSysReady) =
        true
      have stepped : (s.continuous.mgr.serviceStep
          ((s.continuousEnv env).toEnv, .initRequiredResourceInfo)).isSysReady = true := by
        unfold Continuous.BgContinuousTaskMgr.serviceStep
        rw [if_neg unready]
        rfl
      exact stepped
  | transient => rfl
  | efficiency => rfl

theorem readinessStep_onAddSystemAbility (env : ServiceEnv)
    (ability : Efficiency.DependedAbility) (s : BackgroundTaskMgrService)
    (lives : event ≠ .restart) :
    ReadinessStep env s (s.onAddSystemAbility env ability) event := by
  have others (manager : SubscriberOwner) (apart : manager ≠ .efficiency) :
      (s.efficiencyStep env (.addSystemAbility ability)).ready manager = s.ready manager := by
    cases manager with
    | continuous => rfl
    | transient => rfl
    | efficiency => exact absurd rfl apart
  unfold onAddSystemAbility
  dsimp only
  split
  · rename_i rises
    rw [Bool.and_eq_true] at rises
    refine .reported lives .efficiency (progress_setReady env _ _) ?_
    rw [ready_setReady]
    funext manager
    by_cases same : manager = .efficiency
    · rw [same, Function.update_self]
      exact rises.2
    · rw [Function.update_of_ne same]
      exact others manager same
  · rename_i stays
    refine .kept lives rfl rfl (Or.inl rfl) ?_
    intro manager
    by_cases same : manager = .efficiency
    · subst same
      show (s.efficiencyStep env (.addSystemAbility ability)).efficiency.isSysReady =
          s.efficiency.isSysReady ∨ _ = _ ∧
        (s.efficiencyStep env (.addSystemAbility ability)).efficiency.isSysReady = false
      cases before : s.efficiency.isSysReady with
      | false =>
          rw [before] at stays
          have unready : (s.efficiencyStep env (.addSystemAbility ability)).efficiency.isSysReady =
              false := by simpa using stays
          exact Or.inl unready
      | true =>
          left
          show (s.efficiency.onAddSystemAbility (s.efficiencyEnv env) ability).isSysReady = true
          unfold Efficiency.BgEfficiencyResourcesMgr.onAddSystemAbility
            Efficiency.BgEfficiencyResourcesMgr.initNecessaryState
          simp only [before, if_true, ite_self]
    · exact Or.inl (others manager same)

theorem readinessStep_removeAbility (env : ServiceEnv) (ability : Efficiency.DependedAbility)
    (s : BackgroundTaskMgrService) (lives : event ≠ .restart) :
    ReadinessStep env s (s.efficiencyStep env (.removeSystemAbility ability)) event := by
  refine .kept lives rfl rfl (Or.inl rfl) ?_
  intro manager
  cases manager with
  | continuous => exact Or.inl rfl
  | transient => exact Or.inl rfl
  | efficiency =>
      have removed : (s.efficiency.onRemoveSystemAbility ability).isSysReady =
          s.efficiency.isSysReady ∨
          (s.efficiency.onRemoveSystemAbility ability).isSysReady = false := by
        unfold Efficiency.BgEfficiencyResourcesMgr.onRemoveSystemAbility
        dsimp only
        split
        · exact Or.inl rfl
        · exact Or.inr rfl
      exact removed.imp id (fun unready => ⟨rfl, unready⟩)

theorem readinessStep_step (env : ServiceEnv) (event : ServiceEvent)
    (s : BackgroundTaskMgrService) :
    ReadinessStep env s (step params s (env, event)) event := by
  have same := SameReadiness.refl s
  cases event with
  | request call =>
      unfold step
      dsimp only
      split
      · exact same.step (by simp)
      · exact (same_request env params call s).step (by simp)
  | proceed index => exact (same_proceed index s).step (by simp)
  | initTransient servicesUp => exact readinessStep_initTransient env params servicesUp s
  | initContinuous => exact readinessStep_initContinuous env s
  | addSystemAbility ability =>
      cases ability with
      | appMgr => exact readinessStep_onAddSystemAbility env .appMgr s (by simp)
      | bundleMgr => exact readinessStep_onAddSystemAbility env .bundleMgr s (by simp)
      | resSched => exact readinessStep_onAddSystemAbility env .resSched s (by simp)
      | _ => exact same.step (by simp)
  | removeSystemAbility ability =>
      cases ability with
      | appMgr => exact readinessStep_removeAbility env .appMgr s (by simp)
      | bundleMgr => exact readinessStep_removeAbility env .bundleMgr s (by simp)
      | resSched => exact readinessStep_removeAbility env .resSched s (by simp)
      | voipCallManager => exact (same_taskStep env _ s).step (by simp)
      | healthSport => exact (same_taskStep env _ s).step (by simp)
      | aamConn => exact (same_taskStep env _ s).step (by simp)
      | suspendManager =>
          exact (same_transientStep env params .suspendManagerDie (by simp) s).step (by simp)
  | transient op =>
      unfold step
      dsimp only
      split
      · rename_i isEvent
        refine (same_transientStep env params op ?_ s).step (by simp)
        rintro servicesUp rfl
        exact absurd isEvent (by simp [transientEvent])
      · exact same.step (by simp)
  | continuous op =>
      unfold step
      dsimp only
      split
      · rename_i isEvent
        exact (same_continuousEvent env op isEvent s).step (by simp)
      · exact same.step (by simp)
  | efficiency op =>
      unfold step
      dsimp only
      split
      · exact (same_resourceStep env op s).step (by simp)
      · exact same.step (by simp)
  | remoteDies remote =>
      have died : SameReadiness s (s.remoteDies remote) := same
      exact died.step (by simp)
  | subscriberDied owner remote => exact (same_subscriberDied env owner remote s).step (by simp)
  | expiredCallbackDied remote =>
      have first := same_transientStep env params (.expiredCallbackDeath remote) (by simp) s
      have second := same_continuousStep env (.handleAuthExpiredCallbackDeath remote) (by simp)
        (by simp) (s.transientStep env params (.expiredCallbackDeath remote))
      exact (first.trans second).step (by simp)
  | stop => exact .kept (by simp) rfl rfl (Or.inr rfl) (fun manager => Or.inl rfl)
  | restart =>
      refine .restarted rfl ?_
      intro manager
      cases manager with
      | continuous => rfl
      | transient => rfl
      | efficiency => rfl

end

end BackgroundTaskMgrService

/-! ## Runs -/

open BackgroundTaskMgrService

variable (params : Transient.Params) (hash : String → Nat)

def Restarts (label : ServiceEnv × ServiceEvent) : Prop := label.2 = .restart

def HasReported (labels : List (ServiceEnv × ServiceEvent)) (manager : SubscriberOwner) : Prop :=
  OnceSince (step params) Restarts (fun s => s.ready manager = true) (installed hash) labels

/-- The reports up to a state of a run, and what they have led to. -/
structure Reported (labels : List (ServiceEnv × ServiceEvent)) (s : BackgroundTaskMgrService) :
    Prop where
  flags : ∃ reported : SubscriberOwner → Bool, s.dependsReady = flagsOf reported ∧
    ∀ manager, reported manager = true ↔ HasReported params hash labels manager
  stays : ∀ manager, manager ≠ .efficiency → HasReported params hash labels manager →
    s.ready manager = true
  once : s.publications ≤ 1
  published : s.publications = 1 → s.dependsReady = allReady
  running : s.state = .stateRunning → s.publications = 1
  attempted : (∀ label ∈ labels, Publishes label.1) → s.dependsReady = allReady →
    s.publications = 1

section

variable {params : Transient.Params} {hash : String → Nat}
  {labels : List (ServiceEnv × ServiceEvent)} {env : ServiceEnv} {event : ServiceEvent}

theorem hasReported_concat (manager : SubscriberOwner) :
    HasReported params hash (labels ++ [(env, event)]) manager ↔
      (step params (run (step params) (installed hash) labels) (env, event)).ready manager = true ∨
        event ≠ .restart ∧ HasReported params hash labels manager := by
  unfold HasReported
  rw [onceSince_concat, run_append, run_cons, run_nil]
  rfl

theorem HasReported.now {manager : SubscriberOwner}
    (ready : (run (step params) (installed hash) labels).ready manager = true) :
    HasReported params hash labels manager :=
  ⟨labels, [], (List.append_nil labels).symm, by simp, ready⟩

theorem hasReported_of_falls (lives : event ≠ .restart)
    (falls : ∀ manager,
      (step params (run (step params) (installed hash) labels) (env, event)).ready manager = true →
        (run (step params) (installed hash) labels).ready manager = true)
    (manager : SubscriberOwner) :
    HasReported params hash (labels ++ [(env, event)]) manager ↔
      HasReported params hash labels manager := by
  rw [hasReported_concat]
  constructor
  · rintro (ready | ⟨-, before⟩)
    · exact .now (falls manager ready)
    · exact before
  · exact fun before => Or.inr ⟨lives, before⟩

theorem reported_installed : Reported params hash [] (installed hash) := by
  have none (manager : SubscriberOwner) : ¬ HasReported params hash [] manager := by
    unfold HasReported
    rw [onceSince_nil]
    cases manager with
    | continuous => exact Bool.false_ne_true
    | transient => exact Bool.false_ne_true
    | efficiency => exact Bool.false_ne_true
  have zeroFlags : (0#32 : BitVec 32) ≠ allReady := by decide
  exact
    { flags := ⟨fun _ => false, rfl, fun manager => iff_of_false (by simp) (none manager)⟩
      stays := fun manager _ heard => absurd heard (none manager)
      once := Nat.zero_le 1
      published := fun never => absurd never Nat.zero_ne_one
      running := fun never => ServiceRunningState.noConfusion never
      attempted := fun _ never => absurd never zeroFlags }

theorem reported_report
    (held : Reported params hash labels (run (step params) (installed hash) labels))
    (lives : event ≠ .restart) (reported : SubscriberOwner → Bool)
    (flags : (run (step params) (installed hash) labels).dependsReady = flagsOf reported)
    (heard : ∀ manager, reported manager = true ↔ HasReported params hash labels manager)
    (manager : SubscriberOwner)
    (progress : (step params (run (step params) (installed hash) labels) (env, event)).progress =
      (run (step params) (installed hash) labels).progress.report (Publishes env) (readyFlag manager))
    (ready : (step params (run (step params) (installed hash) labels) (env, event)).ready =
      Function.update (run (step params) (installed hash) labels).ready manager true) :
    Reported params hash (labels ++ [(env, event)])
      (step params (run (step params) (installed hash) labels) (env, event)) := by
  have heardAfter (other : SubscriberOwner) :
      Function.update reported manager true other = true ↔
        HasReported params hash (labels ++ [(env, event)]) other := by
    rw [hasReported_concat, ready]
    by_cases same : other = manager
    · simp [same]
    · rw [Function.update_of_ne same, Function.update_of_ne same, heard other]
      constructor
      · exact fun before => Or.inr ⟨lives, before⟩
      · rintro (now | ⟨-, before⟩)
        · exact .now now
        · exact before
  have stays (other : SubscriberOwner) (apart : other ≠ .efficiency)
      (known : HasReported params hash (labels ++ [(env, event)]) other) :
      (step params (run (step params) (installed hash) labels) (env, event)).ready other = true := by
    rw [ready]
    by_cases same : other = manager
    · rw [same, Function.update_self]
    · rw [Function.update_of_ne same]
      have before := (heardAfter other).mpr known
      rw [Function.update_of_ne same] at before
      exact held.stays other apart ((heard other).mp before)
  generalize step params (run (step params) (installed hash) labels) (env, event) = after
    at progress ready stays ⊢
  generalize run (step params) (installed hash) labels = s at held flags progress ready
  by_cases all : s.progress.dependsReady = allReady
  · -- every manager has reported before, and the report is not looked at
    have everyone := (flagsOf_eq_allReady reported).mp (flags ▸ all)
    have same : Function.update reported manager true = reported :=
      Function.update_eq_self_iff.mpr (everyone manager).symm
    have ignored : after.progress = s.progress := by
      rw [progress, Progress.report, if_pos all]
    obtain ⟨dependsReady, publications, state⟩ := Progress.mk.inj ignored
    exact
      { flags := ⟨reported, dependsReady.trans flags, fun other => by
          rw [← heardAfter other, same]⟩
        stays := stays
        once := publications ▸ held.once
        published := fun _ => dependsReady.trans all
        running := fun running => publications.trans (held.running (state.symm.trans running))
        attempted := fun attempts _ => publications.trans (held.attempted
          (fun label member => attempts label (List.mem_append_left _ member)) all) }
  have unpublished : s.publications ≠ 1 := fun once => all (held.published once)
  have joined : s.progress.dependsReady ||| readyFlag manager =
      flagsOf (Function.update reported manager true) := by
    rw [← flagsOf_or, ← flags]
    rfl
  rw [Progress.report, if_neg all] at progress
  by_cases last : s.progress.dependsReady ||| readyFlag manager = allReady ∧ Publishes env
  · have published : after.progress = ⟨allReady, s.publications + 1, .stateRunning⟩ := by
      rw [progress, if_pos last]
      rfl
    obtain ⟨dependsReady, publications, state⟩ := Progress.mk.inj published
    have first : s.publications + 1 = 1 := by
      have := held.once
      omega
    exact
      { flags := ⟨_, dependsReady.trans (last.1.symm.trans joined), heardAfter⟩
        stays := stays
        once := (publications.trans first).le
        published := fun _ => dependsReady
        running := fun _ => publications.trans first
        attempted := fun _ _ => publications.trans first }
  · have noted : after.progress =
        ⟨s.dependsReady ||| readyFlag manager, s.publications, s.state⟩ := by
      rw [progress, if_neg last]
      rfl
    obtain ⟨dependsReady, publications, state⟩ := Progress.mk.inj noted
    exact
      { flags := ⟨_, dependsReady.trans joined, heardAfter⟩
        stays := stays
        once := publications ▸ held.once
        published := fun once => absurd (publications.symm.trans once) unpublished
        running := fun running => publications.trans (held.running (state.symm.trans running))
        attempted := fun attempts complete =>
          absurd ⟨dependsReady.symm.trans complete, attempts (env, event) (by simp)⟩ last }

theorem reported_step (held : Reported params hash labels (run (step params) (installed hash) labels))
    (env : ServiceEnv) (event : ServiceEvent) :
    Reported params hash (labels ++ [(env, event)])
      (step params (run (step params) (installed hash) labels) (env, event)) := by
  obtain ⟨reported, flags, heard⟩ := held.flags
  have earlier : (∀ label ∈ labels ++ [(env, event)], Publishes label.1) →
      ∀ label ∈ labels, Publishes label.1 :=
    fun all label member => all label (List.mem_append_left _ member)
  have effect := @readinessStep_step params env event
    (run (step params) (installed hash) labels)
  cases effect with
  | kept lives dependsReady publications state ready =>
      have falls (manager : SubscriberOwner)
          (now : (step params (run (step params) (installed hash) labels) (env, event)).ready
            manager = true) : (run (step params) (installed hash) labels).ready manager = true := by
        rcases ready manager with same | ⟨-, unready⟩
        · exact same ▸ now
        · exact absurd (now.symm.trans unready) (by decide)
      have same := hasReported_of_falls lives falls
      refine
        { flags := ⟨reported, dependsReady.trans flags, fun manager =>
            (heard manager).trans (same manager).symm⟩
          stays := ?_
          once := publications ▸ held.once
          published := fun once => dependsReady ▸ held.published (publications ▸ once)
          running := ?_
          attempted := fun all ready =>
            publications.trans (held.attempted (earlier all) (dependsReady ▸ ready)) }
      · intro manager apart known
        have before := held.stays manager apart ((same manager).mp known)
        rcases ready manager with kept | ⟨isEfficiency, -⟩
        · exact kept.trans before
        · exact absurd isEfficiency apart
      · intro running
        rcases state with kept | stopped
        · exact publications.trans (held.running (kept.symm.trans running))
        · exact absurd (stopped.symm.trans running) (by decide)
  | reported lives manager progress ready =>
      exact reported_report held lives reported flags heard manager progress ready
  | restarted progress ready =>
      have none (manager : SubscriberOwner) :
          ¬ HasReported params hash (labels ++ [(env, .restart)]) manager := by
        rw [hasReported_concat, ready manager]
        simp
      obtain ⟨dependsReady, publications, state⟩ := Progress.mk.inj progress
      exact
        { flags := ⟨fun _ => false, dependsReady, fun manager =>
            iff_of_false (by simp) (none manager)⟩
          stays := fun manager _ known => absurd known (none manager)
          once := publications ▸ Nat.zero_le 1
          published := fun once => absurd (publications.symm.trans once) Nat.zero_ne_one
          running := fun running => ServiceRunningState.noConfusion (state.symm.trans running)
          attempted := fun _ ready => absurd (dependsReady.symm.trans ready) (by decide) }

theorem reported_run (labels : List (ServiceEnv × ServiceEvent)) :
    Reported params hash labels (run (step params) (installed hash) labels) :=
  @run_history _ _ (step params) (installed hash)
    (fun s labels => Reported params hash labels s) reported_installed
    (fun _ label held => reported_step held label.1 label.2) labels

theorem Reported.complete {s : BackgroundTaskMgrService} (held : Reported params hash labels s)
    (published : s.publications = 1) (manager : SubscriberOwner) :
    HasReported params hash labels manager := by
  obtain ⟨reported, flags, heard⟩ := held.flags
  have complete := flags.symm.trans (held.published published)
  exact (heard manager).mp ((flagsOf_eq_allReady reported).mp complete manager)

/-- In every run of the service, whatever the order in which its managers become ready and
whatever comes in between, a process publishes at most once and runs only then; once it has,
all three managers have reported, and neither the continuous nor the transient task manager
ever refuses a call as not ready; and it does publish if they all report, the suspend manager's
file lists no more than strings, and no attempt fails. -/
theorem service_published_once (params : Transient.Params) (hash : String → Nat)
    (labels : List (ServiceEnv × ServiceEvent)) :
    (run (step params) (installed hash) labels).publications ≤ 1 ∧
    ((run (step params) (installed hash) labels).state = .stateRunning →
      (run (step params) (installed hash) labels).publications = 1) ∧
    ((run (step params) (installed hash) labels).publications = 1 →
      (∀ manager, HasReported params hash labels manager) ∧
      (run (step params) (installed hash) labels).continuous.mgr.isSysReady = true ∧
      (run (step params) (installed hash) labels).transient.isReady = true) ∧
    ((∀ label ∈ labels,
        ListsStrings label.1.suspendManagerConfigFile ∧ label.1.publishOk = true) →
      (∀ manager, HasReported params hash labels manager) →
      (run (step params) (installed hash) labels).publications = 1) := by
  have held := @reported_run params hash labels
  refine ⟨held.once, held.running, ?_, ?_⟩
  · intro published
    have all := held.complete published
    exact ⟨all, held.stays .continuous (by simp) (all .continuous),
      held.stays .transient (by simp) (all .transient)⟩
  · intro attempts all
    obtain ⟨reported, flags, heard⟩ := held.flags
    have complete : flagsOf reported = allReady :=
      (flagsOf_eq_allReady reported).mpr (fun manager => (heard manager).mpr (all manager))
    exact held.attempted attempts (flags.trans complete)

theorem service_published_once_boot :
    (run (step {}) (installed (fun _ => 0)) boot).publications = 1 := by
  refine (service_published_once {} (fun _ => 0) boot).2.2.2
    (by simp [boot, nativeEnv, deviceEnv, ListsStrings])
    (fun manager => .now ?_)
  cases manager with
  | continuous => rfl
  | transient => rfl
  | efficiency => rfl

end

end BgTaskMgr.Core
