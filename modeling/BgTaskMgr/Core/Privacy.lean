import BgTaskMgr.Core.Registration

/-!
# What subscribers are told, and on whose word

Whoever hears of a task has subscribed in this process, and the gates in front of
`SubscribeBackgroundTask` have let the call through.
-/

set_option autoImplicit false

namespace BgTaskMgr.Core

open BgTaskMgr.Continuous StepSystem BackgroundTaskMgrService

/-- The remote object was subscribed since the service process started, by a call of which
the property holds. -/
def SubscribedSince (remote : Nat) (p : ServiceEnv → BitVec 32 → Prop)
    (labels : List (ServiceEnv × ServiceEvent)) : Prop :=
  ∃ earlier env flag later,
    labels = earlier ++ (env, .request (.subscribeBackgroundTask (some remote) flag)) :: later ∧
      (∀ label ∈ later, label.2 ≠ .restart) ∧ p env flag

/-- The caller has passed the gates: it is a system ability, or an app with the permission for
what it asks. -/
def PassesGates (env : ServiceEnv) (flag : BitVec 32) : Prop :=
  env.caller.checkCallingToken = true ∨
    env.caller.tokenType = .hap ∧
      if flag = subscriberBackgroundTaskState then
        env.caller.isAtomicService = false ∧
          env.continuous.isSystemApp env.caller.fullTokenId = true ∧
          env.caller.checkPermission .getBackgroundTaskInfo = true
      else env.caller.checkPermission .keepBackgroundRunning = true

section

variable {labels : List (ServiceEnv × ServiceEvent)} {env : ServiceEnv} {flag : BitVec 32}
  {remote : Nat} {p q : ServiceEnv → BitVec 32 → Prop}

theorem SubscribedSince.later (since : SubscribedSince remote p labels)
    (label : ServiceEnv × ServiceEvent) (lives : label.2 ≠ .restart) :
    SubscribedSince remote p (labels ++ [label]) := by
  obtain ⟨earlier, env, flag, later, rfl, calm, holds⟩ := since
  refine ⟨earlier, env, flag, later ++ [label], List.append_assoc _ _ _, ?_, holds⟩
  intro other member
  rcases List.mem_append.mp member with before | last
  · exact calm other before
  · obtain rfl := List.mem_singleton.mp last
    exact lives

theorem subscribedSince_now (holds : p env flag) : SubscribedSince remote p
    (labels ++ [(env, .request (.subscribeBackgroundTask (some remote) flag))]) :=
  ⟨labels, env, flag, [], rfl, by simp, holds⟩

theorem SubscribedSince.mono (since : SubscribedSince remote p labels)
    (weaker : ∀ env flag, p env flag → q env flag) : SubscribedSince remote q labels := by
  obtain ⟨earlier, env, flag, later, split, calm, holds⟩ := since
  exact ⟨earlier, env, flag, later, split, calm, weaker env flag holds⟩

theorem passesGates_of_checkSubscription {isHap : Bool}
    (check : checkSubscription env flag = .ok isHap) : PassesGates env flag := by
  unfold checkSubscription checkHapCalling at check
  unfold PassesGates
  grind

/-! ## The entries of the continuous task manager -/

/-- The uid and the kind of an entry are those of a subscription, and so is the wish to hear
of the tasks of other apps. -/
structure Backed (labels : List (ServiceEnv × ServiceEvent)) (info : SubscriberInfo) : Prop where
  owner : SubscribedSince info.remote (fun env flag => PassesGates env flag ∧
    info.uid = env.caller.uid ∧ info.isHap = (env.caller.tokenType == .hap)) labels
  wants : info.wantsTaskState = true → SubscribedSince info.remote (fun env flag =>
    PassesGates env flag ∧ flag &&& subscriberBackgroundTaskState ≠ 0#32) labels

theorem Backed.later {info : SubscriberInfo} (backed : Backed labels info)
    (label : ServiceEnv × ServiceEvent) (lives : label.2 ≠ .restart) :
    Backed (labels ++ [label]) info :=
  ⟨backed.owner.later label lives, fun wants => (backed.wants wants).later label lives⟩

theorem wantsTaskState_or {info : SubscriberInfo} {flag : BitVec 32}
    (joined : ({ info with flag := info.flag ||| flag } : SubscriberInfo).wantsTaskState = true) :
    info.wantsTaskState = true ∨ flag &&& subscriberBackgroundTaskState ≠ 0#32 := by
  unfold SubscriberInfo.wantsTaskState at joined ⊢
  by_contra neither
  obtain ⟨unwanted, unset⟩ := not_or.mp neither
  have infoClear : info.flag &&& 8#32 = 0#32 := by simpa using unwanted
  have flagClear : flag &&& 8#32 = 0#32 := not_not.mp unset
  simp [BitVec.and_or_distrib_right, infoClear, flagClear] at joined

theorem wantsTaskState_clear {info : SubscriberInfo} {flag : BitVec 32}
    (kept : ({ info with flag := info.flag &&& ~~~flag } : SubscriberInfo).wantsTaskState = true) :
    info.wantsTaskState = true := by
  unfold SubscriberInfo.wantsTaskState at kept ⊢
  by_contra unwanted
  have clear : info.flag &&& 8#32 = 0#32 := by simpa using unwanted
  simp [BitVec.and_assoc, BitVec.and_comm (~~~flag), ← BitVec.and_assoc info.flag, clear] at kept

structure StemsFrom (old info : SubscriberInfo) : Prop where
  remote : info.remote = old.remote
  uid : info.uid = old.uid
  isHap : info.isHap = old.isHap
  wants : info.wantsTaskState = true → old.wantsTaskState = true

theorem StemsFrom.refl (info : SubscriberInfo) : StemsFrom info info := ⟨rfl, rfl, rfl, id⟩

theorem Backed.stems {old info : SubscriberInfo} (backed : Backed labels old)
    (stems : StemsFrom old info) : Backed labels info := by
  obtain ⟨remote, uid, isHap, wants⟩ := stems
  refine ⟨?_, fun wanted => ?_⟩
  · rw [remote, uid, isHap]
    exact backed.owner
  · rw [remote]
    exact backed.wants (wants wanted)

/-- Nothing but a subscription brings an entry or a flag. -/
theorem stemsFrom_step {registry : Registry} {op : RegistryOp}
    (other : ∀ info, op ≠ .subscribe info) :
    ∀ info ∈ (registry.step op).infos, ∃ old ∈ registry.infos, StemsFrom old info := by
  cases op with
  | subscribe info => exact absurd rfl (other info)
  | unsubscribe remote flag isHap =>
      intro info member
      have kept : info ∈ registry.infos.filterMap (Registry.withoutFlag remote flag) := by
        rw [← Registry.infos_removeContinuous]
        unfold Registry.step at member
        cases isHap with
        | true => exact member
        | false => exact member
      obtain ⟨old, present, stays⟩ := List.mem_filterMap.mp kept
      refine ⟨old, present, ?_⟩
      unfold Registry.withoutFlag at stays
      split at stays
      · obtain rfl := Option.some.inj stays
        exact .refl old
      split at stays
      · obtain rfl := Option.some.inj stays
        exact ⟨rfl, rfl, rfl, wantsTaskState_clear⟩
      · exact nomatch stays
  | proceed index =>
      intro info member
      refine ⟨info, ?_, .refl info⟩
      have same : (registry.proceed index).infos = registry.infos := by
        unfold Registry.proceed
        grind
      exact same ▸ member
  | remoteDies remote => exact fun info member => ⟨info, member, .refl info⟩
  | subscriberDied owner remote =>
      intro info member
      refine ⟨info, ?_, .refl info⟩
      change info ∈ (registry.subscriberDied owner remote).infos at member
      unfold Registry.subscriberDied at member
      grind
  | restart => exact fun info member => absurd member List.not_mem_nil

/-- The new entry of a subscription, or an old one with the new flags. -/
theorem mem_addContinuous {registry : Registry} {info entry : SubscriberInfo}
    (member : entry ∈ (registry.addContinuous info).infos) :
    entry = info ∨ ∃ old ∈ registry.infos, entry = old ∨
      old.remote = info.remote ∧ entry = { old with flag := old.flag ||| info.flag } := by
  unfold Registry.addContinuous at member
  split at member
  · obtain ⟨old, present, rfl⟩ := List.mem_map.mp member
    refine Or.inr ⟨old, present, ?_⟩
    split
    · rename_i joins
      exact Or.inr ⟨joins.1, rfl⟩
    · exact Or.inl rfl
  · rcases List.mem_append.mp member with old | new
    · exact Or.inr ⟨entry, old, Or.inl rfl⟩
    · exact Or.inl (List.mem_singleton.mp new)

theorem registryOp_subscribe {s : BackgroundTaskMgrService} {event : ServiceEvent}
    {info : SubscriberInfo} (isOp : s.registryOp env event = some (.subscribe info)) :
    ∃ remote flag isHap, event = .request (.subscribeBackgroundTask (some remote) flag) ∧
      checkSubscription env flag = .ok isHap ∧
      info = ⟨remote, env.caller.uid, env.caller.pid, isHap, flag⟩ := by
  unfold registryOp at isOp
  split at isOp
  · rename_i remote flag
    split at isOp
    · exact nomatch isOp
    split at isOp
    · exact nomatch isOp
    · rename_i isHap check
      injection isOp with isOp
      injection isOp with isInfo
      exact ⟨remote, flag, isHap, rfl, check, isInfo.symm⟩
  · split at isOp
    · exact nomatch isOp
    split at isOp
    · exact nomatch isOp
    · injection isOp with isOp
      exact nomatch isOp
  · injection isOp with isOp
    exact nomatch isOp
  · injection isOp with isOp
    exact nomatch isOp
  · injection isOp with isOp
    exact nomatch isOp
  · injection isOp with isOp
    exact nomatch isOp
  · exact nomatch isOp

theorem backed_subscribe {registry : Registry} {isHap : Bool}
    (backed : ∀ info ∈ registry.infos, Backed labels info)
    (check : checkSubscription env flag = .ok isHap) :
    ∀ info ∈ (registry.addContinuous
        ⟨remote, env.caller.uid, env.caller.pid, isHap, flag⟩).infos,
      Backed (labels ++ [(env, .request (.subscribeBackgroundTask (some remote) flag))]) info := by
  have passes := passesGates_of_checkSubscription check
  intro info member
  rcases mem_addContinuous member with rfl | ⟨old, present, rfl | ⟨same, rfl⟩⟩
  · refine ⟨subscribedSince_now ⟨passes, rfl, isHap_of_checkSubscription check⟩, ?_⟩
    intro wants
    exact subscribedSince_now ⟨passes, by
      unfold SubscriberInfo.wantsTaskState at wants
      exact of_decide_eq_true wants⟩
  · exact (backed info present).later _ (by simp)
  · have before := (backed old present).later
      (env, .request (.subscribeBackgroundTask (some remote) flag)) (by simp)
    refine ⟨before.owner, fun wants => ?_⟩
    rcases wantsTaskState_or wants with already | joins
    · exact before.wants already
    · show SubscribedSince old.remote _ _
      rw [same]
      exact subscribedSince_now ⟨passes, joins⟩

/-! ## Runs -/

def SubscribedFor (remote : Nat) (uid : Int) (labels : List (ServiceEnv × ServiceEvent)) : Prop :=
  SubscribedSince remote (fun env flag => PassesGates env flag ∧
    (env.caller.checkCallingToken = true ∨ env.caller.uid = uid ∨
      flag &&& subscriberBackgroundTaskState ≠ 0#32)) labels

theorem Backed.subscribedFor {info : SubscriberInfo} {uid : Int} (backed : Backed labels info)
    (hears : info.MayHear uid) : SubscribedFor info.remote uid labels := by
  rcases hears with native | own | wants
  · refine backed.owner.mono ?_
    rintro env flag ⟨passes, -, isHap⟩
    refine ⟨passes, Or.inl ?_⟩
    rcases passes with token | ⟨hap, -⟩
    · exact token
    · rw [native, hap] at isHap
      exact nomatch isHap
  · refine backed.owner.mono ?_
    rintro env flag ⟨passes, uid, -⟩
    exact ⟨passes, Or.inr (Or.inl (uid.symm.trans own))⟩
  · refine (backed.wants wants).mono ?_
    rintro env flag ⟨passes, asks⟩
    exact ⟨passes, Or.inr (Or.inr asks)⟩

structure Audited (labels : List (ServiceEnv × ServiceEvent)) (s : BackgroundTaskMgrService) :
    Prop where
  entries : ∀ info ∈ s.registry.infos, Backed labels info
  calls : ∀ call ∈ s.continuous.mgr.calls, SubscribedFor call.1 call.2.uid labels

theorem audited_step {params : Transient.Params} {s : BackgroundTaskMgrService}
    (held : Audited labels s) (label : ServiceEnv × ServiceEvent)
    (ready : ∀ remote ∈ s.continuousDeaths.underWay, s.continuous.mgr.isSysReady = true) :
    Audited (labels ++ [label]) (step params s label) := by
  obtain ⟨env, event⟩ := label
  have laterCalls (lives : event ≠ .restart) :
      ∀ call ∈ s.continuous.mgr.calls,
        SubscribedFor call.1 call.2.uid (labels ++ [(env, event)]) :=
    fun call member => (held.calls call member).later (env, event) lives
  cases @subscriberStep_step env params event s ready with
  | apart none apart =>
      have lives : event ≠ .restart := by
        rintro rfl
        exact nomatch none
      obtain ⟨more, told, may⟩ := apart.2.told
      refine ⟨?_, ?_⟩
      · rw [apart.1]
        exact fun info member => (held.entries info member).later (env, event) lives
      · rw [told]
        intro call member
        rcases List.mem_append.mp member with before | new
        · exact laterCalls lives call before
        · obtain ⟨subscriber, present, remote, hears⟩ := may call new
          rw [← remote]
          exact ((held.entries subscriber present).subscribedFor hears).later (env, event) lives
  | lists op isOp registry silent =>
      by_cases lives : event = .restart
      · subst lives
        obtain rfl := Option.some.inj isOp
        refine ⟨?_, ?_⟩
        · rw [registry]
          exact fun info member => absurd member List.not_mem_nil
        · exact fun call member => absurd member List.not_mem_nil
      refine ⟨?_, silent ▸ laterCalls lives⟩
      rw [registry]
      by_cases subscribes : ∃ info, op = .subscribe info
      · obtain ⟨info, rfl⟩ := subscribes
        obtain ⟨remote, flag, isHap, rfl, check, rfl⟩ := registryOp_subscribe isOp
        intro entry member
        refine backed_subscribe held.entries check entry ?_
        unfold Registry.step at member
        cases isHap with
        | true => exact member
        | false => exact member
      · intro info member
        obtain ⟨old, present, stems⟩ :=
          stemsFrom_step (fun info same => subscribes ⟨info, same⟩) info member
        exact ((held.entries old present).stems stems).later (env, event) lives
  | restarted isRestart registry silent =>
      refine ⟨?_, ?_⟩
      · rw [registry]
        exact fun info member => absurd member List.not_mem_nil
      · rw [silent]
        exact fun call member => absurd member List.not_mem_nil

end

/-- Whatever happens to the service, every call that a subscriber receives about the
continuous tasks of a uid goes back to a subscription of that remote object in the same
process whose caller passed the gates and is a system ability, or an app of that uid, or an
app that asked for the state of background tasks. -/
theorem calls_subscribed (params : Transient.Params) (hash : String → Nat)
    (labels : List (ServiceEnv × ServiceEvent)) :
    ∀ call ∈ (run (step params) (installed hash) labels).continuous.mgr.calls,
      SubscribedFor call.1 call.2.uid labels := by
  have held : Audited labels (run (step params) (installed hash) labels) :=
    @run_history _ _ (step params) (installed hash) (fun s labels => Audited labels s)
      ⟨fun info member => absurd member List.not_mem_nil,
        fun call member => absurd member List.not_mem_nil⟩
      (fun labels label held => audited_step held label (attended_run params hash labels)) labels
  exact held.calls

def watchedStart : List (ServiceEnv × ServiceEvent) :=
  boot ++
    [(nativeEnv 0, .request (.subscribeBackgroundTask (some 5) 0#32)),
      ({ BgTaskMgr.Core.deviceEnv 100 with
          continuous := { toEnv :=
            { BgTaskMgr.Continuous.deviceEnv with foregroundApplications := some [100] } } },
        .request (.startBackgroundRunning (requestOf [BackgroundMode.location] [2])))]

theorem calls_subscribed_watched : SubscribedFor 5 100 watchedStart := by
  have heard : ∃ call ∈ (run (step {}) (installed (fun _ => 0)) watchedStart).continuous.mgr.calls,
      call.1 = 5 ∧ call.2.uid = 100 := by decide
  obtain ⟨call, member, remote, uid⟩ := heard
  have backed := calls_subscribed {} (fun _ => 0) watchedStart call member
  rwa [remote, uid] at backed

end BgTaskMgr.Core
