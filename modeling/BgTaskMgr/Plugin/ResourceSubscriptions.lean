import BgTaskMgr.Plugin.BgtaskPluginMgr

/-!
# Subscriptions of the plugin

The plugin manager is subscribed and unsubscribed value by value, as plugins are registered and
the plugin is switched on and off.  What is subscribed in the end follows from the registrations
and the switch alone: the values of the first plugin of each type, while the plugin is on.
-/

set_option autoImplicit false

namespace BgTaskMgr.Plugin

open StepSystem

/-! ## What the calls come to -/

def Subscribed (calls : List (Subscription × Bool)) (subscription : Subscription) : Bool :=
  calls.foldl (fun held call => if call.1 = subscription then call.2 else held) false

theorem subscribed_append {calls more : List (Subscription × Bool)} {subscribes : Bool}
    (way : ∀ call ∈ more, call.2 = subscribes) (subscription : Subscription) :
    Subscribed (calls ++ more) subscription =
      if subscription ∈ more.map Prod.fst then subscribes else Subscribed calls subscription := by
  unfold Subscribed
  rw [List.foldl_append]
  generalize calls.foldl (fun held call => if call.1 = subscription then call.2 else held) false =
    before
  induction more generalizing before with
  | nil => rfl
  | cons call rest ih =>
      have later := ih (fun call member => way call (List.mem_cons_of_mem _ member))
      rw [List.foldl_cons, later, List.map_cons]
      by_cases again : subscription ∈ rest.map Prod.fst
      · rw [if_pos again, if_pos (List.mem_cons_of_mem _ again)]
      · rw [if_neg again]
        by_cases here : call.1 = subscription
        · rw [if_pos here, if_pos (by simp [here]), way call List.mem_cons_self]
        · have none : subscription ∉ call.1 :: rest.map Prod.fst := by
            rintro (_ | ⟨_, member⟩)
            · exact here rfl
            · exact again member
          rw [if_neg here, if_neg none]

namespace BgtaskPlugin

def wants (self : BgtaskPlugin) (subscription : Subscription) : Bool :=
  (self.getPluginValue subscription.resType).any (fun value =>
    BgtaskPluginMgr.subscriptionOf subscription.resType value = subscription)

end BgtaskPlugin

namespace BgtaskPluginMgr

variable {platform : Platform} {s : BgtaskPluginMgr}

theorem mem_valueCalls {resType : Nat} {plugin : BgtaskPlugin} {subscribes : Bool}
    {subscription : Subscription} :
    subscription ∈ (valueCalls resType plugin subscribes).map Prod.fst ↔
      subscription.resType = resType ∧ plugin.wants subscription = true := by
  simp only [valueCalls, List.map_map, List.mem_map, Function.comp_apply, BgtaskPlugin.wants,
    List.any_eq_true, decide_eq_true_eq]
  constructor
  · rintro ⟨value, member, rfl⟩
    exact ⟨rfl, value, member, rfl⟩
  · rintro ⟨rfl, value, member, same⟩
    exact ⟨value, member, same⟩

theorem mem_allCalls {asyncCbMap : KeyedMap Nat BgtaskPlugin} {subscribes : Bool}
    {subscription : Subscription} :
    subscription ∈ (allCalls asyncCbMap subscribes).map Prod.fst ↔
      ∃ plugin, asyncCbMap.lookup subscription.resType = some plugin ∧
        plugin.wants subscription = true := by
  simp only [allCalls, List.map_flatMap, List.mem_flatMap, mem_valueCalls]
  constructor
  · rintro ⟨⟨resType, plugin⟩, member, rfl, wanted⟩
    exact ⟨plugin, KeyedMap.mem_entries_iff.mp member, wanted⟩
  · rintro ⟨plugin, found, wanted⟩
    exact ⟨_, KeyedMap.mem_entries_iff.mpr found, rfl, wanted⟩

theorem way_valueCalls (resType : Nat) (plugin : BgtaskPlugin) (subscribes : Bool) :
    ∀ call ∈ valueCalls resType plugin subscribes, call.2 = subscribes := by
  intro call member
  obtain ⟨value, -, rfl⟩ := List.mem_map.mp member
  rfl

theorem way_allCalls (asyncCbMap : KeyedMap Nat BgtaskPlugin) (subscribes : Bool) :
    ∀ call ∈ allCalls asyncCbMap subscribes, call.2 = subscribes := by
  intro call member
  obtain ⟨entry, -, here⟩ := List.mem_flatMap.mp member
  exact way_valueCalls _ _ _ call here

/-! ## The switch and the registrations -/

def switched (enabled : Bool) : PluginOp → Bool
  | .onPluginInit name => enabled || name == libName
  | .onPluginDisable => false
  | _ => enabled

def registers (resType : Nat) : PluginOp → Option BgtaskPlugin
  | .registerAsyncPlugin registered plugin => if registered = resType then plugin else none
  | _ => none

theorem pluginEnable_step (label : PluginEnv × PluginOp) :
    (s.step platform label).pluginEnable = switched s.pluginEnable label.2 := by
  obtain ⟨env, op⟩ := label
  cases op with
  | onPluginInit name =>
      by_cases own : name = libName
      · simp [step, switched, init, own]
      · simp [step, switched, own]
  | onPluginDisable => rfl
  | registerAsyncPlugin resType plugin =>
      cases plugin with
      | none => rfl
      | some plugin =>
          simp only [step, registerAsyncPlugin, switched]
          split
          · rfl
          split
          · rfl
          · rfl
  | onDispatchResource resData =>
      cases resData with
      | none => rfl
      | some resData =>
          simp only [step, switched]
          split
          · rfl
          · rfl
  | deliver index =>
      simp only [step, switched, dispatchResource]
      split
      · rfl
      split
      · rfl
      · rfl

theorem asyncCbMap_step (label : PluginEnv × PluginOp) (resType : Nat) :
    (s.step platform label).asyncCbMap.lookup resType =
      (s.asyncCbMap.lookup resType).or (registers resType label.2) := by
  obtain ⟨env, op⟩ := label
  cases op with
  | onPluginInit name =>
      simp only [step, registers, Option.or_none]
      split
      · rfl
      · rfl
  | onPluginDisable => simp [step, registers, disable]
  | registerAsyncPlugin registered plugin =>
      cases plugin with
      | none => simp [step, registers, registerAsyncPlugin]
      | some plugin =>
          simp only [step, registerAsyncPlugin, registers]
          rw [KeyedMap.lookup_emplace]
          by_cases here : resType = registered
          · subst here
            rw [if_pos rfl, if_pos rfl]
            cases s.asyncCbMap.lookup resType with
            | none => rfl
            | some former => rfl
          · rw [if_neg here, if_neg (Ne.symm here), Option.or_none]
  | onDispatchResource resData =>
      cases resData with
      | none => simp [step, registers]
      | some resData =>
          simp only [step, registers, Option.or_none]
          split
          · rfl
          · rfl
  | deliver index =>
      simp only [step, registers, dispatchResource, Option.or_none]
      split
      · rfl
      split
      · rfl
      · rfl

/-! ## The invariant -/

/-- Subscribed is what the registered plugin wants, as long as the plugin is on. -/
def Exact (s : BgtaskPluginMgr) : Prop :=
  ∀ subscription, Subscribed s.subscriptionCalls subscription =
    (s.pluginEnable &&
      (s.asyncCbMap.lookup subscription.resType).any (fun plugin => plugin.wants subscription))

theorem any_lookup_iff {asyncCbMap : KeyedMap Nat BgtaskPlugin} {subscription : Subscription} :
    (asyncCbMap.lookup subscription.resType).any (fun plugin => plugin.wants subscription) = true ↔
      ∃ plugin, asyncCbMap.lookup subscription.resType = some plugin ∧
        plugin.wants subscription = true := by
  rw [Option.any_eq_true]

theorem exact_all (exact : s.Exact) (subscribes : Bool) (subscription : Subscription) :
    Subscribed (s.subscriptionCalls ++ allCalls s.asyncCbMap subscribes) subscription =
      (subscribes && (s.asyncCbMap.lookup subscription.resType).any
        (fun plugin => plugin.wants subscription)) := by
  rw [subscribed_append (way_allCalls _ _)]
  by_cases wanted : (s.asyncCbMap.lookup subscription.resType).any
      (fun plugin => plugin.wants subscription) = true
  · rw [if_pos (mem_allCalls.mpr (any_lookup_iff.mp wanted)), wanted, Bool.and_true]
  · rw [if_neg (fun member => wanted (any_lookup_iff.mpr (mem_allCalls.mp member))),
      exact subscription, Bool.eq_false_iff.mpr wanted, Bool.and_false, Bool.and_false]

theorem exact_register (exact : s.Exact) {resType : Nat} (plugin : BgtaskPlugin)
    (free : s.asyncCbMap.lookup resType = none) (enabled : s.pluginEnable = true)
    (subscription : Subscription) :
    Subscribed (s.subscriptionCalls ++ valueCalls resType plugin true) subscription =
      ((KeyedMap.emplace resType plugin s.asyncCbMap).lookup subscription.resType).any
        (fun plugin => plugin.wants subscription) := by
  rw [subscribed_append (way_valueCalls _ _ _), KeyedMap.lookup_emplace]
  by_cases here : subscription.resType = resType
  · rw [if_pos here, free, Option.getD_none, Option.any_some]
    by_cases wanted : plugin.wants subscription = true
    · rw [if_pos (mem_valueCalls.mpr ⟨here, wanted⟩), wanted]
    · rw [if_neg (fun member => wanted (mem_valueCalls.mp member).2), exact subscription, here,
        free, Option.any_none, Bool.and_false, Bool.eq_false_iff.mpr wanted]
  · rw [if_neg here, if_neg (fun member => here (mem_valueCalls.mp member).1),
      exact subscription, enabled, Bool.true_and]

theorem exact_step (exact : s.Exact) (label : PluginEnv × PluginOp) :
    (s.step platform label).Exact := by
  obtain ⟨env, op⟩ := label
  cases op with
  | onPluginInit name =>
      simp only [step]
      split
      · exact exact
      · exact exact_all exact true
  | onPluginDisable => exact exact_all exact false
  | registerAsyncPlugin resType plugin =>
      cases plugin with
      | none => exact exact
      | some plugin =>
          intro subscription
          simp only [step, registerAsyncPlugin]
          split
          · rename_i taken
            have kept : KeyedMap.emplace resType plugin s.asyncCbMap = s.asyncCbMap :=
              if_pos taken
            rw [kept]
            exact exact subscription
          rename_i free
          rw [Bool.not_eq_true, Option.isSome_eq_false_iff, Option.isNone_iff_eq_none] at free
          split
          · rename_i enabled
            rw [show (s.registerAsyncPluginByValue resType plugin).pluginEnable = true from enabled,
              Bool.true_and]
            exact exact_register exact plugin free enabled subscription
          · rename_i off
            rw [Bool.not_eq_true] at off
            have silent := exact subscription
            rw [off, Bool.false_and] at silent ⊢
            exact silent
  | onDispatchResource resData =>
      cases resData with
      | none => exact exact
      | some resData =>
          simp only [step]
          split
          · exact exact
          · exact exact
  | deliver index =>
      simp only [step, dispatchResource]
      split
      · exact exact
      split
      · exact exact
      · exact exact

/-! ## Runs -/

def enabledAfter (labels : List (PluginEnv × PluginOp)) (enabled : Bool) : Bool :=
  labels.foldl (fun enabled label => switched enabled label.2) enabled

def firstRegistered (resType : Nat) (labels : List (PluginEnv × PluginOp)) :
    Option BgtaskPlugin :=
  labels.findSome? (fun label => registers resType label.2)

theorem pluginEnable_run (labels : List (PluginEnv × PluginOp)) (s : BgtaskPluginMgr) :
    (run (step platform) s labels).pluginEnable = enabledAfter labels s.pluginEnable := by
  induction labels generalizing s with
  | nil => rfl
  | cons label rest ih =>
      rw [run_cons, ih, pluginEnable_step]
      rfl

theorem asyncCbMap_run (labels : List (PluginEnv × PluginOp)) (s : BgtaskPluginMgr)
    (resType : Nat) :
    (run (step platform) s labels).asyncCbMap.lookup resType =
      (s.asyncCbMap.lookup resType).or (firstRegistered resType labels) := by
  induction labels generalizing s with
  | nil => exact Option.or_none.symm
  | cons label rest ih =>
      rw [run_cons, ih, asyncCbMap_step, Option.or_assoc, firstRegistered, firstRegistered,
        List.findSome?_cons]
      cases registers resType label.2 with
      | none => rfl
      | some plugin => rfl

/-- In every run a resource is subscribed exactly while the plugin is on and the first plugin
that was registered for its type asks for it. -/
theorem resources_subscribed_iff (platform : Platform) (labels : List (PluginEnv × PluginOp))
    (subscription : Subscription) :
    Subscribed (run (step platform) {} labels).subscriptionCalls subscription = true ↔
      enabledAfter labels false = true ∧
        ∃ plugin, firstRegistered subscription.resType labels = some plugin ∧
          plugin.wants subscription = true := by
  have start : Exact {} := fun _ => rfl
  have exact : (run (step platform) {} labels).Exact :=
    @run_preserves _ _ _ Exact (fun _ label exact => exact_step exact label) labels {} start
  rw [exact subscription, Bool.and_eq_true, any_lookup_iff, pluginEnable_run, asyncCbMap_run]
  exact Iff.rfl

end BgtaskPluginMgr

end BgTaskMgr.Plugin
