import BgTaskMgr.Continuous.AuthFrame
import BgTaskMgr.Core.Startup

/-!
# Subscribers of the three managers

A system ability subscribes to all three managers by one call, and each manager is told of
its death on its own.  `Registry` is what these calls and notifications act on; `Linked` is
what keeps the three lists in step while a call is between two managers and while some of
the managers have been told of a death and others have not.
-/

set_option autoImplicit false

namespace BgTaskMgr.Core

open BgTaskMgr.Continuous StepSystem

/-! ## The lists of subscribers -/

structure Registry where
  infos : List SubscriberInfo
  continuousDeaths : Obituaries Nat
  transient : Roster Nat
  resource : Roster Nat
  underWay : List SubscriptionCall
  dead : Finset Nat

inductive RegistryOp where
  | subscribe (info : SubscriberInfo)
  | unsubscribe (remote : Nat) (flag : BitVec 32) (isHap : Bool)
  | proceed (index : Nat)
  | remoteDies (remote : Nat)
  | subscriberDied (owner : SubscriberOwner) (remote : Nat)
  | restart

namespace Registry

section

variable (self : Registry)

def Knows (remote : Nat) : Prop := ∃ info ∈ self.infos, info.remote = remote

instance (remote : Nat) : Decidable (self.Knows remote) :=
  inferInstanceAs (Decidable (∃ info ∈ self.infos, info.remote = remote))

/-- `AddSubscriberInner`. -/
def addContinuous (info : SubscriberInfo) : Registry :=
  if self.Knows info.remote then
    { self with
      infos := self.infos.map (fun target =>
        if target.remote = info.remote ∧ target.isHap then
          { target with flag := target.flag ||| info.flag }
        else target) }
  else
    { self with
      infos := self.infos ++ [info]
      continuousDeaths := self.continuousDeaths.watch self.dead info.remote }

def withoutFlag (remote : Nat) (flag : BitVec 32) (target : SubscriberInfo) :
    Option SubscriberInfo :=
  if target.remote ≠ remote then some target
  else if target.isHap && target.flag &&& ~~~flag != 0#32 then
    some { target with flag := target.flag &&& ~~~flag }
  else none

/-- `RemoveSubscriberInner`. -/
def removeContinuous (remote : Nat) (flag : BitVec 32) : Registry :=
  let removed := { self with infos := self.infos.filterMap (withoutFlag remote flag) }
  if self.Knows remote ∧ ¬ removed.Knows remote then
    { removed with continuousDeaths := self.continuousDeaths.unwatch remote }
  else removed

def setUnderWay (underWay : List SubscriptionCall) : Registry := { self with underWay := underWay }

def settle (dead : Finset Nat) (call : SubscriptionCall) (roster : Roster Nat) : Roster Nat :=
  if call.subscribes then roster.join dead call.remote else roster.leave call.remote

def proceed (index : Nat) : Registry :=
  match self.underWay[index]? with
  | none => self
  | some call =>
      if !call.transientDone then
        { self with
          transient := settle self.dead call self.transient
          underWay := self.underWay.set index { call with transientDone := true } }
      else
        { self with
          resource := settle self.dead call self.resource
          underWay := self.underWay.eraseIdx index }

def subscriberDied (owner : SubscriberOwner) (remote : Nat) : Registry :=
  match owner with
  | .continuous =>
      if remote ∈ self.continuousDeaths.underWay then
        { self with
          infos := self.infos.filter (fun target => target.remote ≠ remote)
          continuousDeaths := self.continuousDeaths.deliver remote }
      else self
  | .transient => { self with transient := self.transient.told remote }
  | .efficiency => { self with resource := self.resource.told remote }

def remoteDies (remote : Nat) : Registry :=
  { self with
    dead := insert remote self.dead
    continuousDeaths := self.continuousDeaths.die remote
    transient := self.transient.die remote
    resource := self.resource.die remote }

def step : RegistryOp → Registry
  | .subscribe info =>
      let added := self.addContinuous info
      if info.isHap then added
      else added.setUnderWay (added.underWay ++ [⟨info.remote, true, false⟩])
  | .unsubscribe remote flag isHap =>
      let removed := self.removeContinuous remote flag
      if isHap then removed
      else removed.setUnderWay (removed.underWay ++ [⟨remote, false, false⟩])
  | .proceed index => self.proceed index
  | .remoteDies remote => self.remoteDies remote
  | .subscriberDied owner remote => self.subscriberDied owner remote
  | .restart => ⟨[], {}, {}, {}, [], self.dead⟩

/-! ## In step -/

def Between (remote : Nat) : Prop := remote ∈ self.underWay.map SubscriptionCall.remote

/-- A process calls for its own remote objects, one call at a time and while it lives, and it
does not end during a call. -/
def Orderly (appOwned : Nat → Bool) : RegistryOp → Prop
  | .subscribe info =>
      info.isHap = appOwned info.remote ∧ ¬ self.Between info.remote ∧ info.remote ∉ self.dead
  | .unsubscribe remote _ isHap =>
      isHap = appOwned remote ∧ ¬ self.Between remote ∧ remote ∉ self.dead
  | .remoteDies remote => ¬ self.Between remote
  | _ => True

end

/-- The invariant.  A remote object belongs to an app or to a system ability; the entries of
a system ability agree unless a call of it is under way or it is dead, and a call under way
has settled the managers that it has passed. -/
structure Linked (registry : Registry) (appOwned : Nat → Bool) : Prop where
  nodup : (registry.infos.map SubscriberInfo.remote).Nodup
  kinds : ∀ info ∈ registry.infos, info.isHap = appOwned info.remote
  covers : registry.continuousDeaths.Covers registry.Knows registry.dead
  transient : registry.transient.Sound registry.dead
  resource : registry.resource.Sound registry.dead
  calls : (registry.underWay.map SubscriptionCall.remote).Nodup
  callers : ∀ call ∈ registry.underWay, appOwned call.remote = false ∧ call.remote ∉ registry.dead
  apps : ∀ remote, appOwned remote = true →
    remote ∉ registry.transient.members ∧ remote ∉ registry.resource.members
  agree : ∀ remote, appOwned remote = false → remote ∉ registry.dead → ¬ registry.Between remote →
    (remote ∈ registry.transient.members ↔ registry.Knows remote) ∧
      (remote ∈ registry.resource.members ↔ registry.Knows remote)
  passed : ∀ call ∈ registry.underWay, (registry.Knows call.remote ↔ call.subscribes = true) ∧
    (call.transientDone = true →
      (call.remote ∈ registry.transient.members ↔ call.subscribes = true))

section

variable {self : Registry} {appOwned : Nat → Bool}

/-! ### The list of the continuous task manager -/

theorem knows_addContinuous (info : SubscriberInfo) (r : Nat) :
    (self.addContinuous info).Knows r ↔ self.Knows r ∨ r = info.remote := by
  have kept (target : SubscriberInfo) :
      (if target.remote = info.remote ∧ target.isHap then
        { target with flag := target.flag ||| info.flag } else target).remote = target.remote := by
    split
    · rfl
    · rfl
  unfold addContinuous
  split
  · rename_i known
    constructor
    · rintro ⟨_, member, rfl⟩
      obtain ⟨target, present, rfl⟩ := List.mem_map.mp member
      exact Or.inl ⟨target, present, (kept target).symm⟩
    · rintro (⟨target, member, rfl⟩ | rfl)
      · exact ⟨_, List.mem_map_of_mem member, kept target⟩
      · obtain ⟨target, member, same⟩ := known
        exact ⟨_, List.mem_map_of_mem member, (kept target).trans same⟩
  · unfold Knows
    simp [or_and_right, exists_or, eq_comm]

theorem remotes_addContinuous (info : SubscriberInfo) :
    (self.addContinuous info).infos.map SubscriberInfo.remote =
      self.infos.map SubscriberInfo.remote ∨
    ¬ self.Knows info.remote ∧ (self.addContinuous info).infos.map SubscriberInfo.remote =
      self.infos.map SubscriberInfo.remote ++ [info.remote] := by
  unfold addContinuous
  split
  · left
    rw [List.map_map]
    apply List.map_congr_left
    intro target _
    show (if _ then _ else _ : SubscriberInfo).remote = _
    split
    · rfl
    · rfl
  · rename_i unknown
    exact Or.inr ⟨unknown, by simp⟩

theorem nodup_addContinuous (info : SubscriberInfo)
    (nodup : (self.infos.map SubscriberInfo.remote).Nodup) :
    ((self.addContinuous info).infos.map SubscriberInfo.remote).Nodup := by
  rcases remotes_addContinuous info with same | ⟨unknown, added⟩
  · rw [same]
    exact nodup
  · rw [added, List.nodup_append]
    refine ⟨nodup, List.nodup_singleton _, ?_⟩
    rintro r member other last rfl
    obtain ⟨target, present, same⟩ := List.mem_map.mp member
    exact unknown ⟨target, present, same.trans (List.mem_singleton.mp last)⟩

theorem kinds_addContinuous (info : SubscriberInfo) (own : info.isHap = appOwned info.remote)
    (kinds : ∀ target ∈ self.infos, target.isHap = appOwned target.remote) :
    ∀ target ∈ (self.addContinuous info).infos, target.isHap = appOwned target.remote := by
  unfold addContinuous
  split
  · intro target member
    obtain ⟨old, present, rfl⟩ := List.mem_map.mp member
    split
    · exact kinds old present
    · exact kinds old present
  · intro target member
    rcases List.mem_append.mp member with old | new
    · exact kinds target old
    · obtain rfl := List.mem_singleton.mp new
      exact own

theorem covers_addContinuous (info : SubscriberInfo) (alive : info.remote ∉ self.dead)
    (covers : self.continuousDeaths.Covers self.Knows self.dead) :
    (self.addContinuous info).continuousDeaths.Covers (self.addContinuous info).Knows self.dead := by
  have members := @knows_addContinuous self info
  by_cases known : self.Knows info.remote
  · have same : (self.addContinuous info).continuousDeaths = self.continuousDeaths := by
      unfold addContinuous
      rw [if_pos known]
    rw [same]
    exact covers.mono (fun r here => ((members r).mp here).elim id (fun same => same ▸ known))
  · have same : (self.addContinuous info).continuousDeaths =
        self.continuousDeaths.watch self.dead info.remote := by
      unfold addContinuous
      rw [if_neg known]
    rw [same]
    exact covers.watch alive (fun r here => (members r).mp here)

theorem withoutFlag_remote {remote : Nat} {flag : BitVec 32} {target kept : SubscriberInfo}
    (stays : withoutFlag remote flag target = some kept) :
    kept.remote = target.remote ∧ kept.isHap = target.isHap ∧
      (target.remote ≠ remote ∨ target.isHap = true) := by
  unfold withoutFlag at stays
  split at stays
  · rename_i other
    obtain rfl := Option.some.inj stays
    exact ⟨rfl, rfl, Or.inl other⟩
  split at stays
  · rename_i hap
    rw [Bool.and_eq_true] at hap
    obtain rfl := Option.some.inj stays
    exact ⟨rfl, rfl, Or.inr hap.1⟩
  · exact absurd stays (by simp)

theorem infos_removeContinuous (remote : Nat) (flag : BitVec 32) :
    (self.removeContinuous remote flag).infos = self.infos.filterMap (withoutFlag remote flag) := by
  unfold removeContinuous
  dsimp only
  split
  · rfl
  · rfl

/-- Who is known after a removal was known, and only entries of apps may outlast it. -/
theorem knows_removeContinuous {remote : Nat} {flag : BitVec 32} {r : Nat}
    (known : (self.removeContinuous remote flag).Knows r) :
    ∃ target ∈ self.infos, target.remote = r ∧ (r ≠ remote ∨ target.isHap = true) := by
  obtain ⟨kept, member, rfl⟩ := known
  rw [infos_removeContinuous] at member
  obtain ⟨target, present, stays⟩ := List.mem_filterMap.mp member
  obtain ⟨same, -, which⟩ := withoutFlag_remote stays
  exact ⟨target, present, same.symm, by rwa [same]⟩

theorem knows_removeContinuous_ne {remote : Nat} {flag : BitVec 32} {r : Nat} (apart : r ≠ remote) :
    (self.removeContinuous remote flag).Knows r ↔ self.Knows r := by
  constructor
  · intro known
    obtain ⟨target, present, same, -⟩ := knows_removeContinuous known
    exact ⟨target, present, same⟩
  · rintro ⟨target, present, rfl⟩
    refine ⟨target, ?_, rfl⟩
    rw [infos_removeContinuous]
    exact List.mem_filterMap.mpr ⟨target, present, by rw [withoutFlag, if_pos apart]⟩

theorem nodup_removeContinuous (remote : Nat) (flag : BitVec 32)
    (nodup : (self.infos.map SubscriberInfo.remote).Nodup) :
    ((self.removeContinuous remote flag).infos.map SubscriberInfo.remote).Nodup := by
  rw [infos_removeContinuous]
  refine nodup.sublist ?_
  induction self.infos with
  | nil => exact List.Sublist.refl _
  | cons target rest ih =>
      rw [List.filterMap_cons]
      cases stays : withoutFlag remote flag target with
      | none => exact ih.cons _
      | some kept =>
          rw [List.map_cons, List.map_cons, (withoutFlag_remote stays).1]
          exact ih.cons_cons _

theorem kinds_removeContinuous (remote : Nat) (flag : BitVec 32)
    (kinds : ∀ target ∈ self.infos, target.isHap = appOwned target.remote) :
    ∀ target ∈ (self.removeContinuous remote flag).infos,
      target.isHap = appOwned target.remote := by
  intro kept member
  rw [infos_removeContinuous] at member
  obtain ⟨target, present, stays⟩ := List.mem_filterMap.mp member
  obtain ⟨same, hap, -⟩ := withoutFlag_remote stays
  rw [same, hap]
  exact kinds target present

theorem covers_removeContinuous (remote : Nat) (flag : BitVec 32)
    (covers : self.continuousDeaths.Covers self.Knows self.dead) :
    (self.removeContinuous remote flag).continuousDeaths.Covers
      (self.removeContinuous remote flag).Knows self.dead := by
  have fewer (r : Nat) (known : (self.removeContinuous remote flag).Knows r) : self.Knows r := by
    obtain ⟨target, present, same, -⟩ := knows_removeContinuous known
    exact ⟨target, present, same⟩
  have infos := @infos_removeContinuous self remote flag
  by_cases leaves : self.Knows remote ∧ ¬ (self.removeContinuous remote flag).Knows remote
  · have same : (self.removeContinuous remote flag).continuousDeaths =
        self.continuousDeaths.unwatch remote := by
      unfold removeContinuous
      dsimp only
      rw [if_pos]
      refine ⟨leaves.1, fun stays => leaves.2 ?_⟩
      obtain ⟨kept, member, isRemote⟩ := stays
      exact ⟨kept, infos ▸ member, isRemote⟩
    rw [same]
    exact covers.unwatch (fun r known => ⟨fewer r known, fun isRemote =>
      leaves.2 (isRemote ▸ known)⟩)
  · have same : (self.removeContinuous remote flag).continuousDeaths = self.continuousDeaths := by
      unfold removeContinuous
      dsimp only
      rw [if_neg]
      rintro ⟨known, gone⟩
      refine leaves ⟨known, fun stays => gone ?_⟩
      obtain ⟨kept, member, isRemote⟩ := stays
      exact ⟨kept, infos ▸ member, isRemote⟩
    rw [same]
    exact covers.mono fewer

/-! ### The lists of the other managers -/

theorem sound_settle {roster : Roster Nat} (sound : roster.Sound self.dead)
    (call : SubscriptionCall) (alive : call.remote ∉ self.dead) :
    (settle self.dead call roster).Sound self.dead := by
  unfold settle
  split
  · exact sound.join alive
  · exact sound.leave

theorem mem_settle_ne {roster : Roster Nat} (sound : roster.Sound self.dead)
    {call : SubscriptionCall} {r : Nat} (apart : r ≠ call.remote) :
    r ∈ (settle self.dead call roster).members ↔ r ∈ roster.members := by
  unfold settle
  split
  · exact (Roster.mem_join r).trans (or_iff_left apart)
  · exact (Roster.mem_leave sound r).trans (and_iff_left apart)

/-- A manager that has taken a call lists the caller if the call subscribes. -/
theorem mem_settle_self {roster : Roster Nat} (sound : roster.Sound self.dead)
    (call : SubscriptionCall) :
    call.remote ∈ (settle self.dead call roster).members ↔ call.subscribes = true := by
  unfold settle
  split
  · rename_i subscribes
    exact iff_of_true ((Roster.mem_join call.remote).mpr (Or.inr rfl)) subscribes
  · rename_i leaves
    exact iff_of_false (fun stays => ((Roster.mem_leave sound call.remote).mp stays).2 rfl) leaves

/-! ### Steps -/

theorem between_of_mem {call : SubscriptionCall} (member : call ∈ self.underWay) :
    self.Between call.remote := List.mem_map_of_mem member

/-- Only the continuous task manager's part of one remote object changes, by the call of an
app. -/
theorem Linked.of_appCall {after : Registry} {remote : Nat} (held : self.Linked appOwned)
    (app : appOwned remote = true)
    (nodup : (after.infos.map SubscriberInfo.remote).Nodup)
    (kinds : ∀ info ∈ after.infos, info.isHap = appOwned info.remote)
    (covers : after.continuousDeaths.Covers after.Knows self.dead)
    (others : ∀ r, r ≠ remote → (after.Knows r ↔ self.Knows r))
    (transient : after.transient = self.transient) (resource : after.resource = self.resource)
    (underWay : after.underWay = self.underWay) (dead : after.dead = self.dead) :
    after.Linked appOwned := by
  have apart {r : Nat} (native : appOwned r = false) : r ≠ remote := by
    rintro rfl
    exact absurd (native.symm.trans app) (by decide)
  refine
    { nodup := nodup, kinds := kinds, covers := dead ▸ covers
      transient := by rw [transient, dead]; exact held.transient
      resource := by rw [resource, dead]; exact held.resource
      calls := by rw [underWay]; exact held.calls
      callers := by rw [underWay, dead]; exact held.callers
      apps := by rw [transient, resource]; exact held.apps
      agree := ?_, passed := ?_ }
  · intro r native alive settled
    rw [transient, resource, others r (apart native)]
    exact held.agree r native (dead ▸ alive) (fun between => settled (by
      unfold Between
      rw [underWay]
      exact between))
  · intro call member
    rw [underWay] at member
    rw [others _ (apart (held.callers call member).1), transient]
    exact held.passed call member

theorem Linked.of_nativeCall {after : Registry} {remote : Nat} {subscribes : Bool}
    (held : self.Linked appOwned) (native : appOwned remote = false)
    (free : ¬ self.Between remote) (alive : remote ∉ self.dead)
    (nodup : (after.infos.map SubscriberInfo.remote).Nodup)
    (kinds : ∀ info ∈ after.infos, info.isHap = appOwned info.remote)
    (covers : after.continuousDeaths.Covers after.Knows self.dead)
    (others : ∀ r, r ≠ remote → (after.Knows r ↔ self.Knows r))
    (settles : after.Knows remote ↔ subscribes = true)
    (transient : after.transient = self.transient) (resource : after.resource = self.resource)
    (underWay : after.underWay = self.underWay ++ [⟨remote, subscribes, false⟩])
    (dead : after.dead = self.dead) : after.Linked appOwned := by
  refine
    { nodup := nodup, kinds := kinds, covers := dead ▸ covers
      transient := by rw [transient, dead]; exact held.transient
      resource := by rw [resource, dead]; exact held.resource
      calls := ?_, callers := ?_
      apps := by rw [transient, resource]; exact held.apps
      agree := ?_, passed := ?_ }
  · rw [underWay, List.map_append, List.map_singleton, List.nodup_append]
    refine ⟨held.calls, List.nodup_singleton remote, ?_⟩
    rintro r member other last rfl
    obtain rfl : r = remote := List.mem_singleton.mp last
    exact free member
  · intro call member
    rw [underWay] at member
    rw [dead]
    rcases List.mem_append.mp member with old | new
    · exact held.callers call old
    · obtain rfl := List.mem_singleton.mp new
      exact ⟨native, alive⟩
  · intro r own living settled
    have before : ¬ self.Between r ∧ r ≠ remote := by
      unfold Between at settled ⊢
      rw [underWay, List.map_append, List.map_singleton, List.mem_append, List.mem_singleton,
        not_or] at settled
      exact settled
    rw [transient, resource, others r before.2]
    exact held.agree r own (dead ▸ living) before.1
  · intro call member
    rw [underWay] at member
    rcases List.mem_append.mp member with old | new
    · have apart : call.remote ≠ remote := fun same => free (same ▸ between_of_mem old)
      rw [others _ apart, transient]
      exact held.passed call old
    · obtain rfl := List.mem_singleton.mp new
      exact ⟨settles, fun never => absurd never Bool.false_ne_true⟩

theorem addContinuous_rest (info : SubscriberInfo) :
    (self.addContinuous info).transient = self.transient ∧
      (self.addContinuous info).resource = self.resource ∧
      (self.addContinuous info).underWay = self.underWay ∧
      (self.addContinuous info).dead = self.dead := by
  unfold addContinuous
  split
  · exact ⟨rfl, rfl, rfl, rfl⟩
  · exact ⟨rfl, rfl, rfl, rfl⟩

theorem removeContinuous_rest (remote : Nat) (flag : BitVec 32) :
    (self.removeContinuous remote flag).transient = self.transient ∧
      (self.removeContinuous remote flag).resource = self.resource ∧
      (self.removeContinuous remote flag).underWay = self.underWay ∧
      (self.removeContinuous remote flag).dead = self.dead := by
  unfold removeContinuous
  dsimp only
  split
  · exact ⟨rfl, rfl, rfl, rfl⟩
  · exact ⟨rfl, rfl, rfl, rfl⟩

theorem Linked.subscribe (held : self.Linked appOwned) {info : SubscriberInfo}
    (orderly : self.Orderly appOwned (.subscribe info)) :
    (self.step (.subscribe info)).Linked appOwned := by
  obtain ⟨own, free, alive⟩ := orderly
  obtain ⟨transient, resource, underWay, dead⟩ := @addContinuous_rest self info
  have knows := @knows_addContinuous self info
  have nodup := nodup_addContinuous info held.nodup
  have kinds := kinds_addContinuous info own held.kinds
  have covers := covers_addContinuous info alive held.covers
  have others (r : Nat) (apart : r ≠ info.remote) :
      (self.addContinuous info).Knows r ↔ self.Knows r := by
    rw [knows r]
    exact or_iff_left apart
  unfold step
  dsimp only
  split
  · rename_i app
    exact held.of_appCall (own.symm.trans app) nodup kinds covers others transient resource
      underWay dead
  · rename_i native
    have native : appOwned info.remote = false := own.symm.trans (by simpa using native)
    have goesOn : ((self.addContinuous info).setUnderWay
        ((self.addContinuous info).underWay ++ [⟨info.remote, true, false⟩])).Linked appOwned :=
      held.of_nativeCall native free alive nodup kinds covers others
        (iff_of_true ((knows info.remote).mpr (Or.inr rfl)) rfl) transient resource
        (by rw [← underWay]; rfl) dead
    exact goesOn

theorem Linked.unsubscribe (held : self.Linked appOwned) {remote : Nat} {flag : BitVec 32}
    {isHap : Bool} (orderly : self.Orderly appOwned (.unsubscribe remote flag isHap)) :
    (self.step (.unsubscribe remote flag isHap)).Linked appOwned := by
  obtain ⟨own, free, alive⟩ := orderly
  obtain ⟨transient, resource, underWay, dead⟩ := @removeContinuous_rest self remote flag
  have nodup := nodup_removeContinuous remote flag held.nodup
  have kinds := kinds_removeContinuous remote flag held.kinds
  have covers := covers_removeContinuous remote flag held.covers
  have others (r : Nat) (apart : r ≠ remote) :
      (self.removeContinuous remote flag).Knows r ↔ self.Knows r := knows_removeContinuous_ne apart
  unfold step
  dsimp only
  cases isHap with
  | true =>
      exact held.of_appCall own.symm nodup kinds covers others transient resource underWay dead
  | false =>
      have gone : ¬ (self.removeContinuous remote flag).Knows remote := by
        intro known
        obtain ⟨target, present, same, other | hap⟩ := knows_removeContinuous known
        · exact other rfl
        · have := (held.kinds target present).symm.trans hap
          rw [same] at this
          exact absurd (own.trans this) (by decide)
      have goesOn : ((self.removeContinuous remote flag).setUnderWay
          ((self.removeContinuous remote flag).underWay ++ [⟨remote, false, false⟩])).Linked
            appOwned :=
        held.of_nativeCall own.symm free alive nodup kinds covers others
          (iff_of_false gone Bool.false_ne_true) transient resource (by rw [← underWay]; rfl) dead
      exact goesOn

theorem Linked.remoteDies (held : self.Linked appOwned) {remote : Nat}
    (free : ¬ self.Between remote) : (self.remoteDies remote).Linked appOwned := by
  refine
    { nodup := held.nodup, kinds := held.kinds, covers := held.covers.die
      transient := held.transient.die, resource := held.resource.die
      calls := held.calls, callers := ?_, apps := held.apps, agree := ?_, passed := held.passed }
  · intro call member
    obtain ⟨native, alive⟩ := held.callers call member
    refine ⟨native, fun gone => ?_⟩
    rcases Finset.mem_insert.mp gone with same | before
    · exact free (same ▸ between_of_mem member)
    · exact alive before
  · intro r native alive settled
    exact held.agree r native (fun before => alive (Finset.mem_insert_of_mem before)) settled

theorem Linked.sameCall (held : self.Linked appOwned) {call other : SubscriptionCall}
    (member : call ∈ self.underWay) (present : other ∈ self.underWay)
    (same : other.remote = call.remote) : other = call :=
  List.inj_on_of_nodup_map held.calls present member same

theorem Linked.taken (held : self.Linked appOwned) {index : Nat} {call : SubscriptionCall}
    (isNext : self.underWay[index]? = some call) (fresh : call.transientDone = false) :
    Linked { self with
      transient := settle self.dead call self.transient
      underWay := self.underWay.set index { call with transientDone := true } } appOwned := by
  have member : call ∈ self.underWay := List.mem_of_getElem? isNext
  obtain ⟨native, alive⟩ := held.callers call member
  obtain ⟨inRange, isCall⟩ := List.getElem?_eq_some_iff.mp isNext
  have same : (self.underWay.set index { call with transientDone := true }).map
      SubscriptionCall.remote = self.underWay.map SubscriptionCall.remote := by
    rw [List.map_set]
    show List.set _ index call.remote = _
    rw [← isCall, ← List.getElem_map SubscriptionCall.remote (h := by simpa using inRange),
      List.set_getElem_self]
  have unmoved {r : Nat} (apart : r ≠ call.remote) :
      r ∈ (settle self.dead call self.transient).members ↔ r ∈ self.transient.members :=
    mem_settle_ne held.transient apart
  refine
    { nodup := held.nodup, kinds := held.kinds, covers := held.covers
      transient := sound_settle held.transient call alive, resource := held.resource
      calls := by rw [same]; exact held.calls
      callers := ?_, apps := ?_, agree := ?_, passed := ?_ }
  · intro other present
    rcases List.mem_or_eq_of_mem_set present with old | rfl
    · exact held.callers other old
    · exact ⟨native, alive⟩
  · intro r app
    have apart : r ≠ call.remote := by
      rintro rfl
      exact absurd (native.symm.trans app) Bool.false_ne_true
    exact ⟨fun joined => (held.apps r app).1 ((unmoved apart).mp joined), (held.apps r app).2⟩
  · intro r own living settled
    have free : ¬ self.Between r := by
      unfold Between at settled ⊢
      rwa [same] at settled
    have apart : r ≠ call.remote := fun isRemote => free (isRemote ▸ between_of_mem member)
    obtain ⟨transient, resource⟩ := held.agree r own living free
    exact ⟨(unmoved apart).trans transient, resource⟩
  · intro other present
    rcases List.mem_or_eq_of_mem_set present with old | rfl
    · obtain ⟨known, first⟩ := held.passed other old
      refine ⟨known, fun done => Iff.trans (unmoved ?_) (first done)⟩
      intro isRemote
      obtain rfl := held.sameCall member old isRemote
      exact absurd (fresh.symm.trans done) Bool.false_ne_true
    · exact ⟨(held.passed call member).1, fun _ => mem_settle_self held.transient call⟩

theorem Linked.returned (held : self.Linked appOwned) {index : Nat} {call : SubscriptionCall}
    (isNext : self.underWay[index]? = some call) (done : call.transientDone = true) :
    Linked { self with
      resource := settle self.dead call self.resource
      underWay := self.underWay.eraseIdx index } appOwned := by
  have member : call ∈ self.underWay := List.mem_of_getElem? isNext
  obtain ⟨native, alive⟩ := held.callers call member
  obtain ⟨known, first⟩ := held.passed call member
  obtain ⟨inRange, isCall⟩ := List.getElem?_eq_some_iff.mp isNext
  have perm : (call :: self.underWay.eraseIdx index).Perm self.underWay := by
    rw [← isCall]
    exact List.getElem_cons_eraseIdx_perm inRange
  have others {other : SubscriptionCall} (present : other ∈ self.underWay.eraseIdx index) :
      other ∈ self.underWay := perm.subset (List.mem_cons_of_mem call present)
  have calls := (perm.map SubscriptionCall.remote).nodup_iff.mpr held.calls
  refine
    { nodup := held.nodup, kinds := held.kinds, covers := held.covers
      transient := held.transient, resource := sound_settle held.resource call alive
      calls := (List.nodup_cons.mp calls).2
      callers := fun other present => held.callers other (others present)
      apps := ?_, agree := ?_, passed := fun other present => held.passed other (others present) }
  · intro r app
    have apart : r ≠ call.remote := by
      rintro rfl
      exact absurd (native.symm.trans app) Bool.false_ne_true
    exact ⟨(held.apps r app).1,
      fun joined => (held.apps r app).2 ((mem_settle_ne held.resource apart).mp joined)⟩
  · intro r own living settled
    by_cases isRemote : r = call.remote
    · -- the caller itself: every manager has done as the call asked
      subst isRemote
      exact ⟨(first done).trans known.symm,
        Iff.trans (mem_settle_self held.resource call) known.symm⟩
    · have free : ¬ self.Between r := by
        intro between
        rcases List.mem_cons.mp ((perm.map SubscriptionCall.remote).symm.subset between) with
          same | still
        · exact isRemote same
        · exact settled still
      obtain ⟨transient, resource⟩ := held.agree r own living free
      exact ⟨transient, Iff.trans (mem_settle_ne held.resource isRemote) resource⟩

theorem Linked.proceed (held : self.Linked appOwned) (index : Nat) :
    (self.proceed index).Linked appOwned := by
  unfold Registry.proceed
  split
  · exact held
  rename_i call isNext
  split
  · rename_i fresh
    exact held.taken isNext (by simpa using fresh)
  · rename_i done
    exact held.returned isNext (by simpa using done)

theorem Linked.subscriberDied (held : self.Linked appOwned) (owner : SubscriberOwner)
    (remote : Nat) : (self.subscriberDied owner remote).Linked appOwned := by
  cases owner with
  | continuous =>
      unfold Registry.subscriberDied
      dsimp only
      split
      · rename_i arrives
        have gone : remote ∈ self.dead := held.covers.honest remote arrives
        have knows (r : Nat) : Knows { self with
            infos := self.infos.filter (fun target => target.remote ≠ remote)
            continuousDeaths := self.continuousDeaths.deliver remote } r ↔
              self.Knows r ∧ r ≠ remote := by
          unfold Knows
          simp only [List.mem_filter, decide_eq_true_eq]
          grind
        have others {r : Nat} (living : r ∉ self.dead) : Knows { self with
            infos := self.infos.filter (fun target => target.remote ≠ remote)
            continuousDeaths := self.continuousDeaths.deliver remote } r ↔ self.Knows r := by
          rw [knows r]
          exact and_iff_left (fun same => living (same ▸ gone))
        refine
          { nodup := held.nodup.sublist (List.filter_sublist.map SubscriberInfo.remote)
            kinds := fun info present => held.kinds info (List.mem_filter.mp present).1
            covers := held.covers.deliver (fun r known => (knows r).mp known)
            transient := held.transient, resource := held.resource, calls := held.calls
            callers := held.callers, apps := held.apps, agree := ?_, passed := ?_ }
        · intro r native living free
          rw [others living]
          exact held.agree r native living free
        · intro call member
          rw [others (held.callers call member).2]
          exact held.passed call member
      · exact held
  | transient =>
      have members := @Roster.mem_told _ _ _ _ remote held.transient
      have others {r : Nat} (living : r ∉ self.dead) :
          r ∈ (self.transient.told remote).members ↔ r ∈ self.transient.members := by
        rw [members r]
        exact and_iff_left (fun both =>
          living (both.1 ▸ held.transient.covers.honest remote both.2))
      refine
        { nodup := held.nodup, kinds := held.kinds, covers := held.covers
          transient := held.transient.told, resource := held.resource, calls := held.calls
          callers := held.callers
          apps := fun r app => ⟨fun here => (held.apps r app).1 ((members r).mp here).1,
            (held.apps r app).2⟩
          agree := ?_, passed := ?_ }
      · intro r native living free
        show (r ∈ (self.transient.told remote).members ↔ _) ∧ _
        rw [others living]
        exact held.agree r native living free
      · intro call member
        show _ ∧ (_ → (_ ∈ (self.transient.told remote).members ↔ _))
        rw [others (held.callers call member).2]
        exact held.passed call member
  | efficiency =>
      have members := @Roster.mem_told _ _ _ _ remote held.resource
      refine
        { nodup := held.nodup, kinds := held.kinds, covers := held.covers
          transient := held.transient, resource := held.resource.told, calls := held.calls
          callers := held.callers
          apps := fun r app => ⟨(held.apps r app).1,
            fun here => (held.apps r app).2 ((members r).mp here).1⟩
          agree := ?_, passed := held.passed }
      intro r native living free
      show _ ∧ (r ∈ (self.resource.told remote).members ↔ _)
      rw [members r, and_iff_left (fun both : r = remote ∧ remote ∈ self.resource.notices.underWay =>
        living (both.1 ▸ held.resource.covers.honest remote both.2))]
      exact held.agree r native living free

theorem linked_restart (dead : Finset Nat) : (Registry.mk [] {} {} {} [] dead).Linked appOwned :=
  { nodup := List.nodup_nil
    kinds := by simp
    covers := Obituaries.covers_empty.mono (by simp [Knows])
    transient := Roster.sound_empty
    resource := Roster.sound_empty
    calls := List.nodup_nil
    callers := by simp
    apps := by simp
    agree := by simp [Knows]
    passed := by simp }

theorem linked_step (op : RegistryOp) (held : self.Linked appOwned)
    (orderly : self.Orderly appOwned op) : (self.step op).Linked appOwned := by
  cases op with
  | subscribe info => exact held.subscribe orderly
  | unsubscribe remote flag isHap => exact held.unsubscribe orderly
  | proceed index => exact held.proceed index
  | remoteDies remote => exact held.remoteDies orderly
  | subscriberDied owner remote => exact held.subscriberDied owner remote
  | restart => exact linked_restart self.dead

end

end Registry

end BgTaskMgr.Core
