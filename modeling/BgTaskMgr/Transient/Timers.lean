import BgTaskMgr.Transient.Ledger

/-!
# Timers belong to accounted requests

As long as a new request gets an id that no stored request has, ids name requests, and the
timer queue follows them: a pending timer has an accounted request, an accounted request has
its timer until that fires, a pending watchdog has a request.
-/

set_option autoImplicit false

namespace BgTaskMgr.Transient

open DecisionMaker

namespace Ledger

def ids (l : Ledger) (key : String × Int) : List Int :=
  (l.requests key).map (fun info => info.requestId)

/-- Ids name requests: each is held for the key it is stored under, and stored once there. -/
structure Sound (l : Ledger) : Prop where
  owned : l.Owned
  held : ∀ key, ∀ id ∈ l.ids key,
    ∃ keyInfo, l.keyInfoMap.lookup id = some keyInfo ∧ keyInfo.mapKey = key
  unique : ∀ key, (l.ids key).Nodup

def Running (l : Ledger) (id : Int) : Prop :=
  ∃ key, ∃ info ∈ l.requests key, info.requestId = id ∧ info.Accounted

/-- Timers and watchdogs belong to requests; `fired` are the ids whose timer fired since
their accounting started. -/
structure Timed (fired : Int → Prop) (l : Ledger) : Prop where
  sound : l.Sound
  pending : ∀ id ∈ l.timers, l.Running id
  once : l.timers.Nodup
  armed : ∀ id, l.Running id → id ∈ l.timers ∨ fired id
  guarded : ∀ id ∈ l.watchdog, id ∈ l.keyInfoMap

section

variable {l : Ledger} {now : Int}

theorem mem_ids {key : String × Int} {id : Int} :
    id ∈ l.ids key ↔ ∃ info ∈ l.requests key, info.requestId = id := by
  unfold ids
  rw [List.mem_map]

theorem Sound.same (sound : l.Sound) {first second : String × Int}
    {one two : DelaySuspendInfoEx} (oneStored : one ∈ l.requests first)
    (twoStored : two ∈ l.requests second) (sameId : one.requestId = two.requestId) :
    first = second ∧ one = two := by
  obtain ⟨keyInfo, isHeld, isFirst⟩ := sound.held first one.requestId
    (mem_ids.mpr ⟨one, oneStored, rfl⟩)
  obtain ⟨other, isOther, isSecond⟩ := sound.held second two.requestId
    (mem_ids.mpr ⟨two, twoStored, rfl⟩)
  rw [← sameId, isHeld] at isOther
  cases Option.some.inj isOther
  have sameKey : first = second := isFirst.symm.trans isSecond
  subst sameKey
  refine ⟨rfl, ?_⟩
  exact List.inj_on_of_nodup_map (sound.unique first) oneStored twoStored sameId

/-! ## Lists after a change -/

theorem ids_start (key : String × Int) (requestId : Int) (a : String × Int) :
    (l.start now key requestId).ids a = l.ids a := by
  unfold ids
  rw [requests_start]
  split
  · unfold startedList
    rw [List.map_map]
    refine List.map_congr_left (fun info _ => ?_)
    simp only [Function.comp_apply]
    split
    · exact info.startAccounting_requestId now
    · rfl
  · rfl

theorem ids_stop (key a : String × Int) : (l.stop now key).ids a = l.ids a := by
  unfold ids
  rw [requests_stop]
  split
  · unfold stoppedList
    rw [List.map_map]
    exact List.map_congr_left (fun info _ => info.stopAccounting_requestId now)
  · rfl

theorem ids_grant (keyInfo : KeyInfo) (remote : Remote) (info : DelaySuspendInfoEx)
    (a : String × Int) :
    (l.grant keyInfo remote info).ids a =
      if a = keyInfo.mapKey then l.ids a ++ [info.requestId] else l.ids a := by
  unfold ids
  rw [requests_grant]
  split
  · rw [List.map_append]
    rfl
  · rfl

theorem ids_remove (requestId : Int) (keyInfo : KeyInfo) (a : String × Int) :
    (l.remove now requestId keyInfo).ids a =
      if a = keyInfo.mapKey then (l.ids a).erase requestId else l.ids a := by
  unfold ids
  rw [requests_remove]
  split
  · unfold removedList
    rw [List.map_map, List.erase_eq_eraseP, List.eraseP_map]
    have sameIds : ∀ requests : List DelaySuspendInfoEx,
        requests.map ((fun info => info.requestId) ∘ fun info =>
          if info.requestId = requestId then info.stopAccounting now else info) =
            requests.map (fun info => info.requestId) := by
      intro requests
      refine List.map_congr_left (fun info _ => ?_)
      simp only [Function.comp_apply]
      split
      · exact info.stopAccounting_requestId now
      · rfl
    rw [sameIds]
    congr 2
    funext info
    simp only [Function.comp_apply, eq_comm]
    rfl
  · rfl

/-- A request after a start was there, or was idle and is started. -/
theorem of_mem_start {key a : String × Int} {requestId : Int} {info : DelaySuspendInfoEx}
    (member : info ∈ (l.start now key requestId).requests a) :
    info ∈ l.requests a ∧ (info.Accounted ∨ ¬ (a = key ∧
        PkgDelaySuspendInfo.selects requestId info = true)) ∨
      a = key ∧ ∃ before ∈ l.requests a, ¬ before.Accounted ∧
        PkgDelaySuspendInfo.selects requestId before = true ∧
          before.requestId = info.requestId := by
  rw [requests_start] at member
  split at member
  · rename_i here
    obtain ⟨before, stored, rfl⟩ := List.mem_map.mp member
    by_cases selected : PkgDelaySuspendInfo.selects requestId before = true
    · rw [if_pos selected]
      by_cases accounted : before.Accounted
      · have same : before.startAccounting now = before := by
          unfold DelaySuspendInfoEx.startAccounting
          rw [if_neg accounted]
        rw [same]
        exact Or.inl ⟨stored, Or.inl accounted⟩
      · exact Or.inr ⟨here, before, stored, accounted, selected,
          (before.startAccounting_requestId now).symm⟩
    · rw [if_neg selected]
      exact Or.inl ⟨stored, Or.inr (fun both => selected both.2)⟩
  · rename_i elsewhere
    exact Or.inl ⟨member, Or.inr (fun both => elsewhere both.1)⟩

theorem accountedIn_iff {requests : List DelaySuspendInfoEx} {id : Int} :
    accountedIn requests id = true ↔ ∃ info ∈ requests, info.requestId = id ∧ info.Accounted := by
  unfold accountedIn
  rw [List.any_eq_true]
  constructor
  · rintro ⟨info, member, isIt⟩
    rw [Bool.and_eq_true, beq_iff_eq, bne_iff_ne] at isIt
    exact ⟨info, member, isIt⟩
  · rintro ⟨info, member, isIt⟩
    refine ⟨info, member, ?_⟩
    rw [Bool.and_eq_true, beq_iff_eq, bne_iff_ne]
    exact isIt

theorem mem_startedTimers {requests : List DelaySuspendInfoEx} {requestId id : Int} :
    id ∈ startedTimers requestId requests ↔ ∃ info ∈ requests,
      PkgDelaySuspendInfo.selects requestId info = true ∧ ¬ info.Accounted ∧
        info.requestId = id := by
  unfold startedTimers DelaySuspendInfoEx.Accounted
  simp only [List.mem_map, List.mem_filter, Bool.and_eq_true, beq_iff_eq, ne_eq, not_not]
  constructor
  · rintro ⟨info, ⟨member, selected, idle⟩, ofId⟩
    exact ⟨info, member, selected, idle, ofId⟩
  · rintro ⟨info, member, selected, idle, ofId⟩
    exact ⟨info, ⟨member, selected, idle⟩, ofId⟩

/-! ## Which requests run -/

theorem running_start (clock : now ≠ 0) (key : String × Int) (requestId id : Int) :
    (l.start now key requestId).Running id ↔
      l.Running id ∨ id ∈ startedTimers requestId (l.requests key) := by
  rw [mem_startedTimers]
  constructor
  · rintro ⟨a, info, member, ofId, accounted⟩
    rcases of_mem_start member with ⟨stored, -⟩ | ⟨here, before, stored, idle, selected, sameId⟩
    · exact Or.inl ⟨a, info, stored, ofId, accounted⟩
    · exact Or.inr ⟨before, here ▸ stored, selected, idle, sameId.trans ofId⟩
  · rintro (⟨a, info, member, ofId, accounted⟩ | ⟨info, member, selected, idle, ofId⟩)
    · refine ⟨a, ?_⟩
      rw [requests_start]
      split
      · refine ⟨info.startAccounting now, ?_, ?_, ?_⟩
        · refine List.mem_map.mpr ⟨info, member, ?_⟩
          split
          · rfl
          · unfold DelaySuspendInfoEx.startAccounting
            rw [if_neg accounted]
        · exact (info.startAccounting_requestId now).trans ofId
        · exact info.startAccounting_accounted clock
      · exact ⟨info, member, ofId, accounted⟩
    · refine ⟨key, ?_⟩
      rw [requests_start, if_pos rfl]
      refine ⟨info.startAccounting now, ?_, ?_, info.startAccounting_accounted clock⟩
      · exact List.mem_map.mpr ⟨info, member, if_pos selected⟩
      · exact (info.startAccounting_requestId now).trans ofId

theorem running_stop (sound : l.Sound) (key : String × Int) (id : Int) :
    (l.stop now key).Running id ↔
      l.Running id ∧ accountedIn (l.requests key) id = false := by
  rw [← Bool.not_eq_true, accountedIn_iff]
  constructor
  · rintro ⟨a, info, member, ofId, accounted⟩
    rw [requests_stop] at member
    split at member
    · obtain ⟨before, -, rfl⟩ := List.mem_map.mp member
      exact absurd accounted (before.stopAccounting_not_accounted now)
    · rename_i elsewhere
      refine ⟨⟨a, info, member, ofId, accounted⟩, ?_⟩
      rintro ⟨other, stored, sameId, -⟩
      exact elsewhere (sound.same member stored (ofId.trans sameId.symm)).1
  · rintro ⟨⟨a, info, member, ofId, accounted⟩, notThere⟩
    refine ⟨a, info, ?_, ofId, accounted⟩
    rw [requests_stop, if_neg ?_]
    · exact member
    · intro here
      exact notThere ⟨info, here ▸ member, ofId, accounted⟩

theorem running_grant {keyInfo : KeyInfo} {remote : Remote} {info : DelaySuspendInfoEx}
    (idle : ¬ info.Accounted) (id : Int) :
    (l.grant keyInfo remote info).Running id ↔ l.Running id := by
  constructor
  · rintro ⟨a, other, member, ofId, accounted⟩
    rw [requests_grant] at member
    split at member
    · rcases List.mem_append.mp member with old | new
      · exact ⟨a, other, old, ofId, accounted⟩
      · rw [List.mem_singleton.mp new] at accounted
        exact absurd accounted idle
    · exact ⟨a, other, member, ofId, accounted⟩
  · rintro ⟨a, other, member, ofId, accounted⟩
    refine ⟨a, other, ?_, ofId, accounted⟩
    rw [requests_grant]
    split
    · exact List.mem_append_left _ member
    · exact member

/-- A removal leaves the requests of every other id as they are, and none of its own. -/
theorem mem_remove (sound : l.Sound) {requestId : Int} {keyInfo : KeyInfo}
    (held : l.keyInfoMap.lookup requestId = some keyInfo) (a : String × Int)
    (info : DelaySuspendInfoEx) :
    info ∈ (l.remove now requestId keyInfo).requests a ↔
      info ∈ l.requests a ∧ info.requestId ≠ requestId := by
  have here : ∀ other ∈ l.requests a, other.requestId = requestId → a = keyInfo.mapKey := by
    intro other member ofId
    obtain ⟨holder, isHeld, isKey⟩ := sound.held a requestId (mem_ids.mpr ⟨other, member, ofId⟩)
    rw [held] at isHeld
    cases Option.some.inj isHeld
    exact isKey.symm
  constructor
  · intro member
    have idLeft : info.requestId ∈ (l.remove now requestId keyInfo).ids a :=
      mem_ids.mpr ⟨info, member, rfl⟩
    have other : info.requestId ≠ requestId := by
      intro same
      rw [ids_remove] at idLeft
      split at idLeft
      · rw [same] at idLeft
        exact absurd idLeft (sound.unique a).not_mem_erase
      · rename_i elsewhere
        obtain ⟨stored, isStored, ofId⟩ := mem_ids.mp idLeft
        exact elsewhere (here stored isStored (ofId.trans same))
    rw [requests_remove] at member
    split at member
    · rcases of_mem_removedList member with stored | ⟨same, -⟩
      · exact ⟨stored, other⟩
      · exact absurd same other
    · exact ⟨member, other⟩
  · rintro ⟨member, other⟩
    rw [requests_remove]
    split
    · refine List.mem_map.mpr ⟨info, ?_, if_neg other⟩
      exact (List.mem_eraseP_of_neg (by simpa using other)).mpr member
    · exact member

theorem running_remove (sound : l.Sound) {requestId : Int} {keyInfo : KeyInfo}
    (held : l.keyInfoMap.lookup requestId = some keyInfo) (id : Int) :
    (l.remove now requestId keyInfo).Running id ↔ l.Running id ∧ id ≠ requestId := by
  constructor
  · rintro ⟨a, info, member, ofId, accounted⟩
    obtain ⟨stored, other⟩ := (mem_remove sound held a info).mp member
    exact ⟨⟨a, info, stored, ofId, accounted⟩, ofId ▸ other⟩
  · rintro ⟨⟨a, info, member, ofId, accounted⟩, other⟩
    exact ⟨a, info, (mem_remove sound held a info).mpr ⟨member, ofId ▸ other⟩, ofId, accounted⟩

/-! ## What the moves keep -/

theorem sound_of_same {next : Ledger} (sound : l.Sound) (owned : next.Owned)
    (sameIds : ∀ key, next.ids key = l.ids key) (keyInfoMap : next.keyInfoMap = l.keyInfoMap) :
    next.Sound where
  owned := owned
  held key id member := by
    rw [sameIds] at member
    rw [keyInfoMap]
    exact sound.held key id member
  unique key := by
    rw [sameIds]
    exact sound.unique key

theorem sound_start (sound : l.Sound) (key : String × Int) (requestId : Int) :
    (l.start now key requestId).Sound :=
  sound_of_same sound (BgTransientTaskMgr.owned_start sound.owned key requestId)
    (ids_start key requestId) rfl

theorem sound_stop (sound : l.Sound) (key : String × Int) : (l.stop now key).Sound :=
  sound_of_same sound (BgTransientTaskMgr.owned_stop sound.owned key) (ids_stop key) rfl

theorem sound_grant (sound : l.Sound) (keyInfo : KeyInfo) (remote : Remote)
    {info : DelaySuspendInfoEx} (free : ∀ key, info.requestId ∉ l.ids key) :
    (l.grant keyInfo remote info).Sound where
  owned := BgTransientTaskMgr.owned_grant sound.owned keyInfo remote info
  held key id member := by
    change ∃ holder, (l.keyInfoMap.insert info.requestId keyInfo).lookup id = some holder ∧
      holder.mapKey = key
    rw [KeyedMap.lookup_insert]
    rw [ids_grant] at member
    split at member
    · rename_i here
      rcases List.mem_append.mp member with old | new
      · have different : id ≠ info.requestId := fun same => free key (same ▸ old)
        rw [if_neg different]
        exact sound.held key id old
      · rw [if_pos (List.mem_singleton.mp new)]
        exact ⟨keyInfo, rfl, here.symm⟩
    · have different : id ≠ info.requestId := fun same => free key (same ▸ member)
      rw [if_neg different]
      exact sound.held key id member
  unique key := by
    rw [ids_grant]
    split
    · rw [List.nodup_append]
      refine ⟨sound.unique key, List.nodup_singleton _, ?_⟩
      intro old isOld new isNew same
      rw [same, List.mem_singleton.mp isNew] at isOld
      exact free key isOld
    · exact sound.unique key

theorem sound_remove (sound : l.Sound) {requestId : Int} {keyInfo : KeyInfo}
    (held : l.keyInfoMap.lookup requestId = some keyInfo) :
    (l.remove now requestId keyInfo).Sound where
  owned := BgTransientTaskMgr.owned_remove sound.owned requestId keyInfo
  held key id member := by
    obtain ⟨info, left, ofId⟩ := mem_ids.mp member
    obtain ⟨stored, other⟩ := (mem_remove sound held key info).mp left
    change ∃ holder, (l.keyInfoMap.erase requestId).lookup id = some holder ∧ holder.mapKey = key
    rw [KeyedMap.lookup_erase, if_neg (ofId ▸ other)]
    exact sound.held key id (mem_ids.mpr ⟨info, stored, ofId⟩)
  unique key := by
    rw [ids_remove]
    split
    · exact (sound.unique key).erase requestId
    · exact sound.unique key

section

variable {fired : Int → Prop}

theorem timed_start (timed : Timed fired l) (clock : now ≠ 0) (key : String × Int)
    (requestId : Int) : Timed fired (l.start now key requestId) where
  sound := sound_start timed.sound key requestId
  pending id member := by
    rw [running_start clock]
    rcases List.mem_append.mp member with old | new
    · exact Or.inl (timed.pending id old)
    · exact Or.inr new
  once := by
    refine List.nodup_append.mpr ⟨timed.once, ?_, ?_⟩
    · refine (timed.sound.unique key).sublist ?_
      exact List.Sublist.map _ List.filter_sublist
    · intro old isOld new isNew same
      -- an idle request would share its id with an accounted one
      obtain ⟨a, running, isStored, ofId, accounted⟩ := timed.pending old isOld
      obtain ⟨idleInfo, idleStored, -, idle, idleId⟩ := mem_startedTimers.mp isNew
      have sameId : running.requestId = idleInfo.requestId := by rw [ofId, same, idleId]
      rw [(timed.sound.same isStored idleStored sameId).2] at accounted
      exact idle accounted
  armed id running := by
    rcases (running_start clock key requestId id).mp running with old | new
    · rcases timed.armed id old with isPending | isFired
      · exact Or.inl (List.mem_append_left _ isPending)
      · exact Or.inr isFired
    · exact Or.inl (List.mem_append_right _ new)
  guarded := timed.guarded

theorem timed_stop (timed : Timed fired l) (key : String × Int) :
    Timed fired (l.stop now key) where
  sound := sound_stop timed.sound key
  pending id member := by
    obtain ⟨isPending, notThere⟩ := List.mem_filter.mp member
    exact (running_stop timed.sound key id).mpr
      ⟨timed.pending id isPending, by simpa using notThere⟩
  once := timed.once.filter _
  armed id running := by
    obtain ⟨before, notThere⟩ := (running_stop timed.sound key id).mp running
    rcases timed.armed id before with isPending | isFired
    · exact Or.inl (List.mem_filter.mpr ⟨isPending, by simp [notThere]⟩)
    · exact Or.inr isFired
  guarded := timed.guarded

theorem timed_grant (timed : Timed fired l) (keyInfo : KeyInfo) (remote : Remote)
    {info : DelaySuspendInfoEx} (idle : ¬ info.Accounted)
    (free : ∀ key, info.requestId ∉ l.ids key) :
    Timed fired (l.grant keyInfo remote info) where
  sound := sound_grant timed.sound keyInfo remote free
  pending id member := (running_grant idle id).mpr (timed.pending id member)
  once := timed.once
  armed id running := timed.armed id ((running_grant idle id).mp running)
  guarded id member := (AList.mem_insert _).mpr (Or.inr (timed.guarded id member))

theorem mem_timers_remove (timed : Timed fired l) {requestId : Int} {keyInfo : KeyInfo}
    (held : l.keyInfoMap.lookup requestId = some keyInfo) (id : Int) :
    id ∈ (l.remove now requestId keyInfo).timers ↔ id ∈ l.timers ∧ id ≠ requestId := by
  unfold remove
  dsimp only
  split
  · rw [List.mem_filter, decide_eq_true_eq]
  · rename_i idle
    refine ⟨fun member => ⟨member, ?_⟩, fun both => both.1⟩
    rintro rfl
    obtain ⟨a, info, stored, ofId, accounted⟩ := timed.pending id member
    obtain ⟨holder, isHeld, isKey⟩ := timed.sound.held a id (mem_ids.mpr ⟨info, stored, ofId⟩)
    rw [held] at isHeld
    cases Option.some.inj isHeld
    rw [← isKey] at stored
    exact idle (accountedIn_iff.mpr ⟨info, stored, ofId, accounted⟩)

theorem timed_remove (timed : Timed fired l) {requestId : Int} {keyInfo : KeyInfo}
    (held : l.keyInfoMap.lookup requestId = some keyInfo) :
    Timed fired (l.remove now requestId keyInfo) where
  sound := sound_remove timed.sound held
  pending id member := by
    obtain ⟨isPending, other⟩ := (mem_timers_remove timed held id).mp member
    exact (running_remove timed.sound held id).mpr ⟨timed.pending id isPending, other⟩
  once := by
    unfold remove
    dsimp only
    split
    · exact timed.once.filter _
    · exact timed.once
  armed id running := by
    obtain ⟨before, other⟩ := (running_remove timed.sound held id).mp running
    rcases timed.armed id before with isPending | isFired
    · exact Or.inl ((mem_timers_remove timed held id).mpr ⟨isPending, other⟩)
    · exact Or.inr isFired
  guarded id member := by
    obtain ⟨isWatched, other⟩ := List.mem_filter.mp member
    exact (AList.mem_erase).mpr ⟨by simpa using other, timed.guarded id isWatched⟩

theorem timed_move {stops : String × Int → Prop} {next : Ledger} (clock : now ≠ 0)
    (move : Move now stops l next) (timed : Timed fired l) : Timed fired next := by
  cases move with
  | start key => exact timed_start timed clock key (-1)
  | stop key _ => exact timed_stop timed key
  | remove held => exact timed_remove timed held
  | drop _ =>
      exact ⟨⟨timed.sound.owned, timed.sound.held, timed.sound.unique⟩, timed.pending, timed.once,
        timed.armed, fun id member => timed.guarded id (List.mem_of_mem_filter member)⟩
  | bark requestId =>
      exact ⟨⟨timed.sound.owned, timed.sound.held, timed.sound.unique⟩, timed.pending, timed.once,
        timed.armed, fun id member => timed.guarded id (List.mem_of_mem_erase member)⟩

theorem timed_fire (timed : Timed fired l) (requestId : Int) :
    Timed (fun id => fired id ∨ id = requestId) (l.fire requestId) where
  sound := ⟨timed.sound.owned, timed.sound.held, timed.sound.unique⟩
  pending id member := timed.pending id (List.mem_of_mem_erase member)
  once := timed.once.erase requestId
  armed id running := by
    rcases timed.armed id running with isPending | isFired
    · by_cases same : id = requestId
      · exact Or.inr (Or.inr same)
      · exact Or.inl ((List.mem_erase_of_ne same).mpr isPending)
    · exact Or.inr (Or.inl isFired)
  guarded id member := by
    unfold fire at member
    dsimp only at member
    split at member
    · rename_i known
      rcases List.mem_append.mp member with old | new
      · exact timed.guarded id old
      · rw [List.mem_singleton.mp new]
        exact known.2
    · exact timed.guarded id member

end

end

end Ledger

/-! ## Timers of a run -/

namespace BgTransientTaskMgr

def accounts (s : BgTransientTaskMgr) (id : Int) : Bool :=
  match s.keyInfoMap.lookup id with
  | none => false
  | some keyInfo => Ledger.accountedIn (s.requestsAt keyInfo.mapKey) id

/-- The manager with the ids whose timer fired since their accounting was last started. -/
structure Clocked where
  mgr : BgTransientTaskMgr := {}
  fired : Finset Int := ∅

/-- A timer event is noted; an id that is not accounted before and after the step starts
anew. -/
def Clocked.step (params : Params) (self : Clocked) (label : Env × Op) : Clocked :=
  let next := self.mgr.step params label
  let fired := match label.2 with
    | .timerEvent requestId => insert requestId self.fired
    | _ => self.fired
  { mgr := next
    fired := fired.filter (fun id => self.mgr.accounts id = true ∧ next.accounts id = true) }

/-- Only events that are pending are handled. -/
def EventPending (s : BgTransientTaskMgr) : Env × Op → Prop
  | (_, .timerEvent requestId) => requestId ∈ s.decisionMaker.timerIds
  | (_, .watchdogEvent requestId) => requestId ∈ s.watchdog
  | _ => True

instance (s : BgTransientTaskMgr) : DecidablePred (EventPending s) := fun label =>
  match label with
  | (_, .timerEvent _) => inferInstanceAs (Decidable (_ ∈ _))
  | (_, .watchdogEvent _) => inferInstanceAs (Decidable (_ ∈ _))
  | (_, .initNecessaryState _) | (_, .requestSuspendDelay _ _ _) | (_, .cancelSuspendDelay _ _ _)
  | (_, .start _) | (_, .suspendManagerDie) | (_, .expiredCallbackDeath _)
  | (_, .appCacheStateChanged _ _ _) | (_, .appCacheLocked _) | (_, .getAllTransientTasks _ _)
  | (_, .dumpAllRequestId) | (_, .pause _) | (_, .processStateChanged _) | (_, .processDied _)
  | (_, .inputEvent _ _) | (_, .setDump _) => inferInstanceAs (Decidable True)

def NextIdFree (s : BgTransientTaskMgr) : Prop :=
  s.decisionMaker.newDelaySuspendRequestId.1 ∉ s.decisionMaker.allRequestIds

instance (s : BgTransientTaskMgr) : Decidable s.NextIdFree :=
  inferInstanceAs (Decidable (_ ∉ _))

/-- A granted request gets an id that no stored request has. -/
def GrantsFreeId (params : Params) (s : BgTransientTaskMgr) (label : Env × Op) : Prop :=
  granted params s label = true → s.NextIdFree

instance (params : Params) (s : BgTransientTaskMgr) (label : Env × Op) :
    Decidable (GrantsFreeId params s label) :=
  inferInstanceAs (Decidable (_ → _))

section

variable {s : BgTransientTaskMgr} {fired : Int → Prop}

theorem not_mem_ids_of_free (free : s.NextIdFree) (key : String × Int) :
    s.decisionMaker.newDelaySuspendRequestId.1 ∉ s.ledger.ids key := by
  intro member
  refine free (mem_allRequestIds.mpr ⟨key, ?_⟩)
  obtain ⟨info, stored, ofId⟩ := Ledger.mem_ids.mp member
  have isStored : info ∈ s.decisionMaker.requestsAt key := stored
  unfold DecisionMaker.requestIds
  cases found : s.decisionMaker.pkgDelaySuspendInfoMap.lookup key with
  | none =>
      rw [s.decisionMaker.requestsAt_of_none found] at isStored
      exact absurd isStored List.not_mem_nil
  | some pkgInfo =>
      rw [s.decisionMaker.requestsAt_of_lookup found] at isStored
      rw [Option.map_some, Option.getD_some]
      exact List.mem_map.mpr ⟨info, isStored, ofId⟩

theorem accounts_iff (sound : s.ledger.Sound) (id : Int) :
    s.accounts id = true ↔ s.ledger.Running id := by
  unfold accounts
  constructor
  · intro accounted
    split at accounted
    · exact absurd accounted (by simp)
    · rename_i keyInfo _
      exact ⟨keyInfo.mapKey, Ledger.accountedIn_iff.mp accounted⟩
  · rintro ⟨key, info, stored, ofId, accounted⟩
    obtain ⟨keyInfo, held, isKey⟩ := sound.held key id (Ledger.mem_ids.mpr ⟨info, stored, ofId⟩)
    have lookup : s.keyInfoMap.lookup id = some keyInfo := held
    rw [lookup]
    subst isKey
    exact Ledger.accountedIn_iff.mpr ⟨info, stored, ofId, accounted⟩

/-- One step keeps the timers in order; `fired` are the ids to excuse before the step. -/
theorem timed_of_ledgerStep {params : Params} {env : Env} {op : Op} {l : Ledger}
    (timed : s.ledger.Timed fired) (clock : env.now ≠ 0)
    (free : granted params s (env, op) = true → s.NextIdFree)
    (step : LedgerStep params env s op l) :
    l.Timed (fun id => fired id ∨ op = .timerEvent id) := by
  cases step with
  | moves chain =>
      have kept := of_moves (fun _ _ move held => Ledger.timed_move clock move held) chain timed
      exact ⟨kept.sound, kept.pending, kept.once,
        fun id running => (kept.armed id running).imp_right Or.inl, kept.guarded⟩
  | @granted uid pid callback name remote info _ ok isNew result =>
      have isFree : ∀ key, info.requestId ∉ s.ledger.ids key := by
        intro key
        rw [isNew.1]
        exact not_mem_ids_of_free (free (by simpa [granted] using ok)) key
      have idle : ¬ info.Accounted := fun accounted => accounted isNew.2.2.1
      have kept : l.Timed fired := by
        rw [result]
        split
        · exact Ledger.timed_start (Ledger.timed_grant timed _ remote idle isFree) clock _ _
        · exact Ledger.timed_grant timed _ remote idle isFree
      exact ⟨kept.sound, kept.pending, kept.once,
        fun id running => (kept.armed id running).imp_right Or.inl, kept.guarded⟩
  | @fired requestId _ result =>
      rw [result]
      have kept := Ledger.timed_fire timed requestId
      refine ⟨kept.sound, kept.pending, kept.once, fun id running => ?_, kept.guarded⟩
      rcases kept.armed id running with isPending | isFired | isIt
      · exact Or.inl isPending
      · exact Or.inr (Or.inl isFired)
      · exact Or.inr (Or.inr (by rw [isIt]))

end

structure Clocked.InOrder (clocked : Clocked) : Prop where
  uids : clocked.mgr.decisionMaker.UidsMatch
  timed : clocked.mgr.ledger.Timed (fun id => id ∈ clocked.fired)

theorem inOrder_initial : Clocked.InOrder {} where
  uids _ _ found := absurd found (by simp)
  timed := by
    refine ⟨⟨?_, ?_, ?_⟩, ?_, ?_, ?_, ?_⟩
    · exact fun _ _ held => absurd held (by simp [ledger, ledgerOf])
    · exact fun _ _ member => absurd member List.not_mem_nil
    · exact fun _ => List.nodup_nil
    · exact fun _ member => absurd member List.not_mem_nil
    · exact List.nodup_nil
    · rintro _ ⟨_, _, member, _⟩
      exact absurd member List.not_mem_nil
    · exact fun _ member => absurd member List.not_mem_nil

theorem inOrder_step (params : Params) (clocked : Clocked) (label : Env × Op)
    (inOrder : clocked.InOrder) (clock : 0 < label.1.now)
    (free : GrantsFreeId params clocked.mgr label) : (clocked.step params label).InOrder := by
  obtain ⟨env, op⟩ := label
  have stepped := ledgerStep_step params env inOrder.uids inOrder.timed.sound.owned op
  have sound := inOrder.timed.sound
  -- only an id accounted before the step is excused after it
  have running : clocked.mgr.ledger.Timed
      (fun id => id ∈ clocked.fired ∧ clocked.mgr.accounts id = true) := by
    refine ⟨sound, inOrder.timed.pending, inOrder.timed.once, fun id isRunning => ?_,
      inOrder.timed.guarded⟩
    exact (inOrder.timed.armed id isRunning).imp_right
      (fun isFired => ⟨isFired, (accounts_iff sound id).mpr isRunning⟩)
  have kept := timed_of_ledgerStep running (ne_of_gt clock) free stepped
  refine ⟨uidsMatch_step params env inOrder.uids op, ?_⟩
  refine ⟨kept.sound, kept.pending, kept.once, fun id isRunning => ?_, kept.guarded⟩
  have after : (clocked.mgr.step params (env, op)).accounts id = true :=
    (accounts_iff kept.sound id).mpr isRunning
  rcases kept.armed id isRunning with isPending | ⟨isFired, before⟩ | isIt
  · exact Or.inl isPending
  · refine Or.inr (Finset.mem_filter.mpr ⟨?_, before, after⟩)
    dsimp only
    split
    · exact Finset.mem_insert_of_mem isFired
    · exact isFired
  · subst isIt
    have before : clocked.mgr.ledger.Running id := by
      have same := ledger_timerEvent params env (s := clocked.mgr) id
      change (clocked.mgr.step params (env, .timerEvent id)).ledger.Running id at isRunning
      rw [same] at isRunning
      exact isRunning
    refine Or.inr (Finset.mem_filter.mpr ⟨?_, (accounts_iff sound id).mpr before, after⟩)
    exact Finset.mem_insert_self _ _

theorem liveAt_of_sound {s : BgTransientTaskMgr} (sound : s.ledger.Sound) {key : String × Int}
    {info : DelaySuspendInfoEx} (stored : info ∈ s.ledger.requests key) : s.LiveAt key info := by
  obtain ⟨keyInfo, held, isKey⟩ := sound.held key info.requestId
    (Ledger.mem_ids.mpr ⟨info, stored, rfl⟩)
  have lookup : s.keyInfoMap.lookup info.requestId = some keyInfo := held
  refine ⟨stored, ?_⟩
  unfold Holds
  rw [lookup, Option.map_some, isKey]

/-- Timers belong to live, accounted requests, watchdogs to live ones, in every run whose
grants hand out ids that no stored request has. -/
theorem timers_belong (params : Params) (labels : List (Env × Op))
    (clock : ∀ label ∈ labels, 0 < label.1.now)
    (free : StepSystem.Admissible (Clocked.step params)
      (fun clocked label => GrantsFreeId params clocked.mgr label) {} labels) :
    let s := (StepSystem.run (Clocked.step params) {} labels).mgr
    let fired := (StepSystem.run (Clocked.step params) {} labels).fired
    (∀ id ∈ s.decisionMaker.timerIds,
        ∃ key info, s.LiveAt key info ∧ info.requestId = id ∧ info.Accounted) ∧
      (∀ key info, s.LiveAt key info → info.Accounted → info.requestId ∉ fired →
        s.decisionMaker.timerIds.count info.requestId = 1) ∧
      ∀ id ∈ s.watchdog, ∃ key info, s.LiveAt key info ∧ info.requestId = id := by
  have inOrder : (StepSystem.run (Clocked.step params) {} labels).InOrder := by
    refine StepSystem.run_invariant (fun clocked label held ok => ?_) labels _ inOrder_initial
      (free.and_forall clock)
    exact inOrder_step params clocked label held ok.1 ok.2
  generalize StepSystem.run (Clocked.step params) {} labels = last at inOrder ⊢
  obtain ⟨-, sound, pending, once, armed, guarded⟩ := inOrder
  refine ⟨?_, ?_, ?_⟩
  · intro id member
    obtain ⟨key, info, stored, ofId, accounted⟩ := pending id member
    exact ⟨key, info, liveAt_of_sound sound stored, ofId, accounted⟩
  · intro key info live accounted notFired
    rcases armed info.requestId ⟨key, info, live.1, rfl, accounted⟩ with isPending | isFired
    · exact List.count_eq_one_of_mem once isPending
    · exact absurd isFired notFired
  · intro id member
    obtain ⟨keyInfo, held⟩ := KeyedMap.mem_iff_lookup.mp (guarded id member)
    obtain ⟨info, stored, ofId⟩ := sound.owned id keyInfo held
    exact ⟨keyInfo.mapKey, info, liveAt_of_sound sound stored, ofId⟩

def firedTimerLabels : List (Env × Op) :=
  [(quietEnv 1000, .initNecessaryState true),
    (quietEnv 2000, .requestSuspendDelay 100 7 (.of 1)),
    (quietEnv 3000, .requestSuspendDelay 100 7 (.of 2)),
    (quietEnv 4000, .cancelSuspendDelay 100 7 1),
    (quietEnv 5000, .processStateChanged ⟨"app", 100, 7, .foreground⟩),
    (quietEnv 6000, .processStateChanged ⟨"app", 100, 7, .background⟩),
    (quietEnv 7000, .requestSuspendDelay 100 7 (.of 3)),
    (quietEnv 8000, .timerEvent 3)]

theorem timers_belong_fired_timer :
    let s := (StepSystem.run (Clocked.step {}) {} firedTimerLabels).mgr
    s.LiveAt ("app", 100) ⟨2, 180000, 7, 6000, 2000⟩ ∧
      s.decisionMaker.timerIds.count 2 = 1 ∧ s.watchdog = [3] := by
  have belong := timers_belong {} firedTimerLabels (by decide) (by decide)
  have live : (StepSystem.run (Clocked.step {}) {} firedTimerLabels).mgr.LiveAt ("app", 100)
      ⟨2, 180000, 7, 6000, 2000⟩ := ⟨by decide, by decide⟩
  refine ⟨live, ?_, by decide⟩
  exact belong.2.1 ("app", 100) ⟨2, 180000, 7, 6000, 2000⟩ live (by decide) (by decide)

end BgTransientTaskMgr

end BgTaskMgr.Transient
