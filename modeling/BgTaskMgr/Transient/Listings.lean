import BgTaskMgr.Lib.Observers
import BgTaskMgr.Transient.EventStream
import BgTaskMgr.Transient.StoreConsistency

/-!
# Listings of transient tasks

`GetTransientTaskApps` for system abilities, `GetAllTransientTasks` and
`GetRemainingDelayTime` for the apps: what they say about the stores, and how the first
agrees with the events that subscribers are told.
-/

set_option autoImplicit false

namespace BgTaskMgr.Transient

open DecisionMaker StepSystem

namespace TransientTaskAppInfo

def key (self : TransientTaskAppInfo) : String × Int := (self.packageName, self.uid)

end TransientTaskAppInfo

/-- The last event of an app is its start exactly if it has requests. -/
theorem Told.joined {stream : List TransientTaskEventType} {live : Nat} (told : Told stream live) :
    (((appEvents stream).getLast?).map (fun event => decide (event = .appTaskStart))).getD false =
      decide (0 < live) := by
  have append (first second : List TransientTaskEventType) :
      appEvents (first ++ second) = appEvents first ++ appEvents second :=
    List.filter_append _ _
  induction told with
  | nil => rfl
  | @started stream live _ ih =>
      rw [append]
      by_cases first : live = 0
      · subst first
        rw [if_pos rfl, List.getLast?_append]
        rfl
      · rw [if_neg first]
        have quiet : appEvents ([.taskStart] ++ []) = [] := rfl
        rw [quiet, List.append_nil, ih]
        simp [Nat.pos_of_ne_zero first]
  | @ended stream live _ ih =>
      rw [append]
      by_cases last : live = 0
      · subst last
        rw [if_pos rfl, List.getLast?_append]
        rfl
      · rw [if_neg last]
        have quiet : appEvents ([.taskEnd] ++ []) = [] := rfl
        rw [quiet, List.append_nil, ih]
        simp [Nat.pos_of_ne_zero last]

namespace BgTransientTaskMgr

/-! ## Queries -/

/-- One record in the loop of `GetTransientTaskApps`. -/
def addApp (list : List TransientTaskAppInfo) (record : Σ _ : Int, KeyInfo) :
    List TransientTaskAppInfo :=
  if list.any (fun info => record.2.pkg == info.packageName && record.2.uid == info.uid) then list
  else list ++ [{ packageName := record.2.pkg, uid := record.2.uid }]

def getTransientTaskApps (self : BgTransientTaskMgr) : List TransientTaskAppInfo :=
  self.keyInfoMap.entries.foldl addApp []

def invalidRemainTime : Int := -1

/-- The code and the value of the output argument. -/
def getRemainingDelayTime (env : Env) (uid pid requestId delayTime : Int)
    (self : BgTransientTaskMgr) : ErrCode × Int :=
  if !self.isReady then (.sysNotReady, delayTime)
  else if !verifyCallingInfo uid pid then (.invalidPidOrUid, invalidRemainTime)
  else match env.bundleNameForUid uid with
    | none => (.serviceInnerError, invalidRemainTime)
    | some name =>
        if self.verifyRequestIdLocked name uid requestId then
          match self.keyInfoMap.lookup requestId with
          | some keyInfo => (.ok, self.decisionMaker.getRemainingDelayTime env keyInfo requestId)
          | none => (.invalidRequestId, invalidRemainTime)
        else (.invalidRequestId, invalidRemainTime)

section

variable {params : Params} {s : BgTransientTaskMgr}

/-! ## Apps -/

theorem keys_addApp (list : List TransientTaskAppInfo) (record : Σ _ : Int, KeyInfo) :
    (addApp list record).map TransientTaskAppInfo.key =
      if record.2.mapKey ∈ list.map TransientTaskAppInfo.key then
        list.map TransientTaskAppInfo.key
      else list.map TransientTaskAppInfo.key ++ [record.2.mapKey] := by
  have listed : list.any (fun info =>
      record.2.pkg == info.packageName && record.2.uid == info.uid) = true ↔
      record.2.mapKey ∈ list.map TransientTaskAppInfo.key := by
    rw [List.any_eq_true, List.mem_map]
    constructor
    · rintro ⟨info, member, same⟩
      rw [Bool.and_eq_true, beq_iff_eq, beq_iff_eq] at same
      exact ⟨info, member, Prod.ext same.1.symm same.2.symm⟩
    · rintro ⟨info, member, same⟩
      obtain ⟨pkg, uid⟩ := Prod.ext_iff.mp same
      refine ⟨info, member, ?_⟩
      rw [Bool.and_eq_true, beq_iff_eq, beq_iff_eq]
      exact ⟨pkg.symm, uid.symm⟩
  unfold addApp
  by_cases member : record.2.mapKey ∈ list.map TransientTaskAppInfo.key
  · rw [if_pos (listed.mpr member), if_pos member]
  · rw [if_neg (fun found => member (listed.mp found)), if_neg member, List.map_append]
    rfl

theorem keys_foldl_addApp (records : List (Σ _ : Int, KeyInfo))
    (list : List TransientTaskAppInfo) (nodup : (list.map TransientTaskAppInfo.key).Nodup) :
    ((records.foldl addApp list).map TransientTaskAppInfo.key).Nodup ∧
      ∀ key, key ∈ (records.foldl addApp list).map TransientTaskAppInfo.key ↔
        key ∈ list.map TransientTaskAppInfo.key ∨ ∃ record ∈ records, record.2.mapKey = key := by
  induction records generalizing list with
  | nil => exact ⟨nodup, by simp⟩
  | cons record rest ih =>
      have keys := keys_addApp list record
      have nodupAdded : ((addApp list record).map TransientTaskAppInfo.key).Nodup := by
        rw [keys]
        split
        · exact nodup
        · rename_i absent
          rw [List.nodup_append]
          refine ⟨nodup, List.nodup_singleton _, ?_⟩
          rintro key member other last rfl
          exact absent (List.mem_singleton.mp last ▸ member)
      obtain ⟨nodupRest, members⟩ := ih (addApp list record) nodupAdded
      refine ⟨nodupRest, fun key => (members key).trans ?_⟩
      rw [keys]
      split
      · rename_i present
        simp only [List.mem_cons, exists_eq_or_imp]
        grind
      · simp only [List.mem_append, List.mem_cons, List.not_mem_nil, or_false, exists_eq_or_imp]
        grind

theorem apps_of_consistent (consistent : Consistent s) :
    (s.getTransientTaskApps.map TransientTaskAppInfo.key).Nodup ∧
      ∀ key, key ∈ s.getTransientTaskApps.map TransientTaskAppInfo.key ↔ s.requestsAt key ≠ [] := by
  obtain ⟨nodup, members⟩ := keys_foldl_addApp s.keyInfoMap.entries [] List.nodup_nil
  refine ⟨nodup, fun key => (members key).trans ?_⟩
  have ids : s.decisionMaker.requestIds key =
      (s.requestsAt key).map (fun info => info.requestId) := by
    unfold DecisionMaker.requestIds requestsAt DecisionMaker.requestsAt
    cases s.decisionMaker.pkgDelaySuspendInfoMap.lookup key with
    | none => rfl
    | some pkgInfo => rfl
  constructor
  · rintro (never | ⟨record, member, rfl⟩) empty
    · exact absurd never (by simp)
    · have owned := consistent.owned record.1 record.2 (KeyedMap.mem_entries_iff.mp member)
      rw [ids, empty] at owned
      exact absurd owned List.not_mem_nil
  · intro stored
    obtain ⟨info, member⟩ := List.exists_mem_of_ne_nil _ stored
    obtain ⟨keyInfo, found, same⟩ := consistent.recorded key info.requestId
      (ids ▸ List.mem_map_of_mem member)
    exact Or.inr ⟨⟨info.requestId, keyInfo⟩, KeyedMap.mem_entries_iff.mpr found, same⟩

/-! ## Events -/

def appChange : TransientTaskEventType × TransientTaskAppInfo → Option ((String × Int) × Bool)
  | (.appTaskStart, info) => some (info.key, true)
  | (.appTaskEnd, info) => some (info.key, false)
  | _ => none

theorem lastOf_changes (l : Ledger) (key : String × Int) :
    Observers.lastOf key (l.tasks.filterMap appChange) =
      ((appEvents (l.stream key)).getLast?).map (fun event => decide (event = .appTaskStart)) := by
  have changes (tasks : List (TransientTaskEventType × TransientTaskAppInfo)) :
      ((tasks.filterMap appChange).filter (fun change => change.1 = key)).map Prod.snd =
        (appEvents ((tasks.filter (fun task => (task.2.packageName, task.2.uid) = key)).map
          (fun task => task.1))).map (fun event => decide (event = .appTaskStart)) := by
    unfold appEvents
    induction tasks with
    | nil => rfl
    | cons task rest ih =>
        obtain ⟨type, info⟩ := task
        rw [List.filterMap_cons]
        by_cases same : info.key = key
        · have here : (info.packageName, info.uid) = key := same
          cases type with
          | appTaskStart => simpa [appChange, same, here] using ih
          | appTaskEnd => simpa [appChange, same, here] using ih
          | _ => simpa [appChange, here] using ih
        · have other : ¬ (info.packageName, info.uid) = key := same
          cases type with
          | appTaskStart => simpa [appChange, same, other] using ih
          | appTaskEnd => simpa [appChange, same, other] using ih
          | _ => simpa [appChange, other] using ih
  unfold Observers.lastOf Ledger.stream
  rw [← List.getLast?_map, changes, List.getLast?_map]

theorem follow_all (reports : Reports s) (key : String × Int) :
    key ∈ Observers.follow ∅ (s.decisionMaker.suscriberTasks.filterMap appChange) ↔
      s.requestsAt key ≠ [] := by
  have told := (reports.telling key).joined
  have last := lastOf_changes s.ledger key
  rw [Observers.mem_follow]
  change Observers.lastOf key (s.decisionMaker.suscriberTasks.filterMap appChange) = _ at last
  rw [last]
  simp only [Finset.notMem_empty, decide_false]
  rw [told, decide_eq_true_iff, List.length_pos_iff]
  rfl

/-! ### Growth -/

def Grows (before after : List (TransientTaskEventType × TransientTaskAppInfo)) : Prop :=
  ∃ more, after = before ++ more

theorem grows_move {now : Int} {stops : String × Int → Prop} {l next : Ledger}
    (move : Move now stops l next) : Grows l.tasks next.tasks := by
  cases move with
  | start key => exact ⟨[], (List.append_nil _).symm⟩
  | stop key may => exact ⟨[], (List.append_nil _).symm⟩
  | remove held => exact ⟨_, List.append_assoc _ _ _⟩
  | drop missing => exact ⟨[], (List.append_nil _).symm⟩
  | bark requestId => exact ⟨[], (List.append_nil _).symm⟩

theorem grows_step (label : Env × Op) (reports : Reports s) :
    Grows s.decisionMaker.suscriberTasks (s.step params label).decisionMaker.suscriberTasks := by
  obtain ⟨env, op⟩ := label
  have step := ledgerStep_step params env reports.uids reports.owned op
  show Grows s.ledger.tasks (s.step params (env, op)).ledger.tasks
  generalize (s.step params (env, op)).ledger = after at step ⊢
  cases step with
  | moves chain =>
      induction chain with
      | refl => exact ⟨[], (List.append_nil _).symm⟩
      | tail _ move ih =>
          obtain ⟨first, isFirst⟩ := ih
          obtain ⟨second, isSecond⟩ := grows_move move
          exact ⟨first ++ second, by rw [isSecond, isFirst, List.append_assoc]⟩
  | granted ok isNew result =>
      rw [result]
      split
      · exact ⟨_, List.append_assoc _ _ _⟩
      · exact ⟨_, List.append_assoc _ _ _⟩
  | fired result =>
      rw [result]
      exact ⟨[], (List.append_nil _).symm⟩

theorem grows_run (labels : List (Env × Op)) (s : BgTransientTaskMgr) (reports : Reports s) :
    Grows s.decisionMaker.suscriberTasks
      (run (step params) s labels).decisionMaker.suscriberTasks := by
  induction labels generalizing s with
  | nil => exact ⟨[], (List.append_nil _).symm⟩
  | cons label rest ih =>
      obtain ⟨first, isFirst⟩ := @grows_step params s label reports
      obtain ⟨second, isSecond⟩ := ih (s.step params label) (reports_step params s label reports)
      exact ⟨first ++ second, by
        rw [run_cons, isSecond, isFirst, List.append_assoc]⟩

theorem count_le_append (earlier later : List (Env × Op)) (s : BgTransientTaskMgr) :
    count (step params) (granted params) s earlier ≤
      count (step params) (granted params) s (earlier ++ later) := by
  induction earlier generalizing s with
  | nil => exact Nat.zero_le _
  | cons label rest ih => exact Nat.add_le_add_left (ih (s.step params label)) _

theorem consistent_run (labels : List (Env × Op))
    (few : count (step params) (granted params) {} labels < 2 ^ 31 - 2) :
    Consistent (run (step params) {} labels) := by
  refine run_keeps_consistent params labels {} consistent_initial ?_
  simp only [intMax]
  omega

theorem apps_toFinset (consistent : Consistent s) (reports : Reports s) :
    (s.getTransientTaskApps.map TransientTaskAppInfo.key).toFinset =
      Observers.follow ∅ (s.decisionMaker.suscriberTasks.filterMap appChange) := by
  ext key
  rw [List.mem_toFinset, (apps_of_consistent consistent).2 key, follow_all reports key]

end

/-- A system ability that subscribes late can ask `GetTransientTaskApps` once and follow the
app events from there: whatever part of the events is still on its way to it when it asks,
and whatever happens then, it knows the apps that another query would list, provided that
fewer than `2 ^ 31 - 2` requests are granted. -/
theorem late_subscriber_catches_up (params : Params) (earlier later : List (Env × Op))
    (few : count (step params) (granted params) {} (earlier ++ later) < 2 ^ 31 - 2)
    (delivered pending : List (TransientTaskEventType × TransientTaskAppInfo))
    (queued : (run (step params) {} earlier).decisionMaker.suscriberTasks = delivered ++ pending) :
    let asked := run (step params) {} earlier
    let now := run (step params) {} (earlier ++ later)
    ∃ told, now.decisionMaker.suscriberTasks = delivered ++ pending ++ told ∧
      Observers.follow (asked.getTransientTaskApps.map TransientTaskAppInfo.key).toFinset
          ((pending ++ told).filterMap appChange) =
        (now.getTransientTaskApps.map TransientTaskAppInfo.key).toFinset ∧
      (now.getTransientTaskApps.map TransientTaskAppInfo.key).Nodup := by
  intro asked now
  have fewEarlier := Nat.lt_of_le_of_lt (@count_le_append params earlier later {}) few
  have reports := run_preserves (reports_step params) earlier _ reports_initial
  have reportsNow := run_preserves (reports_step params) (earlier ++ later) _ reports_initial
  obtain ⟨told, grown⟩ := @grows_run params later _ reports
  rw [← run_append, queued] at grown
  refine ⟨told, grown, ?_, (apps_of_consistent (consistent_run _ few)).1⟩
  rw [apps_toFinset (consistent_run earlier fewEarlier) reports,
    apps_toFinset (consistent_run _ few) reportsNow, queued, grown]
  simp only [List.filterMap_append]
  exact Observers.catch_up _ _ _

/-- An app ends its request after a system ability has asked. -/
theorem late_subscriber_catches_up_cancelled :
    ∃ told, Observers.follow {("app", 100)} ((([] : List _) ++ told).filterMap appChange) =
      ((run (step {}) {} ([(quietEnv 500, .initNecessaryState true),
        (quietEnv 1000, .requestSuspendDelay 100 7 (.of 1))] ++
        [(quietEnv 1200, .cancelSuspendDelay 100 7 1)])).getTransientTaskApps.map
          TransientTaskAppInfo.key).toFinset := by
  obtain ⟨told, -, same, -⟩ := late_subscriber_catches_up {}
    [(quietEnv 500, .initNecessaryState true),
      (quietEnv 1000, .requestSuspendDelay 100 7 (.of 1))]
    [(quietEnv 1200, .cancelSuspendDelay 100 7 1)] (by decide) _ [] (List.append_nil _).symm
  exact ⟨told, same⟩

/-! ## Tasks of one app -/

theorem listed_perm_requestIds {s : BgTransientTaskMgr} (consistent : Consistent s) (name : String)
    (uid : Int) :
    ((s.keyInfoMap.entries.filter
        (fun record => record.2.pkg = name && record.2.uid = uid)).map Sigma.fst).Perm
      (s.decisionMaker.requestIds (name, uid)) := by
  have keys : (s.keyInfoMap.entries.map Sigma.fst).Nodup := s.keyInfoMap.nodupKeys
  have listedNodup := keys.sublist
    ((s.keyInfoMap.entries.filter_sublist
      (p := fun record => record.2.pkg = name && record.2.uid = uid)).map Sigma.fst)
  refine (List.perm_ext_iff_of_nodup listedNodup (consistent.nodup (name, uid))).mpr ?_
  intro id
  rw [List.mem_map]
  constructor
  · rintro ⟨record, member, rfl⟩
    obtain ⟨stored, own⟩ := List.mem_filter.mp member
    have owned := consistent.owned record.1 record.2 (KeyedMap.mem_entries_iff.mp stored)
    have key : record.2.mapKey = (name, uid) := by
      unfold KeyInfo.mapKey
      simpa using own
    exact key ▸ owned
  · intro member
    obtain ⟨keyInfo, found, key⟩ := consistent.recorded (name, uid) id member
    refine ⟨⟨id, keyInfo⟩, List.mem_filter.mpr ⟨KeyedMap.mem_entries_iff.mpr found, ?_⟩, rfl⟩
    unfold KeyInfo.mapKey at key
    simpa using key

/-- The ids that a caller may ask about are the ones that are listed for it. -/
theorem verifyRequestIdLocked_iff_listed {s : BgTransientTaskMgr} {name : String}
    {uid requestId : Int} :
    s.verifyRequestIdLocked name uid requestId = true ↔
      requestId ∈ (s.keyInfoMap.entries.filter
        (fun record => record.2.pkg = name && record.2.uid = uid)).map Sigma.fst := by
  rw [List.mem_map]
  unfold verifyRequestIdLocked
  constructor
  · intro known
    cases found : s.keyInfoMap.lookup requestId with
    | none =>
        rw [found] at known
        exact nomatch known
    | some keyInfo =>
        rw [found] at known
        exact ⟨⟨requestId, keyInfo⟩,
          List.mem_filter.mpr ⟨KeyedMap.mem_entries_iff.mpr found, known⟩, rfl⟩
  · rintro ⟨record, member, rfl⟩
    obtain ⟨stored, own⟩ := List.mem_filter.mp member
    rw [KeyedMap.mem_entries_iff.mp stored]
    exact own

theorem answer_getAllTransientTasks {params : Params} {env : Env} {uid pid quota : Int}
    {list : List (Int × Int)} {s : BgTransientTaskMgr}
    (answer : (s.getAllTransientTasks params env uid pid).1 = .ok (quota, list)) :
    s.isReady = true ∧ verifyCallingInfo uid pid = true ∧
      ∃ name decision, env.bundleNameForUid uid = some name ∧
        (s.getAllTransientTasks params env uid pid).2 = { s with decisionMaker := decision } ∧
        list = (s.keyInfoMap.entries.filter
          (fun record => record.2.pkg = name && record.2.uid = uid)).map
            (fun record => (record.1, decision.getRemainingDelayTime env record.2 record.1)) := by
  unfold getAllTransientTasks at answer ⊢
  by_cases ready : s.isReady = true
  · by_cases legal : verifyCallingInfo uid pid = true
    · rw [if_neg (by simp [ready]), if_neg (by simp [legal])] at answer ⊢
      cases isName : env.bundleNameForUid uid with
      | none =>
          rw [isName] at answer
          exact nomatch answer
      | some name =>
          rw [isName] at answer
          obtain ⟨-, isList⟩ := Prod.mk.inj (Except.ok.inj answer)
          exact ⟨ready, legal, name, _, rfl, rfl, isList.symm⟩
    · rw [if_neg (by simp [ready]), if_pos (by simp [legal])] at answer
      exact nomatch answer
  · rw [if_pos (by simp [ready])] at answer
    exact nomatch answer

/-- What an app gets from `GetAllTransientTasks` are its requests, each once, with the time that
`GetRemainingDelayTime` gives for it; about any other id it is refused. -/
theorem transient_tasks_listed (params : Params) (labels : List (Env × Op))
    (few : count (step params) (granted params) {} labels < 2 ^ 31 - 2) (env : Env)
    (uid pid quota : Int) (list : List (Int × Int))
    (answer : ((run (step params) {} labels).getAllTransientTasks params env uid pid).1 =
      .ok (quota, list)) :
    let s := run (step params) {} labels
    let asked := (s.getAllTransientTasks params env uid pid).2
    ∃ name, env.bundleNameForUid uid = some name ∧
      (list.map Prod.fst).Perm (s.decisionMaker.requestIds (name, uid)) ∧
      (∀ task ∈ list, ∀ delayTime,
        asked.getRemainingDelayTime env uid pid task.1 delayTime = (.ok, task.2)) ∧
      ∀ requestId, requestId ∉ list.map Prod.fst → ∀ delayTime,
        asked.getRemainingDelayTime env uid pid requestId delayTime =
          (.invalidRequestId, invalidRemainTime) := by
  intro s asked
  have consistent : Consistent s := consistent_run labels few
  obtain ⟨ready, legal, name, decision, isName, after, isList⟩ :=
    answer_getAllTransientTasks answer
  have ids : list.map Prod.fst = (s.keyInfoMap.entries.filter
      (fun record => record.2.pkg = name && record.2.uid = uid)).map Sigma.fst := by
    rw [isList, List.map_map]
    rfl
  -- what the second query says about one id
  have asks (requestId delayTime : Int) :
      asked.getRemainingDelayTime env uid pid requestId delayTime =
        if s.verifyRequestIdLocked name uid requestId then
          match s.keyInfoMap.lookup requestId with
          | some keyInfo => (.ok, decision.getRemainingDelayTime env keyInfo requestId)
          | none => (.invalidRequestId, invalidRemainTime)
        else (.invalidRequestId, invalidRemainTime) := by
    show ((run (step params) {} labels).getAllTransientTasks params env
      uid pid).2.getRemainingDelayTime env uid pid requestId delayTime = _
    rw [after]
    unfold getRemainingDelayTime
    rw [if_neg (by simp [ready]), if_neg (by simp [legal]), isName]
    rfl
  have verified {requestId : Int} : s.verifyRequestIdLocked name uid requestId = true ↔
      requestId ∈ list.map Prod.fst := by
    rw [ids]
    exact verifyRequestIdLocked_iff_listed
  refine ⟨name, isName, ids ▸ listed_perm_requestIds consistent name uid, ?_, ?_⟩
  · intro task member delayTime
    have listed : task.1 ∈ list.map Prod.fst := List.mem_map_of_mem member
    rw [asks, if_pos (verified.mpr listed)]
    rw [isList] at member
    obtain ⟨record, present, rfl⟩ := List.mem_map.mp member
    rw [KeyedMap.mem_entries_iff.mp (List.mem_filter.mp present).1]
  · intro requestId absent delayTime
    rw [asks, if_neg (fun known => absent (verified.mp known))]

theorem transient_tasks_listed_one :
    ([1] : List Int).Perm ((run (step {}) {} [(quietEnv 500, .initNecessaryState true),
      (quietEnv 1000, .requestSuspendDelay 100 7 (.of 1))]).decisionMaker.requestIds
        ("app", 100)) := by
  obtain ⟨name, isName, same, -⟩ := transient_tasks_listed {}
    [(quietEnv 500, .initNecessaryState true),
      (quietEnv 1000, .requestSuspendDelay 100 7 (.of 1))] (by decide) (quietEnv 1100) 100 7
    _ _ rfl
  obtain rfl : "app" = name := Option.some.inj isName
  exact same

end BgTransientTaskMgr

end BgTaskMgr.Transient
