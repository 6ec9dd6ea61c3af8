import BgTaskMgr.Transient.Effects

/-!
# Quota accounting telescopes

Between two daily refills a package pays for the time it is counting, whatever the calls in
between: each `UpdateQuota` charges the span since the one before.  `Metered` says what has
been charged and since when the rest is open.
-/

set_option autoImplicit false

namespace BgTaskMgr.Transient

open DecisionMaker

/-- A difference of clock values survives their narrowing when it fits 31 bits. -/
theorem toInt32_sub_toInt32 {earlier later : Int} (ordered : earlier ≤ later)
    (short : later - earlier ≤ intMax) :
    toInt32 (toInt32 later - toInt32 earlier) = later - earlier := by
  unfold toInt32
  rw [Int.bmod_sub_bmod, Int.sub_bmod_bmod]
  unfold intMax at short
  exact Int.bmod_eq_of_le (by omega) (by omega)

namespace PkgDelaySuspendInfo

/-- At `time` the package has been counting for `counted` since `since`: what is charged is
off the quota, and while it counts the rest is open from its base time on. -/
def Metered (params : Params) (since time counted : Int) (self : PkgDelaySuspendInfo) : Prop :=
  ∃ charged, 0 ≤ charged ∧ self.quota = max 0 (params.initQuota - charged) ∧
    if self.isCounting then ∃ base, self.baseTime = toInt32 base ∧ since ≤ base ∧ base ≤ time ∧
        charged + (time - base) = counted
      else charged = counted

section

variable {params : Params} {config : BgtaskConfig} {since time counted : Int}
  {self : PkgDelaySuspendInfo}

theorem metered_of_same {other : PkgDelaySuspendInfo}
    (metered : self.Metered params since time counted) (quota : other.quota = self.quota)
    (isCounting : other.isCounting = self.isCounting)
    (baseTime : other.baseTime = self.baseTime) : other.Metered params since time counted := by
  obtain ⟨charged, nonneg, isQuota, rest⟩ := metered
  refine ⟨charged, nonneg, quota.trans isQuota, ?_⟩
  rw [isCounting, baseTime]
  exact rest

theorem metered_later {now : Int} (metered : self.Metered params since time counted)
    (later : time ≤ now) :
    self.Metered params since now (counted + if self.isCounting then now - time else 0) := by
  obtain ⟨charged, nonneg, isQuota, rest⟩ := metered
  refine ⟨charged, nonneg, isQuota, ?_⟩
  cases counting : self.isCounting with
  | false =>
      rw [counting] at rest
      simpa using rest
  | true =>
      rw [counting] at rest
      obtain ⟨base, isBase, afterReset, beforeNow, sum⟩ := rest
      refine ⟨base, isBase, afterReset, by omega, ?_⟩
      simp only [if_true]
      omega

theorem quota_updateQuota (metered : self.Metered params since time counted)
    (short : time - since ≤ intMax)
    (plain : config.isTransientTaskExemptedQuatoApp self.pkg = false) :
    0 ≤ counted ∧ (self.updateQuota params config time false).quota =
      max 0 (params.initQuota - counted) := by
  obtain ⟨charged, nonneg, isQuota, rest⟩ := metered
  cases counting : self.isCounting with
  | false =>
      rw [counting] at rest
      have same : charged = counted := by simpa using rest
      refine ⟨same ▸ nonneg, ?_⟩
      unfold updateQuota
      simp only [counting, Bool.false_eq_true, if_false]
      omega
  | true =>
      rw [counting] at rest
      obtain ⟨base, isBase, afterReset, beforeNow, sum⟩ := rest
      have spent : self.getModifiedTime config time = time - base := by
        unfold getModifiedTime
        rw [plain, isBase]
        simp only [Bool.false_eq_true, if_false, Int.sub_zero]
        rw [toInt32_sub_toInt32 beforeNow (by omega), if_neg (by omega)]
      refine ⟨by omega, ?_⟩
      unfold updateQuota
      simp only [counting, Bool.false_eq_true, if_true, if_false, spent]
      omega

/-- After `UpdateQuota` nothing is open, whether the package goes on counting or not. -/
theorem metered_updateQuota (metered : self.Metered params since time counted)
    (short : time - since ≤ intMax) (passed : since ≤ time)
    (plain : config.isTransientTaskExemptedQuatoApp self.pkg = false) (isCounting : Bool) :
    ({ self.updateQuota params config time false with isCounting := isCounting } :
      PkgDelaySuspendInfo).Metered params since time counted := by
  obtain ⟨nonneg, quota⟩ := quota_updateQuota metered short plain
  refine ⟨counted, nonneg, quota, ?_⟩
  cases isCounting with
  | false => exact rfl
  | true => exact ⟨time, rfl, passed, le_refl time, by omega⟩

theorem metered_reset (nonneg : 0 ≤ params.initQuota) :
    (self.updateQuota params config time true).Metered params time time 0 := by
  refine ⟨0, le_refl 0, ?_, ?_⟩
  · change params.initQuota = _
    omega
  · split
    · exact ⟨time, rfl, le_refl time, le_refl time, by omega⟩
    · rfl

theorem metered_make (nonneg : 0 ≤ params.initQuota) (pkg : String) (uid : Int) :
    (make params pkg uid).Metered params since time 0 := by
  refine ⟨0, le_refl 0, ?_, rfl⟩
  change params.initQuota = _
  omega

theorem metered_call {env : Env} (metered : self.Metered params since env.now counted)
    (short : env.now - since ≤ intMax) (passed : since ≤ env.now)
    (plain : env.config.isTransientTaskExemptedQuatoApp self.pkg = false) (call : PkgCall)
    (timers : TimerManager) :
    (call.apply params env timers self).1.Metered params since env.now counted := by
  cases call with
  | updateQuota => exact metered_updateQuota metered short passed plain self.isCounting
  | start requestId =>
      have loop := startAccountingLoop_pkg params env.config env.now requestId self timers
        self.requestList
      have settled : (startAccountingLoop params env.config env.now requestId self timers
          self.requestList).1.Metered params since env.now counted := by
        rcases loop with same | ⟨settled, -⟩
        · rw [same]
          exact metered
        · rw [settled]
          exact metered_updateQuota metered short passed plain true
      exact metered_of_same settled rfl rfl rfl
  | stopAll =>
      have listed : ({ self with
          requestList := (stopAccountingLoop env.now (fun _ => true) timers
            self.requestList).2 } : PkgDelaySuspendInfo).Metered params since env.now counted :=
        metered_of_same metered rfl rfl rfl
      exact metered_updateQuota listed short passed plain false

theorem metered_removeRequest {env : Env} (metered : self.Metered params since env.now counted)
    (short : env.now - since ≤ intMax) (passed : since ≤ env.now)
    (plain : env.config.isTransientTaskExemptedQuatoApp self.pkg = false) (requestId : Int)
    (timers : TimerManager) :
    (self.removeRequest params env.config env.now requestId timers).1.Metered params since env.now
      counted := by
  unfold removeRequest
  split
  · dsimp only
    have listed : ({ (self.stopAccounting env.now requestId timers).1 with
        requestList := (self.stopAccounting env.now requestId timers).1.requestList.eraseP
          (fun info => info.requestId = requestId) } : PkgDelaySuspendInfo).Metered params since
            env.now counted := metered_of_same metered rfl rfl rfl
    split
    · exact metered_updateQuota listed short passed plain false
    · exact listed
  · exact metered

end

end PkgDelaySuspendInfo

/-! ## What the calls make of one package -/

/-- What a call does to the package under the key, the daily refill apart. -/
inductive PkgMove (params : Params) (env : Env) (key : String × Int) :
    Option PkgDelaySuspendInfo → Option PkgDelaySuspendInfo → Prop where
  | make : PkgMove params env key none (some (PkgDelaySuspendInfo.make params key.1 key.2))
  | call (pkgInfo : PkgDelaySuspendInfo) (call : PkgCall) (timers : TimerManager) :
      PkgMove params env key (some pkgInfo) (some (call.apply params env timers pkgInfo).1)
  | add (pkgInfo : PkgDelaySuspendInfo) (delayInfo : DelaySuspendInfoEx) (delayTime : Int)
      (needSetTime : Bool) : PkgMove params env key (some pkgInfo)
        (some (pkgInfo.addRequest env.config delayInfo delayTime needSetTime).2)
  | remove (pkgInfo : PkgDelaySuspendInfo) (requestId : Int) (timers : TimerManager) :
      PkgMove params env key (some pkgInfo)
        (some (pkgInfo.removeRequest params env.config env.now requestId timers).1)

abbrev PkgMoves (params : Params) (env : Env) (key : String × Int) :
    Option PkgDelaySuspendInfo → Option PkgDelaySuspendInfo → Prop :=
  Relation.ReflTransGen (PkgMove params env key)

namespace DecisionMaker

def refilled (params : Params) (env : Env) (pkgInfo : Option PkgDelaySuspendInfo) :
    Option PkgDelaySuspendInfo :=
  (pkgInfo.filter (fun pkgInfo => !pkgInfo.requestList.isEmpty)).map
    (fun pkgInfo => pkgInfo.updateQuota params env.config env.now true)

section

variable {params : Params} {env : Env} {self : DecisionMaker}

theorem pkgMoves_updatePkg (decision : DecisionMaker) (key a : String × Int) (call : PkgCall) :
    PkgMoves params env a (decision.pkgDelaySuspendInfoMap.lookup a)
      ((decision.updatePkg key (call.apply params env)).pkgDelaySuspendInfoMap.lookup a) := by
  rw [updatePkg_lookup]
  split
  · cases decision.pkgDelaySuspendInfoMap.lookup a with
    | none => exact .refl
    | some pkgInfo => exact .single (.call pkgInfo call _)
  · exact .refl

@[simp]
theorem updatePkg_lastRequestTime (key : String × Int)
    (f : TimerManager → PkgDelaySuspendInfo → PkgDelaySuspendInfo × TimerManager) :
    (self.updatePkg key f).lastRequestTime = self.lastRequestTime := by
  unfold updatePkg
  split
  · rfl
  · rfl

theorem pkgMoves_reaches {next : DecisionMaker} (reaches : Reaches params env self next)
    (a : String × Int) :
    next.lastRequestTime = self.lastRequestTime ∧
      PkgMoves params env a (self.pkgDelaySuspendInfoMap.lookup a)
        (next.pkgDelaySuspendInfoMap.lookup a) := by
  induction reaches with
  | refl => exact ⟨rfl, .refl⟩
  | tail _ step ih =>
      cases step with
      | frame _ samePkgs _ sameDay =>
          rw [samePkgs]
          exact ⟨sameDay.trans ih.1, ih.2⟩
      | package key call =>
          exact ⟨(updatePkg_lastRequestTime key _).trans ih.1,
            ih.2.trans (pkgMoves_updatePkg _ key a call)⟩

theorem pkgMoves_decideQuota (key : KeyInfo) (delayInfo : DelaySuspendInfoEx) (a : String × Int) :
    (self.decideQuota params env key delayInfo).2.2.lastRequestTime = self.lastRequestTime ∧
      PkgMoves params env a (self.pkgDelaySuspendInfoMap.lookup a)
        ((self.decideQuota params env key delayInfo).2.2.pkgDelaySuspendInfoMap.lookup a) := by
  have start : PkgMoves params env key.mapKey (self.pkgDelaySuspendInfoMap.lookup key.mapKey)
      (some ((self.pkgDelaySuspendInfoMap.lookup key.mapKey).getD
        (PkgDelaySuspendInfo.make params key.pkg key.uid))) := by
    cases self.pkgDelaySuspendInfoMap.lookup key.mapKey with
    | none => exact .single .make
    | some pkgInfo => exact .refl
  unfold decideQuota
  dsimp only
  generalize (self.pkgDelaySuspendInfoMap.lookup key.mapKey).getD
    (PkgDelaySuspendInfo.make params key.pkg key.uid) = pkgInfo at start ⊢
  have checked : PkgMoves params env key.mapKey (self.pkgDelaySuspendInfoMap.lookup key.mapKey)
      (some (checkQuotaTime params env pkgInfo key.pkg).2.2) := by
    obtain ⟨same | settled, -⟩ := checkQuotaTime_spec params env pkgInfo key.pkg
    · rw [same]
      exact start
    · rw [settled]
      exact start.tail (.call pkgInfo .updateQuota {})
  generalize (checkQuotaTime params env pkgInfo key.pkg).2.2 = settled at checked ⊢
  -- a package put back under the request's key
  have stored : ∀ {next : Option PkgDelaySuspendInfo} (other : PkgDelaySuspendInfo),
      PkgMoves params env key.mapKey (some settled) (some other) →
        next = ((self.pkgDelaySuspendInfoMap.insert key.mapKey other).lookup a) →
          PkgMoves params env a (self.pkgDelaySuspendInfoMap.lookup a) next := by
    rintro next other moves rfl
    rw [KeyedMap.lookup_insert]
    split
    · rename_i here
      rw [here]
      exact checked.trans moves
    · exact .refl
  split
  · unfold grant
    dsimp only
    have added := stored _ (.single (.add settled
      { delayInfo with requestId := self.newDelaySuspendRequestId.1 }
      (self.newDelaySuspendRequestId.2.getDelayTime params)
      (checkQuotaTime params env pkgInfo key.pkg).2.1)) rfl
    split
    · refine ⟨updatePkg_lastRequestTime _ _, added.trans ?_⟩
      exact pkgMoves_updatePkg (self.newDelaySuspendRequestId.2.storeRequest key _) key.mapKey a
        (.start self.newDelaySuspendRequestId.1)
    · exact ⟨rfl, added⟩
  · exact ⟨rfl, stored settled .refl rfl⟩

theorem pkgMoves_removeRequest (key : Option KeyInfo) (requestId : Int) (a : String × Int) :
    (self.removeRequest params env key requestId).lastRequestTime = self.lastRequestTime ∧
      PkgMoves params env a (self.pkgDelaySuspendInfoMap.lookup a)
        ((self.removeRequest params env key requestId).pkgDelaySuspendInfoMap.lookup a) := by
  unfold removeRequest
  split
  · exact ⟨rfl, .refl⟩
  rename_i key
  split
  · exact ⟨rfl, .refl⟩
  dsimp only
  refine ⟨updatePkg_lastRequestTime _ _, ?_⟩
  rw [updatePkg_lookup]
  split
  · cases self.pkgDelaySuspendInfoMap.lookup a with
    | none => exact .refl
    | some pkgInfo => exact .single (.remove pkgInfo requestId _)
  · exact .refl

/-- A call leaves the day alone, or it is a request after the day is over. -/
theorem pkgMoves_step (op : DecisionOp) (a : String × Int) :
    (self.step params (env, op)).lastRequestTime = self.lastRequestTime ∧
        PkgMoves params env a (self.pkgDelaySuspendInfoMap.lookup a)
          ((self.step params (env, op)).pkgDelaySuspendInfoMap.lookup a) ∨
      (self.step params (env, op)).lastRequestTime = env.now ∧
        PkgMoves params env a (refilled params env (self.pkgDelaySuspendInfoMap.lookup a))
          ((self.step params (env, op)).pkgDelaySuspendInfoMap.lookup a) := by
  cases op with
  | decide key =>
      have asked : ∀ decision : DecisionMaker,
          (decision.decideQuota params env key { pid := key.pid }).2.2.lastRequestTime =
              decision.lastRequestTime ∧
            PkgMoves params env a (decision.pkgDelaySuspendInfoMap.lookup a)
              ((decision.decideQuota params env key
                { pid := key.pid }).2.2.pkgDelaySuspendInfoMap.lookup a) :=
        fun decision => pkgMoves_decideQuota key { pid := key.pid } a
      change (self.decide params env key { pid := key.pid }).2.2.lastRequestTime = _ ∧ _ ∨
        (self.decide params env key { pid := key.pid }).2.2.lastRequestTime = _ ∧ _
      have settled : ∀ decision : DecisionMaker, decision = self.resetDayQuotaLocked params env →
          (self.decide params env key { pid := key.pid }).2.2.lastRequestTime =
              decision.lastRequestTime ∧
            PkgMoves params env a (decision.pkgDelaySuspendInfoMap.lookup a)
              ((self.decide params env key
                { pid := key.pid }).2.2.pkgDelaySuspendInfoMap.lookup a) := by
        rintro decision rfl
        unfold decide
        dsimp only
        split
        · split
          · exact ⟨rfl, .refl⟩
          · exact asked _
        · exact asked _
      by_cases dayOver : isAfterOneDay params self.lastRequestTime env.now = true
      · right
        have reset := settled _ rfl
        unfold resetDayQuotaLocked at reset
        rw [if_pos dayOver] at reset
        refine ⟨reset.1, ?_⟩
        have lookup := reset.2
        rw [KeyedMap.lookup_mapVal, KeyedMap.lookup_filterVal] at lookup
        exact lookup
      · left
        have same : self.resetDayQuotaLocked params env = self := by
          unfold resetDayQuotaLocked
          rw [if_neg dayOver]
        exact settled self same.symm
  | removeRequest key requestId => exact Or.inl (pkgMoves_removeRequest key requestId a)
  | pause uid name =>
      exact Or.inl (pkgMoves_reaches (reaches_pauseTransientTaskTimeForInner uid name) a)
  | start uid name =>
      exact Or.inl (pkgMoves_reaches (reaches_startTransientTaskTimeForInner uid name) a)
  | getQuota key => exact Or.inl (pkgMoves_reaches (reaches_getQuota key) a)
  | processStateChanged processData =>
      exact Or.inl (pkgMoves_reaches (reaches_onProcessStateChanged processData) a)
  | processDied processData =>
      exact Or.inl (pkgMoves_reaches (reaches_onProcessDied processData) a)
  | inputEvent transientPauseUid event stringArg =>
      exact Or.inl (pkgMoves_reaches (reaches_onInputEvent transientPauseUid event stringArg) a)
  | setDump isDump => exact Or.inl ⟨rfl, .refl⟩

end

end DecisionMaker

/-! ## The meter along a step -/

/-- The meter of a key: a package that is not there has not counted. -/
def MeteredAt (params : Params) (key : String × Int) (since time counted : Int) :
    Option PkgDelaySuspendInfo → Prop
  | none => counted = 0
  | some pkgInfo => pkgInfo.pkg = key.1 ∧ pkgInfo.Metered params since time counted

section

variable {params : Params} {env : Env} {key : String × Int} {since counted : Int}

theorem pkg_apply (call : PkgCall) (timers : TimerManager) (pkgInfo : PkgDelaySuspendInfo) :
    (call.apply params env timers pkgInfo).1.pkg = pkgInfo.pkg := by
  cases call with
  | updateQuota => rfl
  | start requestId =>
      have loop := PkgDelaySuspendInfo.startAccountingLoop_pkg params env.config env.now requestId
        pkgInfo timers pkgInfo.requestList
      change (PkgDelaySuspendInfo.startAccountingLoop params env.config env.now requestId pkgInfo
        timers pkgInfo.requestList).1.pkg = pkgInfo.pkg
      rcases loop with same | ⟨settled, -⟩
      · rw [same]
      · rw [settled]
        rfl
  | stopAll => rfl

theorem pkg_removeRequest (requestId : Int) (timers : TimerManager)
    (pkgInfo : PkgDelaySuspendInfo) :
    (pkgInfo.removeRequest params env.config env.now requestId timers).1.pkg = pkgInfo.pkg := by
  unfold PkgDelaySuspendInfo.removeRequest
  split
  · dsimp only
    split
    · rfl
    · rfl
  · rfl

theorem meteredAt_moves (nonneg : 0 ≤ params.initQuota) (short : env.now - since ≤ intMax)
    (passed : since ≤ env.now) (plain : env.config.isTransientTaskExemptedQuatoApp key.1 = false)
    {before after : Option PkgDelaySuspendInfo} (moves : PkgMoves params env key before after)
    (metered : MeteredAt params key since env.now counted before) :
    MeteredAt params key since env.now counted after := by
  induction moves with
  | refl => exact metered
  | tail _ move ih =>
      cases move with
      | make =>
          have nothing : counted = 0 := ih
          rw [nothing]
          exact ⟨rfl, PkgDelaySuspendInfo.metered_make nonneg key.1 key.2⟩
      | call pkgInfo call timers =>
          refine ⟨(pkg_apply call timers pkgInfo).trans ih.1, ?_⟩
          exact PkgDelaySuspendInfo.metered_call ih.2 short passed (ih.1 ▸ plain) call timers
      | add pkgInfo delayInfo delayTime needSetTime =>
          exact ⟨ih.1, PkgDelaySuspendInfo.metered_of_same ih.2 rfl rfl rfl⟩
      | remove pkgInfo requestId timers =>
          refine ⟨(pkg_removeRequest requestId timers pkgInfo).trans ih.1, ?_⟩
          exact PkgDelaySuspendInfo.metered_removeRequest ih.2 short passed (ih.1 ▸ plain)
            requestId timers

theorem meteredAt_refilled (nonneg : 0 ≤ params.initQuota) {before : Option PkgDelaySuspendInfo}
    (metered : MeteredAt params key since env.now counted before) :
    MeteredAt params key env.now env.now 0 (DecisionMaker.refilled params env before) := by
  unfold DecisionMaker.refilled
  cases before with
  | none => exact rfl
  | some pkgInfo =>
      rw [Option.filter_some]
      split
      · exact ⟨metered.1, PkgDelaySuspendInfo.metered_reset nonneg⟩
      · exact rfl

/-- One step of the manager goes on metering, or it starts anew with a refill. -/
theorem meteredAt_drives (nonneg : 0 ≤ params.initQuota) (short : env.now - since ≤ intMax)
    (passed : since ≤ env.now) (plain : env.config.isTransientTaskExemptedQuatoApp key.1 = false)
    {before after : DecisionMaker} (drives : BgTransientTaskMgr.Drives params env before after)
    (metered : MeteredAt params key since env.now counted
      (before.pkgDelaySuspendInfoMap.lookup key)) :
    after.lastRequestTime = before.lastRequestTime ∧
        MeteredAt params key since env.now counted (after.pkgDelaySuspendInfoMap.lookup key) ∨
      after.lastRequestTime = env.now ∧
        MeteredAt params key env.now env.now 0 (after.pkgDelaySuspendInfoMap.lookup key) := by
  have today : env.now - env.now ≤ intMax := by
    rw [Int.sub_self]
    decide
  induction drives with
  | refl => exact Or.inl ⟨rfl, metered⟩
  | tail _ step ih =>
      cases step with
      | fired timers => exact ih
      | call op _ =>
          rcases ih with ⟨sameDay, kept⟩ | ⟨newDay, kept⟩
          · rcases pkgMoves_step op key with ⟨same, moves⟩ | ⟨reset, moves⟩
            · exact Or.inl ⟨same.trans sameDay, meteredAt_moves nonneg short passed plain moves kept⟩
            · exact Or.inr ⟨reset, meteredAt_moves nonneg today (le_refl _) plain moves
                (meteredAt_refilled nonneg kept)⟩
          · rcases pkgMoves_step op key with ⟨same, moves⟩ | ⟨reset, moves⟩
            · exact Or.inr ⟨same.trans newDay,
                meteredAt_moves nonneg today (le_refl _) plain moves kept⟩
            · exact Or.inr ⟨reset, meteredAt_moves nonneg today (le_refl _) plain moves
                (meteredAt_refilled nonneg kept)⟩

end

/-! ## The meter of a run -/

namespace BgTransientTaskMgr

def isCountingAt (s : BgTransientTaskMgr) (key : String × Int) : Bool :=
  match s.decisionMaker.pkgDelaySuspendInfoMap.lookup key with
  | none => false
  | some pkgInfo => pkgInfo.isCounting

structure Metering where
  mgr : BgTransientTaskMgr := {}
  /-- The clock at the last step. -/
  time : Int
  /-- The clock at the last daily reset. -/
  since : Int
  /-- The time in the counting state since then. -/
  counted : String × Int → Int := fun _ => 0

/-- The daily reset notes its time in `lastRequestTime_`. -/
def Metering.step (params : Params) (self : Metering) (label : Env × Op) : Metering :=
  let next := self.mgr.step params label
  let now := label.1.now
  if next.decisionMaker.lastRequestTime = now then { mgr := next, time := now, since := now }
  else
    { mgr := next
      time := now
      since := self.since
      counted key := self.counted key + if self.mgr.isCountingAt key then now - self.time else 0 }

/-- The clock does not go back, no refill is more than `INT_MAX` ms ago, and the package is
not exempted. -/
def Metering.Running (key : String × Int) (metering : Metering) (label : Env × Op) : Prop :=
  metering.time ≤ label.1.now ∧ label.1.now - metering.since ≤ intMax ∧
    label.1.config.isTransientTaskExemptedQuatoApp key.1 = false

instance (key : String × Int) (metering : Metering) (label : Env × Op) :
    Decidable (metering.Running key label) :=
  inferInstanceAs (Decidable (_ ∧ _ ∧ _))

structure Metering.Kept (params : Params) (key : String × Int) (metering : Metering) : Prop where
  day : metering.mgr.decisionMaker.lastRequestTime ≤ metering.since
  passed : metering.since ≤ metering.time
  short : metering.time - metering.since ≤ intMax
  nonneg : 0 ≤ metering.counted key
  bounded : metering.counted key ≤ metering.time - metering.since
  metered : MeteredAt params key metering.since metering.time (metering.counted key)
    (metering.mgr.decisionMaker.pkgDelaySuspendInfoMap.lookup key)

theorem meteredAt_later {params : Params} {key : String × Int} {metering : Metering} {now : Int}
    (kept : metering.Kept params key) (later : metering.time ≤ now) :
    MeteredAt params key metering.since now
      (metering.counted key + if metering.mgr.isCountingAt key then now - metering.time else 0)
      (metering.mgr.decisionMaker.pkgDelaySuspendInfoMap.lookup key) := by
  have metered := kept.metered
  unfold isCountingAt
  cases found : metering.mgr.decisionMaker.pkgDelaySuspendInfoMap.lookup key with
  | none =>
      rw [found] at metered
      have nothing : metering.counted key = 0 := metered
      rw [nothing]
      exact rfl
  | some pkgInfo =>
      rw [found] at metered
      exact ⟨metered.1, PkgDelaySuspendInfo.metered_later metered.2 later⟩

theorem kept_meteringStep (params : Params) (nonneg : 0 ≤ params.initQuota) (key : String × Int)
    (metering : Metering) (label : Env × Op) (kept : metering.Kept params key)
    (running : metering.Running key label) : (metering.step params label).Kept params key := by
  obtain ⟨env, op⟩ := label
  obtain ⟨notBack, isShort, plain⟩ := running
  have later : metering.time ≤ env.now := notBack
  have short : env.now - metering.since ≤ intMax := isShort
  have day := kept.day
  have passed := kept.passed
  have counted := kept.nonneg
  have bounded := kept.bounded
  have span : 0 ≤ (if metering.mgr.isCountingAt key then env.now - metering.time else 0) ∧
      (if metering.mgr.isCountingAt key then env.now - metering.time else 0) ≤
        env.now - metering.time := by
    split
    · omega
    · omega
  have stepped := meteredAt_drives nonneg short (by omega) plain (drives_step params env op)
    (meteredAt_later kept later)
  unfold Metering.step
  dsimp only
  generalize metering.mgr.step params (env, op) = next at stepped ⊢
  split
  · rename_i reset
    have today : env.now - env.now = 0 := Int.sub_self env.now
    refine ⟨le_of_eq reset, le_refl _, ?_, le_refl 0, le_of_eq today.symm, ?_⟩
    · exact (le_of_eq today).trans (by decide)
    rcases stepped with ⟨sameDay, metered⟩ | ⟨-, metered⟩
    · -- the day began at this very moment, so that nothing was counted since
      have today : metering.since = env.now := by omega
      have nothing : metering.counted key +
          (if metering.mgr.isCountingAt key then env.now - metering.time else 0) = 0 := by omega
      rw [nothing, today] at metered
      exact metered
    · exact metered
  · rename_i sameDay
    rcases stepped with ⟨same, metered⟩ | ⟨reset, -⟩
    · refine ⟨same.symm ▸ day, passed.trans later, short, ?_, ?_, metered⟩
      · dsimp only
        omega
      · dsimp only
        omega
    · exact absurd reset sameDay

/-- Between two daily resets the quota of a package that is not exempted is what its time in
the counting state leaves of `INIT_QUOTA`, as of the last `UpdateQuota`; another `UpdateQuota`
at any later time brings it up to that time. -/
theorem quota_telescopes (params : Params) (nonneg : 0 ≤ params.initQuota) (start : Int)
    (booted : 0 ≤ start) (key : String × Int) (labels : List (Env × Op))
    (running : StepSystem.Admissible (Metering.step params) (Metering.Running key)
      { time := start, since := start } labels) (pkgInfo : PkgDelaySuspendInfo) :
    let last := StepSystem.run (Metering.step params) { time := start, since := start } labels
    last.mgr.decisionMaker.pkgDelaySuspendInfoMap.lookup key = some pkgInfo →
    0 ≤ pkgInfo.quota ∧ pkgInfo.quota ≤ params.initQuota ∧
      (pkgInfo.isCounting = false ∨ pkgInfo.baseTime = toInt32 last.time →
        pkgInfo.quota = max 0 (params.initQuota - last.counted key)) ∧
      ∀ env : Env, last.time ≤ env.now → env.now - last.since ≤ intMax →
        env.config.isTransientTaskExemptedQuatoApp key.1 = false →
          (pkgInfo.updateQuota params env.config env.now false).quota = max 0 (params.initQuota -
            (last.counted key + if pkgInfo.isCounting then env.now - last.time else 0)) := by
  intro last found
  have kept : last.Kept params key := by
    refine StepSystem.run_invariant (kept_meteringStep params nonneg key) labels _ ?_ running
    refine ⟨booted, le_refl _, ?_, le_refl _, ?_, rfl⟩
    · exact (le_of_eq (Int.sub_self start)).trans (by decide)
    · exact le_of_eq (Int.sub_self start).symm
  have metered := kept.metered
  rw [found] at metered
  obtain ⟨isPkg, isMetered⟩ := metered
  obtain ⟨charged, fromZero, isQuota, rest⟩ := isMetered
  refine ⟨by omega, by omega, fun settled => ?_, fun env later short plain => ?_⟩
  · cases counting : pkgInfo.isCounting with
    | false =>
        rw [counting] at rest
        have all : charged = last.counted key := by simpa using rest
        rw [← all]
        exact isQuota
    | true =>
        rw [counting] at rest settled
        obtain ⟨base, isBase, afterReset, before, sum⟩ := rest
        have sameTime : toInt32 last.time = toInt32 base :=
          (settled.resolve_left (by simp)).symm.trans isBase
        have span := toInt32_sub_toInt32 before (by have := kept.short; omega)
        rw [sameTime, Int.sub_self] at span
        have none : last.time - base = 0 := span.symm
        have all : charged = last.counted key := by omega
        rw [← all]
        exact isQuota
  · have metered := PkgDelaySuspendInfo.metered_later
      (⟨charged, fromZero, isQuota, rest⟩ : pkgInfo.Metered params _ _ _) later
    exact (PkgDelaySuspendInfo.quota_updateQuota metered short (isPkg ▸ plain)).2

def wrappingClockLabels : List (Env × Op) :=
  [(quietEnv 2147483000, .initNecessaryState true),
    (quietEnv 2147483100, .requestSuspendDelay 100 7 (.of 1)),
    (quietEnv 2147483700, .getAllTransientTasks 100 7),
    (quietEnv 2147483900, .requestSuspendDelay 100 7 (.of 2)),
    (quietEnv 2147484100, .processStateChanged ⟨"app", 100, 7, .foreground⟩),
    (quietEnv 2147484600, .cancelSuspendDelay 100 7 2),
    (quietEnv 2147485600, .processStateChanged ⟨"app", 100, 7, .background⟩)]

def wrappedPkg : PkgDelaySuspendInfo where
  pkg := "app"
  uid := 100
  quota := 599000
  baseTime := -2147481696
  isCounting := true
  requestList := [⟨1, 180000, 7, 2147485600, 1000⟩]

theorem quota_telescopes_wrapping_clock :
    let last := StepSystem.run (Metering.step {}) { time := 2147483000, since := 2147483000 }
      wrappingClockLabels
    last.mgr.decisionMaker.pkgDelaySuspendInfoMap.lookup ("app", 100) = some wrappedPkg ∧
      last.counted ("app", 100) = 1000 ∧ wrappedPkg.quota = max 0 (600000 - 1000) ∧
        (wrappedPkg.updateQuota {} (quietEnv 2147486600).config 2147486600 false).quota =
          max 0 (600000 - (1000 + 1000)) := by
  have telescopes := quota_telescopes {} (by decide) 2147483000 (by decide) ("app", 100)
    wrappingClockLabels (by decide) wrappedPkg (by decide)
  refine ⟨by decide, by decide, telescopes.2.2.1 (Or.inr (by decide)), ?_⟩
  exact telescopes.2.2.2 (quietEnv 2147486600) (by decide) (by decide) (by decide)

end BgTransientTaskMgr

end BgTaskMgr.Transient
