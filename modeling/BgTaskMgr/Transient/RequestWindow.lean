import BgTaskMgr.Transient.Quota

/-!
# The background request window

`pkgBgDurationMap_` keeps for a package the clock at its last move to the background, as an
`int32_t`, and `Decide` compares it with the full clock.  `lastEntry` follows the full values
beside the decision maker, so that the two readings of the window can be compared.
-/

set_option autoImplicit false

namespace BgTaskMgr.Transient

namespace DecisionMaker

/-! ## The entries that `HandleStateChange` records -/

/-- `HandleStateChange` writes a background entry for the package of this event. -/
def recordsEntry (processData : ProcessData) (self : DecisionMaker) : Bool :=
  let self := self.updateForegroundUidPidMap processData.uid processData.pid false
  processData.state == .background &&
    (self.pkgDelaySuspendInfoMap.lookup (processData.bundleName, processData.uid)).any
      (fun pkgInfo => self.canStartAccountingLocked pkgInfo)

/-- The time of the latest entry of `key` after a call: a foreground event of the package
erases it, an event that records one replaces it. -/
def entryAfter (key : String × Int) (self : DecisionMaker) (entry : Option Int) :
    Env × DecisionOp → Option Int
  | (env, .processStateChanged processData) =>
      if (processData.bundleName, processData.uid) ≠ key then entry
      else if processData.state == .foreground || processData.state == .focus then none
      else if self.recordsEntry processData then some env.now
      else entry
  | _ => entry

def lastEntry (params : Params) (key : String × Int) :
    DecisionMaker → Option Int → List (Env × DecisionOp) → Option Int
  | _, entry, [] => entry
  | self, entry, call :: rest =>
      lastEntry params key (self.step params call) (self.entryAfter key entry call) rest

/-- A window opening at `opening` falls between an entry's time and what 32 bits keep of it. -/
def SplitByWrap (opening entered : Int) : Prop :=
  min entered (toInt32 entered) < opening ∧ opening ≤ max entered (toInt32 entered)

instance (opening entered : Int) : Decidable (SplitByWrap opening entered) :=
  inferInstanceAs (Decidable (_ ∧ _))

/-! ## Who writes the map -/

section

variable {params : Params} {env : Env} {self : DecisionMaker}

@[simp]
theorem updatePkg_pkgBgDurationMap (key : String × Int)
    (f : TimerManager → PkgDelaySuspendInfo → PkgDelaySuspendInfo × TimerManager) :
    (self.updatePkg key f).pkgBgDurationMap = self.pkgBgDurationMap := by
  unfold updatePkg
  split <;> rfl

@[simp]
theorem updateForegroundUidPidMap_pkgBgDurationMap (uid pid : Int) (isForeground : Bool) :
    (self.updateForegroundUidPidMap uid pid isForeground).pkgBgDurationMap =
      self.pkgBgDurationMap := by
  obtain ⟨uids, moved⟩ := updateForegroundUidPidMap_frame uid pid isForeground
  rw [moved]

@[simp]
theorem resetDayQuotaLocked_pkgBgDurationMap :
    (self.resetDayQuotaLocked params env).pkgBgDurationMap = self.pkgBgDurationMap := by
  unfold resetDayQuotaLocked
  split <;> rfl

theorem tryStartAccounting_pkgBgDurationMap (uid : Int) (bundleName : String) :
    (self.tryStartAccounting params env uid bundleName).2.pkgBgDurationMap =
      self.pkgBgDurationMap := by
  unfold tryStartAccounting
  split
  · rfl
  · split
    · apply updatePkg_pkgBgDurationMap
    · rfl

theorem grant_pkgBgDurationMap (key : KeyInfo) (delayInfo : DelaySuspendInfoEx)
    (pkgInfo : PkgDelaySuspendInfo) (needSetTime : Bool) :
    (self.grant params env key delayInfo pkgInfo needSetTime).2.pkgBgDurationMap =
      self.pkgBgDurationMap := by
  unfold grant
  dsimp only
  split
  · apply updatePkg_pkgBgDurationMap
  · rfl

theorem decideQuota_pkgBgDurationMap (key : KeyInfo) (delayInfo : DelaySuspendInfoEx) :
    (self.decideQuota params env key delayInfo).2.2.pkgBgDurationMap = self.pkgBgDurationMap := by
  unfold decideQuota
  dsimp only
  split
  · apply grant_pkgBgDurationMap
  · rfl

theorem decide_pkgBgDurationMap (key : KeyInfo) (delayInfo : DelaySuspendInfoEx) :
    (self.decide params env key delayInfo).2.2.pkgBgDurationMap = self.pkgBgDurationMap := by
  have settled := (@decideQuota_pkgBgDurationMap params env (self.resetDayQuotaLocked params env)
    key delayInfo).trans resetDayQuotaLocked_pkgBgDurationMap
  unfold decide
  dsimp only
  split
  · split
    · exact resetDayQuotaLocked_pkgBgDurationMap
    · exact settled
  · exact settled

theorem removeRequest_pkgBgDurationMap (key : Option KeyInfo) (requestId : Int) :
    (self.removeRequest params env key requestId).pkgBgDurationMap = self.pkgBgDurationMap := by
  unfold removeRequest
  split
  · rfl
  · split
    · rfl
    · apply updatePkg_pkgBgDurationMap

theorem pauseTransientTaskTimeForInner_pkgBgDurationMap (uid : Int) (name : String) :
    (self.pauseTransientTaskTimeForInner params env uid name).2.pkgBgDurationMap =
      self.pkgBgDurationMap := by
  unfold pauseTransientTaskTimeForInner
  split
  · rfl
  · split
    · rfl
    · apply updatePkg_pkgBgDurationMap

theorem startTransientTaskTimeForInner_pkgBgDurationMap (uid : Int) (name : String) :
    (self.startTransientTaskTimeForInner params env uid name).2.pkgBgDurationMap =
      self.pkgBgDurationMap := by
  unfold startTransientTaskTimeForInner
  split
  · rfl
  · apply tryStartAccounting_pkgBgDurationMap

theorem getQuota_pkgBgDurationMap (key : KeyInfo) :
    (self.getQuota params env key).2.pkgBgDurationMap = self.pkgBgDurationMap := by
  unfold getQuota
  split
  · apply updatePkg_pkgBgDurationMap
  · rfl

theorem handleScreenOn_pkgBgDurationMap :
    (self.handleScreenOn params env).pkgBgDurationMap = self.pkgBgDurationMap := by
  unfold handleScreenOn
  split
  · rfl
  · rename_i fgAppList _
    apply List.foldlRecOn (motive := fun (decision : DecisionMaker) =>
      decision.pkgBgDurationMap = self.pkgBgDurationMap) fgAppList _ rfl
    intro decision same fgApp _
    rw [updatePkg_pkgBgDurationMap, same]

theorem screenOffPkg_pkgBgDurationMap (transientPauseUid : Finset Int) (key : String × Int) :
    (screenOffPkg params env transientPauseUid self key).pkgBgDurationMap =
      self.pkgBgDurationMap := by
  unfold screenOffPkg
  split
  · rfl
  · split
    · rfl
    · split
      · apply updatePkg_pkgBgDurationMap
      · rfl

theorem handleScreenOff_pkgBgDurationMap (transientPauseUid : Finset Int) :
    (self.handleScreenOff params env transientPauseUid).pkgBgDurationMap =
      self.pkgBgDurationMap := by
  unfold handleScreenOff
  apply List.foldlRecOn (motive := fun (decision : DecisionMaker) =>
    decision.pkgBgDurationMap = self.pkgBgDurationMap) _ _ rfl
  intro decision same key _
  rw [screenOffPkg_pkgBgDurationMap, same]

theorem onInputEvent_pkgBgDurationMap (transientPauseUid : Finset Int) (event : EventId)
    (stringArg : String) :
    (self.onInputEvent params env transientPauseUid event stringArg).pkgBgDurationMap =
      self.pkgBgDurationMap := by
  unfold onInputEvent
  dsimp only
  split
  · apply handleScreenOn_pkgBgDurationMap
  · apply handleScreenOff_pkgBgDurationMap
  · rfl

/-! ## The map holds the entries in 32 bits -/

/-- A process event writes the map at its own package: not at all, an erasure or an entry. -/
theorem lookup_onProcessStateChanged (processData : ProcessData) (key : String × Int) :
    (self.onProcessStateChanged params env processData).pkgBgDurationMap.lookup key =
      if (processData.bundleName, processData.uid) ≠ key then self.pkgBgDurationMap.lookup key
      else if processData.state == .foreground || processData.state == .focus then none
      else if self.recordsEntry processData then some (toInt32 env.now)
      else self.pkgBgDurationMap.lookup key := by
  unfold onProcessStateChanged handleStateChange recordsEntry
  dsimp only
  cases front : processData.state == .foreground || processData.state == .focus with
  | true =>
      by_cases same : (processData.bundleName, processData.uid) = key
      · simp [same]
      · simp [same, Ne.symm same]
  | false =>
      cases back : processData.state == .background with
      | false => simp
      | true =>
          simp only [Bool.or_true, if_true, Bool.false_eq_true, if_false, Bool.true_and]
          split
          · rename_i missing
            simp [missing]
          · rename_i pkgInfo found
            rw [found]
            split
            · rename_i starts
              by_cases same : (processData.bundleName, processData.uid) = key
              · simp [same, starts]
              · simp [same, Ne.symm same]
            · rename_i stays
              simp [stays]

theorem lookup_step (key : String × Int) {entry : Option Int}
    (stored : self.pkgBgDurationMap.lookup key = entry.map toInt32)
    (call : Env × DecisionOp) :
    (self.step params call).pkgBgDurationMap.lookup key =
      (self.entryAfter key entry call).map toInt32 := by
  have frame : ∀ {next : DecisionMaker}, next.pkgBgDurationMap = self.pkgBgDurationMap →
      next.pkgBgDurationMap.lookup key = entry.map toInt32 := by
    intro next same
    rw [same, stored]
  obtain ⟨env, op⟩ := call
  cases op with
  | decide request => exact frame (decide_pkgBgDurationMap request _)
  | removeRequest request requestId => exact frame (removeRequest_pkgBgDurationMap request _)
  | pause uid name => exact frame (pauseTransientTaskTimeForInner_pkgBgDurationMap uid name)
  | start uid name => exact frame (startTransientTaskTimeForInner_pkgBgDurationMap uid name)
  | getQuota request => exact frame (getQuota_pkgBgDurationMap request)
  | processStateChanged processData =>
      simp only [step, entryAfter]
      rw [lookup_onProcessStateChanged]
      split
      · exact stored
      · split
        · rfl
        · split
          · rfl
          · exact stored
  | processDied processData =>
      apply frame
      exact (tryStartAccounting_pkgBgDurationMap _ _).trans
        (updateForegroundUidPidMap_pkgBgDurationMap _ _ _)
  | inputEvent transientPauseUid event stringArg =>
      exact frame (onInputEvent_pkgBgDurationMap transientPauseUid event stringArg)
  | setDump isDump => exact frame rfl

theorem lookup_run (key : String × Int) (calls : List (Env × DecisionOp)) {entry : Option Int}
    (stored : self.pkgBgDurationMap.lookup key = entry.map toInt32) :
    (StepSystem.run (DecisionMaker.step params) self calls).pkgBgDurationMap.lookup key =
      (lastEntry params key self entry calls).map toInt32 := by
  induction calls generalizing self entry with
  | nil => exact stored
  | cons call rest ih => exact ih (lookup_step key stored call)

/-! ## What `Decide` reads off it -/

theorem checkQuotaTime_ne_notInPresetTime (pkgInfo : PkgDelaySuspendInfo) (name : String) :
    (checkQuotaTime params env pkgInfo name).1 ≠ .notInPresetTime := by
  unfold checkQuotaTime PkgDelaySuspendInfo.isAllowRequest
  by_cases full : pkgInfo.requestList.length ≥ maxRequestId
  · simp [full]
  · by_cases enough :
        (pkgInfo.updateQuota params env.config env.now false).quota ≥ minAllowQuotaTime
    · simp [full, enough]
    · by_cases exempted : env.config.isTransientTaskExemptedQuatoApp name
      · simp [full, enough, exempted]
      · simp [full, enough, exempted]

theorem decideQuota_ne_notInPresetTime (key : KeyInfo) (delayInfo : DelaySuspendInfoEx) :
    (self.decideQuota params env key delayInfo).1 ≠ .notInPresetTime := by
  unfold decideQuota
  dsimp only
  split
  · simp
  · apply checkQuotaTime_ne_notInPresetTime

theorem decide_eq_notInPresetTime_iff (key : KeyInfo) (delayInfo : DelaySuspendInfoEx) :
    (self.decide params env key delayInfo).1 = .notInPresetTime ↔
      ∃ since, self.pkgBgDurationMap.lookup key.mapKey = some since ∧
        env.now - since > env.allowRequestTime := by
  unfold decide
  dsimp only
  rw [resetDayQuotaLocked_pkgBgDurationMap]
  cases self.pkgBgDurationMap.lookup key.mapKey with
  | none => simp [decideQuota_ne_notInPresetTime]
  | some since =>
      by_cases late : env.now - since > env.allowRequestTime
      · simp [late]
      · simp [late, decideQuota_ne_notInPresetTime]

end

/-- The 32-bit entry and the full one give the same verdict unless the window opens between
them. -/
theorem late_iff_late_toInt32 (opening entered : Int) :
    (toInt32 entered < opening ↔ entered < opening) ↔ ¬ SplitByWrap opening entered := by
  unfold SplitByWrap
  omega

/-- With a clock that starts at zero and does not go back, and a window that is an `int`, an
entry is misread exactly when it is past `INT_MAX` and the window is still open. -/
theorem splitByWrap_iff {now allowed entered : Int} (started : 0 ≤ entered)
    (ordered : entered ≤ now) (short : allowed ≤ intMax) :
    SplitByWrap (now - allowed) entered ↔ intMax < entered ∧ now - entered ≤ allowed := by
  unfold SplitByWrap toInt32
  unfold intMax at short ⊢
  rw [Int.bmod_def]
  omega

/-- After any calls a request is refused for its time exactly as the entries say, unless the
window opens between the entry of the package and what 32 bits keep of it. -/
theorem decide_window_iff (params : Params) (calls : List (Env × DecisionOp)) (env : Env)
    (key : KeyInfo) (delayInfo : DelaySuspendInfoEx) :
    (((StepSystem.run (DecisionMaker.step params) {} calls).decide params env key delayInfo).1 =
        .notInPresetTime ↔
      ∃ entered ∈ lastEntry params key.mapKey {} none calls,
        env.now - entered > env.allowRequestTime) ↔
    ∀ entered ∈ lastEntry params key.mapKey {} none calls,
      ¬ SplitByWrap (env.now - env.allowRequestTime) entered := by
  rw [decide_eq_notInPresetTime_iff, @lookup_run params {} key.mapKey calls none rfl]
  cases lastEntry params key.mapKey {} none calls with
  | none => simp
  | some entered =>
      have verdicts := late_iff_late_toInt32 (env.now - env.allowRequestTime) entered
      simp only [Option.map_some, Option.some.injEq, exists_eq_left', Option.mem_def,
        forall_eq', gt_iff_lt]
      rw [← verdicts]
      constructor <;> intro agree <;> omega

def lateEntry : List (Env × DecisionOp) :=
  [(quietEnv (2 ^ 31), .decide ⟨"app", 100, 7⟩),
    (quietEnv (2 ^ 31), .processStateChanged ⟨"app", 100, 7, .background⟩)]

/-- One millisecond after such a move a request is refused, although five seconds are
allowed. -/
theorem decide_window_wrapped :
    ¬ (((StepSystem.run (DecisionMaker.step {}) {} lateEntry).decide {} (quietEnv (2 ^ 31 + 1))
          ⟨"app", 100, 7⟩ {}).1 = .notInPresetTime ↔
        ∃ entered ∈ lastEntry {} ("app", 100) {} none lateEntry,
          (quietEnv (2 ^ 31 + 1)).now - entered > (quietEnv (2 ^ 31 + 1)).allowRequestTime) := by
  have refused : ((StepSystem.run (DecisionMaker.step {}) {} lateEntry).decide {}
      (quietEnv (2 ^ 31 + 1)) ⟨"app", 100, 7⟩ {}).1 = .notInPresetTime := by
    decide +kernel
  have entered : lastEntry {} ("app", 100) {} none lateEntry = some (2 ^ 31) := by
    decide +kernel
  rw [refused, entered]
  simp [quietEnv]

end DecisionMaker

end BgTaskMgr.Transient
