import BgTaskMgr.Lib.Histories
import BgTaskMgr.Lib.Register
import BgTaskMgr.Plugin.BgtaskPluginMgr

/-!
# Playing sessions

The audio adapter keeps a list of the sessions that play, from which the first one that matches
is taken out.  Seen from one session the list is a register: a change of its renderer sets or
clears it, a new audio service tells it anew, and the plugin clears it when it is switched off.
The continuous task manager is told of a start when a change sets a register that was clear.
-/

set_option autoImplicit false

namespace BgTaskMgr.Plugin

open StepSystem

/-! ## The list of sessions -/

namespace AudioRendererInfoPluginData

variable {self : AudioRendererInfoPluginData} {session : AudioInfo}

theorem any_same_iff {sessions : List AudioInfo} :
    sessions.any (fun target =>
        target.uid == session.uid && target.sessionId == session.sessionId) = true ↔
      session ∈ sessions := by
  simp only [List.any_eq_true, Bool.and_eq_true, beq_iff_eq]
  constructor
  · rintro ⟨target, member, sameUid, sameSession⟩
    have same : target = session := by
      cases target
      cases session
      exact AudioInfo.mk.injEq .. ▸ ⟨sameUid, sameSession⟩
    exact same ▸ member
  · exact fun member => ⟨session, member, rfl, rfl⟩

theorem addAudioPlayerInfo_eq :
    self.addAudioPlayerInfo session =
      if session ∈ self.audioPlayerInfos then (false, self)
      else (true, ⟨self.audioPlayerInfos ++ [session]⟩) := by
  unfold addAudioPlayerInfo
  by_cases member : session ∈ self.audioPlayerInfos
  · rw [if_pos (any_same_iff.mpr member), if_pos member]
  · rw [if_neg (fun found => member (any_same_iff.mp found)), if_neg member]

theorem mem_addAudioPlayerInfo {other : AudioInfo} :
    other ∈ (self.addAudioPlayerInfo session).2.audioPlayerInfos ↔
      other = session ∨ other ∈ self.audioPlayerInfos := by
  rw [addAudioPlayerInfo_eq]
  split
  · rename_i member
    exact ⟨.inr, fun either => either.elim (fun same => same ▸ member) id⟩
  · rw [List.mem_append, List.mem_singleton, or_comm]

theorem nodup_addAudioPlayerInfo (nodup : self.audioPlayerInfos.Nodup) :
    (self.addAudioPlayerInfo session).2.audioPlayerInfos.Nodup := by
  rw [addAudioPlayerInfo_eq]
  split
  · exact nodup
  · rename_i new
    show (self.audioPlayerInfos ++ [session]).Nodup
    rw [← List.concat_eq_append]
    exact nodup.concat new

theorem audioPlayerInfos_remove :
    (self.removeAudioPlayerInfo session.uid session.sessionId).audioPlayerInfos =
      self.audioPlayerInfos.erase session := by
  show self.audioPlayerInfos.eraseP _ = _
  rw [List.erase_eq_eraseP']
  congr 1
  funext target
  rw [Bool.eq_iff_iff, Bool.and_eq_true, beq_iff_eq, beq_iff_eq, beq_iff_eq]
  cases target
  cases session
  exact (AudioInfo.mk.injEq ..).symm.to_iff

theorem mem_removeAudioPlayerInfo (nodup : self.audioPlayerInfos.Nodup) {other : AudioInfo} :
    other ∈ (self.removeAudioPlayerInfo session.uid session.sessionId).audioPlayerInfos ↔
      other ≠ session ∧ other ∈ self.audioPlayerInfos := by
  rw [audioPlayerInfos_remove]
  exact nodup.mem_erase_iff

theorem nodup_removeAudioPlayerInfo (nodup : self.audioPlayerInfos.Nodup) :
    (self.removeAudioPlayerInfo session.uid session.sessionId).audioPlayerInfos.Nodup := by
  rw [audioPlayerInfos_remove]
  exact nodup.erase session

def Reported (platform : Platform) (env : PluginEnv) (session : AudioInfo) : Prop :=
  some (session.uid, session.sessionId, platform.rendererRunning) ∈ env.currentRendererChangeInfos

instance (platform : Platform) (env : PluginEnv) (session : AudioInfo) :
    Decidable (Reported platform env session) :=
  inferInstanceAs (Decidable (_ ∈ _))

theorem nodup_takeReport {platform : Platform} {info : Option (Int × Int × Int)}
    (nodup : self.audioPlayerInfos.Nodup) :
    (self.takeReport platform info).audioPlayerInfos.Nodup := by
  unfold takeReport
  split
  · exact nodup
  split
  · exact nodup
  · exact nodup_addAudioPlayerInfo nodup

theorem mem_takeReport {platform : Platform} {info : Option (Int × Int × Int)} :
    session ∈ (self.takeReport platform info).audioPlayerInfos ↔
      session ∈ self.audioPlayerInfos ∨
        some (session.uid, session.sessionId, platform.rendererRunning) = info := by
  unfold takeReport
  split
  · exact (or_iff_left (by simp)).symm
  rename_i clientUid sessionId rendererState
  split
  · rename_i other
    refine (or_iff_left ?_).symm
    rintro same
    exact other (congrArg (fun report => report.2.2) (Option.some.inj same)).symm
  · rename_i running
    rw [mem_addAudioPlayerInfo, or_comm, not_not.mp running]
    refine or_congr_right ?_
    cases session
    simp [AudioInfo.mk.injEq]

theorem afterAddSaListener_spec (platform : Platform) (env : PluginEnv) :
    (self.afterAddSaListener platform env).audioPlayerInfos.Nodup ∧
      ∀ session, session ∈ (self.afterAddSaListener platform env).audioPlayerInfos ↔
        Reported platform env session := by
  unfold afterAddSaListener Reported
  generalize env.currentRendererChangeInfos = infos
  have along : ∀ data : AudioRendererInfoPluginData, data.audioPlayerInfos.Nodup →
      (infos.foldl (takeReport platform) data).audioPlayerInfos.Nodup ∧
        ∀ session, session ∈ (infos.foldl (takeReport platform) data).audioPlayerInfos ↔
          session ∈ data.audioPlayerInfos ∨
            some (session.uid, session.sessionId, platform.rendererRunning) ∈ infos := by
    induction infos with
    | nil => exact fun data nodup => ⟨nodup, fun _ => (or_iff_left List.not_mem_nil).symm⟩
    | cons info rest ih =>
        intro data nodup
        obtain ⟨distinct, members⟩ := ih _ (nodup_takeReport nodup)
        refine ⟨distinct, fun session => (members session).trans ?_⟩
        rw [mem_takeReport, or_assoc, List.mem_cons]
  obtain ⟨nodup, members⟩ := along self.clearAudioPlayerInfo List.nodup_nil
  exact ⟨nodup, fun session => (members session).trans (or_iff_right List.not_mem_nil)⟩

end AudioRendererInfoPluginData

/-! ## One callback -/

def audioStartOf : ManagerCall → Option Int
  | .notifyAudioStart uid => some uid
  | _ => none

namespace Adapters

variable {platform : Platform} {env : PluginEnv} {payload : Json} {self : Adapters}

def players (self : Adapters) : List AudioInfo := self.audio.audioPlayerInfos

def starts (self : Adapters) : List Int := self.calls.filterMap audioStartOf

def newPlayers (before after : Adapters) : List Int :=
  (after.players.filter (fun session => session ∉ before.players)).map AudioInfo.uid

def sessionEvent (platform : Platform) (env : PluginEnv) (payload : Json) (session : AudioInfo) :
    Callback → Register.Event Unit
  | .rendererStateChange =>
      match rendererChange platform payload with
      | none => .keep
      | some (changed, running) =>
          if changed ≠ session then .keep
          else if running then .put ()
          else .drop (fun _ => true)
  | .afterAddSaListener =>
      if platform.parseInt "saId" payload ≠ some platform.audioPolicyServiceId then .keep
      else if AudioRendererInfoPluginData.Reported platform env session then .put ()
      else .drop (fun _ => true)
  | _ => .keep

structure Mute (before after : Adapters) : Prop where
  audio : after.audio = before.audio
  starts : after.starts = before.starts

theorem Mute.refl (self : Adapters) : Mute self self := ⟨rfl, rfl⟩

theorem Mute.trans {first second third : Adapters} (one : Mute first second)
    (other : Mute second third) : Mute first third :=
  ⟨other.audio.trans one.audio, other.starts.trans one.starts⟩

theorem mute_call {calls : List ManagerCall} (silent : calls.filterMap audioStartOf = []) :
    Mute self (self.call calls) := by
  refine ⟨rfl, ?_⟩
  simp [starts, call, List.filterMap_append, silent]

theorem mute_call_if {told : Prop} [Decidable told] {calls : List ManagerCall}
    (silent : calls.filterMap audioStartOf = []) :
    Mute self (if told then self.call calls else self) := by
  split
  · exact mute_call silent
  · exact .refl self

theorem mute_observed {α : Type} {data : Option α}
    {calls : AppStateObserver → α → List ManagerCall}
    (silent : ∀ observer data, (calls observer data).filterMap audioStartOf = []) :
    Mute self (self.observed data calls) := by
  unfold observed
  split
  · exact mute_call (silent _ _)
  · exact .refl self

theorem silent_unless {ignored : Prop} [Decidable ignored] {calls : List ManagerCall}
    (silent : calls.filterMap audioStartOf = []) :
    (if ignored then [] else calls).filterMap audioStartOf = [] := by
  split
  · rfl
  · exact silent

theorem silent_postTask {observer : AppStateObserver} {call : ManagerCall}
    (silent : audioStartOf call = none) :
    (observer.postTask call).filterMap audioStartOf = [] := by
  unfold AppStateObserver.postTask
  split
  · simp [silent]
  · rfl

theorem mute_onAppStateChanged :
    Mute self (self.observed (platform.unmarshallingAppStateData payload)
      (fun observer => observer.onAppStateChanged platform)) := by
  apply mute_observed
  intro observer data
  exact silent_unless (silent_postTask rfl)

theorem mute_onAppStopped :
    Mute self (self.observed (platform.unmarshallingAppStateData payload)
      (fun observer => observer.onAppStopped)) := by
  apply mute_observed
  intro observer data
  refine silent_unless ?_
  rw [List.filterMap_append, silent_postTask rfl]
  rfl

theorem mute_onAppCacheStateChanged :
    Mute self (self.observed (platform.unmarshallingAppStateData payload)
      (fun observer => observer.onAppCacheStateChanged platform)) := by
  apply mute_observed
  intro observer data
  exact silent_unless (silent_postTask rfl)

theorem mute_onAbilityStateChanged :
    Mute self (self.observed (platform.unmarshallingAbilityStateData payload)
      (fun observer => observer.onAbilityStateChanged platform)) := by
  apply mute_observed
  intro observer data
  exact silent_unless (silent_postTask rfl)

theorem mute_onProcessCreated :
    Mute self (self.observed (platform.unmarshallingProcessData payload)
      (fun _ processData => AppStateObserver.onProcessCreated platform processData)) := by
  apply mute_observed
  intro observer data
  unfold AppStateObserver.onProcessCreated
  split
  · rfl
  · rfl

theorem mute_onProcessDied : Mute self (self.onProcessDied platform payload) := by
  unfold onProcessDied
  split
  · exact .refl self
  refine Mute.trans (mute_call_if rfl) (mute_observed ?_)
  intro observer data
  unfold AppStateObserver.onProcessDied
  split
  · rfl
  · rfl

theorem mute_onProcessStateChanged : Mute self (self.onProcessStateChanged platform payload) := by
  unfold onProcessStateChanged
  split
  · exact .refl self
  · exact mute_call_if rfl

theorem mute_handleCloudConfigUpdateEvent (stateType : Int) :
    Mute self (self.handleCloudConfigUpdateEvent platform payload stateType) := by
  unfold handleCloudConfigUpdateEvent
  split
  · exact mute_call rfl
  · exact mute_call_if rfl

/-! ## What a callback is to the sessions -/

/-- The sessions are distinct, and each has gone through its event. -/
structure Followed (event : AudioInfo → Register.Event Unit) (before after : Adapters) :
    Prop where
  nodup : after.players.Nodup
  registers : ∀ session, Register.mark (session ∈ after.players) =
    (event session).apply (Register.mark (session ∈ before.players))

theorem Mute.followed {after : Adapters} (mute : Mute self after) (nodup : self.players.Nodup) :
    Followed (fun _ => .keep) self after := by
  have same : after.players = self.players :=
    congrArg AudioRendererInfoPluginData.audioPlayerInfos mute.audio
  exact ⟨same ▸ nodup, fun session => by rw [same]; rfl⟩

theorem followed_rendererStateChange (nodup : self.players.Nodup) :
    Followed (fun session => sessionEvent platform env payload session .rendererStateChange) self
      (self.rendererStateChange platform payload) := by
  unfold rendererStateChange sessionEvent
  cases rendererChange platform payload with
  | none => exact (Mute.refl self).followed nodup
  | some change =>
      obtain ⟨changed, running⟩ := change
      cases running with
      | true =>
          dsimp only
          have same : (if (self.audio.addAudioPlayerInfo changed).1 then
              { self with audio := (self.audio.addAudioPlayerInfo changed).2 }.call
                [.notifyAudioStart changed.uid]
              else { self with audio := (self.audio.addAudioPlayerInfo changed).2 }).players =
              (self.audio.addAudioPlayerInfo changed).2.audioPlayerInfos := by
            split
            · rfl
            · rfl
          refine ⟨?_, fun session => ?_⟩
          · rw [same]
            exact AudioRendererInfoPluginData.nodup_addAudioPlayerInfo nodup
          · rw [same]
            by_cases here : changed = session
            · rw [if_neg (not_not.mpr here), if_pos rfl]
              exact (Register.apply_put_mark
                (AudioRendererInfoPluginData.mem_addAudioPlayerInfo.mpr (.inl here.symm))).symm
            · rw [if_pos here]
              refine Register.mark_congr
                (AudioRendererInfoPluginData.mem_addAudioPlayerInfo.trans ?_)
              exact or_iff_right (fun same => here same.symm)
      | false =>
          refine ⟨AudioRendererInfoPluginData.nodup_removeAudioPlayerInfo nodup,
            fun session => ?_⟩
          have members := @AudioRendererInfoPluginData.mem_removeAudioPlayerInfo _ changed nodup
            session
          dsimp only
          by_cases here : changed = session
          · rw [if_neg (not_not.mpr here), if_neg (by simp)]
            exact (Register.apply_drop_mark
              (fun member => (members.mp member).1 here.symm)).symm
          · rw [if_pos here]
            refine Register.mark_congr (members.trans ?_)
            exact and_iff_right (fun same => here same.symm)

theorem followed_afterAddSaListener (nodup : self.players.Nodup) :
    Followed (fun session => sessionEvent platform env payload session .afterAddSaListener) self
      (self.afterAddSaListener platform env payload) := by
  unfold afterAddSaListener sessionEvent
  cases platform.parseInt "saId" payload with
  | none => exact (Mute.refl self).followed nodup
  | some saId =>
      dsimp only
      by_cases policy : saId = platform.audioPolicyServiceId
      · obtain ⟨distinct, members⟩ := self.audio.afterAddSaListener_spec platform env
        rw [if_pos policy]
        refine ⟨distinct, fun session => ?_⟩
        rw [if_neg (not_not.mpr (congrArg some policy))]
        by_cases reported : AudioRendererInfoPluginData.Reported platform env session
        · rw [if_pos reported]
          exact (Register.apply_put_mark ((members session).mpr reported)).symm
        · rw [if_neg reported]
          exact (Register.apply_drop_mark
            (fun member => reported ((members session).mp member))).symm
      · rw [if_neg policy]
        have other : some saId ≠ some platform.audioPolicyServiceId :=
          fun same => policy (Option.some.inj same)
        refine ⟨nodup, fun session => ?_⟩
        rw [if_pos other]
        rfl

theorem followed_invoke (nodup : self.players.Nodup) (stateType : Int) (callback : Callback) :
    Followed (fun session => sessionEvent platform env payload session callback) self
      (self.invoke platform env payload stateType callback) := by
  cases callback with
  | rendererStateChange => exact followed_rendererStateChange nodup
  | afterAddSaListener => exact followed_afterAddSaListener nodup
  | handleCloudConfigUpdateEvent =>
      exact (mute_handleCloudConfigUpdateEvent stateType).followed nodup
  | onProcessDied => exact mute_onProcessDied.followed nodup
  | onProcessStateChanged => exact mute_onProcessStateChanged.followed nodup
  | onProcessCreated => exact mute_onProcessCreated.followed nodup
  | onAppStateChanged => exact mute_onAppStateChanged.followed nodup
  | onAppStopped => exact mute_onAppStopped.followed nodup
  | onAppCacheStateChanged => exact mute_onAppCacheStateChanged.followed nodup
  | onAbilityStateChanged => exact mute_onAbilityStateChanged.followed nodup

/-! ## Starts -/

theorem newPlayers_eq_nil {before after : Adapters}
    (fewer : ∀ session ∈ after.players, session ∈ before.players) :
    newPlayers before after = [] := by
  unfold newPlayers
  rw [List.map_eq_nil_iff, List.filter_eq_nil_iff]
  intro session member
  simpa using fewer session member

/-- A start is told of when a change lets a session play that did not. -/
theorem starts_rendererStateChange :
    (self.rendererStateChange platform payload).starts =
      self.starts ++ newPlayers self (self.rendererStateChange platform payload) := by
  unfold rendererStateChange
  cases rendererChange platform payload with
  | none =>
      rw [newPlayers_eq_nil (fun _ member => member), List.append_nil]
  | some change =>
      obtain ⟨changed, running⟩ := change
      cases running with
      | true =>
          dsimp only
          rw [AudioRendererInfoPluginData.addAudioPlayerInfo_eq]
          by_cases known : changed ∈ self.audio.audioPlayerInfos
          · rw [if_pos known, if_neg (by simp)]
            rw [newPlayers_eq_nil (fun _ member => member), List.append_nil]
          · rw [if_neg known]
            have new : newPlayers self (({ self with
                audio := ⟨self.audio.audioPlayerInfos ++ [changed]⟩ } : Adapters).call
                  [.notifyAudioStart changed.uid]) = [changed.uid] := by
              have none : self.players.filter (fun session => session ∉ self.players) = [] := by
                rw [List.filter_eq_nil_iff]
                simp
              show ((self.players ++ [changed]).filter _).map AudioInfo.uid = _
              rw [List.filter_append, none]
              simp [players, known]
            rw [if_pos rfl, new]
            exact List.filterMap_append
      | false =>
          dsimp only
          rw [newPlayers_eq_nil, List.append_nil]
          · rfl
          · intro session member
            exact List.eraseP_subset member

theorem starts_invoke (stateType : Int) (callback : Callback) :
    (self.invoke platform env payload stateType callback).starts =
      self.starts ++
        if callback = .rendererStateChange then
          newPlayers self (self.invoke platform env payload stateType callback)
        else [] := by
  have mute {after : Adapters} (mute : Mute self after) : after.starts = self.starts ++ [] :=
    mute.starts.trans (List.append_nil _).symm
  cases callback with
  | rendererStateChange => exact starts_rendererStateChange
  | afterAddSaListener =>
      refine (?_ : _ = _).trans (List.append_nil _).symm
      unfold invoke afterAddSaListener
      dsimp only
      split
      · rfl
      split
      · rfl
      · rfl
  | handleCloudConfigUpdateEvent => exact mute (mute_handleCloudConfigUpdateEvent stateType)
  | onProcessDied => exact mute mute_onProcessDied
  | onProcessStateChanged => exact mute mute_onProcessStateChanged
  | onProcessCreated => exact mute mute_onProcessCreated
  | onAppStateChanged => exact mute mute_onAppStateChanged
  | onAppStopped => exact mute mute_onAppStopped
  | onAppCacheStateChanged => exact mute mute_onAppCacheStateChanged
  | onAbilityStateChanged => exact mute mute_onAbilityStateChanged

end Adapters

/-! ## The plugin -/

namespace BgtaskPluginMgr

variable {platform : Platform} {s : BgtaskPluginMgr}

def hasAudioStream (self : BgtaskPluginMgr) : Bool :=
  self.asyncCbMap.entries.any (fun entry => entry.2.kind == .audioStream)

def delivered (self : BgtaskPluginMgr) : PluginOp → Option (ResData × Callback)
  | .deliver index =>
      (self.letIn[index]?).bind (fun resData => (self.callbackOf resData).map (resData, ·))
  | _ => none

def sessionEvent (platform : Platform) (session : AudioInfo) (self : BgtaskPluginMgr)
    (label : PluginEnv × PluginOp) : Register.Event Unit :=
  match self.delivered label.2 with
  | some (resData, callback) =>
      Adapters.sessionEvent platform label.1 resData.payload session callback
  | none =>
      match label.2 with
      | .onPluginDisable => if self.hasAudioStream then .drop (fun _ => true) else .keep
      | _ => .keep

/-- The starts that an event tells of: those of a changed renderer. -/
def startsTold (platform : Platform) (self : BgtaskPluginMgr) (label : PluginEnv × PluginOp) :
    List Int :=
  if (self.delivered label.2).map Prod.snd = some .rendererStateChange then
    Adapters.newPlayers self.adapters (self.step platform label).adapters
  else []

theorem deliver_none {env : PluginEnv} {index : Nat}
    (nothing : s.delivered (.deliver index) = none) :
    (s.step platform (env, .deliver index)).adapters = s.adapters := by
  simp only [step]
  split
  · rfl
  rename_i resData waiting
  have unknown : s.callbackOf resData = none := by
    simpa [delivered, waiting] using nothing
  have same : BgtaskPluginMgr.callbackOf { s with letIn := s.letIn.eraseIdx index } resData =
      none := unknown
  simp only [dispatchResource]
  rw [same]

theorem deliver_some {env : PluginEnv} {index : Nat} {resData : ResData} {callback : Callback}
    (next : s.delivered (.deliver index) = some (resData, callback)) :
    (s.step platform (env, .deliver index)).adapters =
      s.adapters.invoke platform env resData.payload (toInt32 resData.value) callback := by
  obtain ⟨waitingData, waiting, tabled⟩ := Option.bind_eq_some_iff.mp next
  obtain ⟨found, known, pair⟩ := Option.map_eq_some_iff.mp tabled
  obtain ⟨rfl, rfl⟩ := Prod.mk.inj pair
  have same : BgtaskPluginMgr.callbackOf { s with letIn := s.letIn.eraseIdx index } waitingData =
      some found := known
  simp only [step]
  rw [waiting]
  simp only [dispatchResource]
  rw [same]

/-! ## Frames -/

theorem foldl_init_mute (env : PluginEnv) (entries : List (Σ _ : Nat, BgtaskPlugin))
    (adapters : Adapters) :
    Adapters.Mute adapters
      (entries.foldl (fun adapters entry => adapters.init env entry.2.kind) adapters) := by
  induction entries generalizing adapters with
  | nil => exact .refl adapters
  | cons entry rest ih =>
      refine Adapters.Mute.trans ?_ (ih _)
      show Adapters.Mute adapters (adapters.init env entry.2.kind)
      cases entry.2.kind with
      | audioStream => exact .refl adapters
      | eventMsgHandler => exact .refl adapters
      | appStateObserver => exact ⟨rfl, rfl⟩

theorem foldl_uninit (entries : List (Σ _ : Nat, BgtaskPlugin)) (adapters : Adapters) :
    (entries.foldl (fun adapters entry => adapters.uninit entry.2.kind) adapters).players =
        (if entries.any (fun entry => entry.2.kind == .audioStream) then []
          else adapters.players) ∧
      (entries.foldl (fun adapters entry => adapters.uninit entry.2.kind) adapters).starts =
        adapters.starts := by
  induction entries generalizing adapters with
  | nil => exact ⟨rfl, rfl⟩
  | cons entry rest ih =>
      obtain ⟨players, starts⟩ := ih (adapters.uninit entry.2.kind)
      rw [List.foldl_cons, players, starts, List.any_cons]
      cases entry.2.kind with
      | audioStream =>
          refine ⟨?_, rfl⟩
          split
          · rfl
          · rfl
      | eventMsgHandler => exact ⟨rfl, rfl⟩
      | appStateObserver => exact ⟨rfl, rfl⟩

/-! ## Runs -/

theorem followed_step (nodup : s.adapters.players.Nodup) (label : PluginEnv × PluginOp) :
    Adapters.Followed (fun session => s.sessionEvent platform session label) s.adapters
      (s.step platform label).adapters := by
  obtain ⟨env, op⟩ := label
  have still {after : Adapters} (mute : Adapters.Mute s.adapters after) :
      Adapters.Followed (fun _ => .keep) s.adapters after := mute.followed nodup
  cases op with
  | onPluginInit name =>
      simp only [step]
      split
      · exact still (.refl _)
      · exact still (foldl_init_mute env _ _)
  | onPluginDisable =>
      have players : (s.step platform (env, .onPluginDisable)).adapters.players =
          if s.hasAudioStream then [] else s.adapters.players := (foldl_uninit _ _).1
      show Adapters.Followed
        (fun session => if s.hasAudioStream then .drop (fun _ => true) else .keep) _ _
      split at players
      · rename_i audio
        refine ⟨players ▸ List.nodup_nil, fun session => ?_⟩
        rw [if_pos audio, players]
        exact (Register.apply_drop_mark List.not_mem_nil).symm
      · rename_i none
        refine ⟨players ▸ nodup, fun session => ?_⟩
        rw [if_neg none, players]
        rfl
  | registerAsyncPlugin resType plugin =>
      cases plugin with
      | none => exact still (.refl _)
      | some plugin =>
          simp only [step, registerAsyncPlugin]
          split
          · exact still (.refl _)
          split
          · exact still (.refl _)
          · exact still (.refl _)
  | onDispatchResource resData =>
      cases resData with
      | none => exact still (.refl _)
      | some resData =>
          simp only [step]
          split
          · exact still (.refl _)
          · exact still (.refl _)
  | deliver index =>
      cases next : s.delivered (.deliver index) with
      | none =>
          rw [deliver_none next]
          have idle : ∀ session, s.sessionEvent platform session (env, .deliver index) = .keep := by
            intro session
            simp only [sessionEvent]
            rw [next]
          simp only [idle]
          exact still (.refl _)
      | some found =>
          obtain ⟨resData, callback⟩ := found
          rw [deliver_some next]
          have event : ∀ session, s.sessionEvent platform session (env, .deliver index) =
              Adapters.sessionEvent platform env resData.payload session callback := by
            intro session
            simp only [sessionEvent]
            rw [next]
          simp only [event]
          exact Adapters.followed_invoke nodup _ callback

theorem starts_step (s : BgtaskPluginMgr) (label : PluginEnv × PluginOp) :
    (s.step platform label).adapters.starts =
      s.adapters.starts ++ s.startsTold platform label := by
  have silent {after : Adapters} (same : after.starts = s.adapters.starts) :
      after.starts = s.adapters.starts ++ [] := same.trans (List.append_nil _).symm
  obtain ⟨env, op⟩ := label
  cases op with
  | onPluginInit name =>
      simp only [step]
      split
      · exact silent rfl
      · exact silent (foldl_init_mute env _ _).starts
  | onPluginDisable => exact silent (foldl_uninit _ _).2
  | registerAsyncPlugin resType plugin =>
      cases plugin with
      | none => exact silent rfl
      | some plugin =>
          simp only [step, registerAsyncPlugin]
          split
          · exact silent rfl
          split
          · exact silent rfl
          · exact silent rfl
  | onDispatchResource resData =>
      cases resData with
      | none => exact silent rfl
      | some resData =>
          simp only [step]
          split
          · exact silent rfl
          · exact silent rfl
  | deliver index =>
      unfold startsTold
      cases next : s.delivered (.deliver index) with
      | none =>
          rw [deliver_none next]
          exact silent rfl
      | some found =>
          obtain ⟨resData, callback⟩ := found
          rw [deliver_some next, Adapters.starts_invoke]
          simp

/-- The sessions stay distinct, and each is the register of its events. -/
theorem registers_run (distinct : s.adapters.players.Nodup)
    (labels : List (PluginEnv × PluginOp)) (session : AudioInfo) :
    Register.mark (session ∈ (run (step platform) s labels).adapters.players) =
      Register.after (Register.events (step platform) (sessionEvent platform session) s labels)
        (Register.mark (session ∈ s.adapters.players)) :=
  @Register.held_run_always _ _ _ _ _ (fun s : BgtaskPluginMgr => s.adapters.players.Nodup)
    (fun s => Register.mark (session ∈ s.adapters.players))
    (fun _ label nodup => ⟨(followed_step nodup label).nodup,
      (followed_step nodup label).registers session⟩) labels s distinct

/-- In every run the list of the audio adapter is, session by session, what the events of the
session leave, and the starts told to the continuous task manager are those of the changes
that let a session play. -/
theorem players_follow_changes (platform : Platform) (s : BgtaskPluginMgr)
    (distinct : s.adapters.players.Nodup) (labels : List (PluginEnv × PluginOp)) :
    (run (step platform) s labels).adapters.players.Nodup ∧
      (∀ session, session ∈ (run (step platform) s labels).adapters.players ↔
        (Register.after (Register.events (step platform) (sessionEvent platform session) s labels)
          (Register.mark (session ∈ s.adapters.players))).isSome = true) ∧
      (∀ uid, (run (step platform) s labels).adapters.audio.checkAppIsPlaying uid = true ↔
        ∃ sessionId, ⟨uid, sessionId⟩ ∈ (run (step platform) s labels).adapters.players) ∧
      (run (step platform) s labels).adapters.starts =
        s.adapters.starts ++ outputs (step platform) (startsTold platform) s labels := by
  refine ⟨?_, fun session => ?_, fun uid => ?_, ?_⟩
  · exact @run_preserves _ _ _ (fun s : BgtaskPluginMgr => s.adapters.players.Nodup)
      (fun _ label nodup => (followed_step nodup label).nodup) labels s distinct
  · rw [← registers_run distinct, Register.isSome_mark]
  · simp only [AudioRendererInfoPluginData.checkAppIsPlaying, List.any_eq_true, beq_iff_eq]
    constructor
    · rintro ⟨session, member, rfl⟩
      exact ⟨session.sessionId, member⟩
    · rintro ⟨sessionId, member⟩
      exact ⟨_, member, rfl⟩
  · exact @log_run _ _ _ s _ _ (fun s : BgtaskPluginMgr => s.adapters.starts) starts_step labels

def numberPlatform : Platform where
  parseInt name payload :=
    if (payload.member name).isInteger then some (payload.member name).toInt else none
  parseString _ _ := none
  parseNumber _ _ := none
  rendererRunning := 2
  audioPolicyServiceId := 3009
  suspendManagerSystemAbilityId := 1907
  backgroundTaskManagerServiceId := 1903
  appStateForeground := 2
  appStateBackground := 4
  appStateCached := 100
  abilityStateTerminated := 4
  preloadModeGamePrelaunch := 3
  gamePreLaunchEnable := false

def numberTypes : ResTypes where
  audioRenderStateChange := 32
  observerManagerStatusChange := 65
  addSystemAbility := 1
  rssCloudConfigUpdate := 151
  processStateChange := 4
  processCreated := 0
  processForeground := 2
  processBackground := 3
  processDied := 1
  onAppStateChanged := 136
  appStopped := 149
  abilityStateChange := 139
  abilityStateCreate := 0
  abilityStateTerminated := 4

def startedPlugin : BgtaskPluginMgr :=
  run (step numberPlatform) {}
    ((selfRegister (audioStreamPluginAdapter numberTypes) ++
      selfRegister (eventMsgHandlerPluginAdapter numberTypes) ++
      selfRegister (appStateObserverPluginAdapter numberTypes) ++
      [PluginOp.onPluginInit libName]).map (fun op => (({} : PluginEnv), op)))

def audioChange (uid rendererState sessionId : Int) : List (PluginEnv × PluginOp) :=
  [({}, .onDispatchResource (some ⟨32, 0, .object [("uid", .integer uid),
    ("rendererState", .integer rendererState), ("sessionId", .integer sessionId)]⟩)),
    ({}, .deliver 0)]

/-- A second session of an app that plays is told of as well, a repeated change is not. -/
theorem players_follow_changes_two_sessions :
    (run (step numberPlatform) startedPlugin (audioChange 100 2 1 ++ audioChange 100 2 1 ++
      audioChange 100 2 2 ++ audioChange 100 3 1)).adapters.starts = [100, 100] :=
  (players_follow_changes numberPlatform startedPlugin (by decide) _).2.2.2.trans (by decide)

end BgtaskPluginMgr

end BgTaskMgr.Plugin
