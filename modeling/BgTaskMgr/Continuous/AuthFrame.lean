import BgTaskMgr.Continuous.Authorisation
import BgTaskMgr.Continuous.Changes

/-!
# Authorisation beside the tasks

The operations on authorisations write their records, the file of these and the notification
tools; the tasks, the subscribers and what subscribers have been told stay as they are.
-/

set_option autoImplicit false

namespace BgTaskMgr.Continuous

open BgContinuousTaskMgr

namespace AuthMgr

def Beside (s after : AuthMgr) : Prop :=
  ∃ tools records authFile, after.mgr = { s.mgr with
    tools := tools, bannerNotificationRecord := records, authFile := authFile }

section

variable {s middle after : AuthMgr}

theorem Beside.of_eq (same : after.mgr = s.mgr) : Beside s after := ⟨_, _, _, same⟩

theorem Beside.refl (s : AuthMgr) : Beside s s := Beside.of_eq rfl

theorem Beside.trans (early : Beside s middle) (late : Beside middle after) : Beside s after := by
  obtain ⟨_, _, _, first⟩ := early
  obtain ⟨tools, records, authFile, second⟩ := late
  refine ⟨tools, records, authFile, ?_⟩
  rw [second, first]

theorem Beside.quiet (beside : Beside s after) : Quiet s.mgr after.mgr := by
  obtain ⟨_, _, _, same⟩ := beside
  rw [same]
  exact Quiet.of_eq rfl rfl rfl rfl rfl rfl

theorem beside_setRecords (records : KeyedMap String BannerNotificationRecord) (s : AuthMgr) :
    Beside s (s.setRecords records) := ⟨_, _, _, rfl⟩

theorem beside_setAuthFile (file : KeyedMap String BannerNotificationRecord) (s : AuthMgr) :
    Beside s (s.setAuthFile file) := ⟨_, _, _, rfl⟩

theorem beside_refreshAuthRecord (env : AuthEnv) (s : AuthMgr) :
    Beside s (s.refreshAuthRecord env).2 := by
  show Beside s (s.setMgr (s.mgr.refreshAuthRecord env.toEnv))
  unfold BgContinuousTaskMgr.refreshAuthRecord
  split
  · exact ⟨_, _, _, rfl⟩
  · exact ⟨_, _, _, rfl⟩

theorem beside_stored (env : AuthEnv) (records : KeyedMap String BannerNotificationRecord)
    (s : AuthMgr) : Beside s ((s.setRecords records).refreshAuthRecord env).2 :=
  (beside_setRecords records s).trans (beside_refreshAuthRecord env _)

theorem beside_setTools (tools : NotificationTools) (s : AuthMgr) :
    Beside s (s.setMgr (s.mgr.setTools tools)) := ⟨_, _, _, rfl⟩

theorem beside_cancelPair (env : Env) (pair : String × Int) (s : AuthMgr) :
    Beside s (s.setMgr (s.mgr.cancelPair env pair)) := ⟨_, _, _, rfl⟩

theorem beside_triggerCallback (key : String) (authResult : Int) (s : AuthMgr) :
    Beside s (s.triggerCallback key authResult) := by
  unfold triggerCallback
  split
  · exact .refl s
  · exact ⟨_, _, _, rfl⟩

theorem beside_registerRequest (env : AuthEnv) (banner : BannerNotificationRecord) (callback : Nat)
    (s : AuthMgr) : Beside s (s.registerRequest env banner callback).2 := by
  have registered (key : String) : Beside s { s with
      expiredCallbackMap := s.expiredCallbackMap.insert key callback } := ⟨_, _, _, rfl⟩
  exact (registered _).trans (beside_stored env _ _)

theorem beside_checkAuthParam (env : AuthEnv) (record : ContinuousTaskRecord) (callback : Nat)
    (apiVersion : Int) (s : AuthMgr) :
    Beside s (s.checkAuthParam env record callback apiVersion).2.2 := by
  have same : (s.checkAuthParam env record callback apiVersion).2.2.mgr = s.mgr := by
    unfold checkAuthParam
    dsimp only
    repeat' split
    all_goals rfl
  exact .of_eq same

theorem beside_publishBannerNotification (env : AuthEnv) (banner : BannerNotificationRecord)
    (s : AuthMgr) : Beside s (s.publishBannerNotification env banner).2.2 := by
  unfold publishBannerNotification
  dsimp only
  split
  · exact .refl s
  split
  · exact beside_setTools _ s
  · exact beside_setTools _ s

theorem beside_requestAuthFromUserInner (env : AuthEnv) (record : ContinuousTaskRecord)
    (callback : Nat) (apiVersion : Int) (s : AuthMgr) :
    Beside s (s.requestAuthFromUserInner env record callback apiVersion).2 := by
  have checked := beside_checkAuthParam env record callback apiVersion s
  unfold requestAuthFromUserInner
  dsimp only
  split
  · exact checked
  split
  · split
    · exact checked.trans ⟨_, _, _, rfl⟩
    · exact checked.trans (beside_registerRequest env _ callback _)
  split
  · exact checked
  split
  · exact checked.trans (beside_publishBannerNotification env _ _)
  · exact (checked.trans (beside_publishBannerNotification env _ _)).trans
      (beside_registerRequest env _ callback _)

theorem beside_requestAuthFromUser (env : AuthEnv) (callingUid : Int)
    (taskParam : Option ContinuousTaskParam) (requestAuthApiVersion : Int)
    (callback : Option Nat) (s : AuthMgr) : Beside s
      (s.requestAuthFromUser env callingUid taskParam requestAuthApiVersion callback).2 := by
  unfold requestAuthFromUser
  split
  · exact .refl s
  split
  · exact .refl s
  · exact .refl s
  dsimp only
  split
  · exact .refl s
  split
  · exact .refl s
  split
  · exact .refl s
  split
  · exact .refl s
  · exact beside_requestAuthFromUserInner env _ _ _ s

theorem beside_setBackgroundTaskState (env : AuthEnv) (taskParam : Option BackgroundTaskStateInfo)
    (s : AuthMgr) : Beside s (s.setBackgroundTaskState env taskParam).2 := by
  unfold setBackgroundTaskState
  split
  · exact .refl s
  split
  · exact .refl s
  split
  · exact .refl s
  · exact beside_stored env _ s

theorem beside_onPermissionDialogButtonClick (env : AuthEnv) (authResult bundleUid : Int)
    (bundleName : String) (appIndex : Int) (s : AuthMgr) : Beside s
      (s.onPermissionDialogButtonClick env authResult bundleUid bundleName appIndex) := by
  unfold onPermissionDialogButtonClick
  dsimp only
  split
  · exact .refl s
  split
  · exact .refl s
  split
  · exact .refl s
  · exact (beside_stored env _ s).trans (beside_triggerCallback _ authResult _)

theorem beside_onBannerNotificationActionButtonClick (env : AuthEnv) (buttonType : Int)
    (label : String) (s : AuthMgr) :
    Beside s (s.onBannerNotificationActionButtonClick env buttonType label) := by
  unfold onBannerNotificationActionButtonClick
  split
  · exact .refl s
  split
  · dsimp only
    refine Beside.trans ?_ (beside_triggerCallback _ _ _)
    split
    · exact (beside_stored env _ s).trans (beside_cancelPair _ _ _)
    · exact beside_stored env _ s
  · exact .refl s

theorem beside_removeAuthRecord (env : AuthEnv) (callingUid : Int)
    (taskParam : Option ContinuousTaskParam) (s : AuthMgr) :
    Beside s (s.removeAuthRecord env callingUid taskParam).2 := by
  unfold removeAuthRecord
  split
  · exact .refl s
  split
  · exact .refl s
  unfold removeAuthRecordInner
  dsimp only
  split
  · exact beside_stored env _ s
  · exact .refl s

theorem beside_handleAuthExpiredCallbackDeath (env : AuthEnv) (remote : Nat) (s : AuthMgr) :
    Beside s (s.handleAuthExpiredCallbackDeath env remote) := by
  unfold handleAuthExpiredCallbackDeath
  split
  · exact .refl s
  split
  · exact .refl s
  dsimp only
  split
  · exact .refl s
  split
  · exact (beside_cancelPair env.toEnv _ _).trans (beside_stored env _ _)
  · exact beside_stored env _ s

theorem beside_onRestore (env : AuthEnv) (backup : Backup) (replyOk : Bool) (s : AuthMgr) :
    Beside s (s.onRestore env backup replyOk).2 := by
  unfold onRestore
  split
  · exact .refl s
  split
  · exact .refl s
  · exact beside_setAuthFile ∅ s
  · exact beside_setAuthFile ∅ s
  rename_i root
  have replaced := beside_setAuthFile root s
  dsimp only
  split
  · exact replaced
  split
  · exact replaced
  · refine (replaced.trans ?_).trans (beside_refreshAuthRecord env _)
    unfold restoreAuthRecord
    split
    · exact .refl _
    · exact ⟨_, _, _, rfl⟩

theorem beside_authStep (env : AuthEnv) (op : AuthOp) (apart : ∀ service, op ≠ .service service)
    (s : AuthMgr) : Beside s (s.authStep (env, op)) := by
  cases op with
  | service service => exact absurd rfl (apart service)
  | requestAuthFromUser callingUid taskParam requestAuthApiVersion callback =>
      exact beside_requestAuthFromUser env callingUid taskParam requestAuthApiVersion callback s
  | setBackgroundTaskState taskParam => exact beside_setBackgroundTaskState env taskParam s
  | onPermissionDialogButtonClick authResult bundleUid bundleName appIndex =>
      exact beside_onPermissionDialogButtonClick env authResult bundleUid bundleName appIndex s
  | onBannerNotificationActionButtonClick buttonType label =>
      exact beside_onBannerNotificationActionButtonClick env buttonType label s
  | removeAuthRecord callingUid taskParam => exact beside_removeAuthRecord env callingUid taskParam s
  | handleAuthExpiredCallbackDeath remote =>
      exact beside_handleAuthExpiredCallbackDeath env remote s
  | onRestore backup replyOk => exact beside_onRestore env backup replyOk s
  | rehash rank => exact beside_setRecords _ s

end

end AuthMgr

end BgTaskMgr.Continuous
