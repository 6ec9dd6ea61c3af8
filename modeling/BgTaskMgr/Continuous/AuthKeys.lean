import BgTaskMgr.Continuous.AuthStore

/-!
# Keys of the store of authorisations

The records belong under the label of their app, where the buttons and the removal of an
authorisation look for them, and a callback waits under the key of a record.  A restoration
takes records in under the keys of the file, and some operations take out a record without
its callback.
-/

set_option autoImplicit false

namespace BgTaskMgr.Continuous

open BgContinuousTaskMgr StepSystem

/-! ## What a restoration takes in -/

def HoldsApp (records : KeyedMap String BannerNotificationRecord) (app : AuthApp) : Prop :=
  ∃ key record, records.lookup key = some record ∧ record.app = app

theorem findAuthRecord_isSome (records : KeyedMap String BannerNotificationRecord)
    (app : AuthApp) :
    (findAuthRecord app.bundleName app.userId app.appIndex records).isSome = true ↔
      HoldsApp records app := by
  rw [← Option.ne_none_iff_isSome, ne_eq, findAuthRecord_none]
  simp [HoldsApp]

/-- A record of the file goes in: its key is free, and neither memory nor a record before it
that could go in is of its app. -/
def GoesIn (memory : KeyedMap String BannerNotificationRecord)
    (earlier : List (Σ _ : String, BannerNotificationRecord))
    (entry : Σ _ : String, BannerNotificationRecord) : Prop :=
  memory.lookup entry.1 = none ∧ ¬ HoldsApp memory entry.2.app ∧
    ∀ former ∈ earlier, memory.lookup former.1 = none → former.2.app ≠ entry.2.app

theorem addRestored_held {restored : KeyedMap String BannerNotificationRecord}
    {entry : Σ _ : String, BannerNotificationRecord} (held : HoldsApp restored entry.2.app) :
    addRestored restored entry = restored :=
  if_pos ((findAuthRecord_isSome restored entry.2.app).mpr held)

theorem addRestored_new {restored : KeyedMap String BannerNotificationRecord}
    {entry : Σ _ : String, BannerNotificationRecord} (missing : ¬ HoldsApp restored entry.2.app) :
    addRestored restored entry = KeyedMap.emplace entry.1 entry.2 restored :=
  if_neg (fun held => missing ((findAuthRecord_isSome restored entry.2.app).mp held))

theorem lookup_addRestored_of_some {restored : KeyedMap String BannerNotificationRecord}
    {key : String} {record : BannerNotificationRecord}
    (found : restored.lookup key = some record)
    (entry : Σ _ : String, BannerNotificationRecord) :
    (addRestored restored entry).lookup key = some record := by
  by_cases held : HoldsApp restored entry.2.app
  · rw [addRestored_held held]
    exact found
  · rw [addRestored_new held, KeyedMap.lookup_emplace]
    split
    · rename_i here
      subst here
      rw [found]
      rfl
    · exact found

structure Restored (memory : KeyedMap String BannerNotificationRecord)
    (entries : List (Σ _ : String, BannerNotificationRecord))
    (restored : KeyedMap String BannerNotificationRecord) : Prop where
  lookup : ∀ key record, restored.lookup key = some record ↔
    memory.lookup key = some record ∨ ∃ earlier entry later, entries = earlier ++ entry :: later ∧
      entry = ⟨key, record⟩ ∧ GoesIn memory earlier entry
  covered : ∀ entry ∈ entries, memory.lookup entry.1 = none → HoldsApp restored entry.2.app

theorem restored_concat {memory restored : KeyedMap String BannerNotificationRecord}
    {entries : List (Σ _ : String, BannerNotificationRecord)}
    {entry : Σ _ : String, BannerNotificationRecord} (fresh : entry.1 ∉ entries.keys)
    (sofar : Restored memory entries restored) :
    Restored memory (entries ++ [entry]) (addRestored restored entry) := by
  have kept : ∀ app, HoldsApp restored app → HoldsApp (addRestored restored entry) app := by
    rintro app ⟨key, record, found, isApp⟩
    exact ⟨key, record, lookup_addRestored_of_some found entry, isApp⟩
  have loaded : ∀ app, HoldsApp memory app → HoldsApp restored app := by
    rintro app ⟨key, record, found, isApp⟩
    exact ⟨key, record, (sofar.lookup key record).mpr (.inl found), isApp⟩
  -- the key of the entry can only be taken in memory
  have free : memory.lookup entry.1 = none → restored.lookup entry.1 = none := by
    intro missing
    cases found : restored.lookup entry.1 with
    | none => rfl
    | some record =>
        obtain stored | ⟨earlier, former, later, split, same, -⟩ := (sofar.lookup _ _).mp found
        · rw [missing] at stored
          simp at stored
        · exfalso
          apply fresh
          rw [split, same]
          simp [List.keys]
  constructor
  · intro key record
    have splits := List.exists_split_concat entries entry
      (P := fun earlier entry => entry = ⟨key, record⟩ ∧ GoesIn memory earlier entry)
    rw [splits, ← or_assoc, ← sofar.lookup key record]
    constructor
    · intro found
      by_cases held : HoldsApp restored entry.2.app
      · rw [addRestored_held held] at found
        exact .inl found
      rw [addRestored_new held, KeyedMap.lookup_emplace] at found
      split at found
      · rename_i here
        subst here
        cases old : restored.lookup entry.1 with
        | some record' =>
            rw [old] at found
            exact .inl found
        | none =>
            rw [old] at found
            obtain rfl := Option.some.inj found
            refine .inr ⟨rfl, ?_, fun inMemory => held (loaded _ inMemory), ?_⟩
            · cases stored : memory.lookup entry.1 with
              | none => rfl
              | some record' =>
                  have inRestored := (sofar.lookup entry.1 record').mpr (.inl stored)
                  rw [old] at inRestored
                  simp at inRestored
            · intro former member missing same
              exact held (same ▸ sofar.covered former member missing)
      · exact .inl found
    · rintro (found | ⟨rfl, goes⟩)
      · exact lookup_addRestored_of_some found entry
      · have missing : ¬ HoldsApp restored record.app := by
          rintro ⟨key', record', found, same⟩
          obtain stored | ⟨earlier, former, later, split, rfl, goesFormer⟩ :=
            (sofar.lookup _ _).mp found
          · exact goes.2.1 ⟨key', record', stored, same⟩
          · exact goes.2.2 ⟨key', record'⟩ (by simp [split]) goesFormer.1 same
        rw [addRestored_new missing, KeyedMap.lookup_emplace, if_pos rfl, free goes.1]
        rfl
  · intro former member missing
    rw [List.mem_append, List.mem_singleton] at member
    obtain former' | rfl := member
    · exact kept _ (sofar.covered former former' missing)
    · by_cases held : HoldsApp restored former.2.app
      · exact kept _ held
      · refine ⟨former.1, former.2, ?_, rfl⟩
        rw [addRestored_new held, KeyedMap.lookup_emplace, if_pos rfl, free missing]
        rfl

theorem restored_foldl {memory : KeyedMap String BannerNotificationRecord}
    {entries : List (Σ _ : String, BannerNotificationRecord)} (distinct : entries.keys.Nodup) :
    Restored memory entries (entries.foldl addRestored memory) := by
  induction entries using List.reverseRecOn with
  | nil => exact ⟨fun key record => by simp, by simp⟩
  | append_singleton entries entry ih =>
      rw [List.keys, List.map_append, List.nodup_append] at distinct
      rw [List.foldl_append]
      refine restored_concat ?_ (ih distinct.1)
      intro member
      exact distinct.2.2 _ member _ (by simp) rfl

theorem jsonOrder_perm (file : KeyedMap String BannerNotificationRecord) :
    (jsonOrder file).Perm file.entries :=
  List.perm_insertionSort _ _

theorem mem_jsonOrder {file : KeyedMap String BannerNotificationRecord} {key : String}
    {record : BannerNotificationRecord} :
    (⟨key, record⟩ : Σ _ : String, BannerNotificationRecord) ∈ jsonOrder file ↔
      file.lookup key = some record :=
  (jsonOrder_perm file).mem_iff.trans KeyedMap.mem_entries_iff

theorem jsonOrder_keys_nodup (file : KeyedMap String BannerNotificationRecord) :
    (jsonOrder file).keys.Nodup :=
  (List.perm_nodupKeys (jsonOrder_perm file)).mpr file.nodupKeys

/-- A restoration takes in what goes in, in the order of the file. -/
theorem restored_jsonOrder (memory file : KeyedMap String BannerNotificationRecord) :
    Restored memory (jsonOrder file) ((jsonOrder file).foldl addRestored memory) :=
  restored_foldl (jsonOrder_keys_nodup file)

section Restoration

variable {env : AuthEnv} {s : AuthMgr}

theorem records_init (unready : s.mgr.isSysReady = false) (loads : Loads env) :
    (s.serviceOp env .initRequiredResourceInfo).mgr.bannerNotificationRecord =
      (jsonOrder s.mgr.authFile).foldl addRestored s.mgr.bannerNotificationRecord := by
  have ready : (s.serviceOp env .initRequiredResourceInfo).mgr.isSysReady = true := by
    show (if s.mgr.isSysReady then s.mgr else
      s.mgr.initRequiredResourceInfo env.toEnv).isSysReady = true
    rw [if_neg (by simp [unready])]
    rfl
  have changed : (s.serviceOp env .initRequiredResourceInfo).mgr.isSysReady ≠
      s.mgr.isSysReady := by
    simp [ready, unready]
  cases @authEffect_init env s with
  | loaded _ _ _ records => exact records
  | unloaded _ _ misses => exact absurd loads misses
  | kept _ _ _ same => exact absurd same changed
  | renamed _ _ _ _ same => exact absurd same changed
  | taken _ _ _ _ same => exact absurd same changed
  | decided _ _ _ _ _ _ _ _ _ same => exact absurd same changed
  | inserted _ _ _ _ _ _ same _ => exact absurd same changed
  | erased _ _ _ _ _ _ same => exact absurd same changed
  | restarted isOp => simp at isOp
  | replaced _ _ _ isOp => simp at isOp
  | restored _ _ isOp => simp at isOp

theorem records_onRestore {root : KeyedMap String BannerNotificationRecord}
    (ready : s.mgr.isSysReady = true) (readable : env.fileReadable = true) :
    (s.onRestore env (.records root) true).2.mgr.bannerNotificationRecord =
      (jsonOrder root).foldl addRestored s.mgr.bannerNotificationRecord := by
  unfold AuthMgr.onRestore
  rw [if_neg (by simp [ready])]
  dsimp only
  rw [if_neg (by simp), if_neg (by simp [readable])]
  refine (refreshAuthRecord_records _ env.toEnv).trans ?_
  show (BgContinuousTaskMgr.restoreAuthRecord env.toEnv
    (s.setAuthFile root).mgr).bannerNotificationRecord = _
  unfold BgContinuousTaskMgr.restoreAuthRecord
  rw [if_neg (by simp [readable])]
  rfl

end Restoration

/-! ## Records under the labels of their apps -/

/-- The records that a restoration takes in stand under the label of their app. -/
def FilesOwn (memory file : KeyedMap String BannerNotificationRecord) : Prop :=
  ∀ earlier entry later, jsonOrder file = earlier ++ entry :: later →
    GoesIn memory earlier entry → entry.1 = entry.2.app.label

/-- A step takes in records from a file only under the label of their app. -/
def RestoresOwn (s : AuthMgr) : AuthEnv × AuthOp → Prop
  | (env, .service .initRequiredResourceInfo) => s.mgr.isSysReady = false → Loads env →
      FilesOwn s.mgr.bannerNotificationRecord s.mgr.authFile
  | (env, .onRestore (.records root) true) => s.mgr.isSysReady = true →
      env.fileReadable = true → FilesOwn s.mgr.bannerNotificationRecord root
  | _ => True

namespace AuthMgr

def Filed (self : AuthMgr) : Prop :=
  ∀ key record, self.recordAt key = some record → key = record.app.label

/-- The searches by key and by the fields of an app find the same record. -/
structure Consistent (s : AuthMgr) : Prop where
  labelled : s.Filed
  unique : ∀ key key' record record', s.recordAt key = some record →
    s.recordAt key' = some record' → record.app = record'.app → key = key'
  agree : ∀ app : AuthApp,
    (findAuthRecord app.bundleName app.userId app.appIndex
      s.mgr.bannerNotificationRecord).map (fun found => found.2) = s.recordAt app.label

theorem Filed.consistent {self : AuthMgr} (filed : self.Filed) : self.Consistent := by
  refine ⟨filed, ?_, ?_⟩
  · intro key key' record record' found found' same
    rw [filed key record found, filed key' record' found', same]
  · intro app
    cases search : findAuthRecord app.bundleName app.userId app.appIndex
        self.mgr.bannerNotificationRecord with
    | none =>
        have missing := findAuthRecord_none.mp search
        cases found : self.recordAt app.label with
        | none => rfl
        | some record =>
            have own := AuthApp.label_injective (filed app.label record found)
            exact absurd own.symm (missing app.label record found)
    | some found =>
        obtain ⟨stored, same⟩ := findAuthRecord_some search
        rw [← same, ← filed found.1 found.2 stored]
        exact stored.symm

end AuthMgr

section Steps

variable {env : AuthEnv} {s : AuthMgr}

/-- A restoration keeps the labels exactly when what goes in has its own. -/
theorem filed_restored {memory file : KeyedMap String BannerNotificationRecord}
    (filed : ∀ key record, memory.lookup key = some record → key = record.app.label) :
    (∀ key record, ((jsonOrder file).foldl addRestored memory).lookup key = some record →
      key = record.app.label) ↔ FilesOwn memory file := by
  have restored := restored_jsonOrder memory file
  constructor
  · intro own earlier entry later split goes
    exact own entry.1 entry.2
      ((restored.lookup _ _).mpr (.inr ⟨earlier, entry, later, split, rfl, goes⟩))
  · intro own key record found
    obtain stored | ⟨earlier, entry, later, split, rfl, goes⟩ := (restored.lookup _ _).mp found
    · exact filed key record stored
    · exact own earlier ⟨key, record⟩ later split goes

theorem filed_of_effect {after : AuthMgr} {op : AuthOp} (effect : AuthEffect env s after op)
    (restores : RestoresOwn s (env, op)) (filed : s.Filed) : after.Filed := by
  intro key record found
  cases effect with
  | kept records => exact filed key record ((records key).symm.trans found)
  | renamed name records =>
      obtain ⟨former, stored, rfl⟩ := Option.map_eq_some_iff.mp ((records key).symm.trans found)
      exact filed key former stored
  | restarted isOp records => simp [records] at found
  | loaded isOp unready loads records =>
      subst isOp
      rw [AuthMgr.recordAt, records] at found
      exact (filed_restored filed).mpr (restores unready loads) key record found
  | unloaded isOp unready misses records => exact filed key record ((records key).symm.trans found)
  | taken running records => exact filed key record ((records key record).mp found).1
  | decided running at' former authResult stored decides records =>
      rw [records] at found
      split at found
      · rename_i here
        obtain rfl := Option.some.inj found
        rw [here]
        exact filed at' former stored
      · exact filed key record found
  | inserted running banner absent records =>
      rw [records] at found
      split at found
      · rename_i here
        subst here
        cases stored : s.recordAt banner.app.label with
        | none =>
            rw [stored] at found
            obtain rfl := Option.some.inj found
            rfl
        | some former =>
            rw [stored] at found
            obtain rfl := Option.some.inj found
            exact filed _ _ stored
      · exact filed key record found
  | erased running at' erases records =>
      rw [records] at found
      split at found
      · simp at found
      · exact filed key record found
  | replaced running backup replyOk isOp cut records =>
      exact filed key record ((records key).symm.trans found)
  | restored running root isOp readable records =>
      subst isOp
      rw [AuthMgr.recordAt, records] at found
      exact (filed_restored filed).mpr (restores running readable) key record found

/-- A step keeps the labels exactly when it takes in records under their own. -/
theorem filed_authStep (filed : s.Filed) (label : AuthEnv × AuthOp) :
    (s.authStep label).Filed ↔ RestoresOwn s label := by
  obtain ⟨env, op⟩ := label
  refine ⟨fun after => ?_, fun restores => filed_of_effect (authStep_effect op) restores filed⟩
  unfold RestoresOwn
  split
  · rename_i isLabel
    obtain ⟨rfl, rfl⟩ := Prod.mk.inj isLabel
    intro unready loads
    refine (filed_restored filed).mp (fun key record found => after key record ?_)
    rw [AuthMgr.recordAt]
    rw [← records_init unready loads] at found
    exact found
  · rename_i isLabel
    obtain ⟨rfl, rfl⟩ := Prod.mk.inj isLabel
    intro ready readable
    refine (filed_restored filed).mp (fun key record found => after key record ?_)
    rw [← records_onRestore ready readable] at found
    exact found
  · trivial

/-- The records stand under their labels all along a run exactly when every restoration of it
takes in records under their own. -/
theorem consistent_run_iff (hash : String → Nat) (labels : List (AuthEnv × AuthOp)) :
    (∀ earlier later, labels = earlier ++ later →
        (run AuthMgr.authStep (AuthMgr.installed hash) earlier).Consistent) ↔
      Admissible AuthMgr.authStep RestoresOwn (AuthMgr.installed hash) labels := by
  have start : (AuthMgr.installed hash).Filed := by
    intro key record found
    exact absurd found (by simp [AuthMgr.recordAt, AuthMgr.installed,
      BgContinuousTaskMgr.installed])
  have step : ∀ (s : AuthMgr) label, s.Filed → ((s.authStep label).Filed ↔ RestoresOwn s label) :=
    fun s label filed => filed_authStep filed label
  rw [← invariant_along_iff step labels (AuthMgr.installed hash) start]
  constructor
  · intro consistent earlier later split
    exact (consistent earlier later split).labelled
  · intro filed earlier later split
    exact (filed earlier later split).consistent

end Steps

/-! ## A device for authorisations -/

def authDevice : AuthEnv :=
  { deviceEnv with
    specialScenarioACLPermission := fun _ => true
    bundleInfo := fun _ _ =>
      some [("EntryAbility", modeBit BackgroundMode.specialScenarioProcessing)]
    bannerContent := fun appName => some appName }

def authRequest : ContinuousTaskParam := requestOf [BackgroundMode.specialScenarioProcessing] [9]

def deviceApp : AuthApp := ⟨"app", 0, 0⟩

/-- A backup has the record of the app under its bundle name. -/
def misfiledRun : List (AuthEnv × AuthOp) :=
  [(authDevice, .service .initRequiredResourceInfo),
    (authDevice, .onRestore (.records (AList.insert "app"
      { bundleName := "app"
        authResult := UserAuthResult.grantedAlways
        appIndex := 0 } ∅)) true)]

theorem misfiledRun_apart :
    ¬ (run AuthMgr.authStep (AuthMgr.installed (fun _ => 0)) misfiledRun).Consistent := by
  intro consistent
  exact absurd (consistent.agree deviceApp) (by decide)

/-! ## Callbacks that can be answered -/

namespace AuthMgr

/-- Every callback that waits stands under the key of a record. -/
def Answerable (self : AuthMgr) : Prop :=
  ∀ key, (self.callbackAt key).isSome = true → (self.recordAt key).isSome = true

end AuthMgr

/-- A step takes out no record whose callback waits. -/
def SparesPending (s : AuthMgr) (label : AuthEnv × AuthOp) : Prop :=
  ∀ key record, s.recordAt key = some record → takes label.1 s label.2 key record = true →
    s.callbackAt key = none

section Steps

variable {env : AuthEnv} {s : AuthMgr}

theorem answerable_of_effect {after : AuthMgr} {op : AuthOp} (effect : AuthEffect env s after op)
    (spares : SparesPending s (env, op)) (answerable : s.Answerable) : after.Answerable := by
  intro key waits
  cases effect with
  | kept records _ callbacks =>
      rw [callbacks] at waits
      rw [records]
      exact answerable key waits
  | renamed name records _ callbacks =>
      rw [callbacks] at waits
      rw [records, Option.isSome_map]
      exact answerable key waits
  | restarted isOp records _ callbacks => simp [callbacks] at waits
  | loaded isOp unready loads records _ callbacks =>
      rw [callbacks] at waits
      obtain ⟨record, found⟩ := Option.isSome_iff_exists.mp (answerable key waits)
      rw [AuthMgr.recordAt, records,
        ((restored_jsonOrder _ _).lookup key record).mpr (.inl found)]
      rfl
  | unloaded isOp unready misses records _ callbacks =>
      rw [callbacks] at waits
      rw [records]
      exact answerable key waits
  | taken running records _ callbacks =>
      rw [callbacks] at waits
      obtain ⟨record, found⟩ := Option.isSome_iff_exists.mp (answerable key waits)
      have spared : takes env s op key record = false := by
        cases takesIt : takes env s op key record with
        | false => rfl
        | true =>
            have silent : s.callbackAt key = none := spares key record found takesIt
            simp [silent] at waits
      rw [(records key record).mpr ⟨found, spared⟩]
      rfl
  | decided running at' former authResult stored decides records _ callbacks =>
      rw [records]
      split
      · rfl
      · obtain same | gone := callbacks key
        · rw [same] at waits
          exact answerable key waits
        · simp [gone] at waits
  | inserted running banner absent records _ callbacks =>
      rw [records]
      split
      · rfl
      · rename_i apart
        rw [callbacks key apart] at waits
        exact answerable key waits
  | erased running at' erases records _ callbacks =>
      rw [callbacks] at waits
      rw [records]
      split
      · rename_i here
        rw [if_pos here] at waits
        simp at waits
      · rename_i apart
        rw [if_neg apart] at waits
        exact answerable key waits
  | replaced running backup replyOk isOp cut records callbacks =>
      rw [callbacks] at waits
      rw [records]
      exact answerable key waits
  | restored running root isOp readable records _ callbacks =>
      rw [callbacks] at waits
      obtain ⟨record, found⟩ := Option.isSome_iff_exists.mp (answerable key waits)
      rw [AuthMgr.recordAt, records,
        ((restored_jsonOrder _ _).lookup key record).mpr (.inl found)]
      rfl

/-- While no step takes out the record of a callback that waits, every callback that waits can
be answered. -/
theorem answerable_run (hash : String → Nat) (labels : List (AuthEnv × AuthOp))
    (spares : Admissible AuthMgr.authStep SparesPending (AuthMgr.installed hash) labels) :
    (run AuthMgr.authStep (AuthMgr.installed hash) labels).Answerable := by
  have start : (AuthMgr.installed hash).Answerable := by
    intro key waits
    exact absurd waits (by simp [AuthMgr.callbackAt, AuthMgr.installed])
  exact run_invariant
    (fun s label answerable spares => answerable_of_effect (authStep_effect label.2) spares
      answerable) labels _ start spares

end Steps

def deletedBannerRun : List (AuthEnv × AuthOp) :=
  [(authDevice, .service .initRequiredResourceInfo),
    (authDevice, .requestAuthFromUser 20001 (some authRequest) apiVersionRequestSpecialUserAuth
      (some 5)),
    (authDevice, .service (.task (.stopBannerContinuousTaskByUser deviceApp.label)))]

theorem deletedBannerRun_waits :
    ¬ (run AuthMgr.authStep (AuthMgr.installed (fun _ => 0)) deletedBannerRun).Answerable := by
  intro answerable
  exact absurd (answerable deviceApp.label) (by decide)

/-- Before that the callback can be answered. -/
theorem requestedRun_answerable :
    (run AuthMgr.authStep (AuthMgr.installed (fun _ => 0)) (deletedBannerRun.take 2)).Answerable :=
  answerable_run (fun _ => 0) (deletedBannerRun.take 2)
    ⟨by simp [SparesPending, takes], by simp [SparesPending, takes], trivial⟩

end BgTaskMgr.Continuous
