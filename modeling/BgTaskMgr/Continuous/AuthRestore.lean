import BgTaskMgr.Continuous.AuthKeys

/-!
# Restoring a backup of the authorisations

`OnRestore` puts the bytes of the backup into the record file, and only then reads and merges
them.  Of several records of one app the one with the smallest key is merged, and a record
whose key is taken in memory gets lost; a failure leaves the backup in the file, from which
the next start of the service reads its records.
-/

set_option autoImplicit false

namespace BgTaskMgr.Continuous

open BgContinuousTaskMgr

/-! ## What the order of a file comes to -/

section Order

variable {file : KeyedMap String BannerNotificationRecord}

theorem jsonOrder_sorted :
    (jsonOrder file).Pairwise (fun first second => first.1 < second.1) := by
  have total : Std.Total (fun first second : Σ _ : String, BannerNotificationRecord =>
      first.1 ≤ second.1) := ⟨fun first second => le_total first.1 second.1⟩
  have trans : IsTrans (Σ _ : String, BannerNotificationRecord)
      (fun first second => first.1 ≤ second.1) :=
    ⟨fun _ _ _ early late => le_trans early late⟩
  have ordered : (jsonOrder file).Pairwise (fun first second => first.1 ≤ second.1) :=
    List.pairwise_insertionSort _ _
  have apart : (jsonOrder file).Pairwise (fun first second => first.1 ≠ second.1) :=
    List.pairwise_map.mp (jsonOrder_keys_nodup file)
  exact (ordered.and apart).imp (fun both => lt_of_le_of_ne both.1 both.2)

theorem mem_earlier_iff {earlier later : List (Σ _ : String, BannerNotificationRecord)}
    {entry former : Σ _ : String, BannerNotificationRecord}
    (split : jsonOrder file = earlier ++ entry :: later) :
    former ∈ earlier ↔ file.lookup former.1 = some former.2 ∧ former.1 < entry.1 := by
  have sorted := @jsonOrder_sorted file
  rw [split, List.pairwise_append, List.pairwise_cons] at sorted
  obtain ⟨-, ⟨after, -⟩, before⟩ := sorted
  rw [← mem_jsonOrder, split]
  constructor
  · intro member
    exact ⟨List.mem_append_left _ member, before former member entry List.mem_cons_self⟩
  · rintro ⟨member, smaller⟩
    rcases List.mem_append.mp member with early | late
    · exact early
    rcases List.mem_cons.mp late with rfl | late
    · exact absurd smaller (lt_irrefl _)
    · exact absurd smaller (lt_asymm (after former late))

/-- The record is the first one of its app, in the order of keys, among those that satisfy
`counts`. -/
structure FirstOfApp (file : KeyedMap String BannerNotificationRecord) (counts : String → Prop)
    (key : String) (record : BannerNotificationRecord) : Prop where
  found : file.lookup key = some record
  first : ∀ key' record', file.lookup key' = some record' → counts key' → key' < key →
    record'.app ≠ record.app

/-- Memory after a file is read: a record of the file goes in under its key when this is free,
memory has no record of the app, and the record is the first one with a free key. -/
theorem lookup_restored (memory : KeyedMap String BannerNotificationRecord) (key : String)
    (record : BannerNotificationRecord) :
    ((jsonOrder file).foldl addRestored memory).lookup key = some record ↔
      memory.lookup key = some record ∨ memory.lookup key = none ∧ ¬ HoldsApp memory record.app ∧
        FirstOfApp file (fun other => memory.lookup other = none) key record := by
  rw [(restored_jsonOrder memory file).lookup]
  constructor
  · rintro (old | ⟨earlier, entry, later, split, rfl, free, absent, first⟩)
    · exact .inl old
    · refine .inr ⟨free, absent, ?_, ?_⟩
      · rw [← mem_jsonOrder, split]
        simp
      · intro key' record' found freeOther smaller
        exact first ⟨key', record'⟩ ((mem_earlier_iff split).mpr ⟨found, smaller⟩) freeOther
  · rintro (old | ⟨free, absent, found, first⟩)
    · exact .inl old
    · obtain ⟨earlier, later, split⟩ := List.append_of_mem (mem_jsonOrder.mpr found)
      refine .inr ⟨earlier, _, later, split, rfl, free, absent, ?_⟩
      intro former member freeOther
      obtain ⟨stored, smaller⟩ := (mem_earlier_iff split).mp member
      exact first former.1 former.2 stored freeOther smaller

end Order

/-! ## The next start -/

def AuthMgr.restarted (env : AuthEnv) (s : AuthMgr) : AuthMgr :=
  (s.serviceOp env .restart).serviceOp env .initRequiredResourceInfo

theorem recordAt_restarted {env : AuthEnv} {s : AuthMgr} (loads : Loads env) (key : String)
    (record : BannerNotificationRecord) :
    (s.restarted env).recordAt key = some record ↔
      FirstOfApp s.mgr.authFile (fun _ => True) key record := by
  have unready : (s.serviceOp env .restart).mgr.isSysReady = false := rfl
  have file : (s.serviceOp env .restart).mgr.authFile = s.mgr.authFile := rfl
  have empty : (s.serviceOp env .restart).mgr.bannerNotificationRecord = ∅ := rfl
  unfold AuthMgr.restarted AuthMgr.recordAt
  rw [records_init unready loads, file, empty, lookup_restored]
  constructor
  · rintro (old | ⟨-, -, found, first⟩)
    · simp at old
    · exact ⟨found, fun key' record' found' _ => first key' record' found' (by simp)⟩
  · rintro ⟨found, first⟩
    refine .inr ⟨by simp, ?_, found, fun key' record' found' _ => first key' record' found' trivial⟩
    rintro ⟨key', record', old, -⟩
    simp at old

/-- Two files give the same records at a start exactly when each app has the same first record
in both. -/
def SameFirsts (file other : KeyedMap String BannerNotificationRecord) : Prop :=
  ∀ key record, FirstOfApp file (fun _ => True) key record ↔
    FirstOfApp other (fun _ => True) key record

theorem recordAt_restarted_congr {env : AuthEnv} {s after : AuthMgr} (loads : Loads env) :
    (∀ key, (after.restarted env).recordAt key = (s.restarted env).recordAt key) ↔
      SameFirsts after.mgr.authFile s.mgr.authFile := by
  constructor
  · intro same key record
    rw [← recordAt_restarted loads, ← recordAt_restarted loads, same]
  · intro same key
    ext record
    rw [recordAt_restarted loads, recordAt_restarted loads, same]

theorem sameFirsts_empty_iff {file : KeyedMap String BannerNotificationRecord} :
    SameFirsts ∅ file ↔ file = ∅ := by
  constructor
  · intro same
    cases ordered : jsonOrder file with
    | nil =>
        have perm := jsonOrder_perm file
        rw [ordered] at perm
        exact AList.ext (List.nil_perm.mp perm)
    | cons entry rest =>
        -- the record with the smallest key is the first one of its app
        have split : jsonOrder file = [] ++ entry :: rest := ordered
        have first : FirstOfApp file (fun _ => True) entry.1 entry.2 := by
          refine ⟨mem_jsonOrder.mp (by simp [ordered]), ?_⟩
          intro key' record' found _ smaller
          have none : (⟨key', record'⟩ : Σ _ : String, BannerNotificationRecord) ∈ [] :=
            (mem_earlier_iff split).mpr ⟨found, smaller⟩
          exact absurd none (by simp)
        have missed := ((same _ _).mpr first).found
        simp at missed
  · rintro rfl key record
    exact Iff.rfl

/-! ## Restoration -/

def Backup.parsed : Backup → KeyedMap String BannerNotificationRecord
  | .records root => root
  | _ => ∅

/-- A restoration merges the backup or changes nothing: when it succeeds, the records of apps
that had none go in and all others stay; when it fails, memory stays as it is, and so does
what a start reads from the file. -/
structure MergesOrKeeps (backup : Backup) (before : AuthMgr) (result : ErrCode × AuthMgr) :
    Prop where
  merges : result.1 = .ok → ∀ key record, result.2.recordAt key = some record ↔
    before.recordAt key = some record ∨ backup.parsed.lookup key = some record ∧
      ¬ HoldsApp before.mgr.bannerNotificationRecord record.app
  keeps : result.1 ≠ .ok → ∀ key, result.2.recordAt key = before.recordAt key
  keepsFile : result.1 ≠ .ok → ∀ env, Loads env →
    ∀ key, (result.2.restarted env).recordAt key = (before.restarted env).recordAt key

/-- No record of an app that has none gets lost: its key is free, and the backup has one
record of the app. -/
structure Mergeable (memory root : KeyedMap String BannerNotificationRecord) : Prop where
  free : ∀ key record, root.lookup key = some record → ¬ HoldsApp memory record.app →
    memory.lookup key = none
  single : ∀ key record key' record', root.lookup key = some record →
    root.lookup key' = some record' → ¬ HoldsApp memory record.app → record'.app = record.app →
      key' = key

def RestoresWell (env : AuthEnv) (s : AuthMgr) (replyOk : Bool) : Backup → Prop
  | .unreadable => True
  | .torn => s.mgr.authFile = ∅
  | .malformed => s.mgr.authFile = ∅
  | .records root =>
      if replyOk = true ∧ env.fileReadable = true then
        Mergeable s.mgr.bannerNotificationRecord root
      else SameFirsts root s.mgr.authFile

/-- What is merged is what should be, exactly when no record gets lost. -/
theorem merged_iff {memory root : KeyedMap String BannerNotificationRecord} :
    (∀ key record, ((jsonOrder root).foldl addRestored memory).lookup key = some record ↔
      memory.lookup key = some record ∨
        root.lookup key = some record ∧ ¬ HoldsApp memory record.app) ↔
      Mergeable memory root := by
  constructor
  · intro merged
    have goes : ∀ key record, root.lookup key = some record → ¬ HoldsApp memory record.app →
        memory.lookup key = none ∧
          FirstOfApp root (fun other => memory.lookup other = none) key record := by
      intro key record found absent
      obtain old | ⟨free, -, first⟩ := (lookup_restored memory key record).mp
        ((merged key record).mpr (.inr ⟨found, absent⟩))
      · exact absurd ⟨key, record, old, rfl⟩ absent
      · exact ⟨free, first⟩
    refine ⟨fun key record found absent => (goes key record found absent).1, ?_⟩
    intro key record key' record' found found' absent same
    have absent' : ¬ HoldsApp memory record'.app := by
      rw [same]
      exact absent
    obtain ⟨free, first⟩ := goes key record found absent
    obtain ⟨free', first'⟩ := goes key' record' found' absent'
    rcases lt_trichotomy key' key with smaller | equal | larger
    · exact absurd same (first.first key' record' found' free' smaller)
    · exact equal
    · exact absurd same.symm (first'.first key record found free larger)
  · intro mergeable key record
    rw [lookup_restored]
    refine or_congr_right ⟨fun goes => ⟨goes.2.2.found, goes.2.1⟩, ?_⟩
    rintro ⟨found, absent⟩
    refine ⟨mergeable.free key record found absent, absent, found, ?_⟩
    intro key' record' found' _ smaller same
    exact absurd (mergeable.single key record key' record' found found' absent same)
      (ne_of_lt smaller)

theorem mergesOrKeeps_ok {backup : Backup} {s after : AuthMgr} :
    MergesOrKeeps backup s (.ok, after) ↔ ∀ key record, after.recordAt key = some record ↔
      s.recordAt key = some record ∨ backup.parsed.lookup key = some record ∧
        ¬ HoldsApp s.mgr.bannerNotificationRecord record.app := by
  constructor
  · intro merges
    exact merges.merges rfl
  · intro merged
    exact ⟨fun _ => merged, fun failed => absurd rfl failed, fun failed => absurd rfl failed⟩

/-- A restoration that fails keeps the next start as it is exactly when the file it leaves gives
the same records. -/
theorem mergesOrKeeps_replaced {backup : Backup} {s : AuthMgr} {ret : ErrCode}
    {file : KeyedMap String BannerNotificationRecord} (failed : ret ≠ .ok) :
    MergesOrKeeps backup s (ret, s.setAuthFile file) ↔ SameFirsts file s.mgr.authFile := by
  constructor
  · intro keeps
    have loads : Loads { allRunningProcesses := some [], fileReadable := true } := ⟨rfl, rfl⟩
    exact (recordAt_restarted_congr loads).mp (keeps.keepsFile failed _ loads)
  · intro same
    exact ⟨fun ok => absurd ok failed, fun _ _ => rfl,
      fun _ env loads => (recordAt_restarted_congr loads).mpr same⟩

theorem mergesOrKeeps_kept {backup : Backup} {s : AuthMgr} {ret : ErrCode} (failed : ret ≠ .ok) :
    MergesOrKeeps backup s (ret, s) :=
  ⟨fun ok => absurd ok failed, fun _ _ => rfl, fun _ _ _ _ => rfl⟩

/-- A restoration merges the backup or changes nothing exactly when, in a service that runs, no
record gets lost as it succeeds, and the file gives the same records as it fails. -/
theorem onRestore_mergesOrKeeps_iff (env : AuthEnv) (s : AuthMgr) (backup : Backup)
    (replyOk : Bool) :
    MergesOrKeeps backup s (s.onRestore env backup replyOk) ↔
      (s.mgr.isSysReady = true → RestoresWell env s replyOk backup) := by
  by_cases ready : s.mgr.isSysReady = true
  · have running : ¬ (!s.mgr.isSysReady) = true := by simp [ready]
    have failed : ErrCode.invalidOperation ≠ .ok ∧ ErrCode.dataStorageErr ≠ .ok := by simp
    simp only [ready, true_imp_iff]
    cases backup with
    | unreadable =>
        unfold AuthMgr.onRestore
        rw [if_neg running]
        exact iff_of_true (mergesOrKeeps_kept failed.1) trivial
    | torn =>
        unfold AuthMgr.onRestore
        rw [if_neg running]
        exact (mergesOrKeeps_replaced failed.1).trans sameFirsts_empty_iff
    | malformed =>
        have refused : (if replyOk then ErrCode.dataStorageErr else .invalidOperation) ≠ .ok := by
          split
          · exact failed.2
          · exact failed.1
        unfold AuthMgr.onRestore
        rw [if_neg running]
        exact (mergesOrKeeps_replaced refused).trans sameFirsts_empty_iff
    | records root =>
        dsimp only [RestoresWell]
        split
        · rename_i succeeds
          obtain ⟨rfl, readable⟩ := succeeds
          have result : s.onRestore env (.records root) true =
              (.ok, (s.onRestore env (.records root) true).2) := by
            unfold AuthMgr.onRestore
            rw [if_neg running]
            simp [readable]
          rw [result, mergesOrKeeps_ok, ← merged_iff]
          unfold AuthMgr.recordAt
          rw [records_onRestore ready readable]
          rfl
        · rename_i fails
          unfold AuthMgr.onRestore
          rw [if_neg running]
          dsimp only
          split
          · exact mergesOrKeeps_replaced failed.1
          · rename_i replied
            rw [if_pos (by simpa [show replyOk = true by simpa using replied] using fails)]
            exact mergesOrKeeps_replaced failed.2
  · have starting : s.onRestore env backup replyOk = (.sysNotReady, s) :=
      if_pos (by simpa using ready)
    rw [starting]
    exact iff_of_true (mergesOrKeeps_kept (by simp)) (fun running => absurd running ready)

def authorisedFor (bundleName : String) : AuthMgr :=
  let records := AList.singleton ("bgbanner_100_0_" ++ bundleName)
    ({ bundleName := bundleName, userId := 100, authResult := UserAuthResult.grantedAlways } :
      BannerNotificationRecord)
  { mgr := { isSysReady := true, bannerNotificationRecord := records, authFile := records } }

/-- A backup that is no JSON text is restored while an authorisation is in the file. -/
theorem onRestore_loses_file :
    ∃ (env : AuthEnv) (s : AuthMgr) (backup : Backup) (replyOk : Bool),
      s.mgr.isSysReady = true ∧ ¬ MergesOrKeeps backup s (s.onRestore env backup replyOk) := by
  refine ⟨{}, authorisedFor "com.example.app", .malformed, true, rfl, ?_⟩
  intro keeps
  have loads : Loads { allRunningProcesses := some [], fileReadable := true } := ⟨rfl, rfl⟩
  have same := keeps.keepsFile (by decide) _ loads "bgbanner_100_0_com.example.app"
  exact absurd same (by decide)

end BgTaskMgr.Continuous
