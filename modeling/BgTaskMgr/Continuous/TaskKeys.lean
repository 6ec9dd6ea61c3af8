import BgTaskMgr.Continuous.Isolation

/-!
# Keys of tasks

The key of a plain task has three parts and that of a request object four.  The name of the
ability stands between numbers and may itself hold separators and digits, so a plain task
can get the key of a request object.
-/

set_option autoImplicit false

namespace BgTaskMgr.Continuous

/-! ## Keys and what they name -/

theorem split_numbered_end {text text' : String} {number number' : Int}
    (same : text ++ ("_" ++ toString number) = text' ++ ("_" ++ toString number')) :
    text = text' ∧ number = number' := by
  have lists := congrArg String.toList same
  simp only [String.toList_append] at lists
  obtain ⟨texts, numbers⟩ := (List.append_separator_inj_of_back
    (underscore_notMem_toString number) (underscore_notMem_toString number')).mp lists
  exact ⟨String.toList_injective texts, Int.repr_injective (String.toList_injective numbers)⟩

/-- Both are requested by the same app for the same ability, as the same kind of task, and
request objects have the same id. -/
structure SameIdentity (first second : ContinuousTaskRecord) : Prop where
  uid : first.uid = second.uid
  abilityName : first.abilityName = second.abilityName
  abilityId : first.abilityId = second.abilityId
  isByRequestObject : first.isByRequestObject = second.isByRequestObject
  continuousTaskId : first.isByRequestObject = true →
    first.continuousTaskId = second.continuousTaskId

/-- The name of the ability of a plain task ends like the ability of a request object of the
same app, and the id of its ability is the id of that task. -/
structure Mistakable (plain object : ContinuousTaskRecord) : Prop where
  isPlain : plain.isByRequestObject = false
  isObject : object.isByRequestObject = true
  uid : plain.uid = object.uid
  abilityName : plain.abilityName = object.abilityName ++ "_" ++ toString object.abilityId
  abilityId : plain.abilityId = object.continuousTaskId

theorem taskInfoMapKey_plain {record : ContinuousTaskRecord}
    (plain : record.isByRequestObject = false) :
    taskInfoMapKey record = abilityKey record.uid record.abilityName record.abilityId := by
  rw [taskInfoMapKey, plain]
  rfl

theorem taskInfoMapKey_object {record : ContinuousTaskRecord}
    (object : record.isByRequestObject = true) :
    taskInfoMapKey record = abilityKey record.uid record.abilityName record.abilityId ++
      ("_" ++ toString record.continuousTaskId) := by
  rw [taskInfoMapKey, object, ← String.append_assoc]
  rfl

theorem abilityKey_inj {uid uid' abilityId abilityId' : Int} {abilityName abilityName' : String}
    (same : abilityKey uid abilityName abilityId = abilityKey uid' abilityName' abilityId') :
    uid = uid' ∧ abilityName = abilityName' ∧ abilityId = abilityId' := by
  unfold abilityKey at same
  simp only [String.append_assoc] at same
  obtain ⟨uids, rest⟩ := split_numbered same
  obtain ⟨names, ids⟩ := split_numbered_end rest
  exact ⟨uids, names, ids⟩

/-- A plain task has the key of a request object exactly when it can be mistaken for it. -/
theorem taskInfoMapKey_plain_eq_object {plain object : ContinuousTaskRecord}
    (isPlain : plain.isByRequestObject = false) (isObject : object.isByRequestObject = true) :
    taskInfoMapKey plain = taskInfoMapKey object ↔ Mistakable plain object := by
  rw [taskInfoMapKey_plain isPlain, taskInfoMapKey_object isObject]
  constructor
  · intro same
    unfold abilityKey at same
    simp only [String.append_assoc] at same
    obtain ⟨uids, rest⟩ := split_numbered same
    have grouped : plain.abilityName ++ ("_" ++ toString plain.abilityId) =
        (object.abilityName ++ "_" ++ toString object.abilityId) ++
          ("_" ++ toString object.continuousTaskId) := by
      rw [rest]
      simp only [String.append_assoc]
    obtain ⟨names, ids⟩ := split_numbered_end grouped
    exact ⟨isPlain, isObject, uids, names, ids⟩
  · intro mistakable
    unfold abilityKey
    rw [mistakable.uid, mistakable.abilityName, mistakable.abilityId]
    simp only [String.append_assoc]

/-- Different tasks have different keys exactly when neither can be mistaken for the other. -/
theorem taskInfoMapKey_injective_iff (first second : ContinuousTaskRecord) :
    (taskInfoMapKey first = taskInfoMapKey second → SameIdentity first second) ↔
      ¬ Mistakable first second ∧ ¬ Mistakable second first := by
  constructor
  · intro injective
    constructor
    · intro mistakable
      have same := injective
        ((taskInfoMapKey_plain_eq_object mistakable.isPlain mistakable.isObject).mpr mistakable)
      have kinds := same.isByRequestObject
      rw [mistakable.isPlain, mistakable.isObject] at kinds
      simp at kinds
    · intro mistakable
      have same := injective
        ((taskInfoMapKey_plain_eq_object mistakable.isPlain mistakable.isObject).mpr
          mistakable).symm
      have kinds := same.isByRequestObject
      rw [mistakable.isPlain, mistakable.isObject] at kinds
      simp at kinds
  · rintro ⟨apart, apart'⟩ same
    cases isFirst : first.isByRequestObject with
    | false =>
        cases isSecond : second.isByRequestObject with
        | false =>
            rw [taskInfoMapKey_plain isFirst, taskInfoMapKey_plain isSecond] at same
            obtain ⟨uids, names, ids⟩ := abilityKey_inj same
            exact ⟨uids, names, ids, isFirst.trans isSecond.symm, by simp [isFirst]⟩
        | true => exact absurd ((taskInfoMapKey_plain_eq_object isFirst isSecond).mp same) apart
    | true =>
        cases isSecond : second.isByRequestObject with
        | false =>
            exact absurd ((taskInfoMapKey_plain_eq_object isSecond isFirst).mp same.symm) apart'
        | true =>
            rw [taskInfoMapKey_object isFirst, taskInfoMapKey_object isSecond] at same
            obtain ⟨keys, taskIds⟩ := split_numbered_end same
            obtain ⟨uids, names, ids⟩ := abilityKey_inj keys
            exact ⟨uids, names, ids, isFirst.trans isSecond.symm, fun _ => taskIds⟩

/-- The ability `Player_1` with the id 2, and the second task of the ability `Player` with the
id 1. -/
theorem taskInfoMapKey_collides :
    ∃ first second : ContinuousTaskRecord, taskInfoMapKey first = taskInfoMapKey second ∧
      ¬ SameIdentity first second := by
  refine ⟨{ uid := 20001, abilityName := "Player_1", abilityId := 2 },
    { uid := 20001, abilityName := "Player", abilityId := 1, continuousTaskId := 2,
      isByRequestObject := true }, by decide, ?_⟩
  intro same
  exact absurd same.isByRequestObject (by decide)

end BgTaskMgr.Continuous
