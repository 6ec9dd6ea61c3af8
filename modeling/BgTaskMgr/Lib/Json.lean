import BgTaskMgr.Lib.KeyedMap
import Mathlib.Data.String.Basic

/-!
# JSON values

A JSON value with the members of an object in key order, as a program builds one by setting
members and reads one by their names; and the maps that are written as one object with a
member for every entry.
-/

set_option autoImplicit false

universe u v

inductive Json where
  | null
  | boolean (value : Bool)
  | integer (value : Int)
  | float (value : Rat)
  | string (value : String)
  | array (elements : List Json)
  | object (members : List (String × Json))

namespace Json

variable {json value : Json} {key name : String}

/-! ## Tests and reads -/

def isNull : Json → Bool
  | null => true
  | _ => false

def isBoolean : Json → Bool
  | boolean _ => true
  | _ => false

def isInteger : Json → Bool
  | integer _ => true
  | _ => false

def isString : Json → Bool
  | string _ => true
  | _ => false

def isArray : Json → Bool
  | array _ => true
  | _ => false

def isObject : Json → Bool
  | object _ => true
  | _ => false

def isEmpty : Json → Bool
  | null => true
  | array elements => elements.isEmpty
  | object members => members.isEmpty
  | _ => false

def toBool : Json → Bool
  | boolean value => value
  | _ => false

def toInt : Json → Int
  | integer value => value
  | _ => 0

def toText : Json → String
  | string value => value
  | _ => ""

def elements : Json → List Json
  | array elements => elements
  | _ => []

def members : Json → List (String × Json)
  | object members => members
  | _ => []

def find? (json : Json) (key : String) : Option Json := json.members.lookup key

def contains (json : Json) (key : String) : Bool := (json.find? key).isSome

def member (json : Json) (key : String) : Json := (json.find? key).getD null

/-! ## Setting a member -/

def insertMember (key : String) (value : Json) : List (String × Json) → List (String × Json)
  | [] => [(key, value)]
  | (name, old) :: rest =>
    if key = name then (key, value) :: rest
    else if key < name then (key, value) :: (name, old) :: rest
    else (name, old) :: insertMember key value rest

/-- `null` becomes an object with this member. -/
def set (json : Json) (key : String) (value : Json) : Json :=
  object (insertMember key value json.members)

def setSome (json : Json) (key : String) (value : Option Json) : Json :=
  match value with
  | none => json
  | some value => json.set key value

theorem lookup_cons (members : List (String × Json)) :
    ((key, value) :: members).lookup name =
      if name = key then some value else members.lookup name := by
  rw [List.lookup_cons, beq_eq_decide]
  by_cases same : name = key
  · simp [same]
  · simp [same]

theorem lookup_insertMember (members : List (String × Json)) :
    (insertMember key value members).lookup name =
      if name = key then some value else members.lookup name := by
  induction members with
  | nil => exact lookup_cons []
  | cons head rest ih =>
      obtain ⟨first, old⟩ := head
      simp only [insertMember]
      by_cases same : key = first
      · rw [if_pos same, lookup_cons, lookup_cons, same]
        split
        · rfl
        · rfl
      · rw [if_neg same]
        split
        · exact lookup_cons _
        · rw [lookup_cons, ih, lookup_cons]
          by_cases here : name = first
          · rw [if_pos here, if_neg (fun equal => same (equal.symm.trans here)), if_pos here]
          · rw [if_neg here, if_neg here]

theorem mem_insertMember {member : String × Json} {members : List (String × Json)}
    (inside : member ∈ insertMember key value members) :
    member = (key, value) ∨ member ∈ members := by
  induction members with
  | nil => exact Or.inl (by simpa [insertMember] using inside)
  | cons head rest ih =>
      simp only [insertMember] at inside
      split at inside
      · exact (List.mem_cons.mp inside).imp_right (List.mem_cons_of_mem _)
      split at inside
      · exact List.mem_cons.mp inside
      · rcases List.mem_cons.mp inside with here | later
        · exact Or.inr (here ▸ List.mem_cons_self)
        · exact (ih later).imp_right (List.mem_cons_of_mem _)

@[simp]
theorem find?_set : (json.set key value).find? name =
    if name = key then some value else json.find? name :=
  lookup_insertMember json.members

@[simp]
theorem contains_null : null.contains name = false := rfl

@[simp]
theorem contains_set : (json.set key value).contains name = (name = key || json.contains name) := by
  rw [contains, find?_set]
  by_cases same : name = key
  · simp [same]
  · simp [same, contains]

@[simp]
theorem contains_setSome {value : Option Json} : (json.setSome key value).contains name =
    ((name = key && value.isSome) || json.contains name) := by
  cases value with
  | none => simp [setSome]
  | some value => simp [setSome]

@[simp]
theorem member_set : (json.set key value).member name =
    if name = key then value else json.member name := by
  rw [member, find?_set]
  split
  · rfl
  · rfl

@[simp]
theorem member_setSome {value : Option Json} : (json.setSome key value).member name =
    if name = key then value.getD (json.member name) else json.member name := by
  cases value with
  | none => simp [setSome]
  | some value => simp [setSome]

@[simp]
theorem isNull_set : (json.set key value).isNull = false := rfl

@[simp]
theorem isEmpty_set : (json.set key value).isEmpty = false := by
  rw [set, isEmpty]
  cases json.members with
  | nil => rfl
  | cons head rest =>
      rw [insertMember]
      split
      · rfl
      split
      · rfl
      · rfl

@[simp]
theorem isObject_set : (json.set key value).isObject = true := rfl

theorem member_of_not_contains (missing : json.contains key = false) : json.member key = null := by
  rw [contains, Option.isSome_eq_false_iff, Option.isNone_iff_eq_none] at missing
  rw [member, missing, Option.getD_none]

theorem contains_of_member_ne_null (present : json.member key ≠ null) :
    json.contains key = true := by
  cases missing : json.contains key with
  | true => rfl
  | false => exact absurd (member_of_not_contains missing) present

theorem contains_of_isObject_member (object : (json.member key).isObject = true) :
    json.contains key = true := by
  apply contains_of_member_ne_null
  intro null
  rw [null] at object
  exact absurd object (by simp [isObject])

theorem contains_of_isArray_member (array : (json.member key).isArray = true) :
    json.contains key = true := by
  apply contains_of_member_ne_null
  intro null
  rw [null] at array
  exact absurd array (by simp [isArray])

theorem contains_of_isInteger_member (integer : (json.member key).isInteger = true) :
    json.contains key = true := by
  apply contains_of_member_ne_null
  intro null
  rw [null] at integer
  exact absurd integer (by simp [isInteger])

theorem not_contains_of_isEmpty (empty : json.isEmpty = true) : json.contains key = false := by
  cases json with
  | object members =>
      rw [isEmpty, List.isEmpty_iff] at empty
      rw [empty]
      rfl
  | _ => rfl

theorem not_contains_of_isNull_or_isEmpty (nothing : (json.isNull || json.isEmpty) = true) :
    json.contains key = false := by
  apply not_contains_of_isEmpty
  cases json with
  | null => rfl
  | _ => exact nothing

theorem isObject_of_contains (present : json.contains key = true) : json.isObject = true := by
  cases json with
  | object members => rfl
  | _ => exact absurd present (by simp [contains, find?, members])

/-! ## Maps as objects -/

section Map

variable {κ : Type u} {α : Type v} {β : Type}
variable (name : κ → String) (write : α → Json)

/-- One member for every entry; `null` for the empty map. -/
def ofMap (m : KeyedMap κ α) : Json :=
  m.entries.foldl (fun root entry => root.set (name entry.1) (write entry.2)) null

/-- The members that can be read are emplaced. -/
def readMap [DecidableEq κ] (key : String → κ) (read : Json → Option β) (root : Json)
    (m : KeyedMap κ β) : KeyedMap κ β :=
  root.members.foldl (fun m member =>
    match read member.2 with
    | none => m
    | some x => KeyedMap.emplace (key member.1) x m) m

variable {name write} {m : KeyedMap κ α}

theorem mem_members_ofMap {member : String × Json}
    (inside : member ∈ (ofMap name write m).members) :
    ∃ entry ∈ m.entries, member = (name entry.1, write entry.2) := by
  have built : ∀ member ∈ (ofMap name write m).members,
      ∃ entry ∈ m.entries, member = (name entry.1, write entry.2) := by
    apply List.foldlRecOn (motive := fun (root : Json) =>
      ∀ member ∈ root.members, ∃ entry ∈ m.entries, member = (name entry.1, write entry.2))
    · intro member inside
      exact absurd inside List.not_mem_nil
    · intro root ih entry stored member inside
      rcases mem_insertMember inside with here | older
      · exact ⟨entry, stored, here⟩
      · exact ih member older
  exact built member inside

theorem find?_foldl_set (entries : List (Σ _ : κ, α)) (root : Json)
    (others : ∀ entry ∈ entries, key ≠ name entry.1) :
    (entries.foldl (fun root entry => root.set (name entry.1) (write entry.2)) root).find? key =
      root.find? key := by
  apply List.foldlRecOn (motive := fun (after : Json) => after.find? key = root.find? key)
  · rfl
  · intro after ih entry stored
    rw [find?_set, if_neg (others entry stored), ih]

theorem mem_members_of_find? (found : json.find? key = some value) :
    (key, value) ∈ json.members := by
  obtain ⟨front, back, whole, -⟩ := List.lookup_eq_some_iff.mp found
  rw [whole]
  exact List.mem_append_right _ List.mem_cons_self

variable [DecidableEq κ] {key : String → κ} {read : Json → Option β}

theorem find?_ofMap (named : ∀ k ∈ m, key (name k) = k) {k : κ} {x : α}
    (found : m.lookup k = some x) : (ofMap name write m).find? (name k) = some (write x) := by
  obtain ⟨front, back, whole⟩ := List.append_of_mem (KeyedMap.mem_entries_iff.mpr found)
  have others : ∀ entry ∈ back, name k ≠ name entry.1 := by
    intro entry later same
    have stored : entry ∈ m.entries := by simp [whole, later]
    have equal : k = entry.1 := by
      rw [← named k (KeyedMap.mem_iff_lookup.mpr ⟨x, found⟩), same,
        named entry.1 (KeyedMap.mem_iff_lookup.mpr
          ⟨entry.2, KeyedMap.mem_entries_iff.mp stored⟩)]
    have once := m.nodupKeys
    rw [whole, List.NodupKeys, List.keys, List.map_append, List.map_cons] at once
    apply (List.nodup_cons.mp (List.nodup_append.mp once).2.1).1
    rw [equal]
    exact List.mem_map.mpr ⟨entry, later, rfl⟩
  rw [ofMap, whole, List.foldl_append, List.foldl_cons, find?_foldl_set back _ others, find?_set,
    if_pos rfl]

/-- What is stored already stays, else the first member of this key that can be read. -/
theorem lookup_readMap (root : Json) (m : KeyedMap κ β) (k : κ) :
    (readMap key read root m).lookup k = (m.lookup k).or (root.members.findSome? (fun member =>
      if key member.1 = k then read member.2 else none)) := by
  unfold readMap
  induction root.members generalizing m with
  | nil => simp
  | cons member rest ih =>
      rw [List.foldl_cons, ih, List.findSome?_cons]
      cases parsed : read member.2 with
      | none => simp
      | some x =>
          rw [KeyedMap.lookup_emplace]
          by_cases here : k = key member.1
          · rw [if_pos here, if_pos here.symm, ← here]
            cases m.lookup k with
            | none => rfl
            | some old => rfl
          · rw [if_neg here, if_neg (Ne.symm here)]

theorem readMap_of_not_isObject {root : Json} (other : root.isObject = false)
    (m : KeyedMap κ β) : readMap key read root m = m := by
  cases root with
  | object members => exact absurd other (by simp [isObject])
  | _ => rfl

/-- A map comes back from its object when every name and every value does. -/
theorem lookup_readMap_ofMap {back : α → β} (named : ∀ k ∈ m, key (name k) = k)
    (valued : ∀ k x, m.lookup k = some x → read (write x) = some (back x)) (k : κ) :
    (readMap key read (ofMap name write m) ∅).lookup k = (m.lookup k).map back := by
  have only {member : String × Json} (inside : member ∈ (ofMap name write m).members)
      (here : key member.1 = k) : ∃ x, m.lookup k = some x ∧ member.2 = write x := by
    obtain ⟨entry, stored, rfl⟩ := mem_members_ofMap inside
    have found := KeyedMap.mem_entries_iff.mp stored
    rw [named entry.1 (KeyedMap.mem_iff_lookup.mpr ⟨entry.2, found⟩)] at here
    exact ⟨entry.2, here ▸ found, rfl⟩
  rw [lookup_readMap, AList.lookup_empty, Option.none_or]
  cases found : m.lookup k with
  | none =>
      rw [Option.map_none, List.findSome?_eq_none_iff]
      intro member inside
      rw [ite_eq_right_iff]
      intro here
      obtain ⟨x, stored, -⟩ := only inside here
      exact absurd (stored.symm.trans found) (by simp)
  | some x =>
      have first : ((ofMap name write m).members.findSome?
          (fun member => if key member.1 = k then read member.2 else none)).isSome = true := by
        rw [List.findSome?_isSome_iff]
        refine ⟨_, mem_members_of_find? (find?_ofMap named found), ?_⟩
        simp [named k (KeyedMap.mem_iff_lookup.mpr ⟨x, found⟩), valued k x found]
      obtain ⟨y, result⟩ := Option.isSome_iff_exists.mp first
      obtain ⟨member, inside, reading⟩ := List.exists_of_findSome?_eq_some result
      by_cases here : key member.1 = k
      · obtain ⟨x', stored, content⟩ := only inside here
        obtain rfl : x = x' := Option.some.inj (found.symm.trans stored)
        rw [if_pos here, content, valued k x found] at reading
        rw [result, ← reading, Option.map_some]
      · rw [if_neg here] at reading
        exact absurd reading (by simp)

end Map

end Json
