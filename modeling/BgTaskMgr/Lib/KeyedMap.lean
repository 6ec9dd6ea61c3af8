import Mathlib.Data.List.AList
import Mathlib.Data.List.Sort

/-!
# Keyed maps with in-place updates

A container keyed by `κ` is an association list without duplicate keys, read in
its iteration order.  `AList` supplies lookup, insertion and erasure; this file
adds the updates a program makes through a pointer stored in the container
(`adjust`), over all entries (`mapVal`), by an erasing loop (`filterVal`) and by a change
of the iteration order (`reorder`), each with the lookup it produces.
-/

set_option autoImplicit false

universe u v w

/-- A map from `κ` to `α` in some iteration order. -/
abbrev KeyedMap (κ : Type u) (α : Type v) := AList (fun _ : κ => α)

namespace KeyedMap

section Values

variable {κ : Type u} {α : Type v} {β : Type w}

def vals (m : KeyedMap κ α) : List α :=
  m.entries.map (fun e => e.2)

def mapVal (f : κ → α → β) (m : KeyedMap κ α) : KeyedMap κ β where
  entries := m.entries.map (fun e => ⟨e.1, f e.1 e.2⟩)
  nodupKeys := by
    have keysEq : (m.entries.map (fun e => (⟨e.1, f e.1 e.2⟩ : Σ _ : κ, β))).keys =
        m.entries.keys := by
      simp [List.keys, Function.comp_def]
    rw [List.NodupKeys, keysEq]
    exact m.nodupKeys

def filterVal (p : κ → α → Bool) (m : KeyedMap κ α) : KeyedMap κ α where
  entries := m.entries.filter (fun e => p e.1 e.2)
  nodupKeys := m.nodupKeys.sublist List.filter_sublist

/-- The same entries in the order of `rank`. -/
def reorder (rank : κ → Nat) (m : KeyedMap κ α) : KeyedMap κ α where
  entries := m.entries.insertionSort (fun first second => rank first.1 ≤ rank second.1)
  nodupKeys := (List.perm_nodupKeys (List.perm_insertionSort _ m.entries)).mpr m.nodupKeys

@[simp]
theorem keys_mapVal (f : κ → α → β) (m : KeyedMap κ α) : (mapVal f m).keys = m.keys := by
  simp [mapVal, AList.keys, List.keys, Function.comp_def]

@[simp]
theorem mem_mapVal {f : κ → α → β} {m : KeyedMap κ α} {k : κ} : k ∈ mapVal f m ↔ k ∈ m := by
  simp [AList.mem_keys]

end Values

section Lookup

variable {κ : Type u} {α : Type v} {β : Type w} [DecidableEq κ]

/-- Update the value at `k`, when there is one, where it stands. -/
def adjust (k : κ) (f : α → α) (m : KeyedMap κ α) : KeyedMap κ α :=
  mapVal (fun a x => if a = k then f x else x) m

/-- Insert a value unless there is one at `k`. -/
def emplace (k : κ) (x : α) (m : KeyedMap κ α) : KeyedMap κ α :=
  if (m.lookup k).isSome then m else m.insert k x

theorem mem_entries_iff {m : KeyedMap κ α} {k : κ} {x : α} :
    (⟨k, x⟩ : Σ _ : κ, α) ∈ m.entries ↔ m.lookup k = some x :=
  AList.mem_lookup_iff.symm

theorem mem_iff_lookup {m : KeyedMap κ α} {k : κ} : k ∈ m ↔ ∃ x, m.lookup k = some x := by
  rw [← AList.lookup_isSome, Option.isSome_iff_exists]

theorem mem_vals {m : KeyedMap κ α} {x : α} : x ∈ vals m ↔ ∃ k, m.lookup k = some x := by
  simp only [vals, List.mem_map]
  constructor
  · rintro ⟨e, member, rfl⟩
    exact ⟨e.1, mem_entries_iff.mp member⟩
  · rintro ⟨k, found⟩
    exact ⟨⟨k, x⟩, mem_entries_iff.mpr found, rfl⟩

theorem lookup_insert (m : KeyedMap κ α) (k a : κ) (x : α) :
    (m.insert k x).lookup a = if a = k then some x else m.lookup a := by
  by_cases same : a = k
  · subst same
    simp
  · rw [AList.lookup_insert_ne same, if_neg same]

theorem lookup_emplace (m : KeyedMap κ α) (k a : κ) (x : α) :
    (emplace k x m).lookup a = if a = k then some ((m.lookup k).getD x) else m.lookup a := by
  unfold emplace
  cases found : m.lookup k with
  | none =>
      rw [if_neg (by simp), lookup_insert]
      rfl
  | some old =>
      rw [if_pos (by simp)]
      split
      · rename_i same
        rw [same, found]
        rfl
      · rfl

theorem lookup_erase (m : KeyedMap κ α) (k a : κ) :
    (m.erase k).lookup a = if a = k then none else m.lookup a := by
  by_cases same : a = k
  · subst same
    simp
  · rw [AList.lookup_erase_ne same, if_neg same]

theorem erase_of_lookup_none {m : KeyedMap κ α} {k : κ} (missing : m.lookup k = none) :
    m.erase k = m := by
  refine AList.ext ?_
  rw [AList.lookup_eq_none, AList.mem_keys] at missing
  exact List.kerase_of_notMem_keys missing

@[simp]
theorem lookup_mapVal (f : κ → α → β) (m : KeyedMap κ α) (a : κ) :
    (mapVal f m).lookup a = (m.lookup a).map (f a) :=
  List.dlookup_map₂ a

theorem lookup_adjust (m : KeyedMap κ α) (k a : κ) (f : α → α) :
    (adjust k f m).lookup a = if a = k then (m.lookup a).map f else m.lookup a := by
  rw [adjust, lookup_mapVal]
  by_cases same : a = k
  · simp [same]
  · simp only [same, if_false]
    exact Option.map_id'

theorem lookup_filterVal (p : κ → α → Bool) (m : KeyedMap κ α) (a : κ) :
    (filterVal p m).lookup a = (m.lookup a).filter (p a) := by
  ext x
  rw [← mem_entries_iff, Option.filter_eq_some_iff, ← mem_entries_iff]
  simp [filterVal]

@[simp]
theorem lookup_reorder (rank : κ → Nat) (m : KeyedMap κ α) (a : κ) :
    (reorder rank m).lookup a = m.lookup a :=
  AList.perm_lookup (List.perm_insertionSort _ m.entries)

/-- A map is determined by its lookups, up to the iteration order. -/
theorem perm_of_lookup {m n : KeyedMap κ α} (same : ∀ a, m.lookup a = n.lookup a) :
    m.entries.Perm n.entries := by
  apply List.lookup_ext m.nodupKeys n.nodupKeys
  intro a x
  change x ∈ m.lookup a ↔ x ∈ n.lookup a
  rw [same]

/-- A map has no more values of a kind than one that has such a value under each of their
keys. -/
theorem countP_vals_le {m n : KeyedMap κ α} {p q : α → Bool}
    (found : ∀ a x, m.lookup a = some x → p x = true → ∃ y, n.lookup a = some y ∧ q y = true) :
    (vals m).countP p ≤ (vals n).countP q := by
  have counts (o : KeyedMap κ α) (r : α → Bool) : (vals o).countP r =
      ((o.entries.filter (fun e => r e.2)).keys).length := by
    rw [vals, List.countP_map, List.countP_eq_length_filter, List.keys, List.length_map]
    rfl
  have distinct : (m.entries.filter (fun e => p e.2)).keys.Nodup :=
    m.nodupKeys.sublist List.filter_sublist
  rw [counts m p, counts n q]
  apply (List.subperm_of_subset distinct _).length_le
  intro a member
  obtain ⟨⟨b, x⟩, listed, rfl⟩ := List.mem_map.mp member
  obtain ⟨stored, isKind⟩ := List.mem_filter.mp listed
  obtain ⟨y, stored', isKind'⟩ := found b x (mem_entries_iff.mp stored) isKind
  exact List.mem_map.mpr ⟨⟨b, y⟩, List.mem_filter.mpr ⟨mem_entries_iff.mpr stored', isKind'⟩, rfl⟩

def lastRank (a b : κ) : Nat := if b = a then 1 else 0

theorem exists_reorder_lastRank {m : KeyedMap κ α} {a : κ} {x : α}
    (found : m.lookup a = some x) :
    ∃ front, (reorder (lastRank a) m).entries = front ++ [⟨a, x⟩] := by
  have total : Std.Total (fun first second : Σ _ : κ, α =>
      lastRank a first.1 ≤ lastRank a second.1) := ⟨fun first second => le_total _ _⟩
  have trans : IsTrans (Σ _ : κ, α)
      (fun first second => lastRank a first.1 ≤ lastRank a second.1) :=
    ⟨fun _ _ _ early late => le_trans early late⟩
  have sorted : (reorder (lastRank a) m).entries.Pairwise
      (fun first second => lastRank a first.1 ≤ lastRank a second.1) :=
    List.pairwise_insertionSort _ _
  obtain ⟨front, back, split⟩ := List.append_of_mem
    (mem_entries_iff.mpr ((lookup_reorder (lastRank a) m a).trans found))
  refine ⟨front, ?_⟩
  cases back with
  | nil => exact split
  | cons last back =>
      -- what comes after the entry has its rank, so it has its key
      have distinct := (reorder (lastRank a) m).nodupKeys
      rw [split, List.pairwise_append, List.pairwise_cons] at sorted
      rw [split, List.nodupKeys_middle, List.nodupKeys_cons] at distinct
      have ranked := sorted.2.1.1 last List.mem_cons_self
      have same : last.1 = a := by
        by_contra other
        simp [lastRank, other] at ranked
      refine absurd ?_ distinct.1
      rw [← same]
      simp [List.keys]

@[simp]
theorem mem_adjust {m : KeyedMap κ α} {k a : κ} {f : α → α} : a ∈ adjust k f m ↔ a ∈ m :=
  mem_mapVal

end Lookup

end KeyedMap
