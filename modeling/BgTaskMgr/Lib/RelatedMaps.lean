import BgTaskMgr.Lib.KeyedMap

/-!
# Maps related value by value

Two keyed maps with the same keys in the same order, whose values under each key are related.
The updates of a keyed map keep the relation when what they store is related.
-/

set_option autoImplicit false

universe u v w

namespace KeyedMap

variable {κ : Type u} {α : Type v} {β : Type w} [DecidableEq κ]

structure Related (R : κ → α → β → Prop) (m : KeyedMap κ α) (n : KeyedMap κ β) : Prop where
  keys : m.keys = n.keys
  vals : ∀ {a : κ} {x : α} {y : β}, m.lookup a = some x → n.lookup a = some y → R a x y

variable {R : κ → α → β → Prop} {m : KeyedMap κ α} {n : KeyedMap κ β} {a : κ} {x : α} {y : β}

theorem related_empty : Related R ∅ ∅ where
  keys := rfl
  vals found := absurd found (by simp)

theorem Related.lookup (related : Related R m n) (a : κ) :
    m.lookup a = none ∧ n.lookup a = none ∨
      ∃ x y, m.lookup a = some x ∧ n.lookup a = some y ∧ R a x y := by
  have both : a ∈ m ↔ a ∈ n := by rw [AList.mem_keys, AList.mem_keys, related.keys]
  cases found : m.lookup a with
  | none =>
      left
      rw [AList.lookup_eq_none, both, ← AList.lookup_eq_none] at found
      exact ⟨rfl, found⟩
  | some x =>
      right
      obtain ⟨y, found'⟩ := mem_iff_lookup.mp (both.mp (mem_iff_lookup.mpr ⟨x, found⟩))
      exact ⟨x, y, rfl, found', related.vals found found'⟩

theorem Related.mono {S : κ → α → β → Prop} (related : Related R m n)
    (weaker : ∀ a x y, m.lookup a = some x → n.lookup a = some y → R a x y → S a x y) :
    Related S m n where
  keys := related.keys
  vals found found' := weaker _ _ _ found found' (related.vals found found')

theorem Related.insert (related : Related R m n) (new : R a x y) :
    Related R (m.insert a x) (n.insert a y) where
  keys := by rw [AList.keys_insert, AList.keys_insert, related.keys]
  vals {b x' y'} found found' := by
    rw [lookup_insert] at found found'
    by_cases same : b = a
    · rw [if_pos same] at found found'
      rw [same, ← Option.some.inj found, ← Option.some.inj found']
      exact new
    · rw [if_neg same] at found found'
      exact related.vals found found'

theorem Related.adjust (related : Related R m n) (new : R a x y) :
    Related R (adjust a (fun _ => x) m) (adjust a (fun _ => y) n) where
  keys := by
    unfold KeyedMap.adjust
    rw [keys_mapVal, keys_mapVal, related.keys]
  vals {b x' y'} found found' := by
    rw [lookup_adjust] at found found'
    by_cases same : b = a
    · rw [if_pos same] at found found'
      obtain ⟨_, -, rfl⟩ := Option.map_eq_some_iff.mp found
      obtain ⟨_, -, rfl⟩ := Option.map_eq_some_iff.mp found'
      rw [same]
      exact new
    · rw [if_neg same] at found found'
      exact related.vals found found'

theorem adjust_self (found : m.lookup a = some x) : KeyedMap.adjust a (fun _ => x) m = m := by
  apply AList.ext
  unfold KeyedMap.adjust KeyedMap.mapVal
  dsimp only
  conv_rhs => rw [← List.map_id m.entries]
  apply List.map_congr_left
  rintro ⟨b, y⟩ listed
  by_cases same : b = a
  · subst same
    have stored : m.lookup b = some y := mem_entries_iff.mp listed
    rw [found] at stored
    simp [Option.some.inj stored]
  · simp [same]

theorem Related.mapVal {γ : Type v} {δ : Type w} {S : κ → γ → δ → Prop} {f : κ → α → γ}
    {g : κ → β → δ} (related : Related R m n) (each : ∀ a x y, R a x y → S a (f a x) (g a y)) :
    Related S (mapVal f m) (mapVal g n) where
  keys := by rw [keys_mapVal, keys_mapVal, related.keys]
  vals {a _ _} found found' := by
    rw [lookup_mapVal] at found found'
    obtain ⟨x, before, rfl⟩ := Option.map_eq_some_iff.mp found
    obtain ⟨y, before', rfl⟩ := Option.map_eq_some_iff.mp found'
    exact each a x y (related.vals before before')

theorem keys_filterVal (p : κ → α → Bool) (m : KeyedMap κ α) :
    (filterVal p m).keys = m.keys.filter (fun a => (m.lookup a).any (p a)) := by
  unfold filterVal AList.keys List.keys
  rw [List.filter_map]
  congr 1
  apply List.filter_congr
  intro entry listed
  have found : m.lookup entry.1 = some entry.2 := mem_entries_iff.mp listed
  simp [found]

theorem Related.filterVal {p : κ → α → Bool} {q : κ → β → Bool} (related : Related R m n)
    (agree : ∀ a x y, R a x y → p a x = q a y) :
    Related R (filterVal p m) (filterVal q n) where
  keys := by
    rw [keys_filterVal, keys_filterVal, related.keys]
    apply List.filter_congr
    intro a _
    rcases related.lookup a with ⟨none, none'⟩ | ⟨x, y, found, found', rel⟩
    · rw [none, none']
      rfl
    · rw [found, found']
      exact agree a x y rel
  vals found found' := by
    rw [lookup_filterVal, Option.filter_eq_some_iff] at found found'
    exact related.vals found.1 found'.1

end KeyedMap
