import BgTaskMgr.Lib.KeyedMap

/-!
# Loops over a keyed map

A loop visits the keys of a map that is part of the state in their iteration order; its
body may change the state, erase the entry it stands on or change its value.  An entry
that is gone when its turn comes is skipped.  `forEach_invariant` is the rule for what
every iteration keeps; when the body leaves the other entries alone,
`forEach_untouched` also hands each iteration the value its entry had at the start, and
`forEach_settles` is the rule for what each iteration settles about its own entry.
`lookup_forEach` says what a loop makes of the map and `forEach_prunes` what is left of a
fact that some iterations end.
-/

set_option autoImplicit false

universe u v w

theorem List.forall_split_cons {α : Type u} {P : List α → α → List α → Prop} {head : α}
    {rest : List α} :
    (∀ earlier entry later, head :: rest = earlier ++ entry :: later → P earlier entry later) ↔
      P [] head rest ∧ ∀ earlier entry later, rest = earlier ++ entry :: later →
        P (head :: earlier) entry later := by
  constructor
  · intro every
    refine ⟨every [] head rest rfl, ?_⟩
    intro earlier entry later split
    exact every (head :: earlier) entry later (by rw [split]; rfl)
  · rintro ⟨first, others⟩ earlier entry later split
    cases earlier with
    | nil =>
        obtain ⟨rfl, rfl⟩ := List.cons.inj split
        exact first
    | cons _ earlier =>
        obtain ⟨rfl, split'⟩ := List.cons.inj split
        exact others earlier entry later split'

theorem List.exists_split_concat {α : Type u} {P : List α → α → Prop} (front : List α)
    (last : α) :
    (∃ earlier entry later, front ++ [last] = earlier ++ entry :: later ∧ P earlier entry) ↔
      (∃ earlier entry later, front = earlier ++ entry :: later ∧ P earlier entry) ∨
        P front last := by
  constructor
  · rintro ⟨earlier, entry, later, split, holds⟩
    obtain rfl | ⟨between, final, rfl⟩ := List.eq_nil_or_concat later
    · obtain ⟨fronts, lasts⟩ := List.append_inj' split rfl
      rw [fronts, List.singleton_inj.mp lasts]
      exact .inr holds
    · rw [List.concat_eq_append, ← List.cons_append, ← List.append_assoc] at split
      exact .inl ⟨earlier, entry, between, (List.append_inj' split rfl).1, holds⟩
  · rintro (⟨earlier, entry, later, rfl, holds⟩ | holds)
    · exact ⟨earlier, entry, later ++ [last], by simp, holds⟩
    · exact ⟨front, last, [], rfl, holds⟩

namespace KeyedMap

variable {σ : Type u} {κ : Type v} {α : Type w} [DecidableEq κ]

/-- One iteration, skipped when the entry is gone. -/
def visit (entries : σ → KeyedMap κ α) (body : κ → α → σ → σ) (s : σ) (k : κ) : σ :=
  match (entries s).lookup k with
  | none => s
  | some x => body k x s

/-- The loop over the keys present at its start. -/
def forEach (entries : σ → KeyedMap κ α) (body : κ → α → σ → σ) (s : σ) : σ :=
  (entries s).keys.foldl (visit entries body) s

theorem foldl_visit_invariant {entries : σ → KeyedMap κ α} {body : κ → α → σ → σ}
    {inv : σ → Prop} (keys : List κ)
    (step : ∀ k ∈ keys, ∀ x s, (entries s).lookup k = some x → inv s → inv (body k x s))
    (s : σ) (start : inv s) : inv (keys.foldl (visit entries body) s) := by
  induction keys generalizing s with
  | nil => exact start
  | cons k rest ih =>
      refine ih (fun later member => step later (List.mem_cons_of_mem k member))
        (visit entries body s k) ?_
      unfold visit
      split
      · exact start
      · rename_i x found
        exact step k List.mem_cons_self x s found start

/-- What each iteration keeps, the loop keeps. -/
theorem forEach_invariant {entries : σ → KeyedMap κ α} {body : κ → α → σ → σ}
    {inv : σ → Prop}
    (step : ∀ k x s, (entries s).lookup k = some x → inv s → inv (body k x s))
    (s : σ) (start : inv s) : inv (forEach entries body s) :=
  foldl_visit_invariant (entries s).keys (fun k _ => step k) s start

/-- The body changes no entry besides the one it stands on. -/
def Local (entries : σ → KeyedMap κ α) (body : κ → α → σ → σ) : Prop :=
  ∀ k x s, (entries s).lookup k = some x →
    ∀ k', k' ≠ k → (entries (body k x s)).lookup k' = (entries s).lookup k'

theorem lookup_visit {entries : σ → KeyedMap κ α} {body : κ → α → σ → σ}
    (bodyLocal : Local entries body) (s : σ) {k k' : κ} (other : k' ≠ k) :
    (entries (visit entries body s k)).lookup k' = (entries s).lookup k' := by
  unfold visit
  split
  · rfl
  · rename_i x found
    exact bodyLocal k x s found k' other

theorem foldl_visit_untouched {entries : σ → KeyedMap κ α} {body : κ → α → σ → σ}
    {inv : σ → Prop} (bodyLocal : Local entries body) (s₀ : σ)
    (step : ∀ k x s, (entries s₀).lookup k = some x → (entries s).lookup k = some x →
      inv s → inv (body k x s))
    (keys : List κ) (distinct : keys.Nodup) (s : σ) (start : inv s)
    (untouched : ∀ k ∈ keys, (entries s).lookup k = (entries s₀).lookup k) :
    inv (keys.foldl (visit entries body) s) := by
  induction keys generalizing s with
  | nil => exact start
  | cons k rest ih =>
      obtain ⟨fresh, distinctRest⟩ := List.nodup_cons.mp distinct
      refine ih distinctRest (visit entries body s k) ?_ ?_
      · have here := untouched k List.mem_cons_self
        unfold visit
        split
        · exact start
        · rename_i x found
          exact step k x s (here ▸ found) found start
      · intro k' later
        have other : k' ≠ k := by
          intro same
          exact fresh (same ▸ later)
        rw [lookup_visit bodyLocal s other]
        exact untouched k' (List.mem_cons_of_mem k later)

/-- With a local body, each iteration finds the value its entry had at the start. -/
theorem forEach_untouched {entries : σ → KeyedMap κ α} {body : κ → α → σ → σ}
    {inv : σ → Prop} (bodyLocal : Local entries body) (s₀ : σ)
    (step : ∀ k x s, (entries s₀).lookup k = some x → (entries s).lookup k = some x →
      inv s → inv (body k x s))
    (start : inv s₀) : inv (forEach entries body s₀) :=
  foldl_visit_untouched bodyLocal s₀ step (entries s₀).keys (entries s₀).nodupKeys s₀ start
    (fun _ _ => rfl)

theorem foldl_visit_settles {entries : σ → KeyedMap κ α} {body : κ → α → σ → σ}
    {inv : σ → Prop} {done : σ → Prop} (bodyLocal : Local entries body)
    (step : ∀ k x s, (entries s).lookup k = some x → inv s → inv (body k x s))
    (k : κ) (x : α)
    (settle : ∀ s, (entries s).lookup k = some x → inv s → done (body k x s))
    (keep : ∀ k' x' s, k' ≠ k → (entries s).lookup k' = some x' → inv s → done s →
      done (body k' x' s))
    (keys : List κ) (distinct : keys.Nodup) (listed : k ∈ keys) (s : σ) (start : inv s)
    (untouched : (entries s).lookup k = some x) :
    done (keys.foldl (visit entries body) s) := by
  induction keys generalizing s with
  | nil => exact absurd listed (by simp)
  | cons head rest ih =>
      obtain ⟨fresh, distinctRest⟩ := List.nodup_cons.mp distinct
      rcases List.mem_cons.mp listed with here | later
      · subst here
        have now : visit entries body s k = body k x s := by
          unfold visit
          rw [untouched]
        have settled : inv (visit entries body s k) ∧ done (visit entries body s k) := by
          rw [now]
          exact ⟨step k x s untouched start, settle s untouched start⟩
        -- the key does not come again, so the rest of the loop keeps what is settled
        have both : ∀ k' ∈ rest, ∀ x' s, (entries s).lookup k' = some x' → inv s ∧ done s →
            inv (body k' x' s) ∧ done (body k' x' s) := by
          intro k' member x' s found held
          have other : k' ≠ k := by
            intro same
            exact fresh (same ▸ member)
          exact ⟨step k' x' s found held.1, keep k' x' s other found held.1 held.2⟩
        exact (foldl_visit_invariant rest both _ settled).2
      · have other : k ≠ head := by
          intro same
          exact fresh (same ▸ later)
        have visited : inv (visit entries body s head) := by
          unfold visit
          split
          · exact start
          · rename_i x' found
            exact step head x' s found start
        exact ih distinctRest later (visit entries body s head) visited
          ((lookup_visit bodyLocal s other).trans untouched)

/-- What the iteration of an entry settles and the iterations of other entries keep, holds
after the loop. -/
theorem forEach_settles {entries : σ → KeyedMap κ α} {body : κ → α → σ → σ}
    {inv : σ → Prop} (done : σ → Prop) (bodyLocal : Local entries body)
    (step : ∀ k x s, (entries s).lookup k = some x → inv s → inv (body k x s))
    (k : κ) (x : α)
    (settle : ∀ s, (entries s).lookup k = some x → inv s → done (body k x s))
    (keep : ∀ k' x' s, k' ≠ k → (entries s).lookup k' = some x' → inv s → done s →
      done (body k' x' s))
    (s₀ : σ) (start : inv s₀) (present : (entries s₀).lookup k = some x) :
    done (forEach entries body s₀) :=
  foldl_visit_settles bodyLocal step k x settle keep (entries s₀).keys (entries s₀).nodupKeys
    (AList.mem_keys.mp (mem_iff_lookup.mpr ⟨x, present⟩)) s₀ start present

/-- The map after a loop whose iterations make `change k x` of their own entry. -/
theorem lookup_forEach {entries : σ → KeyedMap κ α} {body : κ → α → σ → σ}
    (inv : σ → Prop) {change : κ → α → Option α} (bodyLocal : Local entries body)
    (step : ∀ k x s, (entries s).lookup k = some x → inv s → inv (body k x s))
    (own : ∀ k x s, (entries s).lookup k = some x → inv s →
      (entries (body k x s)).lookup k = change k x)
    (s₀ : σ) (start : inv s₀) (k : κ) :
    (entries (forEach entries body s₀)).lookup k = ((entries s₀).lookup k).bind (change k) := by
  cases present : (entries s₀).lookup k with
  | none =>
      have absent : ∀ k' x' s, (entries s).lookup k' = some x' → (entries s).lookup k = none →
          (entries (body k' x' s)).lookup k = none := by
        intro k' x' s found none
        have other : k ≠ k' := by
          intro same
          rw [same] at none
          exact absurd (none.symm.trans found) (by simp)
        exact (bodyLocal k' x' s found k other).trans none
      exact forEach_invariant absent s₀ present
  | some x =>
      refine forEach_settles (fun s => (entries s).lookup k = change k x) bodyLocal step k x
        (fun s found held => own k x s found held) ?_ s₀ start present
      intro k' x' s other found _ done
      exact (bodyLocal k' x' s found k other.symm).trans done

theorem foldl_visit_prunes {entries : σ → KeyedMap κ α} {body : κ → α → σ → σ}
    {inv : σ → Prop} {holds : σ → Prop} {cut : κ → α → Prop} (bodyLocal : Local entries body)
    (step : ∀ k x s, (entries s).lookup k = some x → inv s → inv (body k x s))
    (prune : ∀ k x s, (entries s).lookup k = some x → inv s →
      (holds (body k x s) ↔ holds s ∧ ¬ cut k x))
    (keys : List κ) (distinct : keys.Nodup) (s : σ) (start : inv s) :
    holds (keys.foldl (visit entries body) s) ↔
      holds s ∧ ∀ k ∈ keys, ∀ x, (entries s).lookup k = some x → ¬ cut k x := by
  induction keys generalizing s with
  | nil => simp
  | cons head rest ih =>
      obtain ⟨fresh, distinctRest⟩ := List.nodup_cons.mp distinct
      -- the other entries are as they were before this iteration
      have later : ∀ k ∈ rest, (entries (visit entries body s head)).lookup k =
          (entries s).lookup k := by
        intro k member
        refine lookup_visit bodyLocal s ?_
        intro same
        exact fresh (same ▸ member)
      have now : inv (visit entries body s head) ∧ (holds (visit entries body s head) ↔
          holds s ∧ ∀ x, (entries s).lookup head = some x → ¬ cut head x) := by
        unfold visit
        split
        · rename_i gone
          simp [start, gone]
        · rename_i x found
          refine ⟨step head x s found start, ?_⟩
          rw [prune head x s found start]
          simp [found]
      rw [List.foldl_cons, ih distinctRest (visit entries body s head) now.1, now.2]
      constructor
      · rintro ⟨⟨held, first⟩, others⟩
        refine ⟨held, ?_⟩
        intro k member x found
        rcases List.mem_cons.mp member with rfl | inRest
        · exact first x found
        · exact others k inRest x ((later k inRest).trans found)
      · rintro ⟨held, all⟩
        refine ⟨⟨held, all head List.mem_cons_self⟩, ?_⟩
        intro k member x found
        exact all k (List.mem_cons_of_mem head member) x ((later k member).symm.trans found)

/-- A fact that holds after the loop held before, and no iteration ended it. -/
theorem forEach_prunes {entries : σ → KeyedMap κ α} {body : κ → α → σ → σ}
    {inv : σ → Prop} (holds : σ → Prop) (cut : κ → α → Prop) (bodyLocal : Local entries body)
    (step : ∀ k x s, (entries s).lookup k = some x → inv s → inv (body k x s))
    (prune : ∀ k x s, (entries s).lookup k = some x → inv s →
      (holds (body k x s) ↔ holds s ∧ ¬ cut k x))
    (s₀ : σ) (start : inv s₀) :
    holds (forEach entries body s₀) ↔
      holds s₀ ∧ ∀ k x, (entries s₀).lookup k = some x → ¬ cut k x := by
  have folded := foldl_visit_prunes bodyLocal step prune (entries s₀).keys (entries s₀).nodupKeys
    s₀ start
  unfold forEach
  rw [folded]
  refine and_congr_right (fun _ => ?_)
  constructor
  · intro listed k x found
    exact listed k (AList.mem_keys.mp (mem_iff_lookup.mpr ⟨x, found⟩)) x found
  · intro all k _ x found
    exact all k x found

end KeyedMap
