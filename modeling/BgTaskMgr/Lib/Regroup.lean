import BgTaskMgr.Lib.MapLoop

/-!
# Names given in one pass

A pass over a list gives each element a name: an element whose id is new gets a name of its
own, and one whose id is known takes the last name that was given.  `names_keep_groups_iff`
says when the names tell the same groups apart as before the pass.
-/

set_option autoImplicit false

universe u v w x

namespace Regroup

variable {α : Type u} {ι : Type v} {π : Type w} {γ : Type x} [DecidableEq ι]

/-- The pass, with the last name that was given and the ids that are known. -/
def assign (idOf : α → ι) (fresh : α → π) (last : π) (known : List ι) : List α → List (α × π)
  | [] => []
  | head :: rest =>
      if idOf head ∈ known then (head, last) :: assign idOf fresh last known rest
      else (head, fresh head) :: assign idOf fresh (fresh head) (known ++ [idOf head]) rest

/-- Elements with one id stand together. -/
def Together (idOf : α → ι) (elements : List α) : Prop :=
  ∀ earlier element later, elements = earlier ++ element :: later →
    (∃ other ∈ earlier, idOf other = idOf element) →
      ∃ other ∈ earlier.getLast?, idOf other = idOf element

def TogetherAfter (idOf : α → ι) (last : ι) (known : List ι) : List α → Prop
  | [] => True
  | head :: rest =>
      if idOf head ∈ known then idOf head = last ∧ TogetherAfter idOf last known rest
      else TogetherAfter idOf (idOf head) (known ++ [idOf head]) rest

instance decidableTogetherAfter (idOf : α → ι) (last : ι) (known : List ι) :
    (elements : List α) → Decidable (TogetherAfter idOf last known elements)
  | [] => isTrue trivial
  | head :: rest =>
      if old : idOf head ∈ known then
        have := decidableTogetherAfter idOf last known rest
        decidable_of_iff (idOf head = last ∧ TogetherAfter idOf last known rest) (by
          rw [TogetherAfter, if_pos old])
      else
        have := decidableTogetherAfter idOf (idOf head) (known ++ [idOf head]) rest
        decidable_of_iff (TogetherAfter idOf (idOf head) (known ++ [idOf head]) rest) (by
          rw [TogetherAfter, if_neg old])

section Pass

variable {idOf : α → ι} {fresh : α → π} {last : π} {known : List ι} {elements : List α}

theorem map_fst_assign : (assign idOf fresh last known elements).map Prod.fst = elements := by
  induction elements generalizing last known with
  | nil => rfl
  | cons head rest ih =>
      unfold assign
      split
      · rw [List.map_cons, ih]
      · rw [List.map_cons, ih]

theorem mem_of_mem_assign {named : α × π} (member : named ∈ assign idOf fresh last known elements) :
    named.1 ∈ elements := by
  have listed := List.mem_map_of_mem (f := Prod.fst) member
  rwa [map_fst_assign] at listed

theorem exists_mem_assign {element : α} (member : element ∈ elements) :
    ∃ named ∈ assign idOf fresh last known elements, named.1 = element := by
  rw [← @map_fst_assign _ _ _ _ idOf fresh last known elements] at member
  exact List.mem_map.mp member

theorem togetherAfter_iff {lastId : ι} : TogetherAfter idOf lastId known elements ↔
    ∀ earlier element later, elements = earlier ++ element :: later →
      (idOf element ∈ known ∨ ∃ other ∈ earlier, idOf other = idOf element) →
        (earlier.map idOf).getLast?.getD lastId = idOf element := by
  induction elements generalizing lastId known with
  | nil =>
      refine iff_of_true trivial ?_
      intro earlier element later split
      simp at split
  | cons head rest ih =>
      rw [List.forall_split_cons]
      unfold TogetherAfter
      simp only [List.map_nil, List.getLast?_nil, Option.getD_none, List.not_mem_nil, false_and,
        exists_false, or_false, List.map_cons, List.getLast?_cons, Option.getD_some,
        List.mem_cons, exists_eq_or_imp]
      split
      · rename_i old
        rw [ih]
        constructor
        · rintro ⟨rfl, others⟩
          refine ⟨fun _ => rfl, ?_⟩
          intro earlier element later split seen
          refine others earlier element later split ?_
          rcases seen with before | same | after
          · exact Or.inl before
          · exact Or.inl (same ▸ old)
          · exact Or.inr after
        · rintro ⟨first, others⟩
          refine ⟨(first old).symm, ?_⟩
          intro earlier element later split seen
          rw [first old]
          refine others earlier element later split ?_
          rcases seen with before | after
          · exact Or.inl before
          · exact Or.inr (Or.inr after)
      · rename_i new
        rw [ih]
        simp only [List.mem_append, List.mem_singleton, new, false_implies, true_and, or_assoc,
          eq_comm]

/-- Without ids before it, elements with one id stand together in the list alone. -/
theorem together_iff (lastId : ι) :
    Together idOf elements ↔ TogetherAfter idOf lastId [] elements := by
  rw [togetherAfter_iff]
  unfold Together
  refine forall_congr' fun earlier => forall_congr' fun element => forall_congr' fun later =>
    forall_congr' fun split => ?_
  simp only [List.not_mem_nil, false_or, List.getLast?_map]
  refine imp_congr_right ?_
  rintro ⟨other, member, same⟩
  cases ends : earlier.getLast? with
  | none =>
      rw [List.getLast?_eq_none_iff.mp ends] at member
      exact absurd member (by simp)
  | some before => simp

variable {idOfName : π → ι} (named : ∀ element, idOfName (fresh element) = idOf element)

include named

/-- When ids stand together, a name is one for the id of its element, and a known id has the
last name. -/
theorem name_of_together (together : TogetherAfter idOf (idOfName last) known elements) :
    ∀ given ∈ assign idOf fresh last known elements, idOfName given.2 = idOf given.1 ∧
      (idOf given.1 ∈ known → given.2 = last) := by
  induction elements generalizing last known with
  | nil => simp [assign]
  | cons head rest ih =>
      intro given member
      unfold TogetherAfter at together
      unfold assign at member
      split at member
      · rename_i old
        rw [if_pos old] at together
        rcases List.mem_cons.mp member with rfl | later
        · exact ⟨together.1.symm, fun _ => rfl⟩
        · exact ih together.2 given later
      · rename_i new
        rw [if_neg new, ← named head] at together
        rcases List.mem_cons.mp member with rfl | later
        · exact ⟨named head, fun old => absurd old new⟩
        · rw [named head] at together
          obtain ⟨own, taken⟩ := ih (named head ▸ together) given later
          refine ⟨own, ?_⟩
          intro old
          -- the last name is that of another id
          have last := taken (List.mem_append_left _ old)
          rw [last, named] at own
          exact absurd (own ▸ old) new

theorem names_eq_of_together (together : TogetherAfter idOf (idOfName last) known elements) :
    ∀ first ∈ assign idOf fresh last known elements,
      ∀ second ∈ assign idOf fresh last known elements,
        idOf first.1 = idOf second.1 → first.2 = second.2 := by
  induction elements generalizing last known with
  | nil => simp [assign]
  | cons head rest ih =>
      have whole := name_of_together named together
      unfold TogetherAfter at together
      unfold assign at whole ⊢
      split at together
      · rename_i old
        rw [if_pos old] at whole ⊢
        -- a later element with the id of the head has the last name too
        have shares : ∀ given ∈ assign idOf fresh last known rest, idOf given.1 = idOf head →
            given.2 = last := by
          intro given later same
          exact (whole given (List.mem_cons_of_mem _ later)).2 (same ▸ old)
        intro first firstMember second secondMember same
        rcases List.mem_cons.mp firstMember with rfl | firstLater
        · rcases List.mem_cons.mp secondMember with rfl | secondLater
          · rfl
          · exact (shares second secondLater same.symm).symm
        · rcases List.mem_cons.mp secondMember with rfl | secondLater
          · exact shares first firstLater same
          · exact ih together.2 first firstLater second secondLater same
      · rename_i new
        rw [if_neg new]
        rw [← named head] at together
        have shares : ∀ given ∈ assign idOf fresh (fresh head) (known ++ [idOf head]) rest,
            idOf given.1 = idOf head → given.2 = fresh head := by
          intro given later same
          rw [named head] at together
          refine (name_of_together named (named head ▸ together) given later).2 ?_
          simp [same]
        intro first firstMember second secondMember same
        rcases List.mem_cons.mp firstMember with rfl | firstLater
        · rcases List.mem_cons.mp secondMember with rfl | secondLater
          · rfl
          · exact (shares second secondLater same.symm).symm
        · rcases List.mem_cons.mp secondMember with rfl | secondLater
          · exact shares first firstLater same
          · rw [named head] at together
            exact ih (named head ▸ together) first firstLater second secondLater same

theorem together_of_names
    (apart : ∀ first ∈ assign idOf fresh last known elements,
      ∀ second ∈ assign idOf fresh last known elements,
        first.2 = second.2 → idOf first.1 = idOf second.1)
    (before : known ≠ [] → ∀ given ∈ assign idOf fresh last known elements,
      given.2 = last → idOf given.1 = idOfName last) :
    TogetherAfter idOf (idOfName last) known elements := by
  induction elements generalizing last known with
  | nil => trivial
  | cons head rest ih =>
      unfold TogetherAfter
      unfold assign at apart before
      split
      · rename_i old
        rw [if_pos old] at apart before
        have some := before (List.ne_nil_of_mem old)
        refine ⟨some _ List.mem_cons_self rfl, ih ?_ ?_⟩
        · intro first firstLater second secondLater
          exact apart first (List.mem_cons_of_mem _ firstLater) second
            (List.mem_cons_of_mem _ secondLater)
        · intro _ given later
          exact some given (List.mem_cons_of_mem _ later)
      · rename_i new
        rw [if_neg new] at apart
        have apartLater :
            TogetherAfter idOf (idOfName (fresh head)) (known ++ [idOf head]) rest := by
          refine ih ?_ ?_
          · intro first firstLater second secondLater
            exact apart first (List.mem_cons_of_mem _ firstLater) second
              (List.mem_cons_of_mem _ secondLater)
          · intro _ given later same
            rw [named head]
            exact apart given (List.mem_cons_of_mem _ later) _ List.mem_cons_self same
        rwa [named head] at apartLater

/-- The names tell the same groups apart as before exactly when elements with one id stand
together and are in one group. -/
theorem names_keep_groups_iff {group : α → γ}
    (coarser : ∀ first second, group first = group second → idOf first = idOf second) :
    (∀ first ∈ assign idOf fresh last [] elements, ∀ second ∈ assign idOf fresh last [] elements,
      (first.2 = second.2 ↔ group first.1 = group second.1)) ↔
      Together idOf elements ∧ ∀ first ∈ elements, ∀ second ∈ elements,
        idOf first = idOf second → group first = group second := by
  rw [together_iff (idOfName last)]
  constructor
  · intro keeps
    have together : TogetherAfter idOf (idOfName last) [] elements := by
      refine together_of_names named ?_ (fun some => absurd rfl some)
      intro first firstMember second secondMember same
      exact coarser _ _ ((keeps first firstMember second secondMember).mp same)
    refine ⟨together, ?_⟩
    intro first firstMember second secondMember same
    obtain ⟨firstNamed, firstGiven, rfl⟩ := @exists_mem_assign _ _ _ _ idOf fresh last []
      elements _ firstMember
    obtain ⟨secondNamed, secondGiven, rfl⟩ := @exists_mem_assign _ _ _ _ idOf fresh last []
      elements _ secondMember
    exact (keeps _ firstGiven _ secondGiven).mp
      (names_eq_of_together named together _ firstGiven _ secondGiven same)
  · rintro ⟨together, grouped⟩ first firstMember second secondMember
    constructor
    · intro same
      refine grouped _ (mem_of_mem_assign firstMember) _ (mem_of_mem_assign secondMember) ?_
      rw [← (name_of_together named together first firstMember).1, same]
      exact (name_of_together named together second secondMember).1
    · intro same
      exact names_eq_of_together named together first firstMember second secondMember
        (coarser _ _ same)

end Pass

end Regroup
