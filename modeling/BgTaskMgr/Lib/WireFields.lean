import BgTaskMgr.Lib.Wire

/-!
# Optional fields and cut messages

A flag before a field says whether the field follows.  A reader may take a flag with a default
where nothing is left, and then a message that is cut before the flag can pass for a shorter
one; `Cuts` lists where that happens.
-/

set_option autoImplicit false

universe u v

namespace Wire

variable {σ : Type u} {κ : Type v} {Value : κ → Type} {α β : Type}

def putSome (field : Option β) (write : β → Writer σ → Writer σ) (next : Writer σ) : Writer σ :=
  match field with
  | none => next
  | some x => write x next

/-- Reads a field if the flag says so, and goes on with what there is. -/
def getSome (present : Bool) (read : (β → Reader σ α) → Reader σ α)
    (next : Option β → Reader σ α) : Reader σ α :=
  if present then read (fun x => next (some x)) else next none

variable (wire : Wire σ Value)

/-- Reads one field, takes the default where the read fails, and goes on with it. -/
def getD (kind : κ) (default : Value kind) (next : Value kind → Reader σ α) : Reader σ α := fun s =>
  match wire.read kind s with
  | none => next default s
  | some result => next result.1 result.2

def fieldItems (items : β → List (Σ kind, Value kind)) (field : Option β) :
    List (Σ kind, Value kind) :=
  match field with
  | none => []
  | some x => items x

variable {wire} {sent : List (Σ kind, Value kind)} {items : β → List (Σ kind, Value kind)}

theorem Writes.putSome {field : Option β} {write : β → Writer σ → Writer σ} {next : Writer σ}
    (each : ∀ x, wire.Writes next sent → wire.Writes (write x next) (items x ++ sent))
    (writes : wire.Writes next sent) :
    wire.Writes (putSome field write next) (fieldItems items field ++ sent) := by
  cases field with
  | none => exact writes
  | some x => exact each x writes

theorem Reads.getSome {field : Option β} {read : (β → Reader σ α) → Reader σ α}
    {next : Option β → Reader σ α} {result : α}
    (each : ∀ x, wire.Reads (next (some x)) sent result →
      wire.Reads (read fun x => next (some x)) (items x ++ sent) result)
    (reads : wire.Reads (next field) sent result) :
    wire.Reads (getSome field.isSome read next) (fieldItems items field ++ sent) result := by
  cases field with
  | none => exact reads
  | some x => exact each x reads

theorem Writes.putSome_put (wire : Wire σ Value) (kind : κ) (field : Option (Value kind))
    {next : Writer σ} (writes : wire.Writes next sent) :
    wire.Writes (Wire.putSome field (wire.put kind) next)
      (fieldItems (fun x => [⟨kind, x⟩]) field ++ sent) :=
  Writes.putSome (fun _ here => Writes.put here) writes

theorem Reads.getSome_get (wire : Wire σ Value) (kind : κ) (field : Option (Value kind))
    {present : Bool} (flag : present = field.isSome) {next : Option (Value kind) → Reader σ α}
    {result : α}
    (reads : wire.Reads (next field) sent result) :
    wire.Reads (Wire.getSome present (wire.get kind) next)
      (fieldItems (fun x => [⟨kind, x⟩]) field ++ sent) result :=
  flag ▸ Reads.getSome (fun _ here => Reads.get here) reads

theorem getD_front {kind : κ} {value default : Value kind} {next : Value kind → Reader σ α}
    {s : σ} {rest : List (Σ kind, Value kind)} (front : wire.items s = ⟨kind, value⟩ :: rest) :
    ∃ after, wire.getD kind default next s = next value after ∧ wire.items after = rest := by
  obtain ⟨after, taken, left⟩ := wire.read_items front
  exact ⟨after, by simp [getD, taken], left⟩

theorem get_front {kind : κ} {value : Value kind} {next : Value kind → Reader σ α} {s : σ}
    {rest : List (Σ kind, Value kind)} (front : wire.items s = ⟨kind, value⟩ :: rest) :
    ∃ after, wire.get kind next s = next value after ∧ wire.items after = rest := by
  obtain ⟨after, taken, left⟩ := wire.read_items front
  exact ⟨after, by simp [get, taken], left⟩

theorem Reads.getD {kind : κ} {value default : Value kind} {next : Value kind → Reader σ α}
    {result : α} (reads : wire.Reads (next value) sent result) :
    wire.Reads (wire.getD kind default next) (⟨kind, value⟩ :: sent) result := by
  intro s rest front
  obtain ⟨middle, taken, left⟩ : ∃ after, wire.getD kind default next s = next value after ∧
      wire.items after = sent ++ rest := getD_front front
  obtain ⟨after, finished, remaining⟩ := reads left
  exact ⟨after, taken.trans finished, remaining⟩

/-! ## Cut messages -/

/-- A read fails where nothing is left. -/
def Exhausts (wire : Wire σ Value) : Prop :=
  ∀ ⦃kind : κ⦄ ⦃s : σ⦄, wire.items s = [] → wire.read kind s = none

/-- The reader of these items rejects what is left of them after a cut, unless the part cut off
is one of the gaps. -/
structure Cuts (wire : Wire σ Value) (reader : Reader σ α) (sent : List (Σ kind, Value kind))
    (gaps : List (List (Σ kind, Value kind))) : Prop where
  inside : ∀ gap ∈ gaps, gap <:+ sent
  rejects : ∀ ⦃kept lost : List (Σ kind, Value kind)⦄ ⦃s : σ⦄, kept ++ lost = sent → lost ≠ [] →
    wire.items s = kept → (reader s = none ↔ lost ∉ gaps)

/-- The reader rejects what is left after a cut of what the writer has put on a wire, unless the
part cut off is one of the gaps. -/
def RejectsCuts (wire : Wire σ Value) (writer : Writer σ) (reader : Reader σ α)
    (gaps : List (List (Σ kind, Value kind))) : Prop :=
  ∀ ⦃s after arrived : σ⦄ ⦃kept lost : List (Σ kind, Value kind)⦄, writer s = some after →
    wire.items after = wire.items s ++ (kept ++ lost) → lost ≠ [] → wire.items arrived = kept →
      (reader arrived = none ↔ lost ∉ gaps)

theorem cuts_done (reader : Reader σ α) : wire.Cuts reader [] [] where
  inside _ member := absurd member List.not_mem_nil
  rejects _ _ _ whole some _ := absurd (List.append_eq_nil_iff.mp whole).2 some

variable {gaps : List (List (Σ kind, Value kind))} {item : Σ kind, Value kind}
  {reader later : Reader σ α}

/-- One more item in front, which the reader takes and does not do without. -/
theorem Cuts.cons (cuts : wire.Cuts later sent gaps)
    (taken : ∀ ⦃s kept⦄, wire.items s = item :: kept →
      ∃ after, reader s = later after ∧ wire.items after = kept)
    (needed : ∀ ⦃s⦄, wire.items s = [] → reader s = none) :
    wire.Cuts reader (item :: sent) gaps where
  inside gap member := (cuts.inside gap member).trans (List.suffix_cons _ _)
  rejects kept lost s whole some held := by
    cases kept with
    | nil =>
        obtain rfl : lost = item :: sent := whole
        refine iff_of_true (needed held) ?_
        intro member
        have short := (cuts.inside _ member).length_le
        rw [List.length_cons] at short
        omega
    | cons first kept =>
        obtain ⟨rfl, rest⟩ := List.cons.inj whole
        obtain ⟨after, same, left⟩ := taken held
        rw [same]
        exact cuts.rejects rest some left

/-- One more item in front, which the reader does without: the cut before it is a gap. -/
theorem Cuts.cons_gap (cuts : wire.Cuts later sent gaps)
    (taken : ∀ ⦃s kept⦄, wire.items s = item :: kept →
      ∃ after, reader s = later after ∧ wire.items after = kept)
    (spared : ∀ ⦃s⦄, wire.items s = [] → reader s ≠ none) :
    wire.Cuts reader (item :: sent) ((item :: sent) :: gaps) where
  inside gap member := by
    rcases List.mem_cons.mp member with rfl | older
    · exact List.suffix_refl _
    · exact (cuts.inside gap older).trans (List.suffix_cons _ _)
  rejects kept lost s whole some held := by
    cases kept with
    | nil =>
        obtain rfl : lost = item :: sent := whole
        exact iff_of_false (spared held) (by simp)
    | cons first kept =>
        obtain ⟨rfl, rest⟩ := List.cons.inj whole
        have shorter : lost ≠ first :: sent := by
          intro same
          have lengths : kept.length + lost.length = sent.length := by
            rw [← List.length_append]
            exact congrArg List.length rest
          rw [same, List.length_cons] at lengths
          omega
        obtain ⟨after, same, left⟩ := taken held
        rw [same, List.mem_cons, not_or, and_iff_right shorter]
        exact cuts.rejects rest some left

section Fields

variable {kind : κ} {value default : Value kind} {next : Value kind → Reader σ α}
  (exhausts : wire.Exhausts)

include exhausts

theorem Cuts.get (cuts : wire.Cuts (next value) sent gaps) :
    wire.Cuts (wire.get kind next) (⟨kind, value⟩ :: sent) gaps := by
  apply cuts.cons (fun s kept front => get_front front)
  intro s empty
  simp [Wire.get, exhausts empty]

theorem Cuts.getD (cuts : wire.Cuts (next value) sent gaps)
    (rejected : ∀ ⦃s⦄, wire.items s = [] → next default s = none) :
    wire.Cuts (wire.getD kind default next) (⟨kind, value⟩ :: sent) gaps := by
  apply cuts.cons (fun s kept front => getD_front front)
  intro s empty
  simp [Wire.getD, exhausts empty, rejected empty]

theorem Cuts.getD_gap (cuts : wire.Cuts (next value) sent gaps)
    (accepted : ∀ ⦃s⦄, wire.items s = [] → next default s ≠ none) :
    wire.Cuts (wire.getD kind default next) (⟨kind, value⟩ :: sent)
      ((⟨kind, value⟩ :: sent) :: gaps) := by
  apply cuts.cons_gap (fun s kept front => getD_front front)
  intro s empty
  simp [Wire.getD, exhausts empty, accepted empty]

end Fields

theorem Cuts.getSome {field : Option β} {read : (β → Reader σ α) → Reader σ α}
    {next : Option β → Reader σ α}
    (each : ∀ x, wire.Cuts (next (some x)) sent gaps →
      wire.Cuts (read fun x => next (some x)) (items x ++ sent) gaps)
    (cuts : wire.Cuts (next field) sent gaps) :
    wire.Cuts (getSome field.isSome read next) (fieldItems items field ++ sent) gaps := by
  cases field with
  | none => exact cuts
  | some x => exact each x cuts

theorem Cuts.getSome_get (exhausts : wire.Exhausts) (kind : κ) (field : Option (Value kind))
    {present : Bool} (flag : present = field.isSome) {next : Option (Value kind) → Reader σ α}
    (cuts : wire.Cuts (next field) sent gaps) :
    wire.Cuts (Wire.getSome present (wire.get kind) next)
      (fieldItems (fun x => [⟨kind, x⟩]) field ++ sent) gaps :=
  flag ▸ Cuts.getSome (fun _ here => Cuts.get exhausts here) cuts

theorem Writes.rejectsCuts {writer : Writer σ} {reader : Reader σ α}
    (writes : wire.Writes writer sent) (cuts : wire.Cuts reader sent gaps) :
    wire.RejectsCuts writer reader gaps := by
  intro s after arrived kept lost written appended some held
  have whole : kept ++ lost = sent :=
    List.append_cancel_left (appended.symm.trans (writes.appends written))
  exact cuts.rejects whole some held

theorem exhausts_ofList [DecidableEq κ] : (@Wire.ofList κ Value _).Exhausts := by
  rintro kind s rfl
  rfl

end Wire
