import Mathlib.Data.List.Basic

/-!
# Hand-written codecs over a wire

A wire takes values of several kinds in and gives them out again in the same order, each to a
reader that asks for its kind.  A codec writes the fields of a value one after the other and
reads them back in the order of its own; the value arrives when both list the same fields.
-/

set_option autoImplicit false

universe u v

/-- A first-in first-out store of values by kind.  A write may fail, as may a read of anything
but the first value. -/
structure Wire (σ : Type u) {κ : Type v} (Value : κ → Type) where
  write : (kind : κ) → Value kind → σ → Option σ
  read : (kind : κ) → σ → Option (Value kind × σ)
  items : σ → List (Σ kind, Value kind)
  items_write : ∀ {kind : κ} {value : Value kind} {s after : σ},
    write kind value s = some after → items after = items s ++ [⟨kind, value⟩]
  read_items : ∀ {kind : κ} {value : Value kind} {rest : List (Σ kind, Value kind)} {s : σ},
    items s = ⟨kind, value⟩ :: rest →
      ∃ after, read kind s = some (value, after) ∧ items after = rest

namespace Wire

variable {σ : Type u} {κ : Type v} {Value : κ → Type} {α β : Type}

abbrev Writer (σ : Type u) : Type u := σ → Option σ

abbrev Reader (σ : Type u) (α : Type) : Type u := σ → Option (α × σ)

variable (wire : Wire σ Value)

def put (kind : κ) (value : Value kind) (next : Writer σ) : Writer σ := fun s =>
  (wire.write kind value s).bind next

def get (kind : κ) (next : Value kind → Reader σ α) : Reader σ α := fun s =>
  (wire.read kind s).bind (fun result => next result.1 result.2)

def Accepts : Prop :=
  ∀ (kind : κ) (value : Value kind) (s : σ), ∃ after, wire.write kind value s = some after

/-- The writer appends these items where it succeeds, and it fails only with a write. -/
structure Writes (writer : Writer σ) (sent : List (Σ kind, Value kind)) : Prop where
  appends : ∀ ⦃s after : σ⦄, writer s = some after → wire.items after = wire.items s ++ sent
  completes : wire.Accepts → ∀ s, ∃ after, writer s = some after

def Reads (reader : Reader σ α) (sent : List (Σ kind, Value kind)) (value : α) : Prop :=
  ∀ ⦃s : σ⦄ ⦃rest : List (Σ kind, Value kind)⦄, wire.items s = sent ++ rest →
    ∃ after, reader s = some (value, after) ∧ wire.items after = rest

/-- Whatever the writer has put on a wire, the reader finds this value at the front of it. -/
def Delivers (writer : Writer σ) (reader : Reader σ α) (value : α) : Prop :=
  ∀ ⦃s after arrived : σ⦄ ⦃sent rest : List (Σ kind, Value kind)⦄, writer s = some after →
    wire.items after = wire.items s ++ sent → wire.items arrived = sent ++ rest →
      ∃ left, reader arrived = some (value, left) ∧ wire.items left = rest

/-- The writer succeeds where every write does, and what it has put on a wire is delivered. -/
structure Carries (writer : Writer σ) (reader : Reader σ α) (value : α) : Prop where
  completes : wire.Accepts → ∀ s, ∃ after, writer s = some after
  delivers : wire.Delivers writer reader value

variable {wire}

theorem writes_done : wire.Writes some [] where
  appends s after written := by simp [Option.some.inj written]
  completes _ s := ⟨s, rfl⟩

theorem Writes.put {kind : κ} {value : Value kind} {next : Writer σ}
    {sent : List (Σ kind, Value kind)} (writes : wire.Writes next sent) :
    wire.Writes (wire.put kind value next) (⟨kind, value⟩ :: sent) where
  appends s after written := by
    obtain ⟨middle, first, later⟩ := Option.bind_eq_some_iff.mp written
    rw [writes.appends later, wire.items_write first, List.append_assoc, List.singleton_append]
  completes accepts s := by
    obtain ⟨middle, first⟩ := accepts kind value s
    obtain ⟨after, later⟩ := writes.completes accepts middle
    exact ⟨after, Option.bind_eq_some_iff.mpr ⟨middle, first, later⟩⟩

theorem reads_done (value : α) : wire.Reads (fun s => some (value, s)) [] value := by
  intro s rest front
  exact ⟨s, rfl, front⟩

theorem Reads.get {kind : κ} {value : Value kind} {next : Value kind → Reader σ α}
    {sent : List (Σ kind, Value kind)} {result : α} (reads : wire.Reads (next value) sent result) :
    wire.Reads (wire.get kind next) (⟨kind, value⟩ :: sent) result := by
  intro s rest front
  obtain ⟨middle, taken, left⟩ := wire.read_items front
  obtain ⟨after, finished, remaining⟩ := reads left
  refine ⟨after, ?_, remaining⟩
  simp [Wire.get, taken, finished]

theorem Writes.carries {writer : Writer σ} {reader : Reader σ α}
    {sent : List (Σ kind, Value kind)} {value : α} (writes : wire.Writes writer sent)
    (reads : wire.Reads reader sent value) : wire.Carries writer reader value := by
  refine ⟨writes.completes, ?_⟩
  intro s after arrived put rest written appended front
  have same : put = sent :=
    List.append_cancel_left (appended.symm.trans (writes.appends written))
  rw [same] at front
  exact reads front

def ofList [DecidableEq κ] : Wire (List (Σ kind, Value kind)) Value where
  write kind value s := some (s ++ [⟨kind, value⟩])
  read
    | _, [] => none
    | kind, item :: rest => if same : item.1 = kind then some (same ▸ item.2, rest) else none
  items s := s
  items_write written := (Option.some.inj written).symm
  read_items front := by
    subst front
    exact ⟨_, by simp, rfl⟩

theorem accepts_ofList [DecidableEq κ] : (@Wire.ofList κ Value _).Accepts :=
  fun _ _ _ => ⟨_, rfl⟩

end Wire
