import Mathlib.Data.Finset.Basic
import Mathlib.Data.Set.Insert

/-!
# Obituaries

A registry that wants to hear of the deaths of its members has a death recipient: it is
attached to a remote object while that object is alive, and a death of an attached object
sends one notification, which arrives at any time after it.  `Covers` is what such a
registry lives by: its living members are watched, and of its dead members a notification
is under way.  A `Roster` is the plainest registry, a list of its members.
-/

set_option autoImplicit false

universe u

/-- The remote objects that a recipient is attached to, and those whose death it is yet to
be told. -/
structure Obituaries (ι : Type u) where
  watched : Finset ι := ∅
  underWay : Finset ι := ∅

namespace Obituaries

variable {ι : Type u}

/-- Living members are watched, and dead ones have a notification under way; notifications are
about the dead. -/
structure Covers (member : ι → Prop) (dead : Finset ι) (notices : Obituaries ι) : Prop where
  honest : ∀ remote ∈ notices.underWay, remote ∈ dead
  living : ∀ remote, member remote → remote ∉ dead → remote ∈ notices.watched
  gone : ∀ remote, member remote → remote ∈ dead → remote ∈ notices.underWay

section Rules

variable {member other : ι → Prop} {dead : Finset ι} {notices : Obituaries ι} {remote : ι}

theorem covers_empty : Covers (fun _ => False) dead ({} : Obituaries ι) :=
  ⟨fun _ never => absurd never (Finset.notMem_empty _), fun _ never => never.elim,
    fun _ never => never.elim⟩

theorem Covers.mono (covers : Covers member dead notices) (fewer : ∀ r, other r → member r) :
    Covers other dead notices :=
  ⟨covers.honest, fun r here => covers.living r (fewer r here),
    fun r here => covers.gone r (fewer r here)⟩

theorem Covers.alive (covers : Covers member dead notices) (here : member remote)
    (arrived : remote ∉ notices.underWay) : remote ∉ dead :=
  fun gone => arrived (covers.gone remote here gone)

end Rules

variable [DecidableEq ι]

/-- `AddDeathRecipient`, which fails for an object that is dead. -/
def watch (dead : Finset ι) (remote : ι) (self : Obituaries ι) : Obituaries ι :=
  if remote ∈ dead then self else { self with watched := insert remote self.watched }

def unwatch (remote : ι) (self : Obituaries ι) : Obituaries ι :=
  { self with watched := self.watched.erase remote }

def die (remote : ι) (self : Obituaries ι) : Obituaries ι where
  watched := self.watched.erase remote
  underWay := if remote ∈ self.watched then insert remote self.underWay else self.underWay

def deliver (remote : ι) (self : Obituaries ι) : Obituaries ι :=
  { self with underWay := self.underWay.erase remote }

section Steps

variable {member other : ι → Prop} {dead : Finset ι} {notices : Obituaries ι} {remote : ι}

theorem Covers.watch (covers : Covers member dead notices) (alive : remote ∉ dead)
    (joined : ∀ r, other r → member r ∨ r = remote) :
    Covers other dead (notices.watch dead remote) := by
  unfold Obituaries.watch
  rw [if_neg alive]
  refine ⟨covers.honest, ?_, ?_⟩
  · intro r here living
    rcases joined r here with before | rfl
    · exact Finset.mem_insert_of_mem (covers.living r before living)
    · exact Finset.mem_insert_self r notices.watched
  · intro r here gone
    rcases joined r here with before | rfl
    · exact covers.gone r before gone
    · exact absurd gone alive

theorem Covers.unwatch (covers : Covers member dead notices)
    (left : ∀ r, other r → member r ∧ r ≠ remote) : Covers other dead (notices.unwatch remote) := by
  refine ⟨covers.honest, ?_, ?_⟩
  · intro r here living
    obtain ⟨before, apart⟩ := left r here
    exact Finset.mem_erase_of_ne_of_mem apart (covers.living r before living)
  · intro r here gone
    exact covers.gone r (left r here).1 gone

theorem Covers.die (covers : Covers member dead notices) :
    Covers member (insert remote dead) (notices.die remote) := by
  refine ⟨?_, ?_, ?_⟩
  · intro r notified
    change r ∈ if remote ∈ notices.watched then insert remote notices.underWay
      else notices.underWay at notified
    split at notified
    · rcases Finset.mem_insert.mp notified with rfl | before
      · exact Finset.mem_insert_self r dead
      · exact Finset.mem_insert_of_mem (covers.honest r before)
    · exact Finset.mem_insert_of_mem (covers.honest r notified)
  · intro r here living
    obtain ⟨apart, alive⟩ := not_or.mp (fun either => living (Finset.mem_insert.mpr either))
    exact Finset.mem_erase_of_ne_of_mem apart (covers.living r here alive)
  · intro r here gone
    by_cases before : r ∈ dead
    · have notified := covers.gone r here before
      show r ∈ if remote ∈ notices.watched then insert remote notices.underWay else notices.underWay
      split
      · exact Finset.mem_insert_of_mem notified
      · exact notified
    · obtain rfl : r = remote := (Finset.mem_insert.mp gone).resolve_right before
      have watched := covers.living r here before
      show r ∈ if r ∈ notices.watched then insert r notices.underWay else notices.underWay
      rw [if_pos watched]
      exact Finset.mem_insert_self r notices.underWay

theorem Covers.deliver (covers : Covers member dead notices)
    (left : ∀ r, other r → member r ∧ r ≠ remote) : Covers other dead (notices.deliver remote) := by
  refine ⟨fun r notified => covers.honest r (Finset.mem_of_mem_erase notified), ?_, ?_⟩
  · intro r here living
    exact covers.living r (left r here).1 living
  · intro r here gone
    obtain ⟨before, apart⟩ := left r here
    exact Finset.mem_erase_of_ne_of_mem apart (covers.gone r before gone)

end Steps

end Obituaries

structure Roster (ι : Type u) where
  members : List ι := []
  notices : Obituaries ι := {}

namespace Roster

variable {ι : Type u} [DecidableEq ι]

def join (dead : Finset ι) (remote : ι) (self : Roster ι) : Roster ι :=
  if remote ∈ self.members then self
  else ⟨self.members ++ [remote], self.notices.watch dead remote⟩

def leave (remote : ι) (self : Roster ι) : Roster ι :=
  if remote ∈ self.members then ⟨self.members.erase remote, self.notices.unwatch remote⟩
  else self

def die (remote : ι) (self : Roster ι) : Roster ι := ⟨self.members, self.notices.die remote⟩

def told (remote : ι) (self : Roster ι) : Roster ι :=
  if remote ∈ self.notices.underWay then
    ⟨self.members.erase remote, self.notices.deliver remote⟩
  else self

structure Sound (dead : Finset ι) (roster : Roster ι) : Prop where
  nodup : roster.members.Nodup
  covers : roster.notices.Covers (· ∈ roster.members) dead

section

variable {dead : Finset ι} {roster : Roster ι} {remote : ι}

theorem mem_join (r : ι) :
    r ∈ (roster.join dead remote).members ↔ r ∈ roster.members ∨ r = remote := by
  unfold join
  split
  · rename_i member
    exact ⟨Or.inl, fun either => either.elim id (fun same => same ▸ member)⟩
  · simp

theorem mem_leave (sound : roster.Sound dead) (r : ι) :
    r ∈ (roster.leave remote).members ↔ r ∈ roster.members ∧ r ≠ remote := by
  unfold leave
  split
  · exact (sound.nodup.mem_erase_iff).trans and_comm
  · rename_i absent
    exact ⟨fun member => ⟨member, fun same => absent (same ▸ member)⟩, And.left⟩

theorem mem_told (sound : roster.Sound dead) (r : ι) :
    r ∈ (roster.told remote).members ↔
      r ∈ roster.members ∧ ¬ (r = remote ∧ remote ∈ roster.notices.underWay) := by
  unfold told
  split
  · rename_i arrives
    rw [sound.nodup.mem_erase_iff]
    simp [arrives, and_comm]
  · rename_i nothing
    simp [nothing]

omit [DecidableEq ι] in
theorem sound_empty : (Roster.mk [] {} : Roster ι).Sound dead :=
  ⟨List.nodup_nil, Obituaries.covers_empty.mono (fun _ member => absurd member List.not_mem_nil)⟩

theorem Sound.join (sound : roster.Sound dead) (alive : remote ∉ dead) :
    (roster.join dead remote).Sound dead := by
  unfold Roster.join
  split
  · exact sound
  · rename_i absent
    refine ⟨?_, sound.covers.watch alive (by simp)⟩
    rw [List.nodup_append]
    refine ⟨sound.nodup, List.nodup_singleton remote, ?_⟩
    rintro r member other last rfl
    exact absent (List.mem_singleton.mp last ▸ member)

theorem Sound.leave (sound : roster.Sound dead) : (roster.leave remote).Sound dead := by
  unfold Roster.leave
  split
  · refine ⟨sound.nodup.erase remote, sound.covers.unwatch ?_⟩
    intro r member
    exact (sound.nodup.mem_erase_iff.mp member).symm
  · exact sound

theorem Sound.die (sound : roster.Sound dead) : (roster.die remote).Sound (insert remote dead) :=
  ⟨sound.nodup, sound.covers.die⟩

theorem Sound.told (sound : roster.Sound dead) : (roster.told remote).Sound dead := by
  unfold Roster.told
  split
  · refine ⟨sound.nodup.erase remote, sound.covers.deliver ?_⟩
    intro r member
    exact (sound.nodup.mem_erase_iff.mp member).symm
  · exact sound

end

end Roster
