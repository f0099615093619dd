import Mathlib

/-! A table of descriptors, each of which may be handed out again once it is closed. Connections
are numbered as they are opened, so that two connections on one descriptor differ. -/

namespace Firmware

structure Connection (Owner : Type*) where
  serial : Nat
  owner : Owner
  deriving DecidableEq, Repr

/-- `opened` connections have been opened so far, and an open one has one descriptor. -/
structure Descriptors (Owner : Type*) where
  table : Nat → Option (Connection Owner)
  opened : Nat
  numbered : ∀ fd connection, table fd = some connection → connection.serial < opened
  distinct : ∀ fd other connection, table fd = some connection →
    table other = some connection → fd = other

namespace Descriptors

variable {Owner : Type*}

def empty : Descriptors Owner := ⟨fun _ => none, 0, nofun, nofun⟩

def next (descriptors : Descriptors Owner) (owner : Owner) : Connection Owner :=
  ⟨descriptors.opened, owner⟩

theorem next_not_open (descriptors : Descriptors Owner) (owner : Owner) (fd : Nat) :
    descriptors.table fd ≠ some (descriptors.next owner) :=
  fun stored => Nat.lt_irrefl _ (descriptors.numbered fd _ stored)

theorem update_eq_some {table : Nat → Option (Connection Owner)} {fd other : Nat}
    {connection : Connection Owner} {entry : Option (Connection Owner)}
    (stored : Function.update table fd entry other = some connection) :
    (other = fd ∧ entry = some connection) ∨ (other ≠ fd ∧ table other = some connection) := by
  by_cases same : other = fd
  · rw [same, Function.update_self] at stored
    exact Or.inl ⟨same, stored⟩
  · rw [Function.update_of_ne same] at stored
    exact Or.inr ⟨same, stored⟩

def openAt (descriptors : Descriptors Owner) (fd : Nat) (owner : Owner) : Descriptors Owner where
  table := Function.update descriptors.table fd (some (descriptors.next owner))
  opened := descriptors.opened + 1
  numbered other connection stored := by
    rcases update_eq_some stored with ⟨-, is⟩ | ⟨-, before⟩
    · cases is
      exact Nat.lt_succ_self _
    · exact Nat.lt_succ_of_lt (descriptors.numbered other connection before)
  distinct first second connection here there := by
    rcases update_eq_some here with ⟨same, is⟩ | ⟨-, before⟩
    · rcases update_eq_some there with ⟨again, -⟩ | ⟨-, earlier⟩
      · exact same.trans again.symm
      · cases is
        exact absurd earlier (descriptors.next_not_open owner second)
    · rcases update_eq_some there with ⟨-, is⟩ | ⟨-, earlier⟩
      · cases is
        exact absurd before (descriptors.next_not_open owner first)
      · exact descriptors.distinct first second connection before earlier

def close (descriptors : Descriptors Owner) (fd : Nat) : Descriptors Owner where
  table := Function.update descriptors.table fd none
  opened := descriptors.opened
  numbered other connection stored := by
    rcases update_eq_some stored with ⟨-, is⟩ | ⟨-, before⟩
    · cases is
    · exact descriptors.numbered other connection before
  distinct first second connection here there := by
    rcases update_eq_some here with ⟨-, is⟩ | ⟨-, before⟩
    · cases is
    rcases update_eq_some there with ⟨-, is⟩ | ⟨-, earlier⟩
    · cases is
    · exact descriptors.distinct first second connection before earlier

@[simp] theorem openAt_self (descriptors : Descriptors Owner) (fd : Nat) (owner : Owner) :
    (descriptors.openAt fd owner).table fd = some (descriptors.next owner) :=
  Function.update_self ..

@[simp] theorem openAt_opened (descriptors : Descriptors Owner) (fd : Nat) (owner : Owner) :
    (descriptors.openAt fd owner).opened = descriptors.opened + 1 := rfl

@[simp] theorem close_opened (descriptors : Descriptors Owner) (fd : Nat) :
    (descriptors.close fd).opened = descriptors.opened := rfl

theorem openAt_keeps {descriptors : Descriptors Owner} {fd other : Nat} {owner : Owner}
    {connection : Connection Owner} (free : descriptors.table fd = none)
    (stored : descriptors.table other = some connection) :
    (descriptors.openAt fd owner).table other = some connection := by
  have differs : other ≠ fd := by
    intro same
    rw [same, free] at stored
    cases stored
  exact (Function.update_of_ne differs _ _).trans stored

theorem openAt_cases {descriptors : Descriptors Owner} {fd other : Nat} {owner : Owner}
    {connection : Connection Owner}
    (stored : (descriptors.openAt fd owner).table other = some connection) :
    connection = descriptors.next owner ∨ descriptors.table other = some connection := by
  rcases update_eq_some stored with ⟨-, is⟩ | ⟨-, before⟩
  · exact Or.inl (Option.some.inj is).symm
  · exact Or.inr before

theorem close_eq_some {descriptors : Descriptors Owner} {fd other : Nat}
    {connection : Connection Owner} :
    (descriptors.close fd).table other = some connection ↔
      other ≠ fd ∧ descriptors.table other = some connection := by
  constructor
  · intro stored
    rcases update_eq_some stored with ⟨-, is⟩ | kept
    · cases is
    · exact kept
  · rintro ⟨differs, stored⟩
    exact (Function.update_of_ne differs _ _).trans stored

theorem close_ends {descriptors : Descriptors Owner} {fd : Nat} {connection : Connection Owner}
    (stored : descriptors.table fd = some connection) (other : Nat) :
    (descriptors.close fd).table other ≠ some connection := by
  intro still
  obtain ⟨differs, before⟩ := close_eq_some.mp still
  exact differs (descriptors.distinct other fd connection before stored)

end Descriptors

end Firmware
