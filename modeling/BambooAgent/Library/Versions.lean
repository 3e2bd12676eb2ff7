/- Values that carry a version number: a later one has a larger version or is the same. -/
namespace Versions

variable {α : Type}

structure Versioned (α : Type) where
  version : Nat
  value : α

/-- No version is given back, and one version stands for one value. -/
structure Later (a b : Versioned α) : Prop where
  version : a.version ≤ b.version
  value : a.version = b.version → b.value = a.value

theorem later_refl (a : Versioned α) : Later a a := ⟨Nat.le_refl _, fun _ => rfl⟩

/-- The incoming value counts only with a strictly larger version. -/
def takeNewer (durable incoming : Versioned α) : Versioned α :=
  if incoming.version ≤ durable.version then durable else incoming

theorem later_takeNewer (durable incoming : Versioned α) :
    Later durable (takeNewer durable incoming) := by
  unfold takeNewer
  split
  · exact later_refl durable
  · exact ⟨by omega, fun same => by omega⟩

/-- The same for a value that may be missing at first. -/
def LaterOption (a b : Option (Versioned α)) : Prop :=
  ∀ v, a = some v → ∃ w, b = some w ∧ Later v w

theorem laterOption_refl (a : Option (Versioned α)) : LaterOption a a :=
  fun v present => ⟨v, present, later_refl v⟩

end Versions
