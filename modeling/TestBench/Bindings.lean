/-! Values by name: the symbols of a file and the variables of a script. -/
namespace TestBench

/-- Names, each with the value given last. -/
structure Bindings (α : Type) where
  entries : List (String × α) := []
  deriving DecidableEq, Repr, Inhabited

namespace Bindings

variable {α : Type}

def putEntry (name : String) (value : α) : List (String × α) → List (String × α)
  | [] => [(name, value)]
  | (n, v) :: rest =>
    if n = name then (name, value) :: rest else (n, v) :: putEntry name value rest

def set (b : Bindings α) (name : String) (value : α) : Bindings α :=
  ⟨putEntry name value b.entries⟩

def get? (b : Bindings α) (name : String) : Option α :=
  (b.entries.find? (·.1 == name)).map (·.2)

theorem get?_set (b : Bindings α) (name other : String) (value : α) :
    (b.set name value).get? other = if name = other then some value else b.get? other := by
  simp only [get?, set]
  induction b.entries with
  | nil => by_cases same : name = other <;> simp [putEntry, same]
  | cons entry entries ih =>
    by_cases found : entry.1 = name
    · by_cases same : name = other <;> simp [putEntry, found, same]
    · by_cases same : entry.1 = other
      · subst same
        simp [putEntry, found, Ne.symm found]
      · simpa [putEntry, found, same] using ih

end Bindings

end TestBench
