import LandingGuidance.Store

/-!
# Saved state

Before a task takes over the modes, the circle and the targets of a vehicle it saves them, and later
it puts them back. A value that was absent when saved is removed again.
-/

namespace LandingGuidance

/-- The groups of properties to save. -/
structure Scope where
  modes : Bool
  circle : Bool
  targets : Bool
  deriving DecidableEq

namespace Scope

def everything : Scope := ⟨true, true, true⟩

/-- What either of two scopes saves. -/
def union (a b : Scope) : Scope :=
  ⟨a.modes || b.modes, a.circle || b.circle, a.targets || b.targets⟩

def modeProperties : List Property := [.autopilotMode, .navigationMode]

def circleProperties : List Property :=
  [.circleLatitude, .circleLongitude, .circleDirection, .circleRadius]

def targetProperties : List Property := [.targetAltitude, .targetPitch, .targetAirspeed]

/-- The properties of the groups of a scope, in the order in which they are saved. -/
def properties (scope : Scope) : List Property :=
  (if scope.modes then modeProperties else [])
    ++ (if scope.circle then circleProperties else [])
    ++ (if scope.targets then targetProperties else [])

end Scope

/-- Saved values, where nothing stands for an absent value. -/
structure Saved (α : Type) where
  entries : List (Property × Option (Value α))

namespace Saved

variable {α : Type}

def capture (s : Store α) (scope : Scope) : Saved α :=
  ⟨scope.properties.map fun p => (p, s.get? p)⟩

def restore (saved : Saved α) (s : Store α) : Store α :=
  saved.entries.foldl (fun s entry => s.put entry.1.path entry.2) s

/-- Restoring saved state sets the properties of its scope back and leaves all other paths alone. -/
theorem get?_restore_capture (s t : Store α) (scope : Scope) (path : String) :
    ((capture s scope).restore t).get? path =
      if path ∈ scope.properties.map Property.path then s.get? path else t.get? path := by
  simp only [capture, restore]
  generalize scope.properties = properties
  induction properties generalizing t with
  | nil => simp
  | cons p properties ih =>
    simp only [List.map_cons, List.foldl_cons, ih, Store.get?_put, List.mem_cons]
    by_cases hmem : path ∈ properties.map Property.path
    · simp [hmem]
    · by_cases hp : p.path = path
      · simp [hp]
      · simp [hmem, hp, Ne.symm hp]

def size (saved : Saved α) : Nat := saved.entries.length

def isEmpty (saved : Saved α) : Bool := saved.entries.isEmpty

instance [Scalar α] : BEq (Saved α) := ⟨fun a b => a.entries == b.entries⟩

end Saved

end LandingGuidance
