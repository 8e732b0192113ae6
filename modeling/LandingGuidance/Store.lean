import Std.Data.ExtTreeMap
import LandingGuidance.Store.Value
import LandingGuidance.Store.Property

/-!
# The shared state

A store holds one value for each of some paths. Its view is `get?`: two stores with the same view
are equal, and each operation is described by what it does to the view.
-/

namespace LandingGuidance

/-- Values by path. -/
structure Store (α : Type) where
  private mk ::
  private values : Std.ExtTreeMap String (Value α)

namespace Store

variable {α : Type}

def empty : Store α := ⟨∅⟩

def get? (s : Store α) (path : String) : Option (Value α) := s.values[path]?

def set (s : Store α) (path : String) (v : Value α) : Store α := ⟨s.values.insert path v⟩

def remove (s : Store α) (path : String) : Store α := ⟨s.values.erase path⟩

def has (s : Store α) (path : String) : Bool := (s.get? path).isSome

/-- The number of paths with a value. -/
def size (s : Store α) : Nat := s.values.size

def isEmpty (s : Store α) : Bool := s.size == 0

/-- The paths with a value, each once. -/
def paths (s : Store α) : List String := s.values.keys

@[simp] theorem get?_empty (path : String) : (empty : Store α).get? path = none := by
  simp [empty, get?]

theorem get?_set (s : Store α) (path other : String) (v : Value α) :
    (s.set path v).get? other = if path = other then some v else s.get? other := by
  simp [set, get?, Std.ExtTreeMap.getElem?_insert]

@[simp] theorem get?_set_self (s : Store α) (path : String) (v : Value α) :
    (s.set path v).get? path = some v := by
  simp [get?_set]

theorem get?_remove (s : Store α) (path other : String) :
    (s.remove path).get? other = if path = other then none else s.get? other := by
  simp [remove, get?, Std.ExtTreeMap.getElem?_erase]

@[simp] theorem get?_remove_self (s : Store α) (path : String) :
    (s.remove path).get? path = none := by
  simp [get?_remove]

@[ext] theorem ext {s t : Store α} (h : ∀ path, s.get? path = t.get? path) : s = t := by
  cases s
  cases t
  congr 1
  exact Std.ExtTreeMap.ext_getElem? h

theorem mem_paths {s : Store α} {path : String} : path ∈ s.paths ↔ (s.get? path).isSome := by
  simp [paths, get?, Std.ExtTreeMap.mem_keys]

theorem nodup_paths (s : Store α) : s.paths.Nodup := by
  simpa [paths] using s.values.nodup_keys

theorem length_paths (s : Store α) : s.paths.length = s.size := by
  simp [paths, size, Std.ExtTreeMap.length_keys]

/-- Writes values one after the other. -/
def setAll (s : Store α) (entries : List (Property × Value α)) : Store α :=
  entries.foldl (fun s entry => s.set entry.1.path entry.2) s

@[simp] theorem setAll_nil (s : Store α) : s.setAll [] = s := rfl

@[simp] theorem setAll_cons (s : Store α) (p : Property) (v : Value α)
    (entries : List (Property × Value α)) :
    s.setAll ((p, v) :: entries) = (s.set p.path v).setAll entries := rfl

theorem setAll_append (s : Store α) (first second : List (Property × Value α)) :
    s.setAll (first ++ second) = (s.setAll first).setAll second :=
  List.foldl_append

/-- Writing properties leaves every other path as it was. -/
theorem get?_setAll_of_forall_ne (s : Store α) {entries : List (Property × Value α)}
    {path : String} (h : ∀ entry ∈ entries, entry.1.path ≠ path) :
    (s.setAll entries).get? path = s.get? path := by
  induction entries generalizing s with
  | nil => rfl
  | cons entry entries ih =>
    obtain ⟨p, v⟩ := entry
    simp only [List.forall_mem_cons] at h
    rw [setAll_cons, ih _ h.2, get?_set, if_neg h.1]

/-- Writes a value, or removes what is there. -/
def put (s : Store α) (path : String) : Option (Value α) → Store α
  | some v => s.set path v
  | none => s.remove path

theorem get?_put (s : Store α) (path other : String) (v : Option (Value α)) :
    (s.put path v).get? other = if path = other then v else s.get? other := by
  cases v <;> simp [put, get?_set, get?_remove]

section Reading

variable [Scalar α]

def number (s : Store α) (path : String) : α := Value.toNumber (s.get? path)

def text (s : Store α) (path : String) : String := Value.toText (s.get? path)

def flag (s : Store α) (path : String) : Bool := Value.toFlag (s.get? path)

/-- The number at a path that has a value. -/
def number? (s : Store α) (path : String) : Option α :=
  if s.has path then some (s.number path) else none

end Reading

end Store

end LandingGuidance
