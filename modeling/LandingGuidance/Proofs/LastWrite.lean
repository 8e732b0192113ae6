import Mathlib
import LandingGuidance.Vehicle
import LandingGuidance.Proofs.ExactOperations

/-!
# The last write to a path

A store remembers the last write to each path and nothing else of its history: what a path holds,
whether it holds anything, how many paths do, and what a path reads as follow from the last writes.
How a value reads as a number, a text and a flag is a table of its own, `Value.ReadsAs`.
-/

namespace LandingGuidance

variable {α : Type}

/-! ### Writes and what they leave -/

/-- A change of a store at one path. Numbers, texts and flags may be written as what they are. -/
inductive Write (α : Type) where
  | set (path : String) (value : Value α)
  | setNumber (path : String) (x : α)
  | setText (path : String) (t : String)
  | setFlag (path : String) (b : Bool)
  | remove (path : String)

namespace Write

def path : Write α → String
  | set path _ | setNumber path _ | setText path _ | setFlag path _ | remove path => path

/-- What is at the path afterwards. -/
def value : Write α → Option (Value α)
  | set _ value => some value
  | setNumber _ x => some (.number x)
  | setText _ t => some (.text t)
  | setFlag _ b => some (.flag b)
  | remove _ => none

/-- What a history of writes leaves at a path: what the last write to it put there, or what was
there `before` if none of them is a write to it. -/
def lastValue (writes : List (Write α)) (path : String) (before : Option (Value α)) :
    Option (Value α) :=
  match (writes.filter fun write => write.path = path).getLast? with
  | some write => write.value
  | none => before

theorem lastValue_cons (first : Write α) (writes : List (Write α)) (path : String)
    (before : Option (Value α)) :
    lastValue (first :: writes) path before =
      lastValue writes path (if first.path = path then first.value else before) := by
  unfold lastValue
  by_cases here : first.path = path
  · simp only [here, decide_true, List.filter_cons_of_pos, List.getLast?_cons, if_true]
    -- A later write to the path hides the first one.
    cases (writes.filter fun write => write.path = path).getLast? <;> rfl
  · simp only [here, decide_false, Bool.false_eq_true, not_false_eq_true,
      List.filter_cons_of_neg, if_false]

end Write

namespace Store

def write (s : Store α) : Write α → Store α
  | .set path value => s.set path value
  | .setNumber path x => s.set path (.number x)
  | .setText path t => s.set path (.text t)
  | .setFlag path b => s.set path (.flag b)
  | .remove path => s.remove path

/-- Makes changes one after the other. -/
def writeAll (s : Store α) (writes : List (Write α)) : Store α := writes.foldl write s

/-- One write is seen at its own path only. -/
theorem get?_write (s : Store α) (w : Write α) (path : String) :
    (s.write w).get? path = if w.path = path then w.value else s.get? path := by
  cases w with
  | set | setNumber | setText | setFlag => exact s.get?_set _ path _
  | remove => exact s.get?_remove _ path

/-- After a history of writes a path holds what the last write to it left there. -/
theorem get?_writeAll (s : Store α) (writes : List (Write α)) (path : String) :
    (s.writeAll writes).get? path = Write.lastValue writes path (s.get? path) := by
  induction writes generalizing s with
  | nil => rfl
  | cons first writes ih =>
    -- For the writes that follow, what the first one left is what was there before.
    rw [Write.lastValue_cons, ← get?_write]
    exact ih (s.write first)

/-- The size of a store is the number of paths that hold something. -/
theorem encard_isSome (s : Store α) : {path | (s.get? path).isSome}.encard = s.size := by
  have listed : {path | (s.get? path).isSome} = (s.paths.toFinset : Set String) := by
    ext path
    simp only [Set.mem_ofPred_eq, List.coe_toFinset, mem_paths]
  rw [listed, Set.encard_coe_eq_coe_finsetCard, List.toFinset_card_of_nodup s.nodup_paths,
    length_paths]

end Store

/-- A vehicle hands writes on to its store. -/
def Vehicle.write (v : Vehicle α) (w : Write α) : Vehicle α := v.mapStore (·.write w)

theorem Vehicle.foldl_write (v : Vehicle α) (writes : List (Write α)) :
    writes.foldl write v = v.mapStore (·.writeAll writes) := by
  induction writes generalizing v with
  | nil => rfl
  | cons first writes ih => exact ih (v.write first)

/-! ### Reading values -/

/-- Of the numbers of the machine only the two zeros equal zero. -/
theorem Binary64.beq_zero_iff {x : Float} : (x == 0.0) = true ↔ x = 0.0 ∨ x = -0.0 := by
  have standing_zero : rank 0.0 = some (toLex (0, toLex (0, 0))) := rfl
  constructor
  · intro equal
    obtain ⟨k, hx, hzero⟩ := beq_iff.mp equal
    rw [standing_zero] at hzero
    rw [← hzero, rank] at hx
    rw [← ofModel_pack_unpack x]
    -- Every other kind of number stands in another class.
    rcases unpacked : x.toModel.unpack with (_ | _) | _ | sign | ⟨_ | _, m, e, positive⟩ <;>
      rw [unpacked] at hx
    case zero => exact ofModel_pack_of_zero sign
    all_goals simp [standing] at hx
  · rintro (rfl | rfl)
    · rfl
    · rfl

/-- How a value reads as a number, as a text and as a flag. An undefined number is not one of the
two zeros, so it reads as true. -/
inductive Value.ReadsAs : Option (Value Float) → Float → String → Bool → Prop
  | absent : ReadsAs none 0.0 "" false
  | text (t : String) : ReadsAs (some (.text t)) 0.0 t false
  | yes : ReadsAs (some (.flag true)) 1.0 "" true
  | no : ReadsAs (some (.flag false)) 0.0 "" false
  | zero {x : Float} : x = 0.0 ∨ x = -0.0 → ReadsAs (some (.number x)) x "" false
  | nonzero {x : Float} : x ≠ 0.0 → x ≠ -0.0 → ReadsAs (some (.number x)) x "" true

/-- Each value reads as the table says and as nothing else. -/
theorem Value.readsAs_iff {value : Option (Value Float)} {x : Float} {t : String} {b : Bool} :
    ReadsAs value x t b ↔ toNumber value = x ∧ toText value = t ∧ toFlag value = b := by
  constructor
  · intro reads
    cases reads with
    | absent | text | yes | no => exact ⟨rfl, rfl, rfl⟩
    | zero either =>
      refine ⟨rfl, rfl, ?_⟩
      rw [toFlag, Binary64.beq_zero_iff.mpr either, Bool.not_true]
    | nonzero first second =>
      refine ⟨rfl, rfl, ?_⟩
      rw [toFlag, Bool.not_eq_true', Bool.eq_false_iff, ne_eq, Binary64.beq_zero_iff, not_or]
      exact ⟨first, second⟩
  · rintro ⟨rfl, rfl, rfl⟩
    -- One case for each kind of value, where a number is one of the two zeros or neither.
    rcases value with _ | (x | t | (_ | _))
    · exact .absent
    · by_cases either : x = 0.0 ∨ x = -0.0
      · rw [toFlag, Binary64.beq_zero_iff.mpr either]
        exact .zero either
      · have differs : (x == 0.0) = false := by
          rw [Bool.eq_false_iff, ne_eq, Binary64.beq_zero_iff]
          exact either
        rw [toFlag, differs]
        exact .nonzero (not_or.mp either).1 (not_or.mp either).2
    · exact .text t
    · exact .no
    · exact .yes

example : Value.ReadsAs (some (.number (0.0 / 0.0))) (0.0 / 0.0) "" true :=
  .nonzero (by decide) (by decide)

/-- After a history of writes, what the last write to a path left there, or what was there before if
it was never written, is what the path holds and decides whether it holds anything and what it reads
as. The size is the number of paths that hold something by their last writes. Through a vehicle the
same writes change its store in the same way, and nothing else. -/
theorem Store.last_write_decides (initial : Store Float) (writes : List (Write Float))
    (path : String) :
    let s := initial.writeAll writes
    let last := fun path => Write.lastValue writes path (initial.get? path)
    s.get? path = last path ∧
      s.has path = (last path).isSome ∧
      {other | (last other).isSome}.encard = s.size ∧
      (∀ x t b, Value.ReadsAs (last path) x t b ↔
        s.number path = x ∧ s.text path = t ∧ s.flag path = b) ∧
      ∀ v : Vehicle Float, writes.foldl Vehicle.write v = v.mapStore (·.writeAll writes) := by
  intro s last
  have held (path : String) : s.get? path = last path := initial.get?_writeAll writes path
  refine ⟨held path, ?_, ?_, ?_, ?_⟩
  · rw [has, held]
  · simp only [← held]
    exact s.encard_isSome
  · intro x t b
    rw [← held]
    exact Value.readsAs_iff
  · intro v
    exact v.foldl_write writes

end LandingGuidance
