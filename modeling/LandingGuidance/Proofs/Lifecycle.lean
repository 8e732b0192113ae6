import LandingGuidance.Proofs.Runs
import Mathlib.Data.List.Infix
import Mathlib.Data.List.Induction

/-!
# The life of a task

A task is active from an activation to the next close, however deep activations nest. Which of them
are still to be answered can be told from the operations alone, and the task saves one state for
each. While it is active it holds an approach, so its updates report, and while it is not they leave
everything as it is.
-/

namespace LandingGuidance

variable {α : Type}

/-! ### Activations and the closes that answer them -/

namespace Operation

def isActivate : Operation α → Bool
  | .activate => true
  | _ => false

def isClose : Operation α → Bool
  | .close => true
  | _ => false

/-- Whether some operations answer an activation right before them: after a part of them there were
more closes than activations. -/
def answers (operations : List (Operation α)) : Bool :=
  operations.inits.any fun part => decide (part.countP isActivate < part.countP isClose)

/-- The number of activations that the operations after them do not answer. -/
def unanswered : List (Operation α) → Nat
  | [] => 0
  | operation :: later =>
    (if operation.isActivate && !answers later then 1 else 0) + unanswered later

/-- The number of closes that find no activation among the operations to answer. -/
def surplus : List (Operation α) → Nat
  | [] => 0
  | .activate :: later => surplus later - 1
  | .close :: later => surplus later + 1
  | _ :: later => surplus later

/-- Some part of the operations has so many closes in excess of its activations just if so many
closes of all operations are in surplus. -/
theorem exists_excess_iff (operations : List (Operation α)) (excess : Nat) :
    (∃ part, part <+: operations ∧ part.countP isActivate + excess < part.countP isClose) ↔
      excess < surplus operations := by
  induction operations generalizing excess with
  | nil => simp [surplus]
  | cons operation later ih =>
    -- The empty part has no excess, so the part begins with the first operation.
    have longer : (∃ part, part <+: operation :: later ∧
        part.countP isActivate + excess < part.countP isClose) ↔
        ∃ part, part <+: later ∧ (operation :: part).countP isActivate + excess <
          (operation :: part).countP isClose := by
      simp only [List.prefix_cons_iff]
      constructor
      · rintro ⟨part, rfl | ⟨rest, rfl, ahead⟩, more⟩
        · simp at more
        · exact ⟨rest, ahead, more⟩
      · rintro ⟨rest, ahead, more⟩
        exact ⟨_, Or.inr ⟨rest, rfl, ahead⟩, more⟩
    rw [longer]
    simp only [List.countP_cons]
    cases operation with
    | activate =>
      have inner := ih (excess + 1)
      simp only [isActivate, isClose, surplus, if_true, Bool.false_eq_true, if_false, Nat.add_zero]
      rw [Nat.lt_sub_iff_add_lt, ← inner]
      simp only [Nat.add_right_comm _ 1 excess, Nat.add_assoc]
    | close =>
      simp only [isActivate, isClose, surplus, if_true, Bool.false_eq_true, if_false, Nat.add_zero]
      cases excess with
      | zero => exact iff_of_true ⟨[], List.nil_prefix, by simp⟩ (Nat.succ_pos _)
      | succ excess =>
        simpa only [Nat.add_lt_add_iff_right, ← Nat.add_assoc] using ih excess
    | _ => simpa [isActivate, isClose, surplus] using ih excess

theorem answers_iff (operations : List (Operation α)) :
    answers operations = true ↔ 0 < surplus operations := by
  rw [← exists_excess_iff]
  simp [answers]

end Operation

/-! ### Saved states -/

namespace Flight

variable [TrigScalar α] [TwoPlaces α]

/-- An activation saves one state, and a close takes one off if there is one. -/
theorem length_saved_step (flight : Flight α) (operation : Operation α) :
    (flight.step operation).1.task.saved.length =
      if operation.isActivate then flight.task.saved.length + 1
      else if operation.isClose then flight.task.saved.length - 1
      else flight.task.saved.length := by
  cases operation with
  | activate => exact congrArg List.length (LandingTask.saved_activate _ _)
  | close => exact List.length_tail
  | update => exact congrArg List.length (LandingTask.saved_update _ _)
  | rebuild => rfl
  | put path value => rfl
  | log event => rfl

/-- The closes in surplus take off what was saved before the run, as long as there is something. -/
theorem length_saved_run (flight : Flight α) (operations : List (Operation α)) :
    (flight.run operations).task.saved.length =
      flight.task.saved.length - Operation.surplus operations
        + Operation.unanswered operations := by
  induction operations generalizing flight with
  | nil => rfl
  | cons operation later ih =>
    have answered := Operation.answers_iff later
    rw [run_cons, ih, length_saved_step, Operation.unanswered]
    cases operation with
    | activate =>
      -- The state saved here is taken off again just if a later close answers the activation.
      simp only [Operation.isActivate, Operation.surplus, if_true, Bool.true_and]
      cases known : Operation.answers later with
      | true =>
        rw [known] at answered
        have left : 0 < Operation.surplus later := answered.mp rfl
        rw [Bool.not_true, if_neg Bool.false_ne_true]
        omega
      | false =>
        rw [known] at answered
        have none : Operation.surplus later = 0 := by simpa using answered
        rw [none, Bool.not_false, if_pos rfl]
        omega
    | close =>
      simp only [Operation.isActivate, Operation.isClose, Operation.surplus, Bool.false_eq_true,
        if_false, if_true, Bool.false_and]
      omega
    | _ => simp [Operation.isActivate, Operation.isClose, Operation.surplus]

example :
    Operation.unanswered ([.close, .activate, .activate, .close] : List (Operation α)) = 1 := rfl

end Flight

/-! ### Activity -/

theorem LandingTask.isActive_of_some {task : LandingTask α} {g : Guidance α}
    (hg : task.guidance = some g) : task.isActive = true := by
  rw [isActive, hg, Option.isSome_some]

/-- An active task has an approach to fly and something to put back. -/
def LandingTask.Equipped (task : LandingTask α) : Prop :=
  task.isActive = true → task.approach.isSome = true ∧ task.saved ≠ []

theorem LandingTask.Equipped.underway_iff {task : LandingTask α} (equipped : task.Equipped) :
    task.Underway ↔ task.isActive = true := by
  constructor
  · rintro ⟨g, approach, hg, _⟩
    exact isActive_of_some hg
  · intro active
    obtain ⟨g, hg⟩ := Option.isSome_iff_exists.mp active
    obtain ⟨approach, happroach⟩ := Option.isSome_iff_exists.mp (equipped active).1
    exact ⟨g, approach, hg, happroach⟩

namespace Flight

variable [TrigScalar α] [TwoPlaces α]

theorem isActive_step (flight : Flight α) (operation : Operation α) :
    (flight.step operation).1.task.isActive =
      (operation.isActivate || !operation.isClose && flight.task.isActive) := by
  cases operation with
  | update =>
    rcases flight.step_update_cases with ⟨g, approach, hg, happroach⟩ | ⟨_, idle⟩
    · rw [step_update_of_some hg happroach, LandingTask.isActive_of_some hg]
      rfl
    · rw [idle]
      rfl
  | _ => rfl

/-- A task is active just if the latest activation or close was an activation. -/
theorem isActive_run_iff {flight : Flight α} (operations : List (Operation α))
    (inactive : flight.task.isActive = false) :
    (flight.run operations).task.isActive = true ↔
      (operations.filter fun o => o.isActivate || o.isClose).getLast? = some .activate := by
  induction operations using List.reverseRecOn with
  | nil => simp [inactive]
  | append_singleton operations operation ih =>
    rw [run_append, run_cons, run_nil, isActive_step, List.filter_append]
    cases operation with
    | activate => simp [Operation.isActivate]
    | close => simp [Operation.isActivate, Operation.isClose]
    | _ => simpa [Operation.isActivate, Operation.isClose] using ih

theorem equipped_step {flight : Flight α} (operation : Operation α)
    (equipped : flight.task.Equipped) : (flight.step operation).1.task.Equipped := by
  cases operation with
  | activate =>
    intro _
    refine ⟨flight.task.prepare_approach_isSome flight.vehicle, ?_⟩
    intro nothing
    cases (LandingTask.saved_activate _ _).symm.trans nothing
  | update =>
    rcases flight.step_update_cases with ⟨g, approach, hg, happroach⟩ | ⟨_, idle⟩
    · rw [step_update_of_some hg happroach]
      exact fun _ => equipped (LandingTask.isActive_of_some hg)
    · rw [idle]
      exact equipped
  | rebuild => exact fun active => ⟨rfl, (equipped active).2⟩
  | close =>
    intro active
    cases active
  | put path value => exact equipped
  | log event => exact equipped

theorem equipped_run_start (entry : LandEntry α) (v : Vehicle α)
    (operations : List (Operation α)) : ((start entry v).run operations).task.Equipped := by
  refine run_invariant (I := fun flight => flight.task.Equipped) (A := fun _ => True)
    (fun _ operation _ => equipped_step operation) (fun _ _ => trivial) ?_
  intro active
  cases active

/-- In every sequence of operations on a new task, the task is active just if the latest activation
or close was an activation, and then it has an approach and something saved. It has saved one state
for each activation that is not answered yet. An update answers a report just while the task is
active, and else it leaves the task, the store and the log as they are. -/
theorem lifecycle (entry : LandEntry α) (v : Vehicle α) (operations : List (Operation α)) :
    let reached := (start entry v).run operations
    (reached.task.isActive = true ↔
        (operations.filter fun o => o.isActivate || o.isClose).getLast? = some .activate) ∧
      (reached.task.isActive = true →
        reached.task.approach.isSome = true ∧ reached.task.saved ≠ []) ∧
      reached.task.saved.length = Operation.unanswered operations ∧
      ((reached.step .update).2 = .report none ↔ reached.task.isActive = false) ∧
      (reached.task.isActive = false → (reached.step .update).1 = reached) := by
  intro reached
  have equipped : reached.task.Equipped := equipped_run_start entry v operations
  have saved : reached.task.saved.length = Operation.unanswered operations := by
    rw [length_saved_run]
    exact (congrArg (· + _) (Nat.zero_sub _)).trans (Nat.zero_add _)
  refine ⟨isActive_run_iff operations rfl, equipped, saved, ?_⟩
  rcases reached.step_update_cases with ⟨g, approach, hg, happroach⟩ | ⟨notUnderway, idle⟩
  · have active : reached.task.isActive = true :=
      equipped.underway_iff.mp ⟨g, approach, hg, happroach⟩
    rw [step_update_of_some hg happroach, active]
    simp
  · rw [equipped.underway_iff, Bool.not_eq_true] at notUnderway
    rw [idle, notUnderway]
    simp

end Flight

end LandingGuidance
