import LandingGuidance.Proofs.Readings

/-!
# Saving and restoring

A saved state stands for a part of a store. Restoring it replaces this part of another store and
nothing else, so a second time changes nothing, the same state is saved from the result, and parts
of one store may be restored one by one, in either order, also where they overlap.
-/

namespace LandingGuidance

variable {α : Type}

/-! ### The properties of a scope -/

namespace Scope

theorem mem_properties {scope : Scope} {p : Property} :
    p ∈ scope.properties ↔
      scope.modes = true ∧ p ∈ modeProperties ∨ scope.circle = true ∧ p ∈ circleProperties ∨
        scope.targets = true ∧ p ∈ targetProperties := by
  simp only [properties, List.mem_append, List.mem_ite_nil_right, or_assoc]

/-- The union of two scopes has the properties of both. -/
theorem mem_properties_union {first second : Scope} {p : Property} :
    p ∈ (first.union second).properties ↔ p ∈ first.properties ∨ p ∈ second.properties := by
  simp only [mem_properties, union, Bool.or_eq_true]
  tauto

theorem union_comm (first second : Scope) : first.union second = second.union first := by
  simp only [union, Bool.or_comm]

end Scope

/-! ### Restoring a part of a store -/

namespace Saved

variable {s t : Store α} {scope : Scope}

theorem get?_restore_capture_of_mem {p : Property} (member : p ∈ scope.properties) :
    ((capture s scope).restore t).get? p = s.get? p := by
  rw [get?_restore_capture, if_pos (List.mem_map_of_mem member)]

theorem get?_restore_capture_of_forall_ne {path : String}
    (other : ∀ p ∈ scope.properties, p.path ≠ path) :
    ((capture s scope).restore t).get? path = t.get? path := by
  rw [get?_restore_capture, if_neg]
  intro member
  obtain ⟨p, saved, same⟩ := List.mem_map.mp member
  exact other p saved same

theorem agree_restore (s t : Store α) (scope : Scope) :
    s.Agree ((capture s scope).restore t) scope.properties :=
  fun _ member => (get?_restore_capture_of_mem member).symm

/-- Restoring makes no difference to a store that has the saved values already. -/
theorem restore_of_agree (agree : s.Agree t scope.properties) :
    (capture s scope).restore t = t := by
  ext1 path
  rw [get?_restore_capture]
  split
  next member =>
    obtain ⟨p, saved, rfl⟩ := List.mem_map.mp member
    exact agree p saved
  · rfl

/-- Parts of one store that are restored one after the other make up the union of them. -/
theorem restore_restore (s t : Store α) (first second : Scope) :
    (capture s second).restore ((capture s first).restore t) =
      (capture s (first.union second)).restore t := by
  ext1 path
  have either : path ∈ (first.union second).properties.map Property.path ↔
      path ∈ second.properties.map Property.path ∨ path ∈ first.properties.map Property.path := by
    simp only [List.mem_map, Scope.mem_properties_union, or_and_right, exists_or]
    exact or_comm
  simp only [get?_restore_capture, either]
  -- Where the two overlap, both put the same value.
  split
  next last => rw [if_pos (Or.inl last)]
  next notLast => simp only [notLast, false_or]

/-- A part of a store that is saved and then restored in another store is there as it was, also
where it is absent, and all other paths are left alone. A second time changes nothing, and the same
entries are saved from the result. Two parts of one store may be restored in either order, with the
same result as their union. -/
theorem restore_part_of_store (s t : Store α) (scope other : Scope) :
    let restored := (capture s scope).restore t
    (∀ p ∈ scope.properties, restored.get? p = s.get? p) ∧
      (∀ path, (∀ p ∈ scope.properties, p.path ≠ path) → restored.get? path = t.get? path) ∧
      (capture s scope).restore restored = restored ∧
      (capture restored scope).entries = (capture s scope).entries ∧
      (capture s other).restore restored = (capture s (scope.union other)).restore t ∧
      (capture s scope).restore ((capture s other).restore t) =
        (capture s (scope.union other)).restore t := by
  intro restored
  have agree := agree_restore s t scope
  refine ⟨fun p member => get?_restore_capture_of_mem member,
    fun path => get?_restore_capture_of_forall_ne, ?_, ?_, restore_restore s t scope other, ?_⟩
  · exact restore_of_agree agree
  · rw [capture_congr agree]
  · rw [Scope.union_comm, restore_restore]

/-- A mode comes back and a pitch that was absent is removed again, while the circle stays. -/
theorem restore_part_of_store_of_modes_and_targets :
    let before : Store Nat := Store.empty.set Property.navigationMode (.text "route")
    let after := ((before.set Property.navigationMode (.text "circle")).set Property.targetPitch
      (.number 4)).set Property.circleRadius (.number 75)
    let scope : Scope := ⟨true, false, true⟩
    let restored := (capture before scope).restore after
    (.navigationMode ∈ scope.properties ∧
        restored.get? Property.navigationMode = some (.text "route")) ∧
      (.targetPitch ∈ scope.properties ∧ restored.get? Property.targetPitch = none) ∧
      (∀ p ∈ scope.properties, p.path ≠ Property.circleRadius.path) ∧
      restored.get? Property.circleRadius = some (.number 75) := by
  intro before after scope restored
  obtain ⟨saved, others, -⟩ := restore_part_of_store before after scope scope
  have mode : .navigationMode ∈ scope.properties := by decide
  have pitch : .targetPitch ∈ scope.properties := by decide
  have circle : ∀ p ∈ scope.properties, p.path ≠ Property.circleRadius.path := by decide
  refine ⟨⟨mode, ?_⟩, ⟨pitch, ?_⟩, circle, ?_⟩
  · exact (saved _ mode).trans (Store.get?_set_self _ _ _)
  · exact (saved _ pitch).trans (by simp [before, Store.get?_set])
  · exact (others _ circle).trans (Store.get?_set_self _ _ _)

end Saved

end LandingGuidance
