import Fusebox.Registry
import Mathlib.Data.List.Nodup

/-! Names in a registry. A breaker is found by its name, which it keeps, and no two breakers
have the same one. -/
namespace Fusebox.Registry

variable {registry : Registry} {new : Breaker}

/-- What keeps its name is found by it as before. -/
theorem find?_renewed {after : α → β} {key : α → String} {label : β → String}
    (keeps : ∀ item, label (after item) = key item) (items : List α) (name : String) :
    (items.map after).find? (label · == name) = (items.find? (key · == name)).map after := by
  have same : ((label · == name) ∘ after) = (key · == name) := by
    funext item
    simp only [Function.comp_apply, keeps]
  rw [List.find?_map, same]

/-- The names are the same and in the same order. -/
theorem names_renewed {after : α → β} {key : α → String} {label : β → String}
    (keeps : ∀ item, label (after item) = key item) (items : List α) :
    (items.map after).map label = items.map key := by
  rw [List.map_map]
  exact List.map_congr_left fun item _ => keeps item

/-- Something takes the place of what has the same name. -/
theorem replaced_name (key : α → String) (changed item : α) :
    key (if key item == key changed then changed else item) = key item := by
  split
  · rename_i taken
    exact (beq_iff_eq.mp taken).symm
  · rfl

theorem find?_name (found : registry.find? name = some b) : b.name = name := by
  simpa using List.find?_some found

/-- A name is among those of a registry if there is a breaker that has it. -/
theorem mem_names_iff : name ∈ registry.names ↔ (registry.find? name).isSome := by
  simp [names, find?, List.find?_isSome]

/-- A changed breaker takes the place of the one with its name. -/
theorem store_find? (registry : Registry) (changed : Breaker) (name : String) :
    (registry.store changed).find? name =
      (registry.find? name).map fun b => if b.name == changed.name then changed else b :=
  find?_renewed (replaced_name Breaker.name changed) registry.breakers name

theorem store_names (registry : Registry) (changed : Breaker) :
    (registry.store changed).names = registry.names :=
  names_renewed (replaced_name Breaker.name changed) registry.breakers

/-- A new breaker is found by its name, and nothing else is found in another way. -/
theorem place_find? {breakers : List Breaker}
    (unknown : breakers.find? (·.name == new.name) = none) (name : String) :
    (place new breakers).find? (·.name == name) =
      if new.name = name then some new else breakers.find? (·.name == name) := by
  induction breakers with
  | nil => by_cases same : new.name = name <;> simp [place, same]
  | cons first rest ih =>
    rw [List.find?_cons] at unknown
    split at unknown
    · cases unknown
    · rename_i distinct
      by_cases same : new.name = name
      · subst same
        rw [if_pos rfl] at ih ⊢
        unfold place
        split
        · rw [List.find?_cons, distinct]
          exact ih unknown
        · simp
      · rw [if_neg same] at ih ⊢
        unfold place
        split
        · rw [List.find?_cons, List.find?_cons, ih unknown]
        · simp [List.find?_cons, same]

theorem place_names (new : Breaker) (breakers : List Breaker) :
    ((place new breakers).map (·.name)).Perm (new.name :: breakers.map (·.name)) := by
  induction breakers with
  | nil => exact .refl _
  | cons first rest ih =>
    unfold place
    split
    · exact (ih.cons first.name).trans (.swap _ _ _)
    · exact .refl _

theorem created_name (created : Breaker.create name policy reading = .ok b) : b.name = name := by
  unfold Breaker.create at created
  split at created
  · cases created
    rfl
  · cases created
  · cases created

/-- Breakers that are known stay what they are, and an unknown name gets a new one. -/
theorem register_find? (registry : Registry) (other : String) (policy : Policy)
    (reading : Reading) (name : String) :
    (registry.register other policy reading).state.find? name =
      match registry.find? name with
      | some b => some b
      | none =>
        if other = name then (Breaker.create name policy reading).toOption else none := by
  unfold register
  split
  · rename_i existing known
    have here : (Step.after (mismatch existing policy) (Step.pure registry existing)).state =
      registry := rfl
    rw [here]
    cases found : registry.find? name with
    | some b => rfl
    | none =>
      have different : other ≠ name := by
        rintro rfl
        cases known.symm.trans found
      rw [if_neg different]
  · rename_i unknown
    split
    · rename_i cause crashed
      cases found : registry.find? name with
      | some b => exact found
      | none =>
        refine found.trans ?_
        by_cases same : other = name
        · rw [same] at crashed
          simp [crashed, Except.toOption]
        · simp [same]
    · rename_i new created
      have label := created_name created
      rw [← label] at unknown
      have placed := place_find? unknown name
      simp only [Registry.find?] at placed unknown ⊢
      rw [placed, label]
      split
      · rename_i same
        subst same
        rw [← label, unknown, label, created]
        rfl
      · cases registry.breakers.find? (·.name == name) <;> rfl

theorem register_distinct (distinct : registry.names.Nodup) (other : String) (policy : Policy)
    (reading : Reading) : (registry.register other policy reading).state.names.Nodup := by
  unfold register
  split
  · exact distinct
  · rename_i unknown
    split
    · exact distinct
    · rename_i new created
      have label := created_name created
      refine (place_names new registry.breakers).nodup_iff.mpr (List.nodup_cons.mpr ⟨?_, distinct⟩)
      intro member
      obtain ⟨b, known, same⟩ := List.mem_map.mp member
      have missing := List.find?_eq_none.mp unknown b known
      simp [same, label] at missing

end Fusebox.Registry
