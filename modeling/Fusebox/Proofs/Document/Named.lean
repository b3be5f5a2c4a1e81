import Fusebox.Document.Named
import Mathlib.Data.List.Induction
import Mathlib.Data.List.Nodup
import Mathlib.Data.String.Basic

/-! Values by name as a map. What a table of names is worth is what is found in it: if the names
are in order, two tables in which the same things are found are the same table. A table that is
made of a list of entries has its names in order, and the last entry of a name counts. -/
namespace Fusebox.Named

variable {α : Type} {table other : Named α} {entries : List (String × α)} {name : String}
  {value : α}

/-- The names are in ascending order, so that each one occurs once. -/
def Ordered (table : Named α) : Prop := (table.map Prod.fst).Pairwise (· < ·)

theorem Ordered.nodup (ordered : table.Ordered) : (table.map Prod.fst).Nodup :=
  ordered.imp fun before => before.ne

theorem find?_cons (first : String) (value : α) (rest : Named α) (name : String) :
    find? ((first, value) :: rest) name = if name = first then some value else rest.find? name := by
  by_cases here : name = first
  · simp [find?, here]
  · simp [find?, List.lookup_cons, beq_false_of_ne here, here]

/-- What is found is an entry, and no entry of another name comes into it. -/
theorem mem_of_find? (found : table.find? name = some value) : (name, value) ∈ table := by
  induction table with
  | nil => cases found
  | cons entry rest ih =>
    obtain ⟨first, held⟩ := entry
    rw [find?_cons] at found
    by_cases here : name = first
    · rw [if_pos here, Option.some.injEq] at found
      rw [here, found]
      exact List.mem_cons_self
    · rw [if_neg here] at found
      exact .tail _ (ih found)

/-- A table that is made of items finds for a name what the first item of that name makes. -/
theorem find?_keyed {β : Type} (key : β → String) (value : β → α) (items : List β)
    (name : String) :
    Named.find? (items.map fun item => (key item, value item)) name =
      (items.find? (key · == name)).map value := by
  induction items with
  | nil => rfl
  | cons first rest ih =>
    rw [List.map_cons, find?_cons, ih, List.find?_cons]
    by_cases here : name = key first
    · simp [here]
    · rw [if_neg here, beq_false_of_ne (Ne.symm here)]

theorem find?_eq_none_iff : table.find? name = none ↔ name ∉ table.map Prod.fst := by
  induction table with
  | nil => simp [find?]
  | cons entry rest ih =>
    obtain ⟨first, held⟩ := entry
    rw [find?_cons]
    by_cases here : name = first
    · simp [here]
    · simp [here, ih]

/-- Where no name comes twice every entry is found. -/
theorem find?_eq_some_iff (distinct : (table.map Prod.fst).Nodup) :
    table.find? name = some value ↔ (name, value) ∈ table := by
  refine ⟨mem_of_find?, fun member => ?_⟩
  cases found : table.find? name with
  | none => exact absurd (List.mem_map_of_mem member) (find?_eq_none_iff.mp found)
  | some held =>
    have same := List.inj_on_of_nodup_map distinct (mem_of_find? found) member rfl
    rw [(Prod.mk.inj same).2]

/-- In what order entries of distinct names are given makes no difference. -/
theorem find?_perm (distinct : (table.map Prod.fst).Nodup) (perm : table.Perm other)
    (name : String) : table.find? name = other.find? name := by
  refine Option.ext fun value => ?_
  have others : (other.map Prod.fst).Nodup := (perm.map Prod.fst).nodup_iff.mp distinct
  exact (find?_eq_some_iff distinct).trans (perm.mem_iff.trans (find?_eq_some_iff others).symm)

theorem find?_append (first second : Named α) (name : String) :
    find? (first ++ second) name = (first.find? name).or (second.find? name) := by
  induction first with
  | nil => rfl
  | cons entry rest ih =>
    obtain ⟨label, held⟩ := entry
    rw [List.cons_append, find?_cons, find?_cons, ih]
    split <;> rfl

/-- Ordered tables in which the same is found are the same. -/
theorem Ordered.ext (ordered : table.Ordered) (sorted : other.Ordered)
    (same : ∀ name, table.find? name = other.find? name) : table = other := by
  have members (entry : String × α) : entry ∈ table ↔ entry ∈ other := by
    rw [← find?_eq_some_iff ordered.nodup, ← find?_eq_some_iff sorted.nodup, same]
  have perm : table.Perm other := by
    refine (List.perm_ext_iff_of_nodup ?_ ?_).mpr members
    · exact ordered.nodup.of_map
    · exact sorted.nodup.of_map
  -- Two entries that come before each other do not exist.
  refine perm.eq_of_pairwise (fun first second _ _ before behind => ?_)
    (List.pairwise_map.mp ordered) (List.pairwise_map.mp sorted)
  exact absurd behind before.not_gt

theorem find?_insert (name : String) (value : α) (table : Named α) (other : String) :
    (insert name value table).find? other =
      if other = name then some value else table.find? other := by
  induction table with
  | nil => rw [insert, find?_cons]
  | cons entry rest ih =>
    obtain ⟨first, held⟩ := entry
    unfold insert
    split
    · rename_i here
      subst here
      simp only [find?_cons]
      split <;> rfl
    · rename_i elsewhere
      split
      · simp only [find?_cons]
      · simp only [find?_cons, ih]
        by_cases same : other = first
        · subst same
          rw [if_pos rfl, if_pos rfl, if_neg (Ne.symm elsewhere)]
        · rw [if_neg same, if_neg same]

theorem mem_names_insert {label : String} :
    label ∈ (insert name value table).map Prod.fst ↔ label = name ∨ label ∈ table.map Prod.fst := by
  rw [← not_iff_not, ← find?_eq_none_iff, find?_insert, not_or, ← find?_eq_none_iff]
  by_cases same : label = name <;> simp [same]

theorem Ordered.insert (ordered : table.Ordered) (name : String) (value : α) :
    (Named.insert name value table).Ordered := by
  induction table with
  | nil => exact List.pairwise_singleton _ _
  | cons entry rest ih =>
    obtain ⟨first, held⟩ := entry
    obtain ⟨least, sorted⟩ := List.pairwise_cons.mp ordered
    unfold Named.insert
    split
    · rename_i here
      subst here
      exact ordered
    · rename_i elsewhere
      split
      · rename_i before
        refine List.pairwise_cons.mpr ⟨fun other member => ?_, ordered⟩
        rcases List.mem_cons.mp member with rfl | later
        · exact before
        · exact before.trans (least other later)
      · rename_i behind
        refine List.pairwise_cons.mpr ⟨fun other member => ?_, ih sorted⟩
        rcases mem_names_insert.mp member with rfl | later
        · exact lt_of_le_of_ne (not_lt.mp behind) (Ne.symm elsewhere)
        · exact least other later

/-- One more entry is given after all the others. -/
theorem ofList_append (entries : List (String × α)) (name : String) (value : α) :
    ofList (entries ++ [(name, value)]) = insert name value (ofList entries) := by
  simp [ofList]

theorem ordered_ofList (entries : List (String × α)) : (ofList entries).Ordered := by
  induction entries using List.reverseRecOn with
  | nil => exact List.Pairwise.nil
  | append_singleton earlier entry ih =>
    rw [ofList_append]
    exact ih.insert _ _

/-- Of all entries of a name the last one counts. -/
theorem find?_ofList (entries : List (String × α)) (name : String) :
    (ofList entries).find? name = find? entries.reverse name := by
  induction entries using List.reverseRecOn with
  | nil => rfl
  | append_singleton earlier entry ih =>
    obtain ⟨label, value⟩ := entry
    rw [ofList_append, find?_insert, ih, List.reverse_append, List.reverse_singleton,
      List.singleton_append, find?_cons]

theorem names_ofList : name ∈ (ofList entries).map Prod.fst ↔ name ∈ entries.map Prod.fst := by
  rw [← not_iff_not, ← find?_eq_none_iff, find?_ofList, find?_eq_none_iff, List.map_reverse,
    List.mem_reverse]

/-- Entries of distinct names may be given in any order. -/
theorem ofList_perm {others : List (String × α)} (distinct : (entries.map Prod.fst).Nodup)
    (perm : entries.Perm others) : ofList entries = ofList others := by
  refine (ordered_ofList entries).ext (ordered_ofList others) fun name => ?_
  rw [find?_ofList, find?_ofList]
  refine find?_perm ?_ ?_ name
  · rw [List.map_reverse]
    exact List.nodup_reverse.mpr distinct
  · exact (List.reverse_perm entries).trans (perm.trans (List.reverse_perm others).symm)

/-- An ordered table is made of its own entries. -/
theorem Ordered.ofList_eq (ordered : table.Ordered) : ofList table = table := by
  refine (ordered_ofList table).ext ordered fun name => ?_
  rw [find?_ofList]
  refine (find?_perm ordered.nodup ?_ name).symm
  exact (List.reverse_perm table).symm

/-- An entry in the middle counts unless its name comes again. -/
theorem ofList_middle (before after : List (String × α)) (name : String) (value : α) :
    ofList (before ++ (name, value) :: after) =
      if name ∈ after.map Prod.fst then ofList (before ++ after)
      else insert name value (ofList (before ++ after)) := by
  have found (other : String) : (ofList (before ++ (name, value) :: after)).find? other =
      (find? after.reverse other).or
        (if other = name then some value else find? before.reverse other) := by
    rw [find?_ofList, List.reverse_append, List.reverse_cons, List.append_assoc, find?_append,
      List.singleton_append, find?_cons]
  have without (other : String) : (ofList (before ++ after)).find? other =
      (find? after.reverse other).or (find? before.reverse other) := by
    rw [find?_ofList, List.reverse_append, find?_append]
  have missing : name ∉ after.map Prod.fst ↔ find? after.reverse name = none := by
    rw [find?_eq_none_iff, List.map_reverse, List.mem_reverse]
  split
  · rename_i again
    refine (ordered_ofList _).ext (ordered_ofList _) fun other => ?_
    rw [found, without]
    by_cases same : other = name
    · subst same
      have some_ : find? after.reverse other ≠ none := fun none_ => missing.mpr none_ again
      cases later : find? after.reverse other with
      | none => exact absurd later some_
      | some held => rfl
    · rw [if_neg same]
  · rename_i last
    refine (ordered_ofList _).ext ((ordered_ofList _).insert _ _) fun other => ?_
    rw [found, find?_insert, without]
    by_cases same : other = name
    · subst same
      rw [missing.mp last, if_pos rfl, if_pos rfl]
      rfl
    · rw [if_neg same, if_neg same]

/-- The value of one name is changed. -/
def adjust (name : String) (change : α → α) (table : Named α) : Named α :=
  table.map fun entry => if entry.1 = name then (entry.1, change entry.2) else entry

theorem adjust_names (name : String) (change : α → α) (table : Named α) :
    (adjust name change table).map Prod.fst = table.map Prod.fst := by
  rw [adjust, List.map_map]
  refine List.map_congr_left fun entry _ => ?_
  by_cases here : entry.1 = name <;> simp [here]

theorem find?_adjust (name : String) (change : α → α) (table : Named α) (other : String) :
    (adjust name change table).find? other =
      (table.find? other).map (if other = name then change else id) := by
  induction table with
  | nil => rfl
  | cons entry rest ih =>
    obtain ⟨first, held⟩ := entry
    have step : adjust name change ((first, held) :: rest) =
        (first, if first = name then change held else held) :: adjust name change rest := by
      by_cases here : first = name <;> simp [adjust, here]
    rw [step, find?_cons, find?_cons, ih]
    by_cases same : other = first
    · subst same
      by_cases here : other = name <;> simp [here]
    · rw [if_neg same, if_neg same]

/-- To change the value of a name is to give it another one. -/
theorem Ordered.adjust_eq (ordered : table.Ordered) (found : table.find? name = some value)
    (change : α → α) : adjust name change table = Named.insert name (change value) table := by
  have sorted : (adjust name change table).Ordered := by
    rw [Ordered, adjust_names]
    exact ordered
  refine sorted.ext (ordered.insert _ _) fun other => ?_
  rw [find?_adjust, find?_insert]
  by_cases same : other = name
  · rw [if_pos same, if_pos same, same, found, Option.map_some]
  · rw [if_neg same, if_neg same, Option.map_id, id]

/-- Of two values given to one name the last stays. -/
theorem insert_insert (name : String) (first second : α) (table : Named α) :
    insert name second (insert name first table) = insert name second table := by
  induction table with
  | nil => simp [insert]
  | cons entry rest ih =>
    obtain ⟨label, held⟩ := entry
    by_cases same : name = label
    · simp [insert, same]
    · by_cases before : name < label
      · simp [insert, same, before]
      · simp [insert, same, before, ih]

end Fusebox.Named
