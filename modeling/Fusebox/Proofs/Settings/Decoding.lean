import Fusebox.Proofs.Document.Named
import Fusebox.Settings.Decode
import Mathlib.Data.List.Forall2

/-! What a group of settings is read from: its slots. A table is worth what it has under each known
key, whatever else is in it and in whatever order; a list is worth the table that has its items
under the first keys. -/
namespace Fusebox

variable {surplus : Surplus} {entries others : List (String × Tree)}

/-- Reading a list succeeds if reading each of its items does. -/
theorem mapM_eq_some_iff {α β : Type} {read? : α → Option β} {items : List α} {found : List β} :
    items.mapM read? = some found ↔
      List.Forall₂ (fun item value => read? item = some value) items found := by
  induction items generalizing found with
  | nil =>
    rw [List.mapM_nil, List.forall₂_nil_left_iff]
    exact ⟨fun same => (Option.some.inj same).symm, fun same => congrArg some same.symm⟩
  | cons item rest ih =>
    simp only [List.mapM_cons, Option.bind_eq_bind, Option.bind_eq_some_iff,
      List.forall₂_cons_left_iff, ih]
    constructor
    · rintro ⟨value, here, values, later, same⟩
      cases same
      exact ⟨value, values, here, later, rfl⟩
    · rintro ⟨value, values, here, later, rfl⟩
      exact ⟨value, here, values, later, rfl⟩

theorem mapM_congr {α β : Type} {read? other? : α → Option β} {items : List α}
    (same : ∀ item ∈ items, read? item = other? item) : items.mapM read? = items.mapM other? := by
  induction items with
  | nil => rfl
  | cons item rest ih =>
    rw [List.mapM_cons, List.mapM_cons, same item List.mem_cons_self,
      ih fun other later => same other (.tail _ later)]

namespace Tree

variable {keys : List String} {key : String} {slots : List (Option Tree)}

/-- Only entries of the key itself matter for its slot. -/
theorem slot?_congr (same : entries.filter (·.1 == key) = others.filter (·.1 == key)) :
    slot? entries key = slot? others key := by
  unfold slot?
  rw [same]

theorem slot?_perm (perm : entries.Perm others) (key : String) :
    slot? entries key = slot? others key := by
  have given := perm.filter (·.1 == key)
  unfold slot?
  generalize entries.filter (·.1 == key) = first at given
  generalize others.filter (·.1 == key) = second at given
  match first, given with
  | [], given => rw [given.nil_eq]
  | [entry], given => rw [List.perm_singleton.mp given.symm]
  | one :: other :: rest, given =>
    match second, given.length_eq with
    | _ :: _ :: _, _ => rfl

/-- Tables with the same slots are the same to whoever reads them. -/
theorem slots?_congr (same : ∀ key ∈ keys, slot? entries key = slot? others key) :
    (table entries).slots? surplus keys = (table others).slots? surplus keys := mapM_congr same

theorem slots?_perm (perm : entries.Perm others) :
    (table entries).slots? surplus keys = (table others).slots? surplus keys :=
  slots?_congr fun key _ => slot?_perm perm key

/-- Entries of other keys make no difference. -/
theorem slots?_known
    (same : entries.filter (·.1 ∈ keys) = others.filter (·.1 ∈ keys)) :
    (table entries).slots? surplus keys = (table others).slots? surplus keys := by
  refine slots?_congr fun key known => slot?_congr ?_
  have narrowed (entries : List (String × Tree)) :
      (entries.filter (·.1 ∈ keys)).filter (·.1 == key) = entries.filter (·.1 == key) := by
    rw [List.filter_filter]
    refine List.filter_congr fun entry _ => ?_
    by_cases here : entry.1 = key <;> simp [here, known]
  rw [← narrowed entries, same, narrowed]

theorem slot?_absent (missing : key ∉ entries.map Prod.fst) : slot? entries key = some none := by
  have nothing : entries.filter (·.1 == key) = [] := by
    refine List.filter_eq_nil_iff.mpr fun entry member here => missing ?_
    exact beq_iff_eq.mp here ▸ List.mem_map_of_mem member
  simp only [slot?, nothing]

theorem slot?_cons_self {value : Tree} (once : key ∉ entries.map Prod.fst) :
    slot? ((key, value) :: entries) key = some (some value) := by
  have nothing : entries.filter (·.1 == key) = [] := by
    refine List.filter_eq_nil_iff.mpr fun entry member here => once ?_
    exact beq_iff_eq.mp here ▸ List.mem_map_of_mem member
  simp only [slot?, List.filter_cons, beq_self_eq_true, ↓reduceIte, nothing]

/-- An entry of another key makes no difference. -/
theorem slot?_middle_other {other : String} (different : other ≠ key) (value : Tree)
    (before after : List (String × Tree)) :
    slot? (before ++ (other, value) :: after) key = slot? (before ++ after) key := by
  refine slot?_congr ?_
  rw [List.filter_append, List.filter_cons_of_neg (by simpa using different), List.filter_append]

/-- The value of an entry is the slot of its key, unless the key has another one, too. -/
theorem slot?_middle_self (before after : List (String × Tree)) (key : String) :
    (∀ value, slot? (before ++ (key, value) :: after) key = some (some value)) ∨
      ∀ value, slot? (before ++ (key, value) :: after) key = none := by
  have swap (value : Tree) : slot? (before ++ (key, value) :: after) key =
      slot? ((key, value) :: (before ++ after)) key := slot?_perm List.perm_middle key
  simp only [swap]
  by_cases once : key ∈ (before ++ after).map Prod.fst
  · right
    intro value
    obtain ⟨⟨again, held⟩, member, rfl⟩ := List.mem_map.mp once
    have twice : (again, held) ∈ (before ++ after).filter (·.1 == again) :=
      List.mem_filter.mpr ⟨member, beq_self_eq_true again⟩
    obtain ⟨first, rest, others⟩ := List.exists_cons_of_ne_nil (List.ne_nil_of_mem twice)
    simp only [slot?, List.filter_cons, beq_self_eq_true, ↓reduceIte, others]
  · exact .inl fun value => slot?_cons_self once

/-- What is left of a table without a key. -/
theorem slot?_without (entries : List (String × Tree)) (gone key : String) :
    slot? (entries.filter (·.1 != gone)) key =
      if key = gone then some none else slot? entries key := by
  by_cases here : key = gone
  · rw [if_pos here]
    refine slot?_absent fun member => ?_
    obtain ⟨entry, left, same⟩ := List.mem_map.mp member
    have other := (List.mem_filter.mp left).2
    simp [same, here] at other
  · rw [if_neg here]
    refine slot?_congr ?_
    rw [List.filter_filter]
    refine List.filter_congr fun entry _ => ?_
    by_cases same : entry.1 = key <;> simp [same, here]

theorem slots?_without (found : (table entries).slots? surplus keys = some slots) (gone : String) :
    (table (entries.filter (·.1 != gone))).slots? surplus keys =
      some (List.zipWith (fun key slot => if key = gone then none else slot) keys slots) := by
  have each : List.Forall₂ (fun key slot => slot? entries key = some slot) keys slots :=
    mapM_eq_some_iff.mp found
  refine mapM_eq_some_iff.mpr ?_
  clear found
  induction each with
  | nil => exact .nil
  | cons here _ ih =>
    refine .cons ?_ ih
    rw [slot?_without, here]
    exact (apply_ite some _ _ _).symm

/-- The slots of the first keys are filled with values, and the others are empty. -/
theorem slots?_zip (distinct : keys.Nodup) {items : List Tree} (few : items.length ≤ keys.length) :
    (table (keys.zip items)).slots? surplus keys =
      some (items.map some ++ List.replicate (keys.length - items.length) none) := by
  rw [slots?]
  induction keys generalizing items with
  | nil =>
    rw [List.length_nil, Nat.le_zero, List.length_eq_zero_iff] at few
    subst few
    rfl
  | cons first rest ih =>
    obtain ⟨once, distinct⟩ := List.nodup_cons.mp distinct
    cases items with
    | nil =>
      have later := ih distinct (List.length_nil ▸ Nat.zero_le rest.length)
      rw [List.zip_nil_right] at later ⊢
      rw [List.mapM_cons, later, slot?_absent List.not_mem_nil]
      rfl
    | cons item items =>
      have others : first ∉ (rest.zip items).map Prod.fst := by
        rintro member
        obtain ⟨entry, paired, rfl⟩ := List.mem_map.mp member
        exact once (List.of_mem_zip paired).1
      have later := ih distinct (Nat.le_of_succ_le_succ few)
      have same : rest.mapM (slot? ((first, item) :: rest.zip items)) =
          rest.mapM (slot? (rest.zip items)) := by
        refine mapM_congr fun key known => ?_
        have different : first ≠ key := fun same => once (same ▸ known)
        exact slot?_middle_other different item [] (rest.zip items)
      rw [List.zip_cons_cons, List.mapM_cons, slot?_cons_self others, same, later]
      simp

theorem slots?_zip_all (distinct : keys.Nodup) {items : List Tree}
    (all : items.length = keys.length) :
    (table (keys.zip items)).slots? surplus keys = some (items.map some) := by
  rw [slots?_zip distinct all.le, all, Nat.sub_self, List.replicate_zero, List.append_nil]

/-- A list is worth the table that has its items under the first keys. -/
theorem slots?_list (distinct : keys.Nodup) {items : List Tree} (few : items.length ≤ keys.length) :
    (list items).slots? surplus keys = (table (keys.zip items)).slots? surplus keys := by
  rw [slots?_zip distinct few, slots?, if_neg (fun long => absurd long.2 (Nat.not_lt.mpr few)),
    List.take_of_length_le few]

end Tree
/-! Groups and their slots -/

namespace AdminSettings

variable {tree : Tree} {settings : AdminSettings}

/-- What the group is read from. -/
theorem decode?_eq_some_iff :
    decode? surplus tree = some settings ↔
      ∃ enabled bindAddress apiKey,
        tree.slots? surplus keys = some [enabled, bindAddress, apiKey] ∧
        slotOr true Tree.flag? enabled = some settings.enabled ∧
        slotOr "127.0.0.1:8081" Tree.text? bindAddress = some settings.bindAddress ∧
        slotOr "" Tree.text? apiKey = some settings.apiKey := by
  simp only [decode?, Option.bind_eq_bind, Option.bind_eq_some_iff]
  constructor
  · rintro ⟨slots, found, read⟩
    split at read
    · simp only [Option.bind_eq_some_iff] at read
      obtain ⟨enabled, first, address, second, key, third, same⟩ := read
      cases same
      exact ⟨_, _, _, found, first, second, third⟩
    · cases read
  · rintro ⟨enabled, address, key, found, first, second, third⟩
    exact ⟨_, found, by simp [first, second, third]⟩

theorem decode?_encode (settings : AdminSettings) :
    decode? surplus settings.encode = some settings :=
  decode?_eq_some_iff.mpr ⟨_, _, _, rfl, rfl, rfl, rfl⟩

end AdminSettings

namespace ObservabilitySettings

variable {tree : Tree} {settings : ObservabilitySettings}

/-- What the group is read from. -/
theorem decode?_eq_some_iff :
    decode? surplus tree = some settings ↔
      ∃ logLevel metricsEnabled metricsAddress,
        tree.slots? surplus keys = some [logLevel, metricsEnabled, metricsAddress] ∧
        slotOr "info" Tree.text? logLevel = some settings.logLevel ∧
        slotOr false Tree.flag? metricsEnabled = some settings.metricsEnabled ∧
        slotOr "0.0.0.0:9090" Tree.text? metricsAddress = some settings.metricsAddress := by
  simp only [decode?, Option.bind_eq_bind, Option.bind_eq_some_iff]
  constructor
  · rintro ⟨slots, found, read⟩
    split at read
    · simp only [Option.bind_eq_some_iff] at read
      obtain ⟨level, first, enabled, second, address, third, same⟩ := read
      cases same
      exact ⟨_, _, _, found, first, second, third⟩
    · cases read
  · rintro ⟨level, enabled, address, found, first, second, third⟩
    exact ⟨_, found, by simp [first, second, third]⟩

theorem decode?_encode (settings : ObservabilitySettings) :
    decode? surplus settings.encode = some settings :=
  decode?_eq_some_iff.mpr ⟨_, _, _, rfl, rfl, rfl, rfl⟩

end ObservabilitySettings

namespace BreakerSettings

variable {tree : Tree} {settings : BreakerSettings}

/-- What the group is read from. -/
theorem decode?_eq_some_iff :
    decode? surplus tree = some settings ↔
      ∃ maxProbes resetInterval openTimeout threshold minimum,
        tree.slots? surplus keys =
          some [maxProbes, resetInterval, openTimeout, threshold, minimum] ∧
        slotOr 3 Tree.word32? maxProbes = some settings.maxProbes ∧
        slotOr 10000 Tree.word64? resetInterval = some settings.resetIntervalMs ∧
        slotOr 30000 Tree.word64? openTimeout = some settings.openTimeoutMs ∧
        slotOr 0.5 Tree.real? threshold = some settings.failureThreshold ∧
        slotOr 3 Tree.word32? minimum = some settings.minimumRequests := by
  simp only [decode?, Option.bind_eq_bind, Option.bind_eq_some_iff]
  constructor
  · rintro ⟨slots, found, read⟩
    split at read
    · simp only [Option.bind_eq_some_iff] at read
      obtain ⟨probes, first, interval, second, timeout, third, threshold, fourth, minimum, fifth,
        same⟩ := read
      cases same
      exact ⟨_, _, _, _, _, found, first, second, third, fourth, fifth⟩
    · cases read
  · rintro ⟨probes, interval, timeout, threshold, minimum, found, first, second, third, fourth,
      fifth⟩
    exact ⟨_, found, by simp [first, second, third, fourth, fifth]⟩

theorem word32?_toNat (word : UInt32) : (Tree.whole word.toNat).word32? = some word := by
  have bound : (word.toNat : Int) < UInt32.size := by exact_mod_cast word.toNat_lt
  rw [Tree.word32?, Tree.below?, if_pos ⟨Int.natCast_nonneg _, bound⟩]
  simp

theorem word64?_toNat (word : UInt64) : (Tree.whole word.toNat).word64? = some word := by
  have bound : (word.toNat : Int) < UInt64.size := by exact_mod_cast word.toNat_lt
  rw [Tree.word64?, Tree.below?, if_pos ⟨Int.natCast_nonneg _, bound⟩]
  simp

theorem keys_distinct : keys.Nodup := by decide

theorem decode?_encode (settings : BreakerSettings) :
    decode? surplus settings.encode = some settings := by
  let items : List Tree := [
    .whole settings.maxProbes.toNat, .whole settings.resetIntervalMs.toNat,
    .whole settings.openTimeoutMs.toNat, .real settings.failureThreshold,
    .whole settings.minimumRequests.toNat]
  have all : items.length = keys.length := rfl
  refine decode?_eq_some_iff.mpr ⟨_, _, _, _, _, Tree.slots?_zip_all keys_distinct all, ?_⟩
  refine ⟨?probes, ?interval, ?timeout, rfl, ?minimum⟩
  case probes => rw [slotOr, word32?_toNat]
  case interval => rw [slotOr, word64?_toNat]
  case timeout => rw [slotOr, word64?_toNat]
  case minimum => rw [slotOr, word32?_toNat]

/-- A breaker is read with its name. -/
def readNamed? (surplus : Surplus) (entry : String × Tree) : Option (String × BreakerSettings) :=
  (decode? surplus entry.2).map (entry.1, ·)

theorem readNamed?_eq_some_iff {entry : String × Tree} {named : String × BreakerSettings} :
    readNamed? surplus entry = some named ↔
      decode? surplus entry.2 = some named.2 ∧ named.1 = entry.1 := by
  obtain ⟨name, breaker⟩ := named
  simp only [readNamed?, Option.map_eq_some_iff, Prod.mk.injEq]
  constructor
  · rintro ⟨value, found, rfl, rfl⟩
    exact ⟨found, rfl⟩
  · rintro ⟨found, rfl⟩
    exact ⟨breaker, found, rfl, rfl⟩

/-- Breakers by name are read one by one. -/
theorem decodeNamed?_table_eq (entries : List (String × Tree)) :
    decodeNamed? surplus (.table entries) =
      (entries.mapM (readNamed? surplus)).map Named.ofList := by
  have one (entry : String × Tree) : readNamed? surplus entry =
      (decode? surplus entry.2).bind fun breaker => some (entry.1, breaker) := by
    rw [readNamed?, Option.map_eq_bind]
    rfl
  simp only [decodeNamed?, funext one, Option.map_eq_bind]
  rfl

theorem decodeNamed?_eq_some_iff {breakers : Named BreakerSettings} :
    decodeNamed? surplus (.table entries) = some breakers ↔
      ∃ read, List.Forall₂ (fun entry named => readNamed? surplus entry = some named) entries read ∧
        Named.ofList read = breakers := by
  simp only [decodeNamed?_table_eq, Option.map_eq_some_iff, mapM_eq_some_iff]

theorem readNamed?_names {named : List (String × BreakerSettings)}
    (read : List.Forall₂ (fun entry named => readNamed? surplus entry = some named) entries named) :
    named.map Prod.fst = entries.map Prod.fst := by
  induction read with
  | nil => rfl
  | cons here _ ih => rw [List.map_cons, List.map_cons, (readNamed?_eq_some_iff.mp here).2, ih]

/-- Nothing but a table holds breakers by name. -/
theorem decodeNamed?_table {tree : Tree} {breakers : Named BreakerSettings}
    (read : decodeNamed? surplus tree = some breakers) : ∃ entries, tree = .table entries := by
  cases tree with
  | table entries => exact ⟨entries, rfl⟩
  | _ => cases read

theorem decodeNamed?_ordered {tree : Tree} {breakers : Named BreakerSettings}
    (read : decodeNamed? surplus tree = some breakers) : breakers.Ordered := by
  obtain ⟨entries, rfl⟩ := decodeNamed?_table read
  obtain ⟨named, -, rfl⟩ := decodeNamed?_eq_some_iff.mp read
  exact Named.ordered_ofList named

theorem decodeNamed?_encodeNamed {breakers : Named BreakerSettings} (ordered : breakers.Ordered) :
    decodeNamed? surplus (encodeNamed breakers) = some breakers := by
  refine decodeNamed?_eq_some_iff.mpr ⟨breakers, ?_, ordered.ofList_eq⟩
  rw [List.forall₂_map_left_iff, List.forall₂_same]
  exact fun entry _ => readNamed?_eq_some_iff.mpr ⟨decode?_encode entry.2, rfl⟩

end BreakerSettings

namespace ServiceSettings

variable {tree : Tree} {settings : ServiceSettings}

/-- What all settings are read from. -/
theorem decode?_eq_some_iff :
    decode? surplus tree = some settings ↔
      ∃ admin observability breakers,
        tree.slots? surplus keys = some [admin, observability, breakers] ∧
        slotOr {} (AdminSettings.decode? surplus) admin = some settings.admin ∧
        slotOr {} (ObservabilitySettings.decode? surplus) observability =
          some settings.observability ∧
        slotOr [(forecastBreaker, {})] (BreakerSettings.decodeNamed? surplus) breakers =
          some settings.breakers := by
  simp only [decode?, Option.bind_eq_bind, Option.bind_eq_some_iff]
  constructor
  · rintro ⟨slots, found, read⟩
    split at read
    · simp only [Option.bind_eq_some_iff] at read
      obtain ⟨admin, first, observability, second, breakers, third, same⟩ := read
      cases same
      exact ⟨_, _, _, found, first, second, third⟩
    · cases read
  · rintro ⟨admin, observability, breakers, found, first, second, third⟩
    exact ⟨_, found, by simp [first, second, third]⟩

/-- Settings that have been read have their breakers in order. -/
theorem decode?_ordered (read : decode? surplus tree = some settings) :
    settings.breakers.Ordered := by
  obtain ⟨admin, observability, breakers, -, -, -, named⟩ := decode?_eq_some_iff.mp read
  cases breakers with
  | none =>
    rw [← Option.some.inj named]
    exact List.pairwise_singleton _ _
  | some tree => exact BreakerSettings.decodeNamed?_ordered named

theorem decode?_encode (ordered : settings.breakers.Ordered) :
    decode? surplus settings.encode = some settings :=
  decode?_eq_some_iff.mpr ⟨_, _, _, rfl, AdminSettings.decode?_encode _,
    ObservabilitySettings.decode?_encode _, BreakerSettings.decodeNamed?_encodeNamed ordered⟩

end ServiceSettings
end Fusebox
