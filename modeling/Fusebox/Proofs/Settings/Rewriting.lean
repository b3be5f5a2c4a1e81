import Fusebox.Proofs.Settings.Decoding
import Mathlib.Data.List.Perm.Basic

/-! The same settings can be written in many ways. A group of settings has its place in a document,
and the document means the same whatever is written there, as long as the group means the same. So
all that may be done to a group is said once for all groups: to add keys that are not known, to
leave out keys that are, to give keys in another order, and to give values without keys. -/
namespace Fusebox

/-- Where a value stands in a group: under its key among other entries, or in its turn in a list. -/
inductive Position (index : Nat) where
  | entry (before after : List (String × Tree))
  | item (before after : List Tree) (counted : before.length = index)

namespace Position

/-- The group with a value in that position. -/
def fill {index : Nat} (position : Position index) (key : String) (tree : Tree) : Tree :=
  match position with
  | .entry before after => .table (before ++ (key, tree) :: after)
  | .item before after _ => .list (before ++ tree :: after)

variable {surplus : Surplus} {front back : List String} {key : String}

/-- Whether the group has slots at all does not depend on the value, and if it has them the value
is one of them. -/
def Fills (surplus : Surplus) (front back : List String) (key : String) (fill : Tree → Tree) :
    Prop :=
  (∀ tree, (fill tree).slots? surplus (front ++ key :: back) = none) ∨
    ∃ earlier later, earlier.length = front.length ∧ later.length = back.length ∧
      ∀ tree, (fill tree).slots? surplus (front ++ key :: back) =
        some (earlier ++ some tree :: later)

theorem entry_fills (distinct : (front ++ key :: back).Nodup)
    (before after : List (String × Tree)) :
    Fills surplus front back key fun tree => .table (before ++ (key, tree) :: after) := by
  have once := (List.nodup_cons.mp (List.nodup_middle.mp distinct)).1
  have others (tree : Tree) (known : List String) (some_ : known ⊆ front ++ back) :
      known.mapM (Tree.slot? (before ++ (key, tree) :: after)) =
        known.mapM (Tree.slot? (before ++ after)) := by
    refine mapM_congr fun other member => Tree.slot?_middle_other ?_ tree before after
    rintro rfl
    exact once (some_ member)
  have first (tree : Tree) := others tree front (List.subset_append_left front back)
  have last (tree : Tree) := others tree back (List.subset_append_right front back)
  simp only [Fills, Tree.slots?, List.mapM_append, List.mapM_cons, first, last]
  cases earlier : front.mapM (Tree.slot? (before ++ after)) with
  | none => exact .inl fun tree => rfl
  | some heads =>
    cases later : back.mapM (Tree.slot? (before ++ after)) with
    | none =>
      left
      intro tree
      cases Tree.slot? (before ++ (key, tree) :: after) key <;> rfl
    | some tails =>
      rcases Tree.slot?_middle_self before after key with here | twice
      · refine .inr ⟨heads, tails, ?_, ?_, fun tree => ?_⟩
        · exact (mapM_eq_some_iff.mp earlier).length_eq.symm
        · exact (mapM_eq_some_iff.mp later).length_eq.symm
        · rw [here]
          rfl
      · left
        intro tree
        rw [twice]
        rfl

theorem item_fills (before after : List Tree) (counted : before.length = front.length) :
    Fills surplus front back key fun tree => .list (before ++ tree :: after) := by
  by_cases long : surplus = .refused ∧
      (front ++ key :: back).length < (before ++ Tree.null :: after).length
  · left
    intro tree
    refine if_pos ⟨long.1, ?_⟩
    simpa using long.2
  · refine .inr ⟨before.map some, (after.take back.length).map some ++
      List.replicate (back.length - after.length) none, ?_, ?_, fun tree => ?_⟩
    · rw [List.length_map, counted]
    · simp only [List.length_append, List.length_map, List.length_take, List.length_replicate]
      omega
    · have short : ¬(surplus = .refused ∧
          (front ++ key :: back).length < (before ++ tree :: after).length) := by
        simpa using long
      have taken : (before ++ tree :: after).take (front ++ key :: back).length =
          before ++ tree :: after.take back.length := by
        rw [List.length_append, ← counted, List.take_length_add_append, List.length_cons,
          List.take_succ_cons]
      have left_ : (front ++ key :: back).length - (before ++ tree :: after).length =
          back.length - after.length := by
        simp only [List.length_append, List.length_cons]
        omega
      rw [Tree.slots?, if_neg short, taken, left_]
      simp

theorem fills (surplus : Surplus) (front back : List String) (key : String)
    (distinct : (front ++ key :: back).Nodup) (position : Position front.length) :
    Fills surplus front back key (position.fill key) := by
  cases position with
  | entry before after => exact entry_fills distinct before after
  | item before after counted => exact item_fills before after counted

end Position

/-! What is left out -/

/-- A slot that is not left out reads as before, and one that is has the default. -/
theorem slotOr_without {α : Type} {default_ value : α} {decode? : Tree → Option α}
    {slot : Option Tree} (read : slotOr default_ decode? slot = some value) (key gone : String) :
    slotOr default_ decode? (if key = gone then none else slot) =
      some (if key = gone then default_ else value) := by
  by_cases here : key = gone
  · rw [if_pos here, if_pos here, slotOr]
  · rw [if_neg here, if_neg here, read]

namespace AdminSettings

variable {surplus : Surplus} {tree other : Tree}

/-- The group with one of its settings at its default. -/
def without (gone : String) (settings : AdminSettings) : AdminSettings where
  enabled := if "enabled" = gone then true else settings.enabled
  bindAddress := if "bind_address" = gone then "127.0.0.1:8081" else settings.bindAddress
  apiKey := if "api_key" = gone then "" else settings.apiKey

theorem decode?_congr (same : tree.slots? surplus keys = other.slots? surplus keys) :
    decode? surplus tree = decode? surplus other := by
  simp only [decode?, same]

theorem decode?_without {entries : List (String × Tree)} {settings : AdminSettings}
    (read : decode? surplus (.table entries) = some settings) (gone : String) :
    decode? surplus (.table (entries.filter (·.1 != gone))) = some (settings.without gone) := by
  obtain ⟨_, _, _, found, enabled, address, key⟩ := decode?_eq_some_iff.mp read
  exact decode?_eq_some_iff.mpr ⟨_, _, _, Tree.slots?_without found gone,
    slotOr_without enabled _ _, slotOr_without address _ _, slotOr_without key _ _⟩

end AdminSettings

namespace ObservabilitySettings

variable {surplus : Surplus} {tree other : Tree}

/-- The group with one of its settings at its default. -/
def without (gone : String) (settings : ObservabilitySettings) : ObservabilitySettings where
  logLevel := if "log_level" = gone then "info" else settings.logLevel
  metricsEnabled := if "metrics_enabled" = gone then false else settings.metricsEnabled
  metricsAddress := if "metrics_address" = gone then "0.0.0.0:9090" else settings.metricsAddress

theorem decode?_congr (same : tree.slots? surplus keys = other.slots? surplus keys) :
    decode? surplus tree = decode? surplus other := by
  simp only [decode?, same]

theorem decode?_without {entries : List (String × Tree)} {settings : ObservabilitySettings}
    (read : decode? surplus (.table entries) = some settings) (gone : String) :
    decode? surplus (.table (entries.filter (·.1 != gone))) = some (settings.without gone) := by
  obtain ⟨_, _, _, found, level, enabled, address⟩ := decode?_eq_some_iff.mp read
  exact decode?_eq_some_iff.mpr ⟨_, _, _, Tree.slots?_without found gone,
    slotOr_without level _ _, slotOr_without enabled _ _, slotOr_without address _ _⟩

end ObservabilitySettings

namespace BreakerSettings

variable {surplus : Surplus} {tree other : Tree}

/-- The group with one of its settings at its default. -/
def without (gone : String) (settings : BreakerSettings) : BreakerSettings where
  maxProbes := if "max_half_open_requests" = gone then 3 else settings.maxProbes
  resetIntervalMs := if "reset_interval_ms" = gone then 10000 else settings.resetIntervalMs
  openTimeoutMs := if "open_timeout_ms" = gone then 30000 else settings.openTimeoutMs
  failureThreshold := if "failure_ratio_threshold" = gone then 0.5 else settings.failureThreshold
  minimumRequests := if "minimum_requests_to_trip" = gone then 3 else settings.minimumRequests

theorem decode?_congr (same : tree.slots? surplus keys = other.slots? surplus keys) :
    decode? surplus tree = decode? surplus other := by
  simp only [decode?, same]

theorem decode?_without {entries : List (String × Tree)} {settings : BreakerSettings}
    (read : decode? surplus (.table entries) = some settings) (gone : String) :
    decode? surplus (.table (entries.filter (·.1 != gone))) = some (settings.without gone) := by
  obtain ⟨_, _, _, _, _, found, probes, interval, timeout, threshold, minimum⟩ :=
    decode?_eq_some_iff.mp read
  exact decode?_eq_some_iff.mpr ⟨_, _, _, _, _, Tree.slots?_without found gone,
    slotOr_without probes _ _, slotOr_without interval _ _, slotOr_without timeout _ _,
    slotOr_without threshold _ _, slotOr_without minimum _ _⟩

/-- One breaker among others is read by itself, and it counts unless its name comes again. -/
theorem decodeNamed?_middle (earlier later : List (String × Tree)) (name : String) :
    ∃ others : Option (Named BreakerSettings), ∀ tree,
      decodeNamed? surplus (.table (earlier ++ (name, tree) :: later)) =
        others.bind fun table => (decode? surplus tree).map fun breaker =>
          if name ∈ later.map Prod.fst then table else Named.insert name breaker table := by
  simp only [decodeNamed?_table_eq, List.mapM_append, List.mapM_cons]
  cases front : earlier.mapM (readNamed? surplus) with
  | none => exact ⟨none, fun tree => rfl⟩
  | some before =>
    cases back : later.mapM (readNamed? surplus) with
    | none =>
      refine ⟨none, fun tree => ?_⟩
      cases readNamed? surplus (name, tree) <;> rfl
    | some after =>
      refine ⟨some (Named.ofList (before ++ after)), fun tree => ?_⟩
      rw [readNamed?, ← readNamed?_names (mapM_eq_some_iff.mp back)]
      cases decode? surplus tree with
      | none => rfl
      | some breaker => exact congrArg some (Named.ofList_middle before after name breaker)

end BreakerSettings

namespace ServiceSettings

variable {surplus : Surplus} {tree other : Tree}

/-- All settings, but one of the groups has its defaults. -/
def without (gone : String) (settings : ServiceSettings) : ServiceSettings where
  admin := if "admin" = gone then {} else settings.admin
  observability := if "observability" = gone then {} else settings.observability
  breakers := if "breakers" = gone then [("nws-api", {})] else settings.breakers

theorem decode?_congr (same : tree.slots? surplus keys = other.slots? surplus keys) :
    decode? surplus tree = decode? surplus other := by
  simp only [decode?, same]

theorem decode?_without {entries : List (String × Tree)} {settings : ServiceSettings}
    (read : decode? surplus (.table entries) = some settings) (gone : String) :
    decode? surplus (.table (entries.filter (·.1 != gone))) = some (settings.without gone) := by
  obtain ⟨_, _, _, found, admin, observability, breakers⟩ := decode?_eq_some_iff.mp read
  exact decode?_eq_some_iff.mpr ⟨_, _, _, Tree.slots?_without found gone,
    slotOr_without admin _ _, slotOr_without observability _ _, slotOr_without breakers _ _⟩

/-! Groups among others -/

theorem keys_distinct : keys.Nodup := by decide

/-- Settings are put together from their groups. -/
theorem decode?_of_slots {tree : Tree} {admin observability breakers : Option Tree}
    (found : tree.slots? surplus keys = some [admin, observability, breakers]) :
    decode? surplus tree =
      (slotOr {} (AdminSettings.decode? surplus) admin).bind fun admin =>
      (slotOr {} (ObservabilitySettings.decode? surplus) observability).bind fun observability =>
      (slotOr [("nws-api", {})] (BreakerSettings.decodeNamed? surplus) breakers).bind
        fun breakers => some ⟨admin, observability, breakers⟩ := by
  simp only [decode?, found]
  rfl

theorem decode?_of_no_slots {tree : Tree} (missing : tree.slots? surplus keys = none) :
    decode? surplus tree = none := by
  simp only [decode?, missing]
  rfl

/-- Settings are read by reading one of their groups and giving it its place among the others. -/
def ReadsBy {α : Type} (surplus : Surplus) (fill : Tree → Tree) (read? : Tree → Option α)
    (put : ServiceSettings → α → ServiceSettings) : Prop :=
  ∃ others : Option ServiceSettings, ∀ tree,
    decode? surplus (fill tree) = others.bind fun settings => (read? tree).map (put settings)

theorem admin_readsBy (position : Position 0) :
    ReadsBy surplus (position.fill "admin") (AdminSettings.decode? surplus)
      fun settings admin => { settings with admin } := by
  have filled :=
    Position.fills surplus [] ["observability", "breakers"] "admin" keys_distinct position
  rcases filled with missing | ⟨earlier, later, front, back, found⟩
  · exact ⟨none, fun tree => decode?_of_no_slots (missing tree)⟩
  · match earlier, later with
    | [], [observability, breakers] =>
      refine ⟨(slotOr {} (ObservabilitySettings.decode? surplus) observability).bind
        fun observability =>
          (slotOr [("nws-api", {})] (BreakerSettings.decodeNamed? surplus) breakers).bind
            fun breakers => some ⟨{}, observability, breakers⟩, fun tree => ?_⟩
      rw [decode?_of_slots (found tree), slotOr]
      cases AdminSettings.decode? surplus tree <;>
        cases slotOr {} (ObservabilitySettings.decode? surplus) observability <;>
        cases slotOr [("nws-api", {})] (BreakerSettings.decodeNamed? surplus) breakers <;> rfl

theorem observability_readsBy (position : Position 1) :
    ReadsBy surplus (position.fill "observability") (ObservabilitySettings.decode? surplus)
      fun settings observability => { settings with observability } := by
  have filled :=
    Position.fills surplus ["admin"] ["breakers"] "observability" keys_distinct position
  rcases filled with missing | ⟨earlier, later, front, back, found⟩
  · exact ⟨none, fun tree => decode?_of_no_slots (missing tree)⟩
  · match earlier, later with
    | [admin], [breakers] =>
      refine ⟨(slotOr {} (AdminSettings.decode? surplus) admin).bind fun admin =>
          (slotOr [("nws-api", {})] (BreakerSettings.decodeNamed? surplus) breakers).bind
            fun breakers => some ⟨admin, {}, breakers⟩, fun tree => ?_⟩
      rw [decode?_of_slots (found tree), slotOr]
      cases slotOr {} (AdminSettings.decode? surplus) admin <;>
        cases ObservabilitySettings.decode? surplus tree <;>
        cases slotOr [("nws-api", {})] (BreakerSettings.decodeNamed? surplus) breakers <;> rfl

theorem breakers_readsBy (position : Position 2) :
    ReadsBy surplus (position.fill "breakers") (BreakerSettings.decodeNamed? surplus)
      fun settings breakers => { settings with breakers } := by
  have filled :=
    Position.fills surplus ["admin", "observability"] [] "breakers" keys_distinct position
  rcases filled with missing | ⟨earlier, later, front, back, found⟩
  · exact ⟨none, fun tree => decode?_of_no_slots (missing tree)⟩
  · match earlier, later with
    | [admin, observability], [] =>
      refine ⟨(slotOr {} (AdminSettings.decode? surplus) admin).bind fun admin =>
          (slotOr {} (ObservabilitySettings.decode? surplus) observability).bind
            fun observability => some ⟨admin, observability, []⟩, fun tree => ?_⟩
      rw [decode?_of_slots (found tree), slotOr]
      cases slotOr {} (AdminSettings.decode? surplus) admin <;>
        cases slotOr {} (ObservabilitySettings.decode? surplus) observability <;>
        cases BreakerSettings.decodeNamed? surplus tree <;> rfl

theorem breaker_readsBy (position : Position 2) (earlier later : List (String × Tree))
    (name : String) :
    ReadsBy surplus
      (fun tree => position.fill "breakers" (.table (earlier ++ (name, tree) :: later)))
      (BreakerSettings.decode? surplus) fun settings breaker =>
        if name ∈ later.map Prod.fst then settings
        else { settings with breakers := Named.insert name breaker settings.breakers } := by
  have reads : ReadsBy surplus (position.fill "breakers") _ _ := breakers_readsBy position
  obtain ⟨others, by_⟩ := reads
  obtain ⟨tables, named⟩ := BreakerSettings.decodeNamed?_middle earlier later name
  refine ⟨others.bind fun settings => tables.map fun breakers => { settings with breakers },
    fun tree => ?_⟩
  rw [by_, named]
  cases others with
  | none => rfl
  | some settings =>
    cases tables with
    | none => rfl
    | some table =>
      cases BreakerSettings.decode? surplus tree with
      | none => rfl
      | some breaker =>
        by_cases again : name ∈ later.map Prod.fst
        · simp only [Option.bind_some, Option.map_some, if_pos again]
        · simp only [Option.bind_some, Option.map_some, if_neg again]

theorem ReadsBy.congr {α : Type} {fill : Tree → Tree} {read? : Tree → Option α}
    {put : ServiceSettings → α → ServiceSettings} (reads : ReadsBy surplus fill read? put)
    (same : read? tree = read? other) :
    decode? surplus (fill tree) = decode? surplus (fill other) := by
  obtain ⟨others, by_⟩ := reads
  rw [by_, by_, same]

/-- If a document is accepted, so is what stands in it, and something else may stand there. -/
theorem ReadsBy.replace {α : Type} {fill : Tree → Tree} {read? : Tree → Option α}
    {put : ServiceSettings → α → ServiceSettings} (reads : ReadsBy surplus fill read? put)
    {settings : ServiceSettings} (accepted : decode? surplus (fill tree) = some settings) :
    ∃ others value, read? tree = some value ∧ put others value = settings ∧
      ∀ other instead, read? other = some instead →
        decode? surplus (fill other) = some (put others instead) := by
  obtain ⟨others, by_⟩ := reads
  rw [by_] at accepted
  obtain ⟨around, found, accepted⟩ := Option.bind_eq_some_iff.mp accepted
  obtain ⟨value, read, same⟩ := Option.map_eq_some_iff.mp accepted
  refine ⟨around, value, read, same, fun other instead new => ?_⟩
  rw [by_, found, new]
  rfl

end ServiceSettings

/-! Frames -/

/-- A document with a hole where one of the groups stands. -/
inductive Frame where
  | service
  | admin (position : Position 0)
  | observability (position : Position 1)
  /-- One breaker among others. -/
  | breaker (position : Position 2) (earlier later : List (String × Tree)) (name : String)

namespace Frame

open ServiceSettings

/-- The document with a group in its hole. -/
def fill (frame : Frame) (tree : Tree) : Tree :=
  match frame with
  | .service => tree
  | .admin position => position.fill "admin" tree
  | .observability position => position.fill "observability" tree
  | .breaker position earlier later name =>
    position.fill "breakers" (.table (earlier ++ (name, tree) :: later))

/-- The settings of the group in their fixed order. -/
def keys : Frame → List String
  | .service => ServiceSettings.keys
  | .admin _ => AdminSettings.keys
  | .observability _ => ObservabilitySettings.keys
  | .breaker .. => BreakerSettings.keys

/-- All settings, but one of those of the group has its default. A breaker whose name comes again
does not count at all. -/
def without (frame : Frame) (gone : String) (settings : ServiceSettings) : ServiceSettings :=
  match frame with
  | .service => settings.without gone
  | .admin _ => { settings with admin := settings.admin.without gone }
  | .observability _ => { settings with observability := settings.observability.without gone }
  | .breaker _ _ later name =>
    if name ∈ later.map Prod.fst then settings
    else { settings with breakers := settings.breakers.adjust name (BreakerSettings.without gone) }

variable {surplus : Surplus} {tree other : Tree} {settings : ServiceSettings}

theorem keys_distinct (frame : Frame) : frame.keys.Nodup := by
  cases frame with
  | service => exact ServiceSettings.keys_distinct
  | admin position => exact (by decide : AdminSettings.keys.Nodup)
  | observability position => exact (by decide : ObservabilitySettings.keys.Nodup)
  | breaker position earlier later name => exact BreakerSettings.keys_distinct

/-- What stands in the hole counts by its slots only. -/
theorem decode?_congr (frame : Frame)
    (same : tree.slots? surplus frame.keys = other.slots? surplus frame.keys) :
    decode? surplus (frame.fill tree) = decode? surplus (frame.fill other) := by
  cases frame with
  | service => exact ServiceSettings.decode?_congr same
  | admin position => exact (admin_readsBy position).congr (AdminSettings.decode?_congr same)
  | observability position =>
    exact (observability_readsBy position).congr (ObservabilitySettings.decode?_congr same)
  | breaker position earlier later name =>
    exact (breaker_readsBy position earlier later name).congr (BreakerSettings.decode?_congr same)

theorem decode?_without (frame : Frame) {entries : List (String × Tree)}
    (accepted : decode? surplus (frame.fill (.table entries)) = some settings) (gone : String) :
    decode? surplus (frame.fill (.table (entries.filter (·.1 != gone)))) =
      some (frame.without gone settings) := by
  cases frame with
  | service => exact ServiceSettings.decode?_without accepted gone
  | admin position =>
    obtain ⟨others, admin, read, rfl, replace⟩ := (admin_readsBy position).replace accepted
    exact replace _ _ (AdminSettings.decode?_without read gone)
  | observability position =>
    obtain ⟨others, group, read, rfl, replace⟩ := (observability_readsBy position).replace accepted
    exact replace _ _ (ObservabilitySettings.decode?_without read gone)
  | breaker position earlier later name =>
    have ordered := decode?_ordered accepted
    obtain ⟨others, breaker, read, rfl, replace⟩ :=
      (breaker_readsBy position earlier later name).replace accepted
    refine (replace _ _ (BreakerSettings.decode?_without read gone)).trans (congrArg some ?_)
    by_cases again : name ∈ later.map Prod.fst
    · simp only [without, if_pos again]
    · simp only [without, if_neg again] at ordered ⊢
      have found : (Named.insert name breaker others.breakers).find? name = some breaker := by
        rw [Named.find?_insert, if_pos rfl]
      rw [ordered.adjust_eq found, Named.insert_insert]

end Frame
/-! Tables of breakers -/

namespace BreakerSettings

variable {surplus : Surplus} {entries others : List (String × Tree)}
  {breakers : Named BreakerSettings}

theorem readNamed?_find? {named : List (String × BreakerSettings)}
    (read : List.Forall₂ (fun entry named => readNamed? surplus entry = some named) entries named)
    (name : String) :
    Named.find? named name = (Named.find? entries name).bind (decode? surplus) := by
  induction read with
  | nil => rfl
  | @cons entry found _ _ here _ ih =>
    obtain ⟨label, tree⟩ := entry
    obtain ⟨given, breaker⟩ := found
    obtain ⟨decoded, same⟩ := readNamed?_eq_some_iff.mp here
    simp only at decoded same
    rw [Named.find?_cons, Named.find?_cons, same, ih]
    by_cases this : name = label
    · rw [if_pos this, if_pos this, Option.bind_some, decoded]
    · rw [if_neg this, if_neg this]

/-- The breakers are those of the table, and of two for one name it is the last. -/
theorem decodeNamed?_find? (read : decodeNamed? surplus (.table entries) = some breakers)
    (name : String) :
    breakers.find? name = (Named.find? entries.reverse name).bind (decode? surplus) := by
  obtain ⟨named, each, rfl⟩ := decodeNamed?_eq_some_iff.mp read
  rw [Named.find?_ofList]
  exact readNamed?_find? (List.forall₂_reverse_iff.mpr each) name

/-- No other breaker is there, not even the default one. -/
theorem decodeNamed?_names (read : decodeNamed? surplus (.table entries) = some breakers)
    (name : String) : name ∈ breakers.map Prod.fst ↔ name ∈ entries.map Prod.fst := by
  obtain ⟨named, each, rfl⟩ := decodeNamed?_eq_some_iff.mp read
  rw [Named.names_ofList, readNamed?_names each]

theorem decodeNamed?_perm (read : decodeNamed? surplus (.table entries) = some breakers)
    (distinct : (entries.map Prod.fst).Nodup) (perm : entries.Perm others) :
    decodeNamed? surplus (.table others) = some breakers := by
  obtain ⟨named, each, rfl⟩ := decodeNamed?_eq_some_iff.mp read
  obtain ⟨moved, other, back⟩ := List.perm_comp_forall₂ perm.symm each
  refine decodeNamed?_eq_some_iff.mpr ⟨moved, other, ?_⟩
  refine (Named.ofList_perm ?_ back.symm).symm
  rw [readNamed?_names each]
  exact distinct

end BreakerSettings

namespace ServiceSettings

variable {surplus : Surplus} {settings : ServiceSettings}

theorem decode?_breakers (position : Position 2) {tree : Tree}
    (accepted : decode? surplus (position.fill "breakers" tree) = some settings) :
    BreakerSettings.decodeNamed? surplus tree = some settings.breakers := by
  obtain ⟨others, breakers, read, rfl, -⟩ := (breakers_readsBy position).replace accepted
  exact read

/-- Whatever has been written is read back, so that what has been read can be written and read again
for ever. In any group of an accepted document, unknown keys make no difference; a key that is left
out leaves its default and all else as it was; and neither does it matter in which order the keys
are given, nor whether the first of them are given as a list. Breakers in a document replace the
default one. -/
theorem decoding_and_encoding_agree (surplus : Surplus) :
    (∀ settings : ServiceSettings, settings.breakers.Ordered →
      decode? surplus settings.encode = some settings) ∧
    (∀ tree settings, decode? surplus tree = some settings →
      ∀ other, decode? other settings.encode = some settings) ∧
    (∀ (frame : Frame) entries settings,
      decode? surplus (frame.fill (.table entries)) = some settings →
      (∀ others, others.filter (·.1 ∈ frame.keys) = entries.filter (·.1 ∈ frame.keys) →
        decode? surplus (frame.fill (.table others)) = some settings) ∧
      (∀ key, decode? surplus (frame.fill (.table (entries.filter (·.1 != key)))) =
        some (frame.without key settings)) ∧
      ∀ others, entries.Perm others →
        decode? surplus (frame.fill (.table others)) = some settings) ∧
    (∀ (frame : Frame) items, items.length ≤ frame.keys.length →
      decode? surplus (frame.fill (.list items)) =
        decode? surplus (frame.fill (.table (frame.keys.zip items)))) ∧
    ∀ (position : Position 2) entries settings,
      decode? surplus (position.fill "breakers" (.table entries)) = some settings →
      (∀ name, name ∈ settings.breakers.map Prod.fst ↔ name ∈ entries.map Prod.fst) ∧
      (∀ name, settings.breakers.find? name =
        (Named.find? entries.reverse name).bind (BreakerSettings.decode? surplus)) ∧
      ∀ others, (entries.map Prod.fst).Nodup → entries.Perm others →
        decode? surplus (position.fill "breakers" (.table others)) = some settings := by
  refine ⟨fun settings => decode?_encode, ?again, ?rewritten, ?listed, ?breakers⟩
  case again => exact fun tree settings read other => decode?_encode (decode?_ordered read)
  case rewritten =>
    intro frame entries settings accepted
    refine ⟨fun others same => ?_, frame.decode?_without accepted, fun others perm => ?_⟩
    · rw [frame.decode?_congr (Tree.slots?_known same), accepted]
    · rw [← frame.decode?_congr (Tree.slots?_perm perm), accepted]
  case listed =>
    exact fun frame items few => frame.decode?_congr (Tree.slots?_list frame.keys_distinct few)
  case breakers =>
    intro position entries settings accepted
    have read := decode?_breakers position accepted
    refine ⟨BreakerSettings.decodeNamed?_names read, BreakerSettings.decodeNamed?_find? read,
      fun others distinct perm => ?_⟩
    rw [(breakers_readsBy position).congr
      ((BreakerSettings.decodeNamed?_perm read distinct perm).trans read.symm), accepted]

/-- A document with a breaker of its own, and with a list where a table might be. -/
def geocoderFrame : Frame :=
  .breaker (.entry [] [("admin", .list [.flag false])]) [] [] "geocoder"

/-- What is written about that breaker. Nothing is known of its colour. -/
def geocoderEntries : List (String × Tree) :=
  [("colour", .text "red"), ("open_timeout_ms", .whole 5000)]

/-- What the document means. -/
def geocoderSettings : ServiceSettings where
  admin := { enabled := false }
  breakers := [("geocoder", { openTimeoutMs := 5000 })]

theorem decoding_and_encoding_agree_for_geocoder :
    let frame := geocoderFrame
    let document := frame.fill (.table geocoderEntries)
    let settings := geocoderSettings
    decode? .ignored document = some settings ∧
      settings.breakers.Ordered ∧ decode? .ignored settings.encode = some settings ∧
      decode? .ignored (frame.fill (.table (geocoderEntries ++ [("shape", .null)]))) =
        some settings ∧
      decode? .ignored (frame.fill (.table [("colour", .text "red")])) =
        some { settings with breakers := [("geocoder", {})] } ∧
      decode? .ignored (frame.fill (.table geocoderEntries.reverse)) = some settings ∧
      decode? .ignored (frame.fill (.list [.whole 1, .whole 0])) =
        decode? .ignored (frame.fill (.table [
          ("max_half_open_requests", .whole 1), ("reset_interval_ms", .whole 0)])) ∧
      decode? .ignored (.table [("admin", .list [.flag false])]) =
        some { settings with breakers := [("nws-api", {})] } ∧
      "nws-api" ∉ settings.breakers.map Prod.fst := by
  intro frame document settings
  obtain ⟨written, again, rewritten, listed, replaced⟩ := decoding_and_encoding_agree .ignored
  have accepted : decode? .ignored document = some settings := rfl
  have ordered : settings.breakers.Ordered := List.pairwise_singleton _ _
  obtain ⟨known, left_, moved⟩ := rewritten frame geocoderEntries settings accepted
  obtain ⟨-, root, -⟩ := rewritten .service _ settings accepted
  have table := replaced (.entry [] [("admin", .list [.flag false])])
    [("geocoder", .table geocoderEntries)] settings accepted
  refine ⟨accepted, ordered, written settings ordered, known _ rfl, left_ "open_timeout_ms",
    moved _ (List.reverse_perm _).symm, listed frame _ (by decide), root "breakers",
    fun default_ => ?_⟩
  simpa using (table.1 "nws-api").mp default_

end ServiceSettings
end Fusebox
