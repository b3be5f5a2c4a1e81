import Fusebox.Proofs.Decimal.Number
import Fusebox.Proofs.Document.Named
import Fusebox.Proofs.Text.ByteOrder
import Fusebox.Settings.Validation
import Mathlib.Data.List.Pairwise

/-! Validation reports every condition that settings violate, each at its place, and nothing else.
A place is one condition on one breaker, or the address of one listener. What is reported is taken
from the settings place by place, so that no fault hides another one and a report is also a list of
what to change. -/
namespace Fusebox

namespace Text

/-- The 25 code points with the property White_Space. -/
def whiteSpace : List Nat := [
  0x9, 0xA, 0xB, 0xC, 0xD, 0x20, 0x85, 0xA0, 0x1680, 0x2000, 0x2001, 0x2002, 0x2003, 0x2004, 0x2005,
  0x2006, 0x2007, 0x2008, 0x2009, 0x200A, 0x2028, 0x2029, 0x202F, 0x205F, 0x3000]

/-- Something other than white space is in a text. -/
def Legible (text : String) : Prop := ∃ c ∈ text.toList, c.toNat ∉ whiteSpace

theorem isBlank_iff (c : Char) : isBlank c = true ↔ c.toNat ∈ whiteSpace := by
  simp only [isBlank, whiteSpace, Bool.or_eq_true, Bool.and_eq_true, decide_eq_true_eq,
    beq_iff_eq, List.mem_cons, List.not_mem_nil, or_false]
  omega

theorem allBlank_iff (text : String) : allBlank text = true ↔ ¬Legible text := by
  simp [allBlank, Legible, isBlank_iff]

end Text

/-- A threshold that is a finite number from zero to one. -/
def IsShare (threshold : Float) : Prop :=
  ∃ number, Decimal.number? threshold = some number ∧ 0 ≤ number ∧ number ≤ 1

theorem isRatio_iff (threshold : Float) : isRatio threshold = true ↔ IsShare threshold := by
  simp only [isRatio, IsShare, Bool.and_eq_true, decide_eq_true_eq, Decimal.isFinite_iff]
  refine ⟨?_, ?_⟩
  · rintro ⟨⟨⟨number, stands⟩, nonneg⟩, bound⟩
    exact ⟨number, stands, (Decimal.zero_le_iff stands).mp nonneg,
      (Decimal.le_one_iff stands).mp bound⟩
  · rintro ⟨number, stands, nonneg, bound⟩
    exact ⟨⟨⟨number, stands⟩, (Decimal.zero_le_iff stands).mpr nonneg⟩,
      (Decimal.le_one_iff stands).mpr bound⟩

/-! Places -/

/-- What is asked of one breaker. -/
inductive Demand where
  | name
  | ratio
  | probes
  | timeout
deriving DecidableEq

/-- In what order the conditions on one breaker are reported. -/
def Demand.rank : Demand → Nat
  | .name => 0
  | .ratio => 1
  | .probes => 2
  | .timeout => 3

/-- Where settings can violate a condition. -/
inductive Place where
  | breaker (name : String) (demand : Demand)
  | adminAddress
  | metricsAddress
deriving DecidableEq

/-- The order of a report: by the bytes of the names, then by the conditions on a breaker, and the
addresses after all breakers. -/
inductive Place.Before : Place → Place → Prop where
  | names {name other : String} {demand next : Demand}
      (less : Text.bytesOf name < Text.bytesOf other) :
      Before (.breaker name demand) (.breaker other next)
  | demands {name : String} {demand next : Demand} (less : demand.rank < next.rank) :
      Before (.breaker name demand) (.breaker name next)
  | admin {name : String} {demand : Demand} : Before (.breaker name demand) .adminAddress
  | metrics {name : String} {demand : Demand} : Before (.breaker name demand) .metricsAddress
  | addresses : Before .adminAddress .metricsAddress

theorem Place.before_iff_rank {name : String} {demand next : Demand} :
    Before (.breaker name demand) (.breaker name next) ↔ demand.rank < next.rank := by
  constructor
  · rintro (less | less)
    · exact absurd less (List.lt_irrefl _)
    · exact less
  · exact .demands

namespace ServiceSettings

/-- A condition is violated at a place, and the fault is what there is to say about it. -/
inductive Violates (settings : ServiceSettings) : Place → Fault → Prop where
  | name {name : String} {breaker : BreakerSettings}
      (configured : (name, breaker) ∈ settings.breakers) (blank : ¬Text.Legible name) :
      Violates settings (.breaker name .name) .emptyBreakerName
  | ratio {name : String} {breaker : BreakerSettings}
      (configured : (name, breaker) ∈ settings.breakers)
      (outside : ¬IsShare breaker.failureThreshold) :
      Violates settings (.breaker name .ratio) (.ratioOutOfRange name breaker.failureThreshold)
  | probes {name : String} {breaker : BreakerSettings}
      (configured : (name, breaker) ∈ settings.breakers) (none_ : breaker.maxProbes = 0) :
      Violates settings (.breaker name .probes) (.noProbes name)
  | timeout {name : String} {breaker : BreakerSettings}
      (configured : (name, breaker) ∈ settings.breakers) (none_ : breaker.openTimeoutMs = 0) :
      Violates settings (.breaker name .timeout) (.zeroOpenTimeout name)
  | admin (enabled : settings.admin.enabled = true)
      (unreadable : SocketAddress.parse? settings.admin.bindAddress = none) :
      Violates settings .adminAddress
        (.invalidAddress "admin.bind_address" settings.admin.bindAddress)
  | metrics (enabled : settings.observability.metricsEnabled = true)
      (unreadable : SocketAddress.parse? settings.observability.metricsAddress = none) :
      Violates settings .metricsAddress
        (.invalidAddress "observability.metrics_address" settings.observability.metricsAddress)

/-- A text is an address. -/
def IsAddress (text : String) : Prop := ∃ parsed, SocketAddress.parse? text = some parsed

/-- Settings with which the service can run. -/
structure Sound (settings : ServiceSettings) : Prop where
  names : ∀ entry ∈ settings.breakers, Text.Legible entry.1
  ratios : ∀ entry ∈ settings.breakers, IsShare entry.2.failureThreshold
  probes : ∀ entry ∈ settings.breakers, 0 < entry.2.maxProbes
  timeouts : ∀ entry ∈ settings.breakers, 0 < entry.2.openTimeoutMs
  admin : settings.admin.enabled = true → IsAddress settings.admin.bindAddress
  metrics : settings.observability.metricsEnabled = true →
    IsAddress settings.observability.metricsAddress

/-! Changes of settings -/

/-- A value that was reported gives way to one that is fine, and any other value stays. -/
def Mended {α : Type} (reported : Prop) (fine : α → Prop) (old new : α) : Prop :=
  (reported → fine new) ∧ (¬reported → new = old)

/-- One breaker is mended where it was reported and is otherwise as before. -/
structure BreakerMended (reported : Place → Prop) (old new : String × BreakerSettings) : Prop where
  name : Mended (reported (.breaker old.1 .name)) Text.Legible old.1 new.1
  ratio : Mended (reported (.breaker old.1 .ratio)) IsShare
    old.2.failureThreshold new.2.failureThreshold
  probes : Mended (reported (.breaker old.1 .probes)) (0 < ·) old.2.maxProbes new.2.maxProbes
  timeout : Mended (reported (.breaker old.1 .timeout)) (0 < ·)
    old.2.openTimeoutMs new.2.openTimeoutMs
  others : new.2 = { old.2 with
    failureThreshold := new.2.failureThreshold
    maxProbes := new.2.maxProbes
    openTimeoutMs := new.2.openTimeoutMs }

/-- Exactly what was reported has been mended. A breaker that has got another name may have come to
another place in the table. -/
structure Mends (settings : ServiceSettings) (reported : Place → Prop) (mended : ServiceSettings) :
    Prop where
  breakers : ∃ renewed, List.Forall₂ (BreakerMended reported) settings.breakers renewed ∧
    renewed.Perm mended.breakers
  adminAddress : Mended (reported .adminAddress) IsAddress
    settings.admin.bindAddress mended.admin.bindAddress
  metricsAddress : Mended (reported .metricsAddress) IsAddress
    settings.observability.metricsAddress mended.observability.metricsAddress
  admin : mended.admin = { settings.admin with bindAddress := mended.admin.bindAddress }
  observability : mended.observability =
    { settings.observability with metricsAddress := mended.observability.metricsAddress }

/-- Two breakers are alike in what a demand is about. -/
def AlikeIn (first second : BreakerSettings) : Demand → Prop
  | .name => True
  | .ratio => first.failureThreshold = second.failureThreshold
  | .probes => first.maxProbes = second.maxProbes
  | .timeout => first.openTimeoutMs = second.openTimeoutMs

/-- What some settings have at a place is there in others, too. -/
def StaysIn (settings other : ServiceSettings) : Place → Prop
  | .breaker name demand => ∀ breaker, (name, breaker) ∈ settings.breakers →
      ∃ alike, (name, alike) ∈ other.breakers ∧ AlikeIn breaker alike demand
  | .adminAddress => other.admin.enabled = settings.admin.enabled ∧
      other.admin.bindAddress = settings.admin.bindAddress
  | .metricsAddress =>
      other.observability.metricsEnabled = settings.observability.metricsEnabled ∧
        other.observability.metricsAddress = settings.observability.metricsAddress

/-- Settings that are put together from two others, place by place, so that the faults of both are
taken over. -/
structure Unites (settings first second : ServiceSettings) : Prop where
  drawn : ∀ place, settings.StaysIn first place ∨ settings.StaysIn second place
  first : ∀ place fault, first.Violates place fault → first.StaysIn settings place
  second : ∀ place fault, second.Violates place fault → second.StaysIn settings place

/-! The report -/

variable {settings : ServiceSettings} {place : Place} {fault : Fault} {name : String}
  {breaker : BreakerSettings}

/-- What is reported about a place where something is wrong. -/
def noteIf (wrong : Bool) (place : Place) (fault : Fault) : List (Place × Fault) :=
  if wrong then [(place, fault)] else []

theorem mem_noteIf {wrong : Bool} {here : Place} {said : Fault} :
    (place, fault) ∈ noteIf wrong here said ↔ wrong = true ∧ place = here ∧ fault = said := by
  cases wrong <;> simp [noteIf]

theorem forall_mem_noteIf {wrong : Bool} {claim : Place × Fault → Prop} :
    (∀ note ∈ noteIf wrong place fault, claim note) ↔ (wrong = true → claim (place, fault)) := by
  cases wrong <;> simp [noteIf]

theorem noteIf_faults (wrong : Bool) (place : Place) (fault : Fault) :
    (noteIf wrong place fault).map Prod.snd = faultIf wrong fault := by
  cases wrong <;> rfl

/-- A note may be added after others that come before it. -/
theorem pairwise_append_noteIf {earlier : List (Place × Fault)} {wrong : Bool}
    (ordered : earlier.Pairwise fun first second => first.1.Before second.1)
    (before : ∀ note ∈ earlier, note.1.Before place) :
    (earlier ++ noteIf wrong place fault).Pairwise fun first second => first.1.Before second.1 := by
  cases wrong with
  | false =>
    rw [noteIf, if_neg Bool.false_ne_true, List.append_nil]
    exact ordered
  | true =>
    refine List.pairwise_append.mpr ⟨ordered, List.pairwise_singleton _ _, ?_⟩
    intro note member last same
    rw [List.mem_singleton.mp same]
    exact before note member

/-- The faults of one breaker with their places. -/
def breakerReport (name : String) (breaker : BreakerSettings) : List (Place × Fault) :=
  noteIf (Text.allBlank name) (.breaker name .name) .emptyBreakerName ++
    noteIf (!isRatio breaker.failureThreshold) (.breaker name .ratio)
      (.ratioOutOfRange name breaker.failureThreshold) ++
    noteIf (breaker.maxProbes == 0) (.breaker name .probes) (.noProbes name) ++
    noteIf (breaker.openTimeoutMs == 0) (.breaker name .timeout) (.zeroOpenTimeout name)

/-- The fault of an address with its place. -/
def addressReport (enabled : Bool) (place : Place) (field value : String) : List (Place × Fault) :=
  noteIf (enabled && (SocketAddress.parse? value).isNone) place (.invalidAddress field value)

/-- All faults with their places. -/
def report (settings : ServiceSettings) : List (Place × Fault) :=
  (settings.breakers.flatMap fun (name, breaker) => breakerReport name breaker) ++
    addressReport settings.admin.enabled .adminAddress "admin.bind_address"
      settings.admin.bindAddress ++
    addressReport settings.observability.metricsEnabled .metricsAddress
      "observability.metrics_address" settings.observability.metricsAddress

theorem report_faults (settings : ServiceSettings) :
    settings.report.map Prod.snd = settings.faults := by
  simp only [report, breakerReport, addressReport, List.map_append, List.map_flatMap,
    noteIf_faults]
  rfl

theorem mem_breakerReport :
    (place, fault) ∈ breakerReport name breaker ↔
      (¬Text.Legible name ∧ place = .breaker name .name ∧ fault = .emptyBreakerName) ∨
      (¬IsShare breaker.failureThreshold ∧ place = .breaker name .ratio ∧
        fault = .ratioOutOfRange name breaker.failureThreshold) ∨
      (breaker.maxProbes = 0 ∧ place = .breaker name .probes ∧ fault = .noProbes name) ∨
      breaker.openTimeoutMs = 0 ∧ place = .breaker name .timeout ∧
        fault = .zeroOpenTimeout name := by
  simp only [breakerReport, List.mem_append, mem_noteIf, Text.allBlank_iff, Bool.not_eq_true',
    ← Bool.not_eq_true, isRatio_iff, beq_iff_eq, or_assoc]

theorem mem_report_iff : (place, fault) ∈ settings.report ↔ settings.Violates place fault := by
  simp only [report, addressReport, List.mem_append, List.mem_flatMap, mem_breakerReport,
    mem_noteIf, Bool.and_eq_true, Option.isNone_iff_eq_none]
  constructor
  · rintro ((⟨⟨name, breaker⟩, configured, reported⟩ | ⟨⟨enabled, unreadable⟩, rfl, rfl⟩) |
      ⟨⟨enabled, unreadable⟩, rfl, rfl⟩)
    · rcases reported with ⟨wrong, rfl, rfl⟩ | ⟨wrong, rfl, rfl⟩ | ⟨wrong, rfl, rfl⟩ |
        ⟨wrong, rfl, rfl⟩
      · exact .name configured wrong
      · exact .ratio configured wrong
      · exact .probes configured wrong
      · exact .timeout configured wrong
    · exact .admin enabled unreadable
    · exact .metrics enabled unreadable
  · rintro (⟨configured, wrong⟩ | ⟨configured, wrong⟩ | ⟨configured, wrong⟩ | ⟨configured, wrong⟩ |
      ⟨enabled, unreadable⟩ | ⟨enabled, unreadable⟩)
    · exact .inl (.inl ⟨_, configured, .inl ⟨wrong, rfl, rfl⟩⟩)
    · exact .inl (.inl ⟨_, configured, .inr (.inl ⟨wrong, rfl, rfl⟩)⟩)
    · exact .inl (.inl ⟨_, configured, .inr (.inr (.inl ⟨wrong, rfl, rfl⟩))⟩)
    · exact .inl (.inl ⟨_, configured, .inr (.inr (.inr ⟨wrong, rfl, rfl⟩))⟩)
    · exact .inl (.inr ⟨⟨enabled, unreadable⟩, rfl, rfl⟩)
    · exact .inr ⟨⟨enabled, unreadable⟩, rfl, rfl⟩

theorem breakerReport_ordered (name : String) (breaker : BreakerSettings) :
    (breakerReport name breaker).Pairwise fun first second => first.1.Before second.1 := by
  have blank : (noteIf (Text.allBlank name) (.breaker name .name) .emptyBreakerName).Pairwise
      fun first second => first.1.Before second.1 := pairwise_append_noteIf .nil (by simp)
  unfold breakerReport
  refine pairwise_append_noteIf (pairwise_append_noteIf (pairwise_append_noteIf blank ?_) ?_) ?_
  all_goals
    simp only [List.forall_mem_append, forall_mem_noteIf, Place.before_iff_rank]
    simp [Demand.rank]

theorem breakerReport_place (member : (place, fault) ∈ breakerReport name breaker) :
    ∃ demand, place = .breaker name demand := by
  rcases mem_breakerReport.mp member with ⟨-, rfl, -⟩ | ⟨-, rfl, -⟩ | ⟨-, rfl, -⟩ | ⟨-, rfl, -⟩ <;>
    exact ⟨_, rfl⟩

/-- Breakers are reported in the order of their names, and the addresses after them. -/
theorem report_ordered (ordered : settings.breakers.Ordered) :
    settings.report.Pairwise fun first second => first.1.Before second.1 := by
  have breakers : (settings.breakers.flatMap fun (name, breaker) =>
      breakerReport name breaker).Pairwise fun first second => first.1.Before second.1 := by
    refine List.pairwise_flatMap.mpr ⟨fun entry _ => breakerReport_ordered _ _, ?_⟩
    refine (List.pairwise_map.mp ordered).imp fun less note earlier next later => ?_
    obtain ⟨demand, place⟩ := breakerReport_place earlier
    obtain ⟨other, behind⟩ := breakerReport_place later
    rw [place, behind]
    exact .names ((Text.lt_iff_bytesOf_lt _ _).mp less)
  have ofBreaker : ∀ note ∈ settings.breakers.flatMap fun (name, breaker) =>
      breakerReport name breaker, ∃ name demand, note.1 = .breaker name demand := by
    intro note member
    obtain ⟨entry, -, reported⟩ := List.mem_flatMap.mp member
    exact ⟨_, breakerReport_place reported⟩
  refine pairwise_append_noteIf (pairwise_append_noteIf breakers ?_)
    (List.forall_mem_append.mpr ⟨?_, forall_mem_noteIf.mpr fun _ => .addresses⟩)
  · intro note member
    obtain ⟨name, demand, place⟩ := ofBreaker note member
    rw [place]
    exact .admin
  · intro note member
    obtain ⟨name, demand, place⟩ := ofBreaker note member
    rw [place]
    exact .metrics

/-! Validation -/

theorem not_isAddress_iff {text : String} :
    ¬IsAddress text ↔ SocketAddress.parse? text = none := by
  simp [IsAddress, Option.eq_none_iff_forall_ne_some]

theorem sound_iff : settings.Sound ↔ ∀ place fault, ¬settings.Violates place fault := by
  constructor
  · rintro sound place fault (⟨configured, wrong⟩ | ⟨configured, wrong⟩ | ⟨configured, wrong⟩ |
      ⟨configured, wrong⟩ | ⟨enabled, wrong⟩ | ⟨enabled, wrong⟩)
    · exact wrong (sound.names _ configured)
    · exact wrong (sound.ratios _ configured)
    · exact absurd (sound.probes _ configured) (wrong ▸ UInt32.lt_irrefl 0)
    · exact absurd (sound.timeouts _ configured) (wrong ▸ UInt64.lt_irrefl 0)
    · exact not_isAddress_iff.mpr wrong (sound.admin enabled)
    · exact not_isAddress_iff.mpr wrong (sound.metrics enabled)
  · intro never
    constructor
    · exact fun entry configured => by_contra fun wrong => never _ _ (.name configured wrong)
    · exact fun entry configured => by_contra fun wrong => never _ _ (.ratio configured wrong)
    · exact fun entry configured => UInt32.pos_iff_ne_zero.mpr fun wrong =>
        never _ _ (.probes configured wrong)
    · exact fun entry configured => UInt64.pos_iff_ne_zero.mpr fun wrong =>
        never _ _ (.timeout configured wrong)
    · exact fun enabled => by_contra fun wrong =>
        never _ _ (.admin enabled (not_isAddress_iff.mp wrong))
    · exact fun enabled => by_contra fun wrong =>
        never _ _ (.metrics enabled (not_isAddress_iff.mp wrong))

theorem validate_eq_ok_iff : settings.validate = .ok () ↔ settings.Sound := by
  have nothing : settings.faults = [] ↔ settings.Sound := by
    rw [← report_faults, List.map_eq_nil_iff, sound_iff, List.eq_nil_iff_forall_not_mem]
    simp only [Prod.forall, mem_report_iff]
  simp only [← nothing, validate, List.isEmpty_iff, ite_eq_left_iff, reduceCtorEq, imp_false,
    not_not]

/-- Settings that are not sound are refused for their faults. -/
theorem validate_eq_error (unsound : ¬settings.Sound) :
    settings.validate = .error (settings.report.map Prod.snd) := by
  rw [report_faults]
  by_cases valid : settings.validate = .ok ()
  · exact absurd (validate_eq_ok_iff.mp valid) unsound
  · unfold validate at valid ⊢
    split
    · rename_i none_
      exact absurd (if_pos none_) valid
    · rfl

theorem Mended.replaced {α : Type} {reported : Prop} {fine : α → Prop} {old new : α}
    (said : reported) (better : fine new) : Mended reported fine old new :=
  ⟨fun _ => better, fun unsaid => absurd said unsaid⟩

theorem Mended.kept {α : Type} {reported : Prop} {fine : α → Prop} {old : α}
    (unsaid : ¬reported) : Mended reported fine old old :=
  ⟨fun said => absurd said unsaid, fun _ => rfl⟩

theorem Mended.fine {α : Type} {reported : Prop} {fine : α → Prop} {old new : α}
    (mended : Mended reported fine old new) (complete : ¬fine old → reported) : fine new := by
  by_cases said : reported
  · exact mended.1 said
  · rw [mended.2 said]
    exact by_contra fun wrong => said (complete wrong)

theorem exists_of_mem_right {α β : Type} {related : α → β → Prop} {olds : List α} {news : List β}
    {new : β} (pairs : List.Forall₂ related olds news) (member : new ∈ news) :
    ∃ old ∈ olds, related old new := by
  induction pairs with
  | nil => cases member
  | cons pair _ ih =>
    rcases List.mem_cons.mp member with rfl | later
    · exact ⟨_, List.mem_cons_self, pair⟩
    · obtain ⟨old, there, other⟩ := ih later
      exact ⟨old, .tail _ there, other⟩

/-- Where every violation has been reported, nothing is left to violate after mending. -/
theorem Mends.sound {reported : Place → Prop} {mended : ServiceSettings}
    (mends : settings.Mends reported mended)
    (complete : ∀ place fault, settings.Violates place fault → reported place) : mended.Sound := by
  obtain ⟨renewed, related, perm⟩ := mends.breakers
  have origin : ∀ new ∈ mended.breakers, ∃ old ∈ settings.breakers,
      BreakerMended reported old new := by
    intro new member
    exact exists_of_mem_right related (perm.mem_iff.mpr member)
  constructor
  · intro new member
    obtain ⟨old, configured, mended⟩ := origin new member
    exact mended.name.fine fun wrong => complete _ _ (.name configured wrong)
  · intro new member
    obtain ⟨old, configured, mended⟩ := origin new member
    exact mended.ratio.fine fun wrong => complete _ _ (.ratio configured wrong)
  · intro new member
    obtain ⟨old, configured, mended⟩ := origin new member
    exact mended.probes.fine fun wrong =>
      complete _ _ (.probes configured (not_ne_iff.mp (mt UInt32.pos_iff_ne_zero.mpr wrong)))
  · intro new member
    obtain ⟨old, configured, mended⟩ := origin new member
    exact mended.timeout.fine fun wrong =>
      complete _ _ (.timeout configured (not_ne_iff.mp (mt UInt64.pos_iff_ne_zero.mpr wrong)))
  · intro enabled
    rw [mends.admin] at enabled
    exact mends.adminAddress.fine fun wrong =>
      complete _ _ (.admin enabled (not_isAddress_iff.mp wrong))
  · intro enabled
    rw [mends.observability] at enabled
    exact mends.metricsAddress.fine fun wrong =>
      complete _ _ (.metrics enabled (not_isAddress_iff.mp wrong))

/-- A violation is still there in other settings if its place has stayed the same. -/
theorem Violates.stays {other : ServiceSettings} (violates : settings.Violates place fault)
    (stays : settings.StaysIn other place) : other.Violates place fault := by
  cases violates with
  | name configured blank =>
    obtain ⟨alike, there, -⟩ := stays _ configured
    exact .name there blank
  | ratio configured outside =>
    obtain ⟨alike, there, same⟩ := stays _ configured
    rw [AlikeIn] at same
    rw [same] at outside ⊢
    exact .ratio there outside
  | probes configured none_ =>
    obtain ⟨alike, there, same⟩ := stays _ configured
    exact .probes there (same.symm.trans none_)
  | timeout configured none_ =>
    obtain ⟨alike, there, same⟩ := stays _ configured
    exact .timeout there (same.symm.trans none_)
  | admin enabled unreadable =>
    obtain ⟨listens, same⟩ := stays
    rw [← same] at unreadable ⊢
    exact .admin (listens.trans enabled) unreadable
  | metrics enabled unreadable =>
    obtain ⟨listens, same⟩ := stays
    rw [← same] at unreadable ⊢
    exact .metrics (listens.trans enabled) unreadable

/-- A breaker that is taken over as it is keeps all that there is to say about it. -/
theorem staysIn_of_taken {other : ServiceSettings} {demand : Demand}
    (taken : ∀ breaker, (name, breaker) ∈ settings.breakers → (name, breaker) ∈ other.breakers) :
    settings.StaysIn other (.breaker name demand) := by
  intro breaker configured
  exact ⟨breaker, taken breaker configured, by cases demand <;> trivial⟩

theorem Unites.violates_iff {first second : ServiceSettings}
    (unites : settings.Unites first second) (place : Place) (fault : Fault) :
    settings.Violates place fault ↔ first.Violates place fault ∨ second.Violates place fault := by
  constructor
  · intro violates
    rcases unites.drawn place with stays | stays
    · exact .inl (violates.stays stays)
    · exact .inr (violates.stays stays)
  · rintro (violates | violates)
    · exact violates.stays (unites.first place fault violates)
    · exact violates.stays (unites.second place fault violates)

theorem validate_disabled_admin (disabled : settings.admin.enabled = false) (address : String) :
    ({ settings with admin.bindAddress := address } : ServiceSettings).validate =
      settings.validate := by
  have same : ({ settings with admin.bindAddress := address } : ServiceSettings).faults =
      settings.faults := by
    simp only [faults, addressFaults, disabled, Bool.false_and]
    rfl
  simp only [validate, same]

theorem validate_disabled_metrics (disabled : settings.observability.metricsEnabled = false)
    (address : String) :
    ({ settings with observability.metricsAddress := address } : ServiceSettings).validate =
      settings.validate := by
  have same : ({ settings with observability.metricsAddress := address } : ServiceSettings).faults =
      settings.faults := by
    simp only [faults, addressFaults, disabled, Bool.false_and]
    rfl
  simp only [validate, same]

/-- Settings are accepted if they are sound. Otherwise there is one fault for each condition that is
violated and there are no others, in the order of their places. To mend exactly these is enough, and
settings that are put together from two others have the faults of both. Addresses that nobody
listens on make no difference. -/
theorem validation_is_exact (settings : ServiceSettings) (ordered : settings.breakers.Ordered) :
    (settings.validate = .ok () ↔ settings.Sound) ∧
      (∃ report : List (Place × Fault),
        (∀ place fault, (place, fault) ∈ report ↔ settings.Violates place fault) ∧
        report.Pairwise (fun first second => first.1.Before second.1) ∧
        (¬settings.Sound → settings.validate = .error (report.map Prod.snd)) ∧
        (∀ mended, settings.Mends (· ∈ report.map Prod.fst) mended → mended.validate = .ok ()) ∧
        ∀ first second, settings.Unites first second → ∀ place fault,
          (place, fault) ∈ report ↔ first.Violates place fault ∨ second.Violates place fault) ∧
      (settings.admin.enabled = false → ∀ address,
        ({ settings with admin.bindAddress := address } : ServiceSettings).validate =
          settings.validate) ∧
      (settings.observability.metricsEnabled = false → ∀ address,
        ({ settings with observability.metricsAddress := address } : ServiceSettings).validate =
          settings.validate) := by
  refine ⟨validate_eq_ok_iff, ⟨settings.report, ?exact, report_ordered ordered, ?refused, ?mended,
    ?united⟩, validate_disabled_admin, validate_disabled_metrics⟩
  case exact => exact fun place fault => mem_report_iff
  case refused => exact validate_eq_error
  case mended =>
    intro mended mends
    refine validate_eq_ok_iff.mpr (mends.sound fun place fault violates => ?_)
    exact List.mem_map_of_mem (mem_report_iff.mpr violates)
  case united =>
    intro first second unites place fault
    exact mem_report_iff.trans (unites.violates_iff place fault)

/-- Two breakers and an address are wrong, each in its own way. A threshold of minus zero and an
address that is not used are all right. -/
def mixed : ServiceSettings where
  admin := { bindAddress := "localhost:8081" }
  observability := { metricsAddress := "nowhere" }
  breakers := [
    ("", { failureThreshold := 0 / 0, maxProbes := 0 }),
    ("nws-api", { failureThreshold := -0.0, openTimeoutMs := 0 })]

/-- The mixed settings as they could be meant. -/
def mixedMended : ServiceSettings where
  observability := { metricsAddress := "nowhere" }
  breakers := [
    ("nws-api", { failureThreshold := -0.0, openTimeoutMs := 1 }),
    ("spare", { failureThreshold := 1, maxProbes := 1 })]

/-- One half of the mixed settings: the breaker without a name. -/
def mixedBreaker : ServiceSettings where
  breakers := [("", { failureThreshold := 0 / 0, maxProbes := 0 })]

/-- The other half: the breaker without a timeout, and the address. -/
def mixedAddress : ServiceSettings where
  admin := { bindAddress := "localhost:8081" }
  observability := { metricsAddress := "nowhere" }
  breakers := [("nws-api", { failureThreshold := -0.0, openTimeoutMs := 0 })]

theorem mixed_unites : mixed.Unites mixedBreaker mixedAddress := by
  constructor
  · rintro (⟨name, demand⟩ | - | -)
    · by_cases first : name = ""
      · exact .inl (staysIn_of_taken (by simp +contextual [mixed, mixedBreaker, first]))
      · exact .inr (staysIn_of_taken (by simp +contextual [mixed, mixedAddress, first]))
    · exact .inr ⟨rfl, rfl⟩
    · exact .inr ⟨rfl, rfl⟩
  · rintro (⟨name, demand⟩ | - | -) fault violates
    · exact staysIn_of_taken (by simp +contextual [mixed, mixedBreaker])
    · cases violates with | admin enabled unreadable => exact absurd unreadable (by decide)
    · cases violates with | metrics enabled unreadable => cases enabled
  · rintro (⟨name, demand⟩ | - | -) fault violates
    · exact staysIn_of_taken (by simp +contextual [mixed, mixedAddress])
    · exact ⟨rfl, rfl⟩
    · exact ⟨rfl, rfl⟩

theorem mixed_mends : mixed.Mends (· ∈ mixed.report.map Prod.fst) mixedMended := by
  have share : IsShare 1 := (isRatio_iff 1).mp rfl
  constructor
  · refine ⟨mixedMended.breakers.reverse, .cons ?_ (.cons ?_ .nil), List.reverse_perm _⟩
    · constructor
      · exact .replaced (by decide) ⟨'s', by decide⟩
      · exact .replaced (by decide) share
      · exact .replaced (by decide) (by decide)
      · exact .kept (by decide)
      · rfl
    · constructor
      · exact .kept (by decide)
      · exact .kept (by decide)
      · exact .kept (by decide)
      · exact .replaced (by decide) (by decide)
      · rfl
  · exact .replaced (by decide) ⟨.four [127, 0, 0, 1] 8081, rfl⟩
  · exact .kept (by decide)
  · rfl
  · rfl

/-- The faults of the mixed settings, and two settings of which they are put together. -/
theorem validation_is_exact_for_mixed_settings :
    mixed.breakers.Ordered ∧
      mixed.validate = .error [
        .emptyBreakerName, .ratioOutOfRange "" (0 / 0), .noProbes "", .zeroOpenTimeout "nws-api",
        .invalidAddress "admin.bind_address" "localhost:8081"] ∧
      ¬mixed.Sound ∧ mixedMended.validate = .ok () ∧
      (∀ place fault, mixed.Violates place fault ↔
        mixedBreaker.Violates place fault ∨ mixedAddress.Violates place fault) ∧
      ({ mixed with observability.metricsAddress := "elsewhere" } : ServiceSettings).validate =
        mixed.validate := by
  have ordered : mixed.breakers.Ordered := by
    unfold Named.Ordered
    decide
  obtain ⟨accepted, ⟨report, exact, -, -, mended, united⟩, -, unused⟩ :=
    validation_is_exact mixed ordered
  have places : (· ∈ report.map Prod.fst) = (· ∈ mixed.report.map Prod.fst) := by
    funext place
    simp only [List.mem_map, Prod.exists, exact, mem_report_iff]
  have unsound : ¬mixed.Sound := fun sound => nomatch accepted.mpr sound
  refine ⟨ordered, rfl, unsound, mended mixedMended (places ▸ mixed_mends), ?_, unused rfl _⟩
  intro place fault
  exact (exact place fault).symm.trans (united _ _ mixed_unites place fault)

end ServiceSettings
end Fusebox
