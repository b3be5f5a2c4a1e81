import Fusebox.Document.Tree
import Fusebox.Settings.Basic

/-! Settings as documents, in both directions (`deserialize` and `serialize` of the settings).

A group of settings is a table, or a list that gives the settings in their fixed
order. Both are first brought into the same form, one slot for each setting, and an
empty slot means the default. Unknown keys have no slot, and a known key given twice
makes the group unreadable. What a list that is too long means depends on where the
document comes from. -/
namespace Fusebox

/-- What is done about items of a list for which there are no settings left. -/
inductive Surplus where
  /-- They are left out. -/
  | ignored
  /-- They make the list unreadable. -/
  | refused
deriving DecidableEq

namespace Tree

/-- A truth value. -/
def flag? : Tree → Option Bool
  | .flag value => some value
  | _ => none

/-- A text. Dates are not texts. -/
def text? : Tree → Option String
  | .text words => some words
  | _ => none

/-- A number with a fraction; whole numbers are accepted too. -/
def real? : Tree → Option Float
  | .real number => some number
  | .whole number => some (Float.ofInt number)
  | _ => none

/-- A whole number from zero up to, but not including, `limit`. -/
def below? (limit : Nat) : Tree → Option Nat
  | .whole number => if 0 ≤ number ∧ number < limit then some number.toNat else none
  | _ => none

/-- A whole number of 32 bits. -/
def word32? (tree : Tree) : Option UInt32 := (tree.below? UInt32.size).map Nat.toUInt32

/-- A whole number of 64 bits. -/
def word64? (tree : Tree) : Option UInt64 := (tree.below? UInt64.size).map Nat.toUInt64

/-- The slot of one key in a table, unless the key is given more than once. -/
def slot? (entries : List (String × Tree)) (key : String) : Option (Option Tree) :=
  match entries.filter fun entry => entry.1 == key with
  | [] => some none
  | [(_, value)] => some (some value)
  | _ => none

/-- The slots of a group with the given keys. A date has none of them. -/
def slots? (surplus : Surplus) (keys : List String) : Tree → Option (List (Option Tree))
  | .table entries => keys.mapM (slot? entries)
  | .list items =>
    if surplus = .refused ∧ keys.length < items.length then none
    else
      some ((items.take keys.length).map some ++
        List.replicate (keys.length - items.length) none)
  | .moment _ => some (keys.map fun _ => none)
  | _ => none

end Tree

/-- What a slot holds, or the default if it is empty. -/
def slotOr {α : Type} (default_ : α) (decode? : Tree → Option α) : Option Tree → Option α
  | none => some default_
  | some tree => decode? tree

/-- What a slot holds; it must not be empty. -/
def slotValue {α : Type} (decode? : Tree → Option α) (slot : Option Tree) : Option α :=
  slot.bind decode?

namespace AdminSettings

/-- The settings of the group in their fixed order. -/
def keys : List String := ["enabled", "bind_address", "api_key"]

/-- Reads the group. -/
def decode? (surplus : Surplus) (tree : Tree) : Option AdminSettings := do
  let standard : AdminSettings := {}
  match ← tree.slots? surplus keys with
  | [enabled, bindAddress, apiKey] => return {
      enabled := ← slotOr standard.enabled Tree.flag? enabled
      bindAddress := ← slotOr standard.bindAddress Tree.text? bindAddress
      apiKey := ← slotOr standard.apiKey Tree.text? apiKey }
  | _ => none

/-- Writes the group with all its settings. -/
def encode (settings : AdminSettings) : Tree := .table [
  ("enabled", .flag settings.enabled),
  ("bind_address", .text settings.bindAddress),
  ("api_key", .text settings.apiKey)]

end AdminSettings

namespace ObservabilitySettings

/-- The settings of the group in their fixed order. -/
def keys : List String := ["log_level", "metrics_enabled", "metrics_address"]

/-- Reads the group. -/
def decode? (surplus : Surplus) (tree : Tree) : Option ObservabilitySettings := do
  let standard : ObservabilitySettings := {}
  match ← tree.slots? surplus keys with
  | [logLevel, metricsEnabled, metricsAddress] => return {
      logLevel := ← slotOr standard.logLevel Tree.text? logLevel
      metricsEnabled := ← slotOr standard.metricsEnabled Tree.flag? metricsEnabled
      metricsAddress := ← slotOr standard.metricsAddress Tree.text? metricsAddress }
  | _ => none

/-- Writes the group with all its settings. -/
def encode (settings : ObservabilitySettings) : Tree := .table [
  ("log_level", .text settings.logLevel),
  ("metrics_enabled", .flag settings.metricsEnabled),
  ("metrics_address", .text settings.metricsAddress)]

end ObservabilitySettings

namespace BreakerSettings

/-- The settings of the group in their fixed order. -/
def keys : List String := [
  "max_half_open_requests", "reset_interval_ms", "open_timeout_ms",
  "failure_ratio_threshold", "minimum_requests_to_trip"]

/-- Reads the group. -/
def decode? (surplus : Surplus) (tree : Tree) : Option BreakerSettings := do
  let standard : BreakerSettings := {}
  match ← tree.slots? surplus keys with
  | [maxProbes, resetInterval, openTimeout, threshold, minimum] => return {
      maxProbes := ← slotOr standard.maxProbes Tree.word32? maxProbes
      resetIntervalMs := ← slotOr standard.resetIntervalMs Tree.word64? resetInterval
      openTimeoutMs := ← slotOr standard.openTimeoutMs Tree.word64? openTimeout
      failureThreshold := ← slotOr standard.failureThreshold Tree.real? threshold
      minimumRequests := ← slotOr standard.minimumRequests Tree.word32? minimum }
  | _ => none

/-- Writes the group with all its settings. -/
def encode (settings : BreakerSettings) : Tree := .table [
  ("max_half_open_requests", .whole settings.maxProbes.toNat),
  ("reset_interval_ms", .whole settings.resetIntervalMs.toNat),
  ("open_timeout_ms", .whole settings.openTimeoutMs.toNat),
  ("failure_ratio_threshold", .real settings.failureThreshold),
  ("minimum_requests_to_trip", .whole settings.minimumRequests.toNat)]

/-- Reads breakers by name. Of two for one name the last stays. -/
def decodeNamed? (surplus : Surplus) : Tree → Option (Named BreakerSettings)
  | .table entries => do
    let read ← entries.mapM fun (name, tree) => return (name, ← decode? surplus tree)
    return Named.ofList read
  | _ => none

/-- Writes breakers by name. -/
def encodeNamed (breakers : Named BreakerSettings) : Tree :=
  .table (breakers.map fun (name, breaker) => (name, breaker.encode))

end BreakerSettings

namespace ServiceSettings

/-- The groups in their fixed order. -/
def keys : List String := ["admin", "observability", "breakers"]

/-- Reads all settings. Configured breakers take the place of the default one. -/
def decode? (surplus : Surplus) (tree : Tree) : Option ServiceSettings := do
  let standard : ServiceSettings := {}
  match ← tree.slots? surplus keys with
  | [admin, observability, breakers] => return {
      admin := ← slotOr standard.admin (AdminSettings.decode? surplus) admin
      observability := ←
        slotOr standard.observability (ObservabilitySettings.decode? surplus) observability
      breakers := ← slotOr standard.breakers (BreakerSettings.decodeNamed? surplus) breakers }
  | _ => none

/-- Writes all settings. -/
def encode (settings : ServiceSettings) : Tree := .table [
  ("admin", settings.admin.encode),
  ("observability", settings.observability.encode),
  ("breakers", BreakerSettings.encodeNamed settings.breakers)]

end ServiceSettings
end Fusebox
