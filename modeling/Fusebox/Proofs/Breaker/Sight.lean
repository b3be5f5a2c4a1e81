import Fusebox.Proofs.Breaker.Transition
import Fusebox.Proofs.Traffic.Basic

/-! What can be seen of a breaker: its mode, its generation and its counts. The time of its
last change is shown as well, but no operation depends on it, so breakers that differ in
nothing else behave alike. -/
namespace Fusebox

/-- What a breaker shows of itself, apart from the time of its last change. -/
structure Sight where
  mode : Mode
  generation : UInt64
  tally : Tally
deriving DecidableEq

def Snapshot.sight (shown : Snapshot) : Sight := ⟨shown.mode, shown.generation, shown.tally⟩

/-- Whether a report says that a call has ended too late to count. -/
def Effect.discards : Effect → Bool
  | .event (.staleCompletion ..) => true
  | _ => false

namespace Breaker

/-- The same breaker without the time of its last change. -/
def undated (b : Breaker) : Breaker := { b with changedAt := .reference }

/-- The breaker after the end of a call that the timer has nothing to do with. -/
def receive (b : Breaker) (ticket : Ticket) (success : Bool) (now : Instant)
    (wall : Option Instant) : Breaker :=
  if b.generation = ticket.generation then (b.note success now wall).state else b

variable {b next : Breaker} {now : Instant} {wall : Option Instant}

/-- What the timer does does not depend on the last change, and the wall clock only dates it. -/
theorem refresh_undated (b : Breaker) (now : Instant) (wall other : Option Instant) :
    (b.undated.refresh now wall).state.undated = (b.refresh now other).state.undated := by
  have elapsed := refresh_elapsed b now other
  have same : b.undated.due now = b.due now := rfl
  generalize (b.refresh now other).state = next at elapsed ⊢
  cases elapsed with
  | early early =>
    rw [refresh_early (same.trans early)]
    rfl
  | renewed due mode =>
    rw [← (Elapsed.renewed (same.trans due) mode).eq_refresh]
    rfl
  | probing due mode =>
    rw [← (Elapsed.probing (same.trans due) mode).eq_refresh]
    rfl

/-- The breaker leaves a completion no choice. -/
theorem Noted.eq_note {success : Bool} (noted : Noted b now wall success next) :
    next = (b.note success now wall).state := by
  cases noted with
  | success mode =>
    simp only [note, noteSuccess, ↓reduceIte, mode]
    rfl
  | probe mode few =>
    simp only [note, noteSuccess, mode, ↓reduceIte, if_neg (UInt32.not_le.mpr few)]
    rfl
  | failure mode calm =>
    simp only [note, noteFailure, mode, calm, Bool.false_eq_true, ↓reduceIte]
    rfl
  | ignored mode => cases success <;> simp [note, noteSuccess, noteFailure, mode, Step.pure]
  | close mode enough =>
    simp only [note, noteSuccess, mode, ↓reduceIte, if_pos enough]
    rw [switch_enters (by simp)]
    rfl
  | trip mode ready =>
    simp only [note, noteFailure, mode, Bool.false_eq_true, ↓reduceIte, ready, Step.after]
    rw [switch_enters (by simp)]
    rfl
  | reopen mode =>
    simp only [note, noteFailure, mode, Bool.false_eq_true, ↓reduceIte, Step.after]
    rw [switch_enters (by simp [mode])]

/-- What a completion does does not depend on the last change either. -/
theorem note_undated (b : Breaker) (success : Bool) (now : Instant) (wall : Option Instant) :
    (b.undated.note success now wall).state.undated = (b.note success now wall).state.undated := by
  have noted := note_noted b success now wall
  generalize (b.note success now wall).state = next at noted ⊢
  have follows {other : Breaker} (same : Noted b.undated now wall success other) :
      (b.undated.note success now wall).state.undated = other.undated := by
    rw [same.eq_note]
  -- The same thing happens to the breaker without the date, for the same reason.
  cases noted with
  | success mode => exact (follows (.success (b := b.undated) mode)).trans rfl
  | probe mode few => exact (follows (.probe (b := b.undated) mode few)).trans rfl
  | close mode enough => exact (follows (.close (b := b.undated) mode enough)).trans rfl
  | failure mode calm => exact (follows (.failure (b := b.undated) mode calm)).trans rfl
  | trip mode ready => exact (follows (.trip (b := b.undated) mode ready)).trans rfl
  | reopen mode => exact (follows (.reopen (b := b.undated) mode)).trans rfl
  | ignored mode => exact (follows (.ignored (b := b.undated) mode)).trans rfl

theorem receive_undated (b : Breaker) (ticket : Ticket) (success : Bool) (now : Instant)
    (wall : Option Instant) :
    (b.undated.receive ticket success now wall).undated =
      (b.receive ticket success now wall).undated := by
  have number : b.undated.generation = b.generation := rfl
  simp only [receive, number]
  split
  · exact note_undated b success now wall
  · rfl

/-- With a wall clock that can be read the timer does its work. -/
theorem refresh_fine (b : Breaker) (now wall : Instant) :
    (b.refresh now (some wall)).result = .ok () := by
  by_contra crash
  cases (refresh_crashed crash).2.2

/-- Both clocks can be read: the breaker receives the end of the call as the timer leaves it. -/
theorem complete_state (b : Breaker) (ticket : Ticket) (success : Bool) (now wall : Instant) :
    (b.complete ticket success ⟨some now, some wall⟩).state =
      (b.refresh now (some wall)).state.receive ticket success now (some wall) := by
  simp only [complete, Step.after, Step.bind, refresh_fine, receive, note]
  by_cases same : (b.refresh now (some wall)).state.generation = ticket.generation
  · rw [if_neg (by simp [same]), if_pos same]
  · rw [if_pos same, if_neg same]

theorem read_result (b : Breaker) (now wall : Instant) :
    (b.read ⟨some now, some wall⟩).result = .ok (b.refresh now (some wall)).state.snapshot := by
  unfold read peek
  by_cases due : b.due now = true
  · simp only [due, ↓reduceIte, Step.bind, refresh_fine]
    rfl
  · rw [refresh_early (by simpa using due)]
    simp [due, Step.pure]

theorem refresh_discards (b : Breaker) (now : Instant) (wall : Option Instant) :
    (b.refresh now wall).effects.any Effect.discards = false := by
  unfold refresh switch
  split
  · split
    · rfl
    · split
      · rfl
      · cases wall <;> rfl
    · rfl
  · rfl

theorem note_discards (b : Breaker) (success : Bool) (now : Instant) (wall : Option Instant) :
    (b.note success now wall).effects.any Effect.discards = false := by
  have switches (b : Breaker) (target : Mode) :
      (b.switch target now wall).effects.any Effect.discards = false := by
    unfold switch
    split
    · rfl
    · cases wall <;> rfl
  cases success with
  | true =>
    simp only [note, noteSuccess, ↓reduceIte]
    split
    · rfl
    · split
      · exact switches _ _
      · rfl
    · rfl
  | false =>
    simp only [note, noteFailure, Bool.false_eq_true, ↓reduceIte]
    split
    · split
      · exact switches _ _
      · rfl
    · exact switches _ _
    · rfl

/-- A call is reported to have ended too late when its generation has ended. -/
theorem conclude_discards (b : Breaker) (ticket : Ticket) (ending : Ending) (now wall : Instant) :
    (b.conclude ticket ending ⟨some now, some wall⟩).effects.any Effect.discards =
      decide ((b.refresh now (some wall)).state.generation ≠ ticket.generation) := by
  have completes (success : Bool) :
      (b.complete ticket success ⟨some now, some wall⟩).effects.any Effect.discards =
        decide ((b.refresh now (some wall)).state.generation ≠ ticket.generation) := by
    have timer := refresh_discards b now (some wall)
    have counts := note_discards (b.refresh now (some wall)).state success now (some wall)
    simp only [note] at counts
    simp only [complete, Step.after, Step.bind, refresh_fine]
    by_cases same : (b.refresh now (some wall)).state.generation = ticket.generation
    · rw [if_neg (by simp [same])]
      simp [Effect.discards, timer, same, counts]
    · rw [if_pos same]
      simp [Effect.discards, timer, same]
  cases ending with
  | succeeded => exact completes true
  | failed => exact completes false
  | crashed => exact completes false
  | dropped => exact completes false

end Breaker
end Fusebox
