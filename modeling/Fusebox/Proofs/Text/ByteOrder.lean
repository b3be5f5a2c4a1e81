import Mathlib.Data.String.Basic

/-! Names are put in the order of their bytes. It is the order of their characters: a character
with a greater number has a greater encoding, whatever follows. -/
namespace Fusebox.Text

/-- The bytes of a text in UTF-8. -/
def bytesOf (text : String) : List UInt8 := text.toUTF8.data.toList

/-- Every character is encoded by itself. -/
theorem bytesOf_eq (text : String) : bytesOf text = text.toList.flatMap String.utf8EncodeChar := by
  have whole : text.toUTF8 = (text.toList.flatMap String.utf8EncodeChar).toByteArray := by
    conv_lhs => rw [← String.ofList_toList (s := text)]
    rfl
  rw [bytesOf, whole, List.data_toByteArray]

/-- Bytes that are given as numbers are in the order of the numbers. -/
theorem ofNat_cons_lt_iff {first second : Nat} (small : first < 256) (low : second < 256)
    (before after : List UInt8) :
    UInt8.ofNat first :: before < UInt8.ofNat second :: after ↔
      first < second ∨ first = second ∧ before < after := by
  rw [List.cons_lt_cons_iff, UInt8.lt_iff_toNat_lt, ← UInt8.toNat_inj, UInt8.toNat_ofNat',
    UInt8.toNat_ofNat', Nat.mod_eq_of_lt small, Nat.mod_eq_of_lt low]

theorem utf8EncodeChar_lt {first second : Char} (before : first < second)
    (rest others : List UInt8) :
    String.utf8EncodeChar first ++ rest < String.utf8EncodeChar second ++ others := by
  have less : first.val.toNat < second.val.toNat := before
  have bound : second.val.toNat < 0x110000 := by
    rcases second.valid with low | high
    · exact low.trans (by decide)
    · exact high.2
  have twice (code : Nat) : code / 4096 = code / 64 / 64 := by omega
  have thrice (code : Nat) : code / 262144 = code / 64 / 64 / 64 := by omega
  simp only [String.utf8EncodeChar, twice, thrice]
  generalize first.val.toNat = small at less ⊢
  generalize second.val.toNat = large at less bound ⊢
  -- Of two encodings of one length the first byte that differs decides, and of two lengths the
  -- shorter one has the smaller first byte.
  split_ifs <;> simp (disch := omega) only [List.cons_append, List.nil_append, ofNat_cons_lt_iff]
  all_goals omega

theorem flatMap_lt_of_lt {first second : List Char} (before : first < second) :
    first.flatMap String.utf8EncodeChar < second.flatMap String.utf8EncodeChar := by
  induction first generalizing second with
  | nil =>
    cases second with
    | nil => exact absurd before (List.lt_irrefl _)
    | cons c rest =>
      have some_ : String.utf8EncodeChar c ≠ [] := String.utf8EncodeChar_ne_nil
      obtain ⟨head, tail, bytes⟩ := List.exists_cons_of_ne_nil some_
      rw [List.flatMap_cons, bytes]
      exact List.nil_lt_cons _ _
  | cons c rest ih =>
    cases second with
    | nil => exact absurd before (List.not_lt_nil _)
    | cons d others =>
      rw [List.flatMap_cons, List.flatMap_cons]
      rcases List.cons_lt_cons_iff.mp before with less | ⟨rfl, later⟩
      · exact utf8EncodeChar_lt less _ _
      · exact List.append_left_lt (ih later)

/-- The order of texts is the order of their bytes. -/
theorem lt_iff_bytesOf_lt (first second : String) :
    first < second ↔ bytesOf first < bytesOf second := by
  rw [bytesOf_eq, bytesOf_eq]
  refine ⟨flatMap_lt_of_lt, fun before => ?_⟩
  rcases lt_trichotomy first second with less | rfl | more
  · exact less
  · exact absurd before (List.lt_irrefl _)
  · exact absurd before (List.lt_asymm (flatMap_lt_of_lt more))

end Fusebox.Text
