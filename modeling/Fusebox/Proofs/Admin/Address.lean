import Fusebox.Admin.Route
import Fusebox.Proofs.Text.ByteOrder
import Mathlib.Data.List.TakeWhile

/-! Addresses of breakers. A name may have any characters, but all of its bytes can be written as
percent signs with digits, and then it is one part of a path whatever it is. Only the empty name
has no address. -/
namespace Fusebox

namespace Text

/-- A byte as a percent sign with two hexadecimal digits. -/
def percentChars (byte : UInt8) : List Char :=
  ['%', Nat.digitChar (byte.toNat / 16), Nat.digitChar (byte.toNat % 16)]

/-- A text with every byte written in that way. -/
def percentEncoded (text : String) : String :=
  String.ofList ((bytesOf text).flatMap percentChars)

/-- A hexadecimal digit is one byte, and it is read as the value that it was written for. -/
theorem digitChar_read {value : Nat} (small : value < 16) :
    String.utf8EncodeChar (Nat.digitChar value) = [UInt8.ofNat (Nat.digitChar value).toNat] ∧
      hexValue? (UInt8.ofNat (Nat.digitChar value).toNat) = some (UInt8.ofNat value) := by
  decide +revert

/-- Digits have no meaning of their own in an address. -/
theorem digitChar_plain {value : Nat} (small : value < 16) :
    Nat.digitChar value ∉ ['/', '?', '#'] := by
  decide +revert

theorem halves_lt (byte : UInt8) : byte.toNat / 16 < 16 ∧ byte.toNat % 16 < 16 := by
  have bound := byte.toNat_lt
  omega

theorem percentChars_plain {byte : UInt8} {c : Char} (member : c ∈ percentChars byte) :
    c ∉ ['/', '?', '#'] := by
  obtain ⟨high, low⟩ := halves_lt byte
  simp only [percentChars, List.mem_cons, List.not_mem_nil, or_false] at member
  rcases member with rfl | rfl | rfl
  · decide
  · exact digitChar_plain high
  · exact digitChar_plain low

theorem percentEncoded_plain {c : Char} (member : c ∈ (percentEncoded text).toList) :
    c ∉ ['/', '?', '#'] := by
  rw [percentEncoded, String.toList_ofList, List.mem_flatMap] at member
  obtain ⟨byte, _, member⟩ := member
  exact percentChars_plain member

/-- What is written for a byte is read as that byte, and the rest after it. -/
theorem percentDecode_percentChars (byte : UInt8) (rest : List UInt8) :
    percentDecode ((percentChars byte).flatMap String.utf8EncodeChar ++ rest) =
      byte :: percentDecode rest := by
  obtain ⟨high, low⟩ := halves_lt byte
  obtain ⟨one, highRead⟩ := digitChar_read high
  obtain ⟨other, lowRead⟩ := digitChar_read low
  have sign : String.utf8EncodeChar '%' = [0x25] := by decide
  have whole : UInt8.ofNat (byte.toNat / 16) * 16 + UInt8.ofNat (byte.toNat % 16) = byte := by
    have bound := byte.toNat_lt
    rw [← UInt8.toNat_inj]
    simp
    omega
  simp only [percentChars, List.flatMap_cons, List.flatMap_nil, sign, one, other,
    List.append_nil, List.cons_append, List.nil_append, percentDecode, highRead, lowRead, whole]

theorem percentDecode_flatMap (bytes : List UInt8) :
    percentDecode ((bytes.flatMap percentChars).flatMap String.utf8EncodeChar) = bytes := by
  induction bytes with
  | nil => rfl
  | cons byte rest ih =>
    rw [List.flatMap_cons, List.flatMap_append, percentDecode_percentChars, ih]

/-- Every text can be written so. -/
theorem percentDecoded?_percentEncoded (text : String) :
    percentDecoded? (percentEncoded text) = some text := by
  have bytes : percentDecode (bytesOf (percentEncoded text)) = bytesOf text := by
    rw [bytesOf_eq, percentEncoded, String.toList_ofList, percentDecode_flatMap]
  have whole : (⟨(percentDecode (bytesOf (percentEncoded text))).toArray⟩ : ByteArray) =
      text.toUTF8 := by rw [bytes]; rfl
  have valid : text.toUTF8.IsValidUTF8 := text.isValidUTF8
  show String.fromUTF8? ⟨(percentDecode (bytesOf (percentEncoded text))).toArray⟩ = some text
  rw [whole, String.fromUTF8?, dif_pos valid]
  rfl

theorem percentEncoded_ne_empty {text : String} (some_ : text ≠ "") :
    percentEncoded text ≠ "" := by
  intro nothing
  -- Nothing is read as nothing.
  have read := percentDecoded?_percentEncoded text
  rw [nothing] at read
  have empty : percentDecoded? "" = some "" := rfl
  exact some_ (Option.some.inj (read.symm.trans empty))

end Text

namespace Admin

/-- Without a query and a fragment, an address that begins with a slash is a path. -/
theorem pathOf_plain {rest : List Char} {uri : String} (begins : uri.toList = '/' :: rest)
    (plain : ∀ c ∈ uri.toList, c ≠ '?' ∧ c ≠ '#') : pathOf uri = uri := by
  have all : ('/' :: rest).takeWhile (fun c => c != '?' && c != '#') = '/' :: rest := by
    refine List.takeWhile_eq_self_iff.mpr fun c member => ?_
    simpa using plain c (begins ▸ member)
  simp only [pathOf, begins, all]
  rw [← begins, String.ofList_toList]

/-- Slashes keep apart what they were put between. -/
theorem partsOf_intercalate {parts : List String} (some_ : parts ≠ [])
    (apart : ∀ part ∈ parts, '/' ∉ part.toList) : partsOf ("/".intercalate parts) = parts := by
  have chars : ("/".intercalate parts).toList = ['/'].intercalate (parts.map String.toList) :=
    String.toList_intercalate
  rw [partsOf, chars, List.splitOn_intercalate, List.map_map]
  · exact List.map_id'' (fun part => String.ofList_toList) parts
  · exact List.forall_mem_map.mpr apart
  · simpa using some_

/-- The address of the breaker with a name. -/
def addressOf (name : String) : String :=
  "/".intercalate ["", "admin", "breakers", Text.percentEncoded name]

theorem addressOf_toList (name : String) :
    (addressOf name).toList = "/admin/breakers/".toList ++ (Text.percentEncoded name).toList := by
  simp [addressOf]

theorem pathOf_addressOf (name : String) : pathOf (addressOf name) = addressOf name := by
  have chars := addressOf_toList name
  refine pathOf_plain chars fun c member => ?_
  rw [chars, List.mem_append] at member
  rcases member with fixed | encoded
  · have plain : "/admin/breakers/".toList.all (fun c => c != '?' && c != '#') = true := rfl
    simpa using List.all_eq_true.mp plain c fixed
  · have plain := Text.percentEncoded_plain encoded
    simp only [List.mem_cons, List.not_mem_nil, or_false, not_or] at plain
    exact plain.2

/-- The name is one part of the address. -/
theorem partsOf_addressOf (name : String) :
    partsOf (addressOf name) = ["", "admin", "breakers", Text.percentEncoded name] := by
  refine partsOf_intercalate (List.cons_ne_nil _ _) fun part member => ?_
  simp only [List.mem_cons, List.not_mem_nil, or_false] at member
  rcases member with rfl | rfl | rfl | rfl
  · decide
  · decide
  · decide
  · exact fun slash => Text.percentEncoded_plain slash List.mem_cons_self

/-- It leads to the breaker, unless the name is empty. -/
theorem ofPath?_addressOf {name : String} (named : name ≠ "") :
    Route.ofPath? (pathOf (addressOf name)) = some (.breaker (Text.percentEncoded name)) := by
  have some_ : (Text.percentEncoded name).isEmpty = false := by
    simpa using Text.percentEncoded_ne_empty named
  simp [pathOf_addressOf, Route.ofPath?, partsOf_addressOf, some_]

end Admin
end Fusebox
