/-! Bytes written as percent signs with two hexadecimal digits. What does not have
this form stands for itself, and so does everything else. -/
namespace Fusebox.Text

/-- The value of one hexadecimal digit. -/
def hexValue? (byte : UInt8) : Option UInt8 :=
  if 0x30 ≤ byte ∧ byte ≤ 0x39 then some (byte - 0x30)
  else if 0x41 ≤ byte ∧ byte ≤ 0x46 then some (byte - 0x41 + 10)
  else if 0x61 ≤ byte ∧ byte ≤ 0x66 then some (byte - 0x61 + 10)
  else none

/-- The bytes that are meant. -/
def percentDecode : List UInt8 → List UInt8
  | 0x25 :: high :: low :: rest =>
    match hexValue? high, hexValue? low with
    | some high, some low => (high * 16 + low) :: percentDecode rest
    | _, _ => 0x25 :: percentDecode (high :: low :: rest)
  | byte :: rest => byte :: percentDecode rest
  | [] => []

/-- The text that is meant, unless the bytes are not a text. -/
def percentDecoded? (text : String) : Option String :=
  String.fromUTF8? ⟨(percentDecode text.toUTF8.data.toList).toArray⟩

end Fusebox.Text
