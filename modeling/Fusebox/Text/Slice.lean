/-! Parts of a text by position. Positions count the bytes of the encoded text, and
only a part that begins and ends between two characters is a part. -/
namespace Fusebox.Text

/-- How many bytes characters take. -/
def bytes : List Char → Nat
  | [] => 0
  | c :: rest => c.utf8Size + bytes rest

/-- What follows that many bytes, if they end between two characters. -/
def dropBytes? : Nat → List Char → Option (List Char)
  | 0, text => some text
  | _ + 1, [] => none
  | count + 1, c :: rest =>
    if c.utf8Size ≤ count + 1 then dropBytes? (count + 1 - c.utf8Size) rest else none

/-- That many bytes from the front, if they end between two characters. -/
def takeBytes? : Nat → List Char → Option (List Char)
  | 0, _ => some []
  | _ + 1, [] => none
  | count + 1, c :: rest =>
    if c.utf8Size ≤ count + 1 then (takeBytes? (count + 1 - c.utf8Size) rest).map (c :: ·)
    else none

/-- The part between two positions. -/
def slice? (start stop : Nat) (text : List Char) : Option (List Char) :=
  (takeBytes? stop text).bind (dropBytes? start)

/-- Where a text is joined it can be cut; what follows the cut is found. -/
theorem dropBytes?_append (front rest : List Char) :
    dropBytes? (bytes front) (front ++ rest) = some rest := by
  induction front with
  | nil => simp [bytes, dropBytes?]
  | cons c front ih =>
    obtain ⟨size, eq⟩ : ∃ size, c.utf8Size = size + 1 :=
      ⟨c.utf8Size - 1, by have := c.utf8Size_pos; omega⟩
    have whole : bytes (c :: front) = (size + bytes front) + 1 := by simp [bytes, eq]; omega
    rw [whole, List.cons_append, dropBytes?, eq, if_pos (by omega)]
    rw [show size + bytes front + 1 - (size + 1) = bytes front by omega, ih]

/-- Where a text is joined it can be cut; what precedes the cut is found. -/
theorem takeBytes?_append (front rest : List Char) :
    takeBytes? (bytes front) (front ++ rest) = some front := by
  induction front with
  | nil => simp [bytes, takeBytes?]
  | cons c front ih =>
    obtain ⟨size, eq⟩ : ∃ size, c.utf8Size = size + 1 :=
      ⟨c.utf8Size - 1, by have := c.utf8Size_pos; omega⟩
    have whole : bytes (c :: front) = (size + bytes front) + 1 := by simp [bytes, eq]; omega
    rw [whole, List.cons_append, takeBytes?, eq, if_pos (by omega)]
    rw [show size + bytes front + 1 - (size + 1) = bytes front by omega, ih, Option.map_some]

end Fusebox.Text
