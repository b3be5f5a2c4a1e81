import Fusebox.Document.Compact
import Fusebox.Document.Json
import Mathlib.Data.List.Basic
import Mathlib.Data.List.TakeWhile

/-! Trees that are written as JSON and read again. What is written on one line says all that there
is in a tree, unless the tree has values for which JSON has none: whoever reads it finds the same
tree. Each part of the text is read up to its end, whatever stands behind it, and no part needs
more steps than it has characters. -/
namespace Fusebox

/-- A tree of values that JSON has as well. Whole numbers are those of 64 bits, with a sign or
without one. -/
inductive Tree.Plain : Tree → Prop where
  | null : Plain .null
  | flag (value : Bool) : Plain (.flag value)
  | whole {number : Int} (least : -0x8000000000000000 ≤ number)
      (most : number < 0x10000000000000000) : Plain (.whole number)
  | text (text : String) : Plain (.text text)
  | list {items : List Tree} (plain : ∀ item ∈ items, Plain item) : Plain (.list items)
  | table {entries : List (String × Tree)} (plain : ∀ entry ∈ entries, Plain entry.2) :
      Plain (.table entries)

namespace Document

open Fusebox.Text (digit? isDigit valueOf word?)
open Json

variable {rest : List Char} {fuel : Nat} {number : Int} {tree : Tree}

/-! ## Strings -/

/-- A control character is read from its number. -/
theorem unit?_hex {code : Nat} (control : code < 0x20) (rest : List Char) :
    unit? ('0' :: '0' :: Nat.digitChar (code / 16) :: Nat.digitChar (code % 16) :: rest) =
      some (code, rest) := by
  have read : ∀ code < 0x20,
      ['0', '0', Nat.digitChar (code / 16), Nat.digitChar (code % 16)].all (isDigit 16) = true ∧
      valueOf 16 ['0', '0', Nat.digitChar (code / 16), Nat.digitChar (code % 16)] = code := by
    decide
  obtain ⟨digits, value⟩ := read code control
  rw [unit?, if_pos digits, value]

/-- A number that is not half of a surrogate pair stands alone. -/
theorem join?_unit {code : Nat} (low : code < 0xD800) (more : List Piece) :
    join? (.unit code :: more) = (join? more).map (Char.ofNat code :: ·) := by
  have first : ¬(0xD800 ≤ code ∧ code < 0xDC00) := by omega
  have second : ¬(0xDC00 ≤ code ∧ code < 0xE000) := by omega
  have both : ¬(0xD800 ≤ code ∧ code < 0xE000) := by omega
  match more with
  | [] => simp only [join?, if_neg both]
  | .char c :: more => simp only [join?, if_neg both]
  | .unit other :: more => simp only [join?, if_neg first, if_neg second]

theorem pieces?_plain {c : Char} (printed : 0x20 ≤ c.toNat) (quote : c ≠ '"')
    (backslash : c ≠ '\\') (fuel : Nat) (rest : List Char) :
    pieces? (fuel + 1) (c :: rest) =
      (pieces? fuel rest).map fun (more, rest) => (.char c :: more, rest) := by
  rw [pieces?]
  · rw [if_neg (Nat.not_lt.mpr printed)]
    cases pieces? fuel rest <;> rfl
  · exact quote
  · exact fun _ same => absurd same backslash
  · exact fun _ _ same => absurd same backslash

theorem pieces?_escape {c letter : Char} (escaped : escape? letter = some c) (fuel : Nat)
    (rest : List Char) :
    pieces? (fuel + 1) ('\\' :: letter :: rest) =
      (pieces? fuel rest).map fun (more, rest) => (.char c :: more, rest) := by
  have known : letter ≠ 'u' := by
    rintro rfl
    cases escaped
  rw [pieces?]
  · rw [escaped]
    cases pieces? fuel rest <;> rfl
  · exact known

theorem pieces?_code {code : Nat} (control : code < 0x20) (fuel : Nat) (rest : List Char) :
    pieces? (fuel + 1) ('\\' :: 'u' :: '0' :: '0' :: Nat.digitChar (code / 16) ::
        Nat.digitChar (code % 16) :: rest) =
      (pieces? fuel rest).map fun (more, rest) => (.unit code :: more, rest) := by
  rw [pieces?, unit?_hex control]
  simp only [Option.bind_eq_bind, Option.bind_some]
  cases pieces? fuel rest <;> rfl

/-- One character of a string is read as one piece of it, which stands for that character. -/
theorem pieces?_jsonChar (c : Char) : ∃ piece,
    (∀ fuel rest, pieces? (fuel + 1) (jsonChar c ++ rest) =
      (pieces? fuel rest).map fun (more, rest) => (piece :: more, rest)) ∧
    ∀ more, join? (piece :: more) = (join? more).map (c :: ·) := by
  unfold jsonChar
  split
  case h_8 quote backslash _ _ _ _ _ =>
    split
    · rename_i control
      refine ⟨.unit c.toNat, pieces?_code control, fun more => ?_⟩
      rw [join?_unit (by omega), Char.ofNat_toNat]
    · rename_i printed
      exact ⟨.char c, pieces?_plain (by omega) quote backslash, fun _ => rfl⟩
  all_goals exact ⟨.char _, pieces?_escape rfl, fun _ => rfl⟩

theorem length_flatMap_jsonChar (chars : List Char) :
    chars.length ≤ (chars.flatMap jsonChar).length := by
  induction chars with
  | nil => exact Nat.le_refl _
  | cons c rest ih =>
    have some_ : 0 < (jsonChar c).length := by
      unfold jsonChar
      split
      case h_8 => split <;> exact Nat.succ_pos _
      all_goals exact Nat.succ_pos _
    rw [List.flatMap_cons, List.length_append, List.length_cons]
    omega

/-- The pieces of a string are read up to its closing quote. -/
theorem pieces?_flatMap (chars rest : List Char) (enough : chars.length < fuel) :
    ∃ pieces, pieces? fuel (chars.flatMap jsonChar ++ '"' :: rest) = some (pieces, rest) ∧
      join? pieces = some chars := by
  induction chars generalizing fuel with
  | nil =>
    obtain ⟨fuel, rfl⟩ := Nat.exists_eq_add_of_lt enough
    exact ⟨[], by simp [pieces?], rfl⟩
  | cons c chars ih =>
    match fuel, enough with
    | fuel + 1, enough =>
      obtain ⟨pieces, read, joined⟩ := ih (Nat.lt_of_succ_lt_succ enough)
      obtain ⟨piece, first, stands⟩ := pieces?_jsonChar c
      refine ⟨piece :: pieces, ?_, ?_⟩
      · rw [List.flatMap_cons, List.append_assoc, first, read]
        rfl
      · rw [stands, joined]
        rfl

/-- A string is read as the text that it was written for. -/
theorem string?_jsonText (text : String) (rest : List Char)
    (enough : (text.toList.flatMap jsonChar).length < fuel) :
    string? fuel (text.toList.flatMap jsonChar ++ '"' :: rest) = some (some text, rest) := by
  have short := length_flatMap_jsonChar text.toList
  obtain ⟨pieces, read, joined⟩ :=
    pieces?_flatMap text.toList rest (Nat.lt_of_le_of_lt short enough)
  simp [string?, read, joined]

/-! ## Numbers -/

/-- What may follow a number without being taken for a part of it. -/
def Apart (rest : List Char) : Prop :=
  ∀ c ∈ rest.head?, c.isDigit = false ∧ c ≠ '.' ∧ c ≠ 'e' ∧ c ≠ 'E'

theorem digit?_ten {c : Char} (digit : c.isDigit = true) :
    digit? 10 c = some (c.toNat - '0'.toNat) := by
  have bounds : '0' ≤ c ∧ c ≤ '9' := by
    simpa [Char.isDigit, Char.le_def] using digit
  have most : c.toNat ≤ '9'.toNat := Char.le_def.mp bounds.2
  have small : c.toNat - '0'.toNat < 10 := Nat.lt_succ_of_le (Nat.sub_le_sub_right most _)
  rw [digit?, if_pos bounds]
  exact Option.filter_some_pos (decide_eq_true small)

theorem valueOf_digits {digits : List Char} (all : ∀ c ∈ digits, c.isDigit = true) :
    valueOf 10 digits = Nat.ofDigitChars 10 digits 0 := by
  rw [valueOf, Nat.ofDigitChars_eq_foldl]
  refine List.foldl_ext _ _ _ fun value c member => ?_
  rw [digit?_ten (all c member), Option.getD_some, Nat.mul_comm]

theorem isDigit_toDigits (number : Nat) : ∀ c ∈ Nat.toDigits 10 number, c.isDigit = true :=
  fun _ member => Nat.isDigit_of_mem_toDigits (by decide) (by decide) member

theorem valueOf_toDigits (number : Nat) : valueOf 10 (Nat.toDigits 10 number) = number := by
  rw [valueOf_digits (isDigit_toDigits number)]
  exact Nat.ofDigitChars_ten_toDigits

theorem digits_append {digits : List Char} (all : ∀ c ∈ digits, c.isDigit = true)
    (apart : Apart rest) : Json.digits (digits ++ rest) = (digits, rest) := by
  rw [Json.digits, List.takeWhile_append_of_pos all, List.dropWhile_append_of_pos all]
  match rest, apart with
  | [], _ => simp
  | c :: more, apart =>
    have other := (apart c rfl).1
    simp [other]

/-- Only zero begins with a zero. -/
theorem toDigits_head {number : Nat} (positive : 0 < number) :
    (Nat.toDigits 10 number).head? ≠ some '0' := by
  induction number using Nat.strong_induction_on with
  | _ number ih =>
    by_cases small : number < 10
    · have first : ∀ digit < 10, 0 < digit → Nat.digitChar digit ≠ '0' := by decide
      rw [Nat.toDigits_of_lt_base small]
      simpa using first number small positive
    · have shorter := ih (number / 10) (by omega) (by omega)
      rw [Nat.toDigits_of_base_le (by decide) (by omega), List.head?_append]
      cases first : (Nat.toDigits 10 (number / 10)).head? with
      | none => exact absurd (List.head?_eq_none_iff.mp first) Nat.toDigits_ne_nil
      | some digit => rwa [first] at shorter

theorem fraction?_apart (apart : Apart rest) : fraction? rest = some (none, rest) := by
  match rest, apart with
  | [], _ => rfl
  | c :: more, apart =>
    obtain ⟨-, point, -⟩ := apart c rfl
    rw [fraction?]
    rintro _ same
    exact point (List.cons.inj same).1

theorem exponent?_apart (apart : Apart rest) : exponent? rest = some (none, rest) := by
  match rest, apart with
  | [], _ => rfl
  | c :: more, apart =>
    obtain ⟨-, -, small, large⟩ := apart c rfl
    simp [exponent?, small, large]

/-- Digits of a number are some, and with a zero in front there is no other one. -/
theorem toDigits_cons (number : Nat) : ∃ first more, Nat.toDigits 10 number = first :: more ∧
    first.isDigit = true ∧ (first = '0' → more = []) := by
  cases shown : Nat.toDigits 10 number with
  | nil => exact absurd shown Nat.toDigits_ne_nil
  | cons first more =>
    have member : first ∈ Nat.toDigits 10 number := shown ▸ List.mem_cons_self
    refine ⟨first, more, rfl, isDigit_toDigits number first member, ?_⟩
    rintro rfl
    rcases Nat.eq_zero_or_pos number with rfl | positive
    · rw [Nat.toDigits_zero] at shown
      exact (List.cons.inj shown).2.symm
    · exact absurd (congrArg List.head? shown) (toDigits_head positive)

theorem unsigned?_toDigits (negative : Bool) (number : Nat) (apart : Apart rest) :
    unsigned? negative (Nat.toDigits 10 number ++ rest) =
      some (wholeValue negative (Nat.toDigits 10 number), rest) := by
  obtain ⟨first, more, shown, -, alone⟩ := toDigits_cons number
  rw [unsigned?, digits_append (isDigit_toDigits number) apart]
  dsimp only
  rw [shown]
  split
  · rename_i same
    cases same
  · rename_i same
    obtain ⟨rfl, rfl⟩ := List.cons.inj same
    cases alone rfl
  · simp only [fraction?_apart apart, exponent?_apart apart, Option.bind_eq_bind, Option.bind_some]
    rfl

theorem toList_natural (number : Nat) :
    (toString (Int.ofNat number)).toList = Nat.toDigits 10 number := Nat.toList_repr

theorem toList_negative (number : Nat) :
    (toString (Int.negSucc number)).toList = '-' :: Nat.toDigits 10 (number + 1) := by
  show ("-" ++ (number + 1).repr).toList = _
  rw [String.toList_append, Nat.toList_repr]
  rfl

/-- A whole number begins with its sign or with a digit. -/
theorem toList_whole (number : Int) : ∃ first more, (toString number).toList = first :: more ∧
    (first = '-' ∨ first.isDigit = true) := by
  cases number with
  | ofNat number =>
    obtain ⟨first, more, shown, digit, -⟩ := toDigits_cons number
    exact ⟨first, more, (toList_natural number).trans shown, .inr digit⟩
  | negSucc number => exact ⟨_, _, toList_negative number, .inl rfl⟩

/-- A whole number is read as itself. -/
theorem number?_whole (least : -0x8000000000000000 ≤ number)
    (most : number < 0x10000000000000000) (apart : Apart rest) :
    number? ((toString number).toList ++ rest) = some (.whole number, rest) := by
  cases number with
  | ofNat number =>
    obtain ⟨first, more, cons, digit, -⟩ := toDigits_cons number
    have fits : number < UInt64.size := Int.ofNat_lt.mp most
    have read := unsigned?_toDigits false number apart
    rw [wholeValue, valueOf_toDigits, if_neg Bool.false_ne_true, if_pos fits] at read
    rw [toList_natural, number?]
    · exact read
    · rintro text same
      rw [cons] at same
      obtain rfl := (List.cons.inj same).1
      cases digit
  | negSucc number =>
    have fits : ¬(number + 1 = 0 ∨ 0x8000000000000000 < number + 1) := by omega
    have read := unsigned?_toDigits true (number + 1) apart
    rw [wholeValue, valueOf_toDigits, if_pos rfl, if_neg fits] at read
    rw [toList_negative, List.cons_append, number?]
    exact read

/-- A number does not begin with anything else than a sign or a digit. -/
theorem begins_ne {first other : Char} (begins : first = '-' ∨ first.isDigit = true)
    (strange : other ≠ '-' ∧ other.isDigit = false) : first ≠ other := by
  rintro rfl
  obtain ⟨unsigned, letter⟩ := strange
  rcases begins with sign | digit
  · exact unsigned sign
  · cases digit.symm.trans letter

/-- What begins like a number is read as one. -/
theorem value?_number {first : Char} (begins : first = '-' ∨ first.isDigit = true) (fuel : Nat)
    (more : List Char) : value? (fuel + 1) (first :: more) = number? (first :: more) := by
  have noNull : first ≠ 'n' := begins_ne begins (by decide)
  have noTrue : first ≠ 't' := begins_ne begins (by decide)
  have noFalse : first ≠ 'f' := begins_ne begins (by decide)
  have noText : first ≠ '"' := begins_ne begins (by decide)
  have noList : first ≠ '[' := begins_ne begins (by decide)
  have noTable : first ≠ '\x7b' := begins_ne begins (by decide)
  rw [value?]
  · simp [word?, Ne.symm noNull, Ne.symm noTrue, Ne.symm noFalse]
  · exact fun _ same => noText (List.cons.inj same).1
  · exact fun _ same => noList (List.cons.inj same).1
  · exact fun _ same => noTable (List.cons.inj same).1

/-! ## Trees -/

/-- The characters that a tree is written with. -/
def charsOf (tree : Tree) : List Char := (compact tree).toList

theorem charsOf_text (text : String) :
    charsOf (.text text) = '"' :: (text.toList.flatMap jsonChar ++ ['"']) := by
  rw [charsOf, compact, jsonText, String.toList_ofList]
  rfl

theorem compactItems_eq (items : List Tree) : compactItems items = items.map compact := by
  induction items with
  | nil => rfl
  | cons item rest ih => rw [compactItems, ih, List.map_cons]

theorem charsOf_list (items : List Tree) :
    charsOf (.list items) = '[' :: ([','].intercalate (items.map charsOf) ++ [']']) := by
  rw [charsOf, compact, compactItems_eq, String.toList_append, String.toList_append,
    String.toList_intercalate, List.map_map]
  rfl

/-- An entry of a table, with its key. -/
def entryChars (entry : String × Tree) : List Char :=
  charsOf (.text entry.1) ++ ':' :: charsOf entry.2

theorem compactEntries_eq (entries : List (String × Tree)) :
    (compactEntries entries).map String.toList = entries.map entryChars := by
  induction entries with
  | nil => rfl
  | cons entry rest ih =>
    rw [compactEntries, List.map_cons, List.map_cons, ih, String.toList_append,
      String.toList_append, List.append_assoc]
    rfl

theorem charsOf_table (entries : List (String × Tree)) :
    charsOf (.table entries) =
      '\x7b' :: ([','].intercalate (entries.map entryChars) ++ ['\x7d']) := by
  rw [charsOf, compact, String.toList_append, String.toList_append, String.toList_intercalate,
    compactEntries_eq]
  rfl

/-- A tree is read from what it is written with, whatever stands behind it. -/
structure ReadBack (tree : Tree) : Prop where
  /-- It begins with no blank, and with nothing that ends a list. -/
  begins : ∃ first more, charsOf tree = first :: more ∧ first ∉ [' ', '\n', '\t', '\r', ']']
  value : ∀ fuel rest, Apart rest → (charsOf tree).length ≤ fuel →
    value? fuel (charsOf tree ++ rest) = some (tree, rest)

/-- What stands behind an item or an entry is not taken for a part of a number. -/
theorem apart_cons (c : Char) (member : c ∈ [',', ']', '\x7d']) (rest : List Char) :
    Apart (c :: rest) := by
  rintro _ ⟨⟩
  simp only [List.mem_cons, List.not_mem_nil, or_false] at member
  rcases member with rfl | rfl | rfl <;> decide

theorem ReadBack.skipBlanks_eq (back : ReadBack tree) (rest : List Char) :
    skipBlanks (charsOf tree ++ rest) = charsOf tree ++ rest := by
  obtain ⟨first, more, shown, visible⟩ := back.begins
  simp only [List.mem_cons, List.not_mem_nil, or_false, not_or] at visible
  obtain ⟨space, line, tab, back, -⟩ := visible
  simp [shown, skipBlanks, space, line, tab, back]

/-- The first of several parts is at the front of them. -/
theorem intercalate_append (first : List Char) (others : List (List Char)) (rest : List Char) :
    ∃ tail, [','].intercalate (first :: others) ++ rest = first ++ tail := by
  cases others with
  | nil => exact ⟨rest, by rw [List.intercalate_singleton]⟩
  | cons next others =>
    exact ⟨_, by rw [List.intercalate_cons_cons, List.append_assoc, List.append_assoc]⟩

/-- Items are read up to the end of their list. -/
theorem items?_charsOf {items : List Tree} (some_ : items ≠ [])
    (back : ∀ item ∈ items, ReadBack item)
    (enough : ([','].intercalate (items.map charsOf)).length < fuel) (rest : List Char) :
    items? fuel ([','].intercalate (items.map charsOf) ++ ']' :: rest) = some (items, rest) := by
  induction items generalizing fuel with
  | nil => exact absurd rfl some_
  | cons item more ih =>
    obtain ⟨fuel, rfl⟩ := Nat.exists_eq_add_one_of_ne_zero (Nat.ne_zero_of_lt enough)
    have first := (back item List.mem_cons_self).value fuel
    cases more with
    | nil =>
      simp only [List.map_cons, List.map_nil, List.intercalate_singleton] at enough ⊢
      rw [items?, first _ (apart_cons ']' (by decide) rest) (Nat.le_of_lt_succ enough)]
      rfl
    | cons next others =>
      rw [List.map_cons, List.map_cons, List.intercalate_cons_cons, ← List.map_cons] at enough ⊢
      simp only [List.length_append, List.length_singleton] at enough
      have room : (charsOf item).length ≤ fuel := by omega
      have left : ([','].intercalate ((next :: others).map charsOf)).length < fuel := by omega
      have later := ih (List.cons_ne_nil _ _) (fun item member => back item (.tail _ member)) left
      obtain ⟨tail, split⟩ := intercalate_append (charsOf next) (others.map charsOf) (']' :: rest)
      rw [List.map_cons, split] at later
      have visible := (back next (.tail _ List.mem_cons_self)).skipBlanks_eq tail
      have comma : skipBlanks (',' :: (charsOf next ++ tail)) = ',' :: (charsOf next ++ tail) := rfl
      rw [List.append_assoc, List.append_assoc, List.map_cons, split, List.singleton_append, items?,
        first _ (apart_cons ',' (by decide) _) room]
      simp only [Option.bind_eq_bind, Option.bind_some, comma, visible, later]
      rfl

/-- The key of an entry is read, and its value behind the colon. -/
theorem entryChars_read {entry : String × Tree} (back : ReadBack entry.2) (apart : Apart rest)
    (enough : (entryChars entry).length ≤ fuel) :
    ∃ text, entryChars entry ++ rest = '"' :: text ∧
      string? fuel text = some (some entry.1, ':' :: (charsOf entry.2 ++ rest)) ∧
      value? fuel (skipBlanks (charsOf entry.2 ++ rest)) = some (entry.2, rest) := by
  simp only [entryChars, charsOf_text, List.cons_append, List.length_cons,
    List.length_append] at enough
  refine ⟨_, ?_, string?_jsonText entry.1 _ (by omega), ?_⟩
  · simp [entryChars, charsOf_text]
  · rw [back.skipBlanks_eq]
    exact back.value fuel rest apart (by omega)

theorem skipBlanks_entryChars (entry : String × Tree) (rest : List Char) :
    skipBlanks (entryChars entry ++ rest) = entryChars entry ++ rest := by
  rw [entryChars, charsOf_text]
  rfl

/-- An entry of a table, as it is read. Its key might not have been usable. -/
def readEntry (entry : String × Tree) : Option String × Tree := (some entry.1, entry.2)

/-- Entries are read up to the end of their table. -/
theorem entries?_charsOf {entries : List (String × Tree)} (some_ : entries ≠ [])
    (back : ∀ entry ∈ entries, ReadBack entry.2)
    (enough : ([','].intercalate (entries.map entryChars)).length < fuel) (rest : List Char) :
    entries? fuel ([','].intercalate (entries.map entryChars) ++ '\x7d' :: rest) =
      some (entries.map readEntry, rest) := by
  induction entries generalizing fuel with
  | nil => exact absurd rfl some_
  | cons entry more ih =>
    obtain ⟨fuel, rfl⟩ := Nat.exists_eq_add_one_of_ne_zero (Nat.ne_zero_of_lt enough)
    have first := back entry List.mem_cons_self
    have colon (tail : List Char) : skipBlanks (':' :: tail) = ':' :: tail := rfl
    cases more with
    | nil =>
      simp only [List.map_cons, List.map_nil, List.intercalate_singleton] at enough ⊢
      obtain ⟨text, opens, key, value⟩ :=
        entryChars_read first (apart_cons '\x7d' (by decide) rest) (Nat.le_of_lt_succ enough)
      rw [opens, entries?, key]
      simp only [Option.bind_eq_bind, Option.bind_some, colon, value]
      rfl
    | cons next others =>
      rw [List.map_cons, List.map_cons, List.intercalate_cons_cons, ← List.map_cons] at enough ⊢
      simp only [List.length_append, List.length_singleton] at enough
      have room : (entryChars entry).length ≤ fuel := by omega
      have left : ([','].intercalate ((next :: others).map entryChars)).length < fuel := by omega
      have later := ih (List.cons_ne_nil _ _) (fun entry member => back entry (.tail _ member)) left
      obtain ⟨tail, split⟩ := intercalate_append (entryChars next) (others.map entryChars)
        ('\x7d' :: rest)
      rw [List.map_cons, split] at later
      obtain ⟨text, opens, key, value⟩ :=
        entryChars_read first (apart_cons ',' (by decide) (entryChars next ++ tail)) room
      have visible := skipBlanks_entryChars next tail
      have comma : skipBlanks (',' :: (entryChars next ++ tail)) =
          ',' :: (entryChars next ++ tail) := rfl
      rw [List.append_assoc, List.append_assoc, List.map_cons, split, List.singleton_append, opens,
        entries?, key]
      simp only [Option.bind_eq_bind, Option.bind_some, colon, value, comma, visible, later]
      rfl

theorem tableOf_readEntry (entries : List (String × Tree)) :
    tableOf (entries.map readEntry) = .table entries := by
  have usable (put : Option String × Tree → Option (String × Tree))
      (kept : ∀ entry, put (readEntry entry) = some entry) :
      (entries.map readEntry).mapM put = some entries := by
    induction entries with
    | nil => rfl
    | cons entry rest ih =>
      rw [List.map_cons, List.mapM_cons, kept, ih]
      rfl
  rw [tableOf, usable _ fun _ => rfl]

namespace ReadBack

/-- What stands between two marks takes one step more than what is inside. -/
theorem enclosed {opening closing : Char} {inside : List Char}
    (shown : charsOf tree = opening :: (inside ++ [closing]))
    (visible : opening ∉ [' ', '\n', '\t', '\r', ']'])
    (read : ∀ fuel rest, inside.length < fuel →
      value? (fuel + 1) (opening :: (inside ++ closing :: rest)) = some (tree, rest)) :
    ReadBack tree := by
  refine ⟨⟨_, _, shown, visible⟩, fun fuel rest _ enough => ?_⟩
  rw [shown, List.length_cons, List.length_append, List.length_singleton] at enough
  obtain ⟨fuel, rfl⟩ := Nat.exists_eq_add_one_of_ne_zero (Nat.ne_zero_of_lt enough)
  rw [shown, List.cons_append, List.append_assoc, List.singleton_append]
  exact read fuel rest (by omega)

theorem text (text : String) : ReadBack (.text text) := by
  refine .enclosed (charsOf_text text) (by decide) fun fuel rest left => ?_
  rw [value?, string?_jsonText text rest left]
  rfl

theorem whole (least : -0x8000000000000000 ≤ number) (most : number < 0x10000000000000000) :
    ReadBack (.whole number) := by
  obtain ⟨first, more, shown, begins⟩ := toList_whole number
  have chars : charsOf (.whole number) = first :: more := shown
  constructor
  · refine ⟨first, more, chars, fun member => ?_⟩
    have strange : first ≠ '-' ∧ first.isDigit = false := by
      simp only [List.mem_cons, List.not_mem_nil, or_false] at member
      rcases member with rfl | rfl | rfl | rfl | rfl <;> decide
    exact begins_ne begins strange rfl
  · intro fuel rest apart enough
    have read := number?_whole least most apart
    rw [chars, List.length_cons] at enough
    obtain ⟨fuel, rfl⟩ := Nat.exists_eq_add_one_of_ne_zero (Nat.ne_zero_of_lt enough)
    rw [shown] at read
    rw [chars, List.cons_append, value?_number begins]
    exact read

theorem list {items : List Tree} (back : ∀ item ∈ items, ReadBack item) :
    ReadBack (.list items) := by
  refine .enclosed (charsOf_list items) (by decide) fun fuel rest left => ?_
  cases items with
  | nil => rfl
  | cons item others =>
    have inside := items?_charsOf (List.cons_ne_nil item others) back left rest
    have here := back item List.mem_cons_self
    obtain ⟨first, more, shown, visible⟩ := here.begins
    obtain ⟨tail, split⟩ := intercalate_append (charsOf item) (others.map charsOf) (']' :: rest)
    rw [List.map_cons, split] at inside ⊢
    rw [value?, here.skipBlanks_eq]
    rw [shown, List.cons_append] at inside ⊢
    split
    · rename_i same
      obtain ⟨rfl, -⟩ := List.cons.inj same
      exact absurd (by decide) visible
    · rw [inside]
      rfl

theorem table {entries : List (String × Tree)} (back : ∀ entry ∈ entries, ReadBack entry.2) :
    ReadBack (.table entries) := by
  refine .enclosed (charsOf_table entries) (by decide) fun fuel rest left => ?_
  cases entries with
  | nil => rfl
  | cons entry others =>
    have inside := entries?_charsOf (List.cons_ne_nil entry others) back left rest
    obtain ⟨tail, split⟩ := intercalate_append (entryChars entry) (others.map entryChars)
      ('\x7d' :: rest)
    rw [List.map_cons, split] at inside ⊢
    rw [value?, skipBlanks_entryChars]
    rw [entryChars, charsOf_text] at inside ⊢
    split
    · rename_i same
      exact absurd (List.cons.inj same).1 (by decide)
    · rw [inside]
      exact congrArg (fun table => some (table, rest)) (tableOf_readEntry (entry :: others))

end ReadBack

/-- A tree is read back if its parts are, one case for each kind of value. -/
theorem readBack_of_plain (plain : tree.Plain) : ReadBack tree := by
  induction plain with
  | null =>
    refine ⟨⟨_, _, rfl, by decide⟩, ?_⟩
    rintro (_ | fuel) rest apart enough
    · cases enough
    · rfl
  | flag value =>
    refine ⟨by cases value <;> exact ⟨_, _, rfl, by decide⟩, ?_⟩
    rintro (_ | fuel) rest apart enough
    · cases value <;> cases enough
    · cases value <;> rfl
  | text text => exact .text text
  | whole least most => exact .whole least most
  | list plain back => exact .list back
  | table plain back => exact .table back

/-- What was written is read as what it was written for. -/
theorem parse?_compact (plain : tree.Plain) : Json.parse? (compact tree) = some tree := by
  have back := readBack_of_plain plain
  have visible := back.skipBlanks_eq []
  have read := back.value (2 * (charsOf tree).length + 2) [] (fun _ none_ => nomatch none_)
    (by omega)
  rw [List.append_nil, charsOf] at visible read
  simp only [parse?, visible, read, Option.bind_eq_bind, Option.bind_some]
  rfl

end Document
end Fusebox
