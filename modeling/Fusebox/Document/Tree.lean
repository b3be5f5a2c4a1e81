/-! Documents as trees of values. Configuration files, stored settings and answers
of the admin interface all go through this one type, whatever notation they are
written in. -/
namespace Fusebox

/-- A value in a document. -/
inductive Tree where
  | null
  | flag (value : Bool)
  | whole (number : Int)
  | real (number : Float)
  | text (text : String)
  /-- A date or a time of day, as it was written. -/
  | moment (text : String)
  /-- A value that is written correctly but stands for nothing that could be kept. -/
  | unusable
  | list (items : List Tree)
  /-- Keys with their values in the order of the document; a key may come twice. -/
  | table (entries : List (String × Tree))
deriving Inhabited

end Fusebox
