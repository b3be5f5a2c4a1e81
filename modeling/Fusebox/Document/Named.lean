/-! Values by name. The names are kept in ascending order and each occurs once;
giving a value to a known name replaces the old one. -/
namespace Fusebox

/-- Values by name, in ascending order of the names. -/
abbrev Named (α : Type) := List (String × α)

namespace Named

variable {α : Type}

/-- Gives a value to a name. -/
def insert (name : String) (value : α) : Named α → Named α
  | [] => [(name, value)]
  | (other, old) :: rest =>
    if name = other then (name, value) :: rest
    else if name < other then (name, value) :: (other, old) :: rest
    else (other, old) :: insert name value rest

/-- Gives values to names one after the other; of two for one name the last stays. -/
def ofList (entries : List (String × α)) : Named α :=
  entries.foldl (fun table (name, value) => insert name value table) []

/-- The value of a name. -/
def find? (table : Named α) (name : String) : Option α := table.lookup name

end Named
end Fusebox
