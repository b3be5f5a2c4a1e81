import Fusebox.Text.Percent

/-! Addresses of the admin interface. Only the path of an address counts, and only
the part that names a breaker is decoded. -/
namespace Fusebox.Admin

/-- The path of an address. Queries and fragments do not belong to it, and neither do
the scheme and the host of an address that is given in full. A host alone has no path. -/
def pathOf (uri : String) : String :=
  let inPath (c : Char) : Bool := c != '?' && c != '#'
  let rec afterScheme : List Char → Option (List Char)
    | ':' :: '/' :: '/' :: rest => some rest
    | c :: rest => if inPath c then afterScheme rest else none
    | [] => none
  let chars := uri.toList
  match chars with
  | '/' :: _ => String.ofList (chars.takeWhile inPath)
  | _ =>
    match afterScheme chars with
    | none => if uri = "*" then uri else ""
    | some rest =>
      let path := (rest.dropWhile fun c => inPath c && c != '/').takeWhile inPath
      if path.isEmpty then "/" else String.ofList path

/-- What can be asked for: the routes of `setup_admin_router`. -/
inductive Route where
  | status
  | breakers
  /-- One breaker; the name is as it stands in the path. -/
  | breaker (segment : String)
deriving DecidableEq

/-- The parts of a path, which slashes keep apart. -/
def partsOf (path : String) : List String := (path.toList.splitOn '/').map String.ofList

/-- What a path asks for. A breaker's name is one part of the path and not empty. -/
def Route.ofPath? (path : String) : Option Route :=
  match partsOf path with
  | ["", "admin", "status"] => some .status
  | ["", "admin", "breakers"] => some .breakers
  | ["", "admin", "breakers", segment] => if segment.isEmpty then none else some (.breaker segment)
  | _ => none

end Fusebox.Admin
