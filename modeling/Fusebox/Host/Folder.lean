import Fusebox.Settings.Load

/-! A folder that holds files and nothing else, as the place where a configuration
is looked up. Everything around it is out of sight. -/
namespace Fusebox

/-- The files of a folder with their contents. -/
structure Folder where
  files : List (String × String)

namespace Folder

/-- Where a path has led so far. -/
inductive Place where
  /-- The folder itself. -/
  | here
  /-- A folder around it, or the root of all folders. -/
  | outside
  | file (content : String)

/-- The longest path, in bytes. -/
def pathLimit : Nat := 4095

/-- The longest name in a path, in bytes. -/
def nameLimit : Nat := 255

/-- One step of a path. A file has no step behind it, not even one that stays where it
is. What folders around this one hold is not known. -/
def enter (folder : Folder) : Place → String → Except IoError Place
  | .file _, _ => .error .notADirectory
  | place, "" | place, "." => .ok place
  | _, ".." => .ok .outside
  | place, name =>
    if nameLimit < name.utf8ByteSize then .error .nameTooLong
    else
      match place, folder.files.lookup name with
      | .here, some content => .ok (.file content)
      | _, _ => .error .notFound

/-- Reads a file by its path. A slash at the end of a path is a step behind it. -/
def read (folder : Folder) (path : String) : Except IoError ByteArray :=
  if path.isEmpty then .error .notFound
  else if pathLimit < path.utf8ByteSize then .error .nameTooLong
  else
    let start : Place := if path.startsWith "/" then .outside else .here
    match (path.splitOn "/").foldlM folder.enter start with
    | .error error => .error error
    | .ok (.file content) => .ok content.toUTF8
    | .ok _ => .error .isADirectory

end Folder
end Fusebox
