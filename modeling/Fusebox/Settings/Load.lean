import Fusebox.Document.Toml.Reader
import Fusebox.Settings.Decode
import Fusebox.Settings.Validation

/-! From a configuration file to valid settings. Three things can go wrong, in this
order: the file cannot be read as text, the text is not a configuration, or the
configuration has faults. -/
namespace Fusebox

/-- Why reading or listening failed. -/
inductive IoError where
  | notFound
  | notADirectory
  | isADirectory
  /-- A path, or a name in it, is longer than a path or name can be. -/
  | nameTooLong
  /-- The bytes of a file are not a text. -/
  | notText
  /-- An address to listen on has no port. -/
  | noSocketAddress
  /-- The port of an address to listen on is not a port. -/
  | noPort
deriving DecidableEq

namespace IoError

/-- The kind of error. -/
def kind : IoError → String
  | .notFound => "NotFound"
  | .notADirectory => "NotADirectory"
  | .isADirectory => "IsADirectory"
  | .nameTooLong => "InvalidFilename"
  | .notText => "InvalidData"
  | .noSocketAddress | .noPort => "InvalidInput"

/-- What happened. -/
def reason : IoError → String
  | .notFound => "No such file or directory"
  | .notADirectory => "Not a directory"
  | .isADirectory => "Is a directory"
  | .nameTooLong => "File name too long"
  | .notText => "stream did not contain valid UTF-8"
  | .noSocketAddress => "invalid socket address"
  | .noPort => "invalid port value"

/-- The number of an error that comes from the operating system. -/
def code? : IoError → Option Nat
  | .notFound => some 2
  | .notADirectory => some 20
  | .isADirectory => some 21
  | .nameTooLong => some 36
  | _ => none

/-- What happened, with the number of the error if it has one. -/
def message (error : IoError) : String :=
  match error.code? with
  | some code => error.reason ++ " (os error " ++ toString code ++ ")"
  | none => error.reason

/-- The error with its particulars in one line. -/
def text (error : IoError) : String :=
  match error.code? with
  | some code =>
    "Os \x7b code: " ++ toString code ++ ", kind: " ++ error.kind ++ ", message: " ++
      Text.quoted error.reason ++ " \x7d"
  | none =>
    "Error \x7b kind: " ++ error.kind ++ ", message: " ++ Text.quoted error.reason ++ " \x7d"

end IoError

/-- Why there are no settings (`ConfigError`). -/
inductive LoadError where
  | io (error : IoError)
  | parse
  | invalid (faults : List Fault)

namespace LoadError

/-- A sentence for whoever wrote the settings; `join` puts commas between the faults. -/
def message : LoadError → String
  | .io error => "IO error: " ++ error.message
  | .parse => "Parse error"
  | .invalid faults => "Validation failed: " ++ ", ".intercalate (faults.map Fault.message)

/-- The error with its particulars in one line. -/
def text : LoadError → String
  | .io error => "Io(" ++ error.text ++ ")"
  | .parse => "Parse"
  | .invalid faults => "Validation([" ++ ", ".intercalate (faults.map Fault.text) ++ "])"

end LoadError

namespace ServiceSettings

/-- Valid settings from the text of a configuration (`parse_config`). -/
def parse (text : String) : Except LoadError ServiceSettings :=
  match (Document.Toml.parse? text).bind (decode? .ignored) with
  | none => .error .parse
  | some settings =>
    match settings.validate with
    | .error faults => .error (.invalid faults)
    | .ok () => .ok settings

/-- What the text of a configuration is worth a warning for. -/
def parseWarnings (text : String) : List Event :=
  match (Document.Toml.parse? text).bind (decode? .ignored) with
  | none => []
  | some settings => settings.warnings

/-- Valid settings from what reading a file gave (`load_config`). -/
def load (file : Except IoError ByteArray) : Except LoadError ServiceSettings :=
  match file with
  | .error error => .error (.io error)
  | .ok bytes =>
    match String.fromUTF8? bytes with
    | none => .error (.io .notText)
    | some text => parse text

/-- What a file is worth a warning for. -/
def loadWarnings (file : Except IoError ByteArray) : List Event :=
  match file with
  | .error _ => []
  | .ok bytes => ((String.fromUTF8? bytes).map parseWarnings).getD []

end ServiceSettings
end Fusebox
