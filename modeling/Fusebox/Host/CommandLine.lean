/-! Arguments of the service. They are read from left to right, and the first one
that settles the matter does: a request for help, or a mistake. -/
namespace Fusebox

/-- What the arguments ask for (`Args`). -/
inductive CommandLine where
  | run (config : Option String)
  | help
  /-- The arguments make no sense. -/
  | misuse
deriving DecidableEq

namespace CommandLine

/-- The explanation of the arguments. -/
def helpLines : List String := [
  "Circuit breaker host for the weather service",
  "",
  "Usage: weather-breaker [OPTIONS]",
  "",
  "Options:",
  "  -c, --config <CONFIG>  Path to a TOML config file. Defaults are used when omitted",
  "  -h, --help             Print help"]

/-- Whether an argument can be the value of the one before it. -/
def isValue (argument : String) : Bool :=
  match argument.toList with
  | [] => false
  | '-' :: _ :: _ => false
  | _ => true

/-- Reads arguments; `config` is the file that was named already. -/
def parseFrom (config : Option String) : List String → CommandLine
  | [] => .run config
  | argument :: rest =>
    -- A file may be named once, and its name is not empty.
    let named (file : List Char) (next : CommandLine) : CommandLine :=
      if config.isSome || file.isEmpty then .misuse else next
    match argument.toList with
    | ['-', '-'] => if rest.isEmpty then .run config else .misuse
    | ['-', 'c'] | ['-', '-', 'c', 'o', 'n', 'f', 'i', 'g'] =>
      match rest with
      | file :: rest =>
        if isValue file then named file.toList (parseFrom (some file) rest) else .misuse
      | [] => .misuse
    | '-' :: '-' :: 'c' :: 'o' :: 'n' :: 'f' :: 'i' :: 'g' :: '=' :: file =>
      named file (parseFrom (some (String.ofList file)) rest)
    | ['-', '-', 'h', 'e', 'l', 'p'] => .help
    | '-' :: 'h' :: _ => .help
    | '-' :: 'c' :: '=' :: file => named file (parseFrom (some (String.ofList file)) rest)
    | '-' :: 'c' :: file => named file (parseFrom (some (String.ofList file)) rest)
    | _ => .misuse

/-- Reads all arguments (`Args::parse`). -/
def parse (arguments : List String) : CommandLine := parseFrom none arguments

end CommandLine
end Fusebox
