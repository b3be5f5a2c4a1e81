import Fusebox.Admin.Interface
import Fusebox.Host.CommandLine
import Fusebox.Journal.Filter
import Fusebox.Settings.Load

/-! The life of the service: it registers the configured breakers, listens for admin
requests if it is told to, waits for the signal to shut down, and reports how every
breaker stood in the end. -/
namespace Fusebox

/-- Where the service listens, in the form it is logged in; a port of zero leaves the
choice to the system. A text that is no address at least names a host and a port. -/
def listenAt (address : String) : Except IoError String :=
  match SocketAddress.parse? address with
  | some (.four octets port) =>
    .ok (".".intercalate (octets.map toString) ++ ":" ++
      if port = 0 then "*" else toString port)
  | some (.six ..) => .ok address
  | none =>
    match (address.splitOn ":").reverse with
    | port :: _ :: _ =>
      let digits := if port.startsWith "+" then (port.drop 1).toString else port
      match SocketAddress.longNumber? UInt16.size digits.toList with
      | some (_, []) => .ok address
      | _ => .error .noPort
    | _ => .error .noSocketAddress

namespace Service

/-- What is said about an address for metrics that cannot be used. -/
def metricsEvents (settings : ObservabilitySettings) : List Event :=
  if settings.metricsEnabled && (SocketAddress.parse? settings.metricsAddress).isNone then
    [.unusableMetricsAddress settings.metricsAddress]
  else []

/-- Opens the admin interface (`admin::serve`), or says that there is none. -/
def openAdmin (settings : AdminSettings) (registry : Registry) :
    Step Effect Registry (Except IoError Unit) :=
  if settings.enabled then
    match listenAt settings.bindAddress with
    | .error error => .pure registry (.error error)
    | .ok address => (Step.pure registry (.ok ())).after [.event (.adminListening address)]
  else (Step.pure registry (.ok ())).after [.event .adminDisabled]

/-- Brings the service up: the part of `startup::run` before the signal. All breakers are
there before the first admin request. -/
def start (settings : ServiceSettings) (reading : Reading) :
    Step Effect Registry (Except IoError Unit) :=
  ((Registry.empty.registerAll reading settings.policies).bind fun registry _ =>
    (openAdmin settings.admin registry).after [.event (.breakersReady registry.names)]).after
      ((metricsEvents settings.observability).map .event)

/-- What is said about a breaker in the end. -/
def farewell (name : String) (snapshot : Snapshot) : Event :=
  .finalMode name snapshot.mode snapshot.tally.requests snapshot.tally.failures

/-- Takes the service down after the signal to do so: `shutdown_on_ctrl_c`, and what
`startup::run` does after it. -/
def stop (settings : ServiceSettings) (registry : Registry) (reading : Reading) :
    Step Effect Registry Unit :=
  ((registry.readAll reading).bind fun registry snapshots =>
    (Step.pure registry ()).after
      (snapshots.map fun (name, snapshot) => .event (farewell name snapshot))).after
        (.event .shutdownSignal ::
          if settings.admin.enabled then [.event .adminStopped] else [])

/-- The whole life of the service (`startup::run`), up to a failure to come up. -/
def run (settings : ServiceSettings) (reading : Reading) :
    Step Effect Registry (Except IoError Unit) :=
  (start settings reading).bind fun registry started =>
    match started with
    | .error error => .pure registry (.error error)
    | .ok () => (stop settings registry reading).map .ok

/-- What is said before anything else. -/
def greeting (config : Option String) (settings : ServiceSettings) : Event :=
  .starting Admin.version config settings.breakers.length

end Service

/-- How the program ends: its exit code, what it has written, and the error or the
crash it ends with, if any. -/
structure Exit where
  code : Nat
  output : List String := []
  error : Option String := none
  crash : Option Crash := none
deriving DecidableEq

namespace Exit

/-- An error as it is reported at the end. -/
def failure (text : String) : Exit := { code := 1, error := some ("Error: " ++ text) }

/-- A crash as the program ends with it. -/
def abrupt (cause : Crash) (output : List String) : Exit :=
  { code := 101, output, crash := some cause }

/-- The settings of a run: those of the named file, or the defaults. -/
def settingsFor (config : Option String) (read : String → Except IoError ByteArray) :
    Except LoadError ServiceSettings :=
  match config with
  | none => .ok {}
  | some path => ServiceSettings.load (read path)

end Exit

/-- A program that is up and waits for the signal to shut down. -/
structure Running where
  settings : ServiceSettings
  filter : LogFilter
  registry : Registry
  /-- What it has written so far. -/
  written : List String

/-- What comes of starting the program. -/
inductive Launch where
  | ended (exit : Exit)
  | running (program : Running)

/-- Starts the program with the given arguments, files and requested log filter.
Mistakes in the arguments have an explanation of their own, and so do broken
configurations; neither comes to the point where the log is opened. -/
def Launch.start (arguments : List String) (read : String → Except IoError ByteArray)
    (requested : Option String) (reading : Reading) : Launch :=
  match CommandLine.parse arguments with
  | .misuse => .ended { code := 2 }
  | .help => .ended { code := 0, output := CommandLine.helpLines }
  | .run config =>
    match Exit.settingsFor config read with
    | .error error => .ended (.failure error.text)
    | .ok settings =>
      match LogFilter.choose requested settings.observability.logLevel with
      | .error cause => .ended (.abrupt cause [])
      | .ok filter =>
        let life := Service.start settings reading
        let written := filter.lines (Service.greeting config settings :: eventsOf life.effects)
        match life.result with
        | .ok (.ok ()) => .running ⟨settings, filter, life.state, written⟩
        | .ok (.error error) => .ended { Exit.failure error.text with output := written }
        | .error cause => .ended (.abrupt cause written)

/-- Ends a running program. The output is only what it writes from now on. -/
def Running.shutDown (program : Running) (reading : Reading) : Exit :=
  let life := Service.stop program.settings program.registry reading
  match life.result with
  | .ok () =>
    { code := 0, output := program.filter.lines (eventsOf life.effects ++ [.shutdownComplete]) }
  | .error cause => .abrupt cause (program.filter.lines (eventsOf life.effects))

/-- A run from start to end, with everything it writes. -/
def Exit.ofRun (arguments : List String) (read : String → Except IoError ByteArray)
    (requested : Option String) (started stopped : Reading) : Exit :=
  match Launch.start arguments read requested started with
  | .ended exit => exit
  | .running program =>
    let exit := program.shutDown stopped
    { exit with output := program.written ++ exit.output }

end Fusebox
