import DeviceCatalog.CommandLine.Failure
import DeviceCatalog.CommandLine.Invocation
import DeviceCatalog.CommandLine.Settings
import DeviceCatalog.CommandLine.View
import DeviceCatalog.Registry
import DeviceCatalog.Store.Index
import DeviceCatalog.Store.Text

/-!
Running a command line. Files and the environment are reached through a host, so that a run is the
same over a file system and over files in memory.
-/

namespace DeviceCatalog.CommandLine

structure Host (m : Type → Type) where
  fileText : String → m (Except FileFault String)
  environment : String → m (Option String)

structure Report where
  output : List String := []
  errors : List String := []
  status : Nat := 0
deriving DecidableEq

namespace Report

/-- The text of lines, each of which is ended by a line feed. -/
def textOf (lines : List String) : String := "".intercalate (lines.map (· ++ "\n"))

def programName : String := "devmeta"

def version : String := "0.1.0"

def usage : List String :=
  ["Device metadata matching CLI", "",
    "Usage: " ++ programName ++ " [OPTIONS] <COMMAND>", "",
    "Commands:",
    "  aspect-nodes    List aspect nodes",
    "  selectables     Find device types serving capability criteria",
    "  device-type     Show a device type (plain or composite id)",
    "  function        Show a function",
    "  device          Show a device (plain or composite id)",
    "  group-criteria  Show the generated device group of a device",
    "  validate-group  Validate a device group of the catalog",
    "  split-id        Decode a composite id",
    "  help            Print this message", "",
    "Options:",
    "      --catalog <CATALOG>  Catalog file (.yaml, .yml or .json)",
    "  -c, --config <CONFIG>    Configuration file path",
    "  -o, --output <OUTPUT>    Output format [possible values: table, json, csv]",
    "      --no-color           Disable colored output",
    "  -q, --quiet              Minimal output (for scripting)",
    "  -v, --verbose            Verbose logging",
    "  -h, --help               Print help",
    "  -V, --version            Print version"]

def ofStop : Stop → Report
  | .help => { output := usage }
  | .version none => { output := [programName ++ " " ++ version] }
  | .version (some command) => { output := [programName ++ "-" ++ command ++ " " ++ version] }
  | .misuse misuse =>
    { errors := ["error: " ++ misuse.message, "", "For more information, try '--help'."]
      status := 2 }

def ofResult : Except Failure (List String) → Report
  | .ok output => { output }
  | .error failure => { errors := failure.lines, status := 1 }

end Report

variable {m : Type → Type} [Monad m]

abbrev Step (m : Type → Type) := ExceptT Failure m

/-- Goes on with a result, or fails in the way that an error calls for. -/
def require {Error Result : Type} (failure : Error → Failure) : Except Error Result →
    Step m Result
  | .ok result => pure result
  | .error error => throw (failure error)

def ofRegistry {Result : Type} : Except RegistryError Result → Step m Result :=
  require fun error => { message := error.message }

def namedSettings (host : Host m) (path : String) : Step m Settings := do
  let text ← require
    (fun fault => { message := "Failed to read config file: " ++ path, causes := [fault.message] })
    (← host.fileText path)
  require
    (fun fault => { message := "Failed to parse config file: " ++ path, causes := [fault.message] })
    (Settings.ofToml text)

/-- The settings in the usual file. Where it cannot be used nothing is set. -/
def usualSettings (host : Host m) : Step m Settings := do
  let path? := Settings.usualPath? (← host.environment "XDG_CONFIG_HOME")
    (← host.environment "HOME")
  match path? with
  | none => return {}
  | some path =>
    match ← host.fileText path with
    | .error _ => return {}
    | .ok text => return (Settings.ofToml text).toOption.getD {}

def criteriaOf (host : Host m) (text : CriteriaText) : Step m (List FilterCriteria) := do
  let json ← match text with
    | .inline json => pure json
    | .file path =>
      require (fun fault =>
        { message := "Failed to read criteria file: " ++ path, causes := [fault.message] })
        (← host.fileText path)
  match (Json.read? Json.nestingLimit json).bind (Document.listOf? FilterCriteria.ofDocument?) with
  | some criteria => return criteria
  | none => throw {
      message := "Criteria must be a JSON array of criteria objects"
      causes := ["the text does not hold criteria"] }

/-- The store that a catalog in a file describes, with its aspects indexed. -/
def openStore (host : Host m) (path : String) : Step m Store := do
  let store ← require
    (fun error =>
      { message := "Failed to load catalog: " ++ path
        causes := error.message :: error.cause?.toList })
    (Store.ofFile path (← host.fileText path))
  ofRegistry store.rebuildIndex

def answer (host : Host m) (registry : Registry (Except RegistryError)) (format : OutputFormat)
    (quiet : Bool) (command : CatalogCommand) : Step m (List String) := do
  let source := registry.source
  match command with
  | .aspectNodes ids =>
    return (View.ofNodes (← ofRegistry (AspectIndex.list source ids))).lines format quiet
  | .measuringAspects ancestors descendants =>
    let nodes ← ofRegistry (AspectIndex.listMeasuring source ancestors descendants)
    return (View.ofNodes nodes).lines format quiet
  | .selectables text query =>
    let query := query (← criteriaOf host text)
    let selectables ← ofRegistry (registry.resolveSelectables query)
    return (View.ofSelectables selectables).lines format quiet
  | .deviceType id =>
    return (View.ofDeviceType (← ofRegistry (registry.readDeviceType id))).lines format quiet
  | .function id =>
    return (View.ofFunction (← ofRegistry (source.function id))).lines format quiet
  | .device id =>
    return (View.ofDevice (← ofRegistry (registry.readDevice id))).lines format quiet
  | .groupCriteria deviceId =>
    return (View.ofGroup (← ofRegistry (registry.generatedGroup deviceId))).lines format quiet
  | .validateGroup groupId =>
    let group ← require
      (fun error =>
        { message := error.message
          remark := some ("Device group " ++ groupId ++ " is invalid: " ++ error.message) })
      (registry.validateStoredGroup groupId)
    return if quiet then [] else
      ["Device group " ++ group.id ++ " is valid (" ++ toString group.deviceIds.length ++
        " device(s), " ++ toString group.criteria.length ++ " criteria)"]

/-- Carries out an invocation: first the settings are read, then the catalog is. -/
def carryOut (host : Host m) (invocation : Invocation) : Step m (List String) := do
  let settings ← match invocation.settings with
    | some path => namedSettings host path
    | none => usualSettings host
  let format ← require
    (fun name =>
      { message := "Invalid output format in config file"
        causes := ["invalid variant: " ++ name] })
    (settings.outputFormat invocation.output)
  match invocation.command with
  | .splitId id => return (View.ofCompositeId id).lines format invocation.quiet
  | .ask command =>
    match invocation.catalog <|> settings.catalog with
    | none => throw {
        message := "No catalog given; use --catalog or set `catalog` in the config file" }
    | some path =>
      let store ← openStore host path
      answer host (store.registry settings.engine.narrowing) format invocation.quiet command

def run (host : Host m) (words : List String) : m Report := do
  let defaults : PathDefaults := {
    catalog := ← host.environment "DEVMETA_CATALOG"
    settings := ← host.environment "DEVMETA_CONFIG" }
  match Invocation.ofWords defaults words with
  | .error stop => return .ofStop stop
  | .ok invocation => return .ofResult (← (carryOut host invocation).run)

end DeviceCatalog.CommandLine
