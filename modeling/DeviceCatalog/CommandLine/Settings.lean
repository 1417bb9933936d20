import DeviceCatalog.CommandLine.Command
import DeviceCatalog.Configuration

/-!
The settings of the program, as they are written in a file. What a command line gives goes before
what is set here.
-/

namespace DeviceCatalog.CommandLine

structure Settings where
  /-- The path of the catalog. -/
  catalog : Option String := none
  /-- The name of an output format. -/
  output : Option String := none
  noColor : Option Bool := none
  engine : EngineConfig := {}

inductive SettingsFault where
  | malformed
  | refused (error : RegistryError)
deriving DecidableEq

def SettingsFault.message : SettingsFault → String
  | malformed => "TOML parse error: the text does not hold settings"
  | refused error => error.message

namespace Settings

def ofDocument? (document : Document) : Option Settings := do
  let members ← document.members? ["catalog", "output", "no_color", "engine"]
  return {
    catalog := ← members.optional? "catalog" Document.text?
    output := ← members.optional? "output" Document.text?
    noColor := ← members.optional? "no_color" Document.bool?
    engine := ← members.defaulted? "engine" {} EngineConfig.ofDocument? }

def ofToml (text : String) : Except SettingsFault Settings :=
  match (Toml.read? text).bind ofDocument? with
  | none => .error .malformed
  | some settings =>
    match settings.engine.validate with
    | .error error => .error (.refused error)
    | .ok () => .ok settings

/-- The usual path, below the directory for configurations; where it is not given by an absolute
path, that is a part of the home directory. -/
def usualPath? (configDirectory homeDirectory : Option String) : Option String :=
  let directory? := match configDirectory with
    | some path => if path.startsWith "/" then some path else home?
    | none => home?
  directory?.map (· ++ "/devmeta/config.toml")
where
  home? : Option String := homeDirectory.map (· ++ "/.config")

/-- Which format is asked for: by an option, by name in the settings, or by default a table. A name
that means no format is returned as an error. -/
def outputFormat (settings : Settings) (given : Option OutputFormat) :
    Except String OutputFormat :=
  match given, settings.output with
  | some format, _ => .ok format
  | none, some name =>
    match OutputFormat.ofName? name.toLower with
    | some format => .ok format
    | none => .error name
  | none, none => .ok (.sheet .table)

end Settings

end DeviceCatalog.CommandLine
