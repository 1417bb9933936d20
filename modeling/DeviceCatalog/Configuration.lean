import DeviceCatalog.Document.Toml.Reader
import DeviceCatalog.Form.Catalog
import DeviceCatalog.Error

/-!
The configuration of an engine, as it is written in TOML.
-/

namespace DeviceCatalog

namespace EngineConfig

/-- Refuses a configuration that no read could succeed under. -/
def validate (config : EngineConfig) : Except RegistryError Unit :=
  if config.readTimeoutMs = 0 then .error (.config .zeroTimeout) else .ok ()

def ofToml (text : String) : Except RegistryError EngineConfig :=
  match (Toml.read? text).bind ofDocument? with
  | none => .error (.config .malformed)
  | some config => do
    config.validate
    return config

/-- Reads what a file with a name holds, unless it could not be read. -/
def ofFile (path : String) : Except FileFault String → Except RegistryError EngineConfig
  | .error fault => .error (.config (.unreadable path fault))
  | .ok text => ofToml text

/-- The longest time that one read may take, in microseconds. -/
def readTimeoutMicros (config : EngineConfig) : Nat := config.readTimeoutMs.toNat * 1000

end EngineConfig

end DeviceCatalog
