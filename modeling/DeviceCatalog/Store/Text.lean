import DeviceCatalog.Document.Json.Reader
import DeviceCatalog.Document.Yaml.Reader
import DeviceCatalog.Form.Catalog
import DeviceCatalog.Store.Load

/-!
Loading a store from the text of a catalog. The name of its file tells the format.
-/

namespace DeviceCatalog

namespace Json

/-- How deeply lists and objects may be nested in a text that is read as an entry. -/
def nestingLimit : Nat := 127

end Json

/-- What follows the last point in the last name of a path. A point in front is part of the name. -/
def fileExtension (path : String) : String :=
  match (Files.names path).getLast? with
  | none | some ".." => ""
  | some name =>
    match name.toList.reverse.span (· != '.') with
    | (_, []) | (_, [_]) => ""
    | (reversed, _) => String.ofList reversed.reverse

namespace Catalog

/-- Of the records in a catalog the fields are asked for, and of a default value all of it. -/
def asking : Yaml.Asking := fun name =>
  if name = "value" then some .whole
  else if nestedFields.contains name then some .fields
  else none

end Catalog

namespace Store

def ofYaml (text : String) : Except LoadError Store :=
  match (Yaml.read? Catalog.asking text).bind Catalog.ofDocument? with
  | some catalog => ofCatalog catalog
  | none => .error .malformedYaml

def ofJson (text : String) : Except LoadError Store :=
  match (Json.read? Json.nestingLimit text).bind Catalog.ofDocument? with
  | some catalog => ofCatalog catalog
  | none => .error .malformedJson

/-- Loads what a file with a name holds, unless it could not be read. -/
def ofFile (path : String) : Except FileFault String → Except LoadError Store
  | .error fault => .error (.unreadable fault)
  | .ok text =>
    match fileExtension path with
    | "yaml" | "yml" => ofYaml text
    | "json" => ofJson text
    | other => .error (.unsupportedFormat other)

end Store

end DeviceCatalog
