import DeviceCatalog.Collection.Distinct
import DeviceCatalog.Store.Basic

/-!
Filling a store from a catalog. No two entries of one section may have the same id.
-/

namespace DeviceCatalog

/-- The sections of a catalog whose entries have ids of their own. -/
inductive CatalogSection where
  | aspects
  | functions
  | deviceTypes
  | devices
  | deviceGroups
deriving DecidableEq

def CatalogSection.entryName : CatalogSection → String
  | aspects => "aspect"
  | functions => "function"
  | deviceTypes => "device type"
  | devices => "device"
  | deviceGroups => "device group"

inductive LoadError where
  | duplicateId (part : CatalogSection) (id : String)
  | unsupportedFormat (extension : String)
  | malformedYaml
  | malformedJson
  | unreadable (fault : FileFault)
deriving DecidableEq

namespace LoadError

def malformedReason : String := "the text does not hold a catalog"

def message : LoadError → String
  | duplicateId part id => "duplicate " ++ part.entryName ++ " id: " ++ id
  | unsupportedFormat extension => "unsupported catalog format: " ++ extension
  | malformedYaml => "YAML parse error: " ++ malformedReason
  | malformedJson => "JSON parse error: " ++ malformedReason
  | unreadable fault => "IO error: " ++ fault.message

/-- What made the error happen. -/
def cause? : LoadError → Option String
  | duplicateId .. | unsupportedFormat _ => none
  | malformedYaml | malformedJson => some malformedReason
  | unreadable fault => some fault.message

end LoadError

namespace Catalog

def ids (catalog : Catalog) : CatalogSection → List String
  | .aspects => catalog.aspects.map (·.id)
  | .functions => catalog.functions.map (·.id)
  | .deviceTypes => catalog.deviceTypes.map (·.id)
  | .devices => catalog.devices.map (·.id)
  | .deviceGroups => catalog.deviceGroups.map (·.id)

/-- Refuses the first id that is used again, section by section. -/
def checkUnique (catalog : Catalog) : Except LoadError Unit :=
  [.aspects, .functions, .deviceTypes, .devices, .deviceGroups].forM fun part =>
    match firstRepeated? [] (catalog.ids part) with
    | some id => .error (.duplicateId part id)
    | none => .ok ()

end Catalog

namespace Store

def fill (catalog : Catalog) : Store :=
  let store : Store := { info := catalog.info.getD {} }
  let store := catalog.aspects.foldl registerAspect store
  let store := catalog.functions.foldl registerFunction store
  let store := catalog.deviceTypes.foldl registerDeviceType store
  let store := catalog.devices.foldl registerDevice store
  catalog.deviceGroups.foldl registerDeviceGroup store

def ofCatalog (catalog : Catalog) : Except LoadError Store := do
  catalog.checkUnique
  return fill catalog

end Store

end DeviceCatalog
