import DeviceCatalog.Form.Selectable
import DeviceCatalog.Model.Catalog

/-!
The documents of catalogs and configurations.
-/

namespace DeviceCatalog

namespace CatalogMeta

def toDocument (info : CatalogMeta) : Document :=
  .object (optionalMember "name" .text info.name ++ optionalMember "version" .text info.version ++
    optionalMember "description" .text info.description)

def fields : List String := ["name", "version", "description"]

/-- Where the fields are listed by their order, none may be left out. -/
def ofDocument? (document : Document) : Option CatalogMeta := do
  let members ← document.members? fields
  if let .list items := document.untagged then guard (items.length = fields.length)
  return {
    name := ← members.optional? "name" Document.text?
    version := ← members.optional? "version" Document.text?
    description := ← members.optional? "description" Document.text? }

end CatalogMeta

namespace Catalog

def toDocument (catalog : Catalog) : Document :=
  .object [("meta", catalog.info.elim .null CatalogMeta.toDocument),
    ("aspects", .list (catalog.aspects.map Aspect.toDocument)),
    ("functions", .list (catalog.functions.map Function.toDocument)),
    ("device_types", .list (catalog.deviceTypes.map DeviceType.toDocument)),
    ("devices", .list (catalog.devices.map Device.toDocument)),
    ("device_groups", .list (catalog.deviceGroups.map DeviceGroup.toDocument))]

def fields : List String :=
  ["meta", "aspects", "functions", "device_types", "devices", "device_groups"]

def nestedFields : List String :=
  fields ++ CatalogMeta.fields ++ Aspect.fields ++ Function.fields ++ DeviceType.fields ++
    ServiceGroup.fields ++ Service.fields ++ Content.fields ++ ContentVariable.fields ++
    Attribute.fields ++ Device.fields ++ DeviceGroup.fields ++ GroupCriteria.fields ++
    GroupMapping.fields ++ DeviceSelection.fields

def ofDocument? (document : Document) : Option Catalog := do
  let members ← document.members? fields
  return {
    info := ← members.optional? "meta" CatalogMeta.ofDocument?
    aspects := ← members.defaulted? "aspects" [] (Document.listOf? Aspect.ofDocument?)
    functions := ← members.defaulted? "functions" [] (Document.listOf? Function.ofDocument?)
    deviceTypes := ← members.defaulted? "device_types" [] (Document.listOf? DeviceType.ofDocument?)
    devices := ← members.defaulted? "devices" [] (Document.listOf? Device.ofDocument?)
    deviceGroups :=
      ← members.defaulted? "device_groups" [] (Document.listOf? DeviceGroup.ofDocument?) }

end Catalog

namespace NarrowingConfig

def toDocument (config : NarrowingConfig) : Document :=
  .object [("allow_not_found", .bool config.allowNotFound),
    ("exact_match", .bool config.exactMatch)]

def fields : List String := ["allow_not_found", "exact_match"]

def ofDocument? (document : Document) : Option NarrowingConfig := do
  let members ← document.members? fields
  return {
    allowNotFound := ← members.defaulted? "allow_not_found" false Document.bool?
    exactMatch := ← members.defaulted? "exact_match" false Document.bool? }

end NarrowingConfig

namespace EngineConfig

def toDocument (config : EngineConfig) : Document :=
  .object [("read_timeout_ms", .ofWord config.readTimeoutMs),
    ("service_group", config.narrowing.toDocument)]

def fields : List String := ["read_timeout_ms", "service_group"]

def ofDocument? (document : Document) : Option EngineConfig := do
  let members ← document.members? fields
  return {
    readTimeoutMs := ← members.defaulted? "read_timeout_ms" 5000 Document.word?
    narrowing := ← members.defaulted? "service_group" {} NarrowingConfig.ofDocument? }

end EngineConfig

end DeviceCatalog
