import DeviceCatalog.AspectIndex
import DeviceCatalog.Closure
import DeviceCatalog.Collection.Distinct
import DeviceCatalog.Collection.IdMap
import DeviceCatalog.Collection.IdSet
import DeviceCatalog.CommandLine.Command
import DeviceCatalog.CommandLine.Failure
import DeviceCatalog.CommandLine.Invocation
import DeviceCatalog.CommandLine.Run
import DeviceCatalog.CommandLine.Settings
import DeviceCatalog.CommandLine.Sheet
import DeviceCatalog.CommandLine.View
import DeviceCatalog.CommandLine.Words
import DeviceCatalog.CompositeId
import DeviceCatalog.Configuration
import DeviceCatalog.Derivation
import DeviceCatalog.Document.Basic
import DeviceCatalog.Document.DefaultValue
import DeviceCatalog.Document.Fraction
import DeviceCatalog.Document.Json.Fraction
import DeviceCatalog.Document.Json.Printer
import DeviceCatalog.Document.Json.Reader
import DeviceCatalog.Document.Number
import DeviceCatalog.Document.Plain
import DeviceCatalog.Document.Record
import DeviceCatalog.Document.Toml.Reader
import DeviceCatalog.Document.Toml.Scalar
import DeviceCatalog.Document.Toml.Table
import DeviceCatalog.Document.Yaml.Alias
import DeviceCatalog.Document.Yaml.Cursor
import DeviceCatalog.Document.Yaml.Node
import DeviceCatalog.Document.Yaml.Reader
import DeviceCatalog.Document.Yaml.Scalar
import DeviceCatalog.Document.Yaml.Token
import DeviceCatalog.Error
import DeviceCatalog.Expansion
import DeviceCatalog.Files
import DeviceCatalog.Form.Aspect
import DeviceCatalog.Form.Catalog
import DeviceCatalog.Form.DeviceGroup
import DeviceCatalog.Form.DeviceType
import DeviceCatalog.Form.Selectable
import DeviceCatalog.GroupValidation
import DeviceCatalog.Main
import DeviceCatalog.Matching.Context
import DeviceCatalog.Matching.Match
import DeviceCatalog.Model.Aspect
import DeviceCatalog.Model.Catalog
import DeviceCatalog.Model.Content
import DeviceCatalog.Model.Criteria
import DeviceCatalog.Model.Device
import DeviceCatalog.Model.DeviceGroup
import DeviceCatalog.Model.DeviceType
import DeviceCatalog.Model.Function
import DeviceCatalog.Model.Interaction
import DeviceCatalog.Model.Query
import DeviceCatalog.Model.Reference
import DeviceCatalog.Model.Selectable
import DeviceCatalog.Narrowing
import DeviceCatalog.Registry
import DeviceCatalog.Source
import DeviceCatalog.Store.Basic
import DeviceCatalog.Store.Faulty
import DeviceCatalog.Store.Index
import DeviceCatalog.Store.Load
import DeviceCatalog.Store.Text
import DeviceCatalog.Text.Blank
import DeviceCatalog.Text.CodePoints
import DeviceCatalog.Text.Columns
import DeviceCatalog.Text.Csv
import DeviceCatalog.Text.Cut
import DeviceCatalog.Text.Emoji
import DeviceCatalog.Text.FormEncoded
import DeviceCatalog.Text.Grid
import DeviceCatalog.Text.Printable
import DeviceCatalog.Text.Quoted
import DeviceCatalog.Text.Utf8
import DeviceCatalog.Text.Width
import DeviceCatalog.Proofs.IdMap
import DeviceCatalog.Proofs.IdSet
import DeviceCatalog.Proofs.AspectTree
import DeviceCatalog.Proofs.StoreWrites
import DeviceCatalog.Proofs.FormEncoded
import DeviceCatalog.Proofs.CompositeId
import DeviceCatalog.Proofs.Variables
import DeviceCatalog.Proofs.ContextAgreement
import DeviceCatalog.Proofs.Matching
import DeviceCatalog.Proofs.LoadedContext
import DeviceCatalog.Proofs.Listing
import DeviceCatalog.Proofs.Narrowing
import DeviceCatalog.Proofs.Expansion
import DeviceCatalog.Proofs.Addressing
import DeviceCatalog.Proofs.Paging
import DeviceCatalog.Proofs.Derivation
import DeviceCatalog.Proofs.GeneratedGroup
import DeviceCatalog.Proofs.IndexRebuild
import DeviceCatalog.Proofs.CatalogIndex
import DeviceCatalog.Proofs.AspectPaths
import DeviceCatalog.Proofs.AspectMatching
import DeviceCatalog.Proofs.GroupMapping
import DeviceCatalog.Proofs.PathOptions
import DeviceCatalog.Proofs.Parameters
import DeviceCatalog.Proofs.CanonicalId
import DeviceCatalog.Proofs.DeviceReading
import DeviceCatalog.Proofs.ReadingBack
import DeviceCatalog.Proofs.GroupMembers
import DeviceCatalog.Proofs.GroupValidity
import DeviceCatalog.Proofs.Records
import DeviceCatalog.Proofs.WrittenForms
import DeviceCatalog.Proofs.DefaultValues
import DeviceCatalog.Proofs.ReadParts
import DeviceCatalog.Proofs.NumberText
import DeviceCatalog.Proofs.JsonText
import DeviceCatalog.Proofs.WrittenTexts
import DeviceCatalog.Proofs.ShortFractions
import DeviceCatalog.Proofs.JsonForms
import DeviceCatalog.Proofs.ContextCompleteness
import DeviceCatalog.Proofs.InterruptedRebuild
import DeviceCatalog.Proofs.MeasuringAspects
import DeviceCatalog.Proofs.GroupLookups
import DeviceCatalog.Proofs.Selection
import DeviceCatalog.Proofs.OfferedPaths
import DeviceCatalog.Proofs.Configurables
import DeviceCatalog.Proofs.Restriction
import DeviceCatalog.Proofs.PlainExpansion
import DeviceCatalog.Proofs.CriteriaOrder
import DeviceCatalog.Proofs.PathLead
import DeviceCatalog.Proofs.TreeWalk
import DeviceCatalog.Proofs.DocumentOrder
import DeviceCatalog.Proofs.RepeatedIds
import DeviceCatalog.Proofs.Reordering
import DeviceCatalog.Proofs.UniformSelection
import DeviceCatalog.Proofs.MappingFaults
import DeviceCatalog.Proofs.GroupOrder
import DeviceCatalog.Proofs.Escapes
import DeviceCatalog.Proofs.Decoding
import DeviceCatalog.Proofs.DerivedRows
import DeviceCatalog.Proofs.NarrowedDevice
import DeviceCatalog.Proofs.CombinedNarrowing
import DeviceCatalog.Proofs.ModifierParameters
import DeviceCatalog.Proofs.MeasuringListing
import DeviceCatalog.Proofs.WriteHistory
import DeviceCatalog.Proofs.CatalogLoading
import DeviceCatalog.Proofs.ListingHistory
import DeviceCatalog.Proofs.CsvReading
