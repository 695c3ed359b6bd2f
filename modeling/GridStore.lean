import GridStore.Json.Printer
import GridStore.Sql.Statement
import GridStore.Layout
import GridStore.Column.Basic
import GridStore.Validation
import GridStore.Timestamp.Text
import GridStore.Uuid
import GridStore.Properties
import GridStore.Choice
import GridStore.Json.Member
import GridStore.Mapping.Basic
import GridStore.Mapping.Declaration
import GridStore.Attributes.Values
import GridStore.Attributes.Containers
import GridStore.Attributes.Injections
import GridStore.Attributes.Topology
import GridStore.Attributes.Branches
import GridStore.Attributes.Network
import GridStore.Resource
import GridStore.Variant
import GridStore.Sql.Catalog
import GridStore.Sql.Token
import GridStore.Store.Cell
import GridStore.Store.Error
import GridStore.Store.NumberText
import GridStore.Store.Row
import GridStore.Store.Table
import GridStore.Store.Event
import GridStore.Store.Call
import GridStore.Store.Equipment
import GridStore.Store.Networks
import GridStore.Store.Variants
import GridStore.Store.Startup
import GridStore.Store.Maintenance
import GridStore.Toml.Document
import GridStore.Toml.Quoted
import GridStore.Log
import GridStore.Text.Shapeless
import GridStore.Text.Shown
import GridStore.Disk
import GridStore.Settings.Basic
import GridStore.Settings.Reading
import GridStore.Settings.Loading
import GridStore.Seed.Program
import GridStore.Main
import GridStore.Proofs.CallTracking
import GridStore.Proofs.Calls
import GridStore.Proofs.CloneStatements
import GridStore.Proofs.Codecs
import GridStore.Proofs.Columns
import GridStore.Proofs.CopyAgain
import GridStore.Proofs.Declarations
import GridStore.Proofs.Deletion
import GridStore.Proofs.Digits
import GridStore.Proofs.EquipmentUpdate
import GridStore.Proofs.Fields
import GridStore.Proofs.Footprint
import GridStore.Proofs.FullReplace
import GridStore.Proofs.Identifiables
import GridStore.Proofs.InitialVariant
import GridStore.Proofs.Interrupted
import GridStore.Proofs.JsonText
import GridStore.Proofs.Listing
import GridStore.Proofs.Lookups
import GridStore.Proofs.NetworkCopy
import GridStore.Proofs.NetworkRows
import GridStore.Proofs.NetworkUpdate
import GridStore.Proofs.OccupiedTarget
import GridStore.Proofs.OneByOne
import GridStore.Proofs.Partition
import GridStore.Proofs.Placeholders
import GridStore.Proofs.PrefixFill
import GridStore.Proofs.Provisioning
import GridStore.Proofs.QuotedNames
import GridStore.Proofs.ReadBack
import GridStore.Proofs.Refinement
import GridStore.Proofs.Rejected
import GridStore.Proofs.RequestStatements
import GridStore.Proofs.ResourceJson
import GridStore.Proofs.SampleNetwork
import GridStore.Proofs.SampleProgram
import GridStore.Proofs.SampleStored
import GridStore.Proofs.Separation
import GridStore.Proofs.Settled
import GridStore.Proofs.StatementNames
import GridStore.Proofs.StoredValues
import GridStore.Proofs.TextOrValue
import GridStore.Proofs.TimestampSpelling
import GridStore.Proofs.TimestampText
import GridStore.Proofs.UuidSpelling
import GridStore.Proofs.UuidText
import GridStore.Proofs.VariantCopy
import GridStore.Proofs.VariantIds
