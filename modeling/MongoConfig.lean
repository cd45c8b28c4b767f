import MongoConfig.Address
import MongoConfig.AutoEncryption
import MongoConfig.Binary64.Basic
import MongoConfig.Binary64.Shortest
import MongoConfig.Catalog.Basic
import MongoConfig.Catalog.Error
import MongoConfig.Catalog.Folder
import MongoConfig.Catalog.Format
import MongoConfig.ClientSpec
import MongoConfig.CodecRegistry
import MongoConfig.ConnectionString.Application
import MongoConfig.ConnectionString.Basic
import MongoConfig.ConnectionString.Query
import MongoConfig.ConnectionString.Reader
import MongoConfig.ConnectionString.Writer
import MongoConfig.Credential.Basic
import MongoConfig.Credential.Reader
import MongoConfig.Credential.Writer
import MongoConfig.Dictionary
import MongoConfig.Driver.Client
import MongoConfig.Driver.Combination
import MongoConfig.Driver.Credential
import MongoConfig.Driver.Error
import MongoConfig.Driver.HostList
import MongoConfig.Driver.LocationOption
import MongoConfig.Driver.LocationOptions
import MongoConfig.Driver.Login
import MongoConfig.Driver.OptionFault
import MongoConfig.Driver.Options
import MongoConfig.Duration
import MongoConfig.ErrorReport
import MongoConfig.FlatSettings.Basic
import MongoConfig.FlatSettings.Format
import MongoConfig.FlatSettings.Setter
import MongoConfig.Json.Basic
import MongoConfig.Json.Decoder
import MongoConfig.Json.Draft
import MongoConfig.Json.Lexeme
import MongoConfig.Json.Problem
import MongoConfig.Json.Reader
import MongoConfig.Mechanism
import MongoConfig.Proofs.Address.Grammar
import MongoConfig.Proofs.Address.HostText
import MongoConfig.Proofs.Address.Reread
import MongoConfig.Proofs.Address.RoundTrip
import MongoConfig.Proofs.Address.Separators
import MongoConfig.Proofs.AutoEncryption
import MongoConfig.Proofs.Catalog.Loading
import MongoConfig.Proofs.Catalog.Offence
import MongoConfig.Proofs.ClientSpec.CodecLookup
import MongoConfig.Proofs.ClientSpec.NamedDeployment
import MongoConfig.Proofs.ClientSpec.Precedence
import MongoConfig.Proofs.ClientSpec.ReplicaSetName
import MongoConfig.Proofs.ClientSpec.SettingsAlone
import MongoConfig.Proofs.CodecRegistry
import MongoConfig.Proofs.ConnectionString.AddedOption
import MongoConfig.Proofs.ConnectionString.AuthSource
import MongoConfig.Proofs.ConnectionString.Field
import MongoConfig.Proofs.ConnectionString.FilledLogin
import MongoConfig.Proofs.ConnectionString.HostAndPort
import MongoConfig.Proofs.ConnectionString.LoginText
import MongoConfig.Proofs.ConnectionString.Notation
import MongoConfig.Proofs.ConnectionString.PairOrder
import MongoConfig.Proofs.ConnectionString.Parts
import MongoConfig.Proofs.ConnectionString.PasswordSecrecy
import MongoConfig.Proofs.ConnectionString.Query
import MongoConfig.Proofs.ConnectionString.RoundTrip
import MongoConfig.Proofs.Credential.LoneText
import MongoConfig.Proofs.Credential.PasswordSecrecy
import MongoConfig.Proofs.Credential.RoundTrip
import MongoConfig.Proofs.Credential.Separators
import MongoConfig.Proofs.Credential.WellFormed
import MongoConfig.Proofs.Dictionary
import MongoConfig.Proofs.Driver.HostList
import MongoConfig.Proofs.Driver.Unexpressed
import MongoConfig.Proofs.FirstOffence
import MongoConfig.Proofs.FlatSettings.Assembly
import MongoConfig.Proofs.FlatSettings.Document
import MongoConfig.Proofs.FlatSettings.Factory
import MongoConfig.Proofs.FlatSettings.Layering
import MongoConfig.Proofs.FlatSettings.OrElse
import MongoConfig.Proofs.FlatSettings.Setter
import MongoConfig.Proofs.FlatSettings.Untouched
import MongoConfig.Proofs.Json.Decoder
import MongoConfig.Proofs.Json.Grammar
import MongoConfig.Proofs.Json.NumberText
import MongoConfig.Proofs.Json.Reader
import MongoConfig.Proofs.Json.Record
import MongoConfig.Proofs.Json.StringText
import MongoConfig.Proofs.Outcome
import MongoConfig.Proofs.Settings.Comparison
import MongoConfig.Proofs.Settings.Connection
import MongoConfig.Proofs.Settings.Deployment
import MongoConfig.Proofs.Settings.DirectConnection
import MongoConfig.Proofs.Settings.Durability
import MongoConfig.Proofs.Settings.FaultOrder
import MongoConfig.Proofs.Settings.Field
import MongoConfig.Proofs.Settings.Layering
import MongoConfig.Proofs.Settings.Overlay
import MongoConfig.Proofs.Settings.Refusal
import MongoConfig.Proofs.Settings.Validation
import MongoConfig.Proofs.Text.Blank
import MongoConfig.Proofs.Text.LowerCase
import MongoConfig.Proofs.Text.Percent
import MongoConfig.Proofs.Text.ReadTogether
import MongoConfig.Proofs.Text.Unsigned
import MongoConfig.Proofs.Text.Utf8
import MongoConfig.Proofs.Text.WrittenForms
import MongoConfig.ReadRouting
import MongoConfig.SecurityContext
import MongoConfig.Settings.Basic
import MongoConfig.Settings.Overlay
import MongoConfig.Settings.Validation
import MongoConfig.SettingsFactory
import MongoConfig.Spelling
import MongoConfig.Text.Blank
import MongoConfig.Text.LowerCase
import MongoConfig.Text.LowerCase.Table
import MongoConfig.Text.Percent
import MongoConfig.Text.Quoted
import MongoConfig.Text.Quoted.Table
import MongoConfig.Text.Signed
import MongoConfig.Text.Similarity
import MongoConfig.Text.Split
import MongoConfig.Text.Unsigned
import MongoConfig.Text.UpperCase
import MongoConfig.Text.Utf8
import MongoConfig.TextError
import MongoConfig.Topology
import MongoConfig.WriteConcern
