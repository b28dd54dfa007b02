import WebApplication.Access.Chain
import WebApplication.Access.Password
import WebApplication.Access.User
import WebApplication.Application.Lifecycle
import WebApplication.Application.Realization
import WebApplication.Application.World
import WebApplication.Bean.Catalog
import WebApplication.Bean.Context
import WebApplication.Bean.Program
import WebApplication.Bean.Registry
import WebApplication.Blog.Articles
import WebApplication.Blog.Site
import WebApplication.Blueprint.Basic
import WebApplication.Blueprint.Bean
import WebApplication.Blueprint.Handler
import WebApplication.Blueprint.Probe
import WebApplication.Blueprint.Shapes
import WebApplication.Broadcast
import WebApplication.Configuration.Block
import WebApplication.Configuration.Report
import WebApplication.Decimal.Binary
import WebApplication.Decimal.Shortest
import WebApplication.Digest.Sha256
import WebApplication.Encoding.Base64
import WebApplication.Encoding.Hex
import WebApplication.Encoding.Punycode
import WebApplication.Http.Address
import WebApplication.Http.Client
import WebApplication.Http.Codec
import WebApplication.Http.Cors
import WebApplication.Http.Domain
import WebApplication.Http.Domain.Composition
import WebApplication.Http.Domain.Label
import WebApplication.Http.Domain.Mapping
import WebApplication.Http.Message
import WebApplication.Http.Reply
import WebApplication.Http.Url
import WebApplication.Http.Url.Authority
import WebApplication.Http.Url.Escape
import WebApplication.Http.Url.Path
import WebApplication.Json.Cursor
import WebApplication.Json.Reader
import WebApplication.Json.Refusal
import WebApplication.Json.Scalar
import WebApplication.Json.Shaped
import WebApplication.Json.Value
import WebApplication.Json.Writer
import WebApplication.Logging
import WebApplication.Profile
import WebApplication.Proofs.Access.Authentication
import WebApplication.Proofs.Access.Credentials
import WebApplication.Proofs.Access.Encoders
import WebApplication.Proofs.Access.Guard
import WebApplication.Proofs.Access.Password
import WebApplication.Proofs.Access.Setup
import WebApplication.Proofs.Application.Assembly
import WebApplication.Proofs.Application.Attempts
import WebApplication.Proofs.Application.Integers
import WebApplication.Proofs.Application.Layers
import WebApplication.Proofs.Application.Port
import WebApplication.Proofs.Application.Preparation
import WebApplication.Proofs.Application.Requests
import WebApplication.Proofs.Application.Routes
import WebApplication.Proofs.Application.Startup
import WebApplication.Proofs.Application.Watched
import WebApplication.Proofs.Bean.ConstructionOrder
import WebApplication.Proofs.Bean.CreateAll
import WebApplication.Proofs.Bean.DeclaredOrder
import WebApplication.Proofs.Bean.Dependencies
import WebApplication.Proofs.Bean.Depth
import WebApplication.Proofs.Bean.Explanation
import WebApplication.Proofs.Bean.Logged
import WebApplication.Proofs.Bean.Lookups
import WebApplication.Proofs.Bean.Nesting
import WebApplication.Proofs.Bean.Observed
import WebApplication.Proofs.Bean.RootCause
import WebApplication.Proofs.Bean.Silent
import WebApplication.Proofs.Bean.Singletons
import WebApplication.Proofs.Bean.Stages
import WebApplication.Proofs.Bean.Stock
import WebApplication.Proofs.Bean.Trace
import WebApplication.Proofs.Bean.Visit
import WebApplication.Proofs.Bean.Watched
import WebApplication.Proofs.Blog.Authorization
import WebApplication.Proofs.Blog.History
import WebApplication.Proofs.Configuration.Activation
import WebApplication.Proofs.Configuration.Variables
import WebApplication.Proofs.Configuration.Walk
import WebApplication.Proofs.Encoding.Base64
import WebApplication.Proofs.Encoding.Hex
import WebApplication.Proofs.Http.Client
import WebApplication.Proofs.Http.Headers
import WebApplication.Proofs.Http.Policy
import WebApplication.Proofs.Http.Reply
import WebApplication.Proofs.Http.Sharing
import WebApplication.Proofs.Profile
import WebApplication.Proofs.Property.Arrays
import WebApplication.Proofs.Property.Assignments
import WebApplication.Proofs.Property.Bind
import WebApplication.Proofs.Property.Files
import WebApplication.Proofs.Property.Identity
import WebApplication.Proofs.Property.Leaves
import WebApplication.Proofs.Property.Numerals
import WebApplication.Proofs.Property.Records
import WebApplication.Proofs.Property.Scope
import WebApplication.Proofs.Property.Sources
import WebApplication.Proofs.Property.Spellings
import WebApplication.Proofs.Property.Tree
import WebApplication.Proofs.Route.Algebra
import WebApplication.Proofs.Route.Grammar
import WebApplication.Proofs.Route.Lookup
import WebApplication.Proofs.Route.Matching
import WebApplication.Proofs.Route.Nesting
import WebApplication.Proofs.Route.Pattern
import WebApplication.Proofs.Route.Registration
import WebApplication.Proofs.Route.Relocation
import WebApplication.Proofs.Server.Calls
import WebApplication.Proofs.Server.Changes
import WebApplication.Proofs.Server.Codecs
import WebApplication.Proofs.Server.Gates
import WebApplication.Proofs.Server.Head
import WebApplication.Proofs.Server.Layers
import WebApplication.Proofs.Server.Origins
import WebApplication.Proofs.Server.Port
import WebApplication.Proofs.Server.Rejections
import WebApplication.Proofs.Server.Twins
import WebApplication.Proofs.Shutdown
import WebApplication.Proofs.SortedTable
import WebApplication.Proofs.Storage.Files
import WebApplication.Proofs.Template.Cache
import WebApplication.Proofs.Template.Composition
import WebApplication.Proofs.Template.Escape
import WebApplication.Proofs.Template.Marks
import WebApplication.Proofs.Template.Printing
import WebApplication.Proofs.Template.Sections
import WebApplication.Proofs.Template.Tokens
import WebApplication.Proofs.Text.Bytes
import WebApplication.Proofs.Text.Split
import WebApplication.Proofs.Text.Trim
import WebApplication.Proofs.Traversal
import WebApplication.Property.Bind
import WebApplication.Property.File
import WebApplication.Property.Scalar
import WebApplication.Property.Source
import WebApplication.Property.Tree
import WebApplication.Route.Builder
import WebApplication.Route.Pattern
import WebApplication.Route.Table
import WebApplication.Schema.Datum
import WebApplication.Schema.Settings
import WebApplication.Schema.Shape
import WebApplication.Server.Service
import WebApplication.Server.Settings
import WebApplication.Shutdown
import WebApplication.SortedTable
import WebApplication.Storage.Files
import WebApplication.Template.Engine
import WebApplication.Template.Node
import WebApplication.Template.Parser
import WebApplication.Template.Render
import WebApplication.Text.Blank
import WebApplication.Text.Quoted
import WebApplication.Text.Span
import WebApplication.Text.Split
import WebApplication.Text.Unprintable
import WebApplication.Toml.Document
import WebApplication.Toml.Moment
import WebApplication.Toml.Parser
import WebApplication.Toml.Scalar
import WebApplication.Toml.Sorted
import WebApplication.Toml.Text
import WebApplication.Toml.Value
