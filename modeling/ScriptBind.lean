import ScriptBind.Number.Text
import ScriptBind.Text.Quoted
import ScriptBind.Hash.TypeHash
import ScriptBind.Variant.Native
import ScriptBind.Json.Tree
import ScriptBind.Api.Format
import ScriptBind.Api.Bundled
import ScriptBind.Registry.Basic
import ScriptBind.ClassDb.Core
import ScriptBind.Host.StandIn
import ScriptBind.Script.Call
import ScriptBind.Binding.Dispatch
import ScriptBind.Session.Basic
import ScriptBind.Proofs.Session.CallContract
import ScriptBind.Proofs.Registry.Ancestry
import ScriptBind.Proofs.Api.Members
import ScriptBind.Proofs.Session.Moments
import ScriptBind.Proofs.Session.Runs
import ScriptBind.Proofs.Session.Neutrality
import ScriptBind.Proofs.Registry.Bindings
import ScriptBind.Proofs.Binding.Marshalling
import ScriptBind.Proofs.Binding.Handlers
import ScriptBind.Proofs.Session.Constants
import ScriptBind.Proofs.Binding.Dispatch
import ScriptBind.Proofs.Session.DispatchContract
import ScriptBind.Proofs.Session.Growth
import ScriptBind.Proofs.Session.Opening
import ScriptBind.Proofs.Binding.Guises
import ScriptBind.Proofs.Session.MethodPaths
import ScriptBind.Proofs.Session.Reference
import ScriptBind.Proofs.Registry.Signatures
import ScriptBind.Proofs.Session.Sealed
import ScriptBind.Proofs.ClassDb.Objects
import ScriptBind.Proofs.Session.Namecalls
import ScriptBind.Proofs.Registry.Queries
import ScriptBind.Proofs.Session.Fields
import ScriptBind.Proofs.ClassDb.Walks
import ScriptBind.Proofs.Session.Construction
import ScriptBind.Proofs.Registry.Diagnosis
import ScriptBind.Proofs.Session.Handles
import ScriptBind.Proofs.Session.Brackets
import ScriptBind.Proofs.ClassDb.Locality
import ScriptBind.Proofs.ClassDb.Properties
import ScriptBind.Proofs.Session.Pushes
import ScriptBind.Proofs.Session.RoundTrips
import ScriptBind.Proofs.ClassDb.Inheritance
import ScriptBind.Proofs.Session.Integers
import ScriptBind.Proofs.Session.Declared
import ScriptBind.Proofs.Session.Meta
import ScriptBind.Proofs.Host.Widths
import ScriptBind.Proofs.Session.Addressing
import ScriptBind.Proofs.Session.Receivers
import ScriptBind.Proofs.Session.Equality
import ScriptBind.Proofs.Hash.Domains
import ScriptBind.Proofs.Session.Entries
import ScriptBind.Proofs.Session.Depth
import ScriptBind.Proofs.Session.Lookups
