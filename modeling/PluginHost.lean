import PluginHost.Json.Decode
import PluginHost.Json.Read
import PluginHost.Text.Case
import PluginHost.Text.Quoted
import PluginHost.Text.Blank
import PluginHost.Time.Duration
import PluginHost.Editor.Evaluate
import PluginHost.Editor.Meaning
import PluginHost.Editor.Recording
import PluginHost.Stateful
import PluginHost.Document.Patch
import PluginHost.Keys.Mapping
import PluginHost.Trigger.Spec
import PluginHost.Program.Signature
import PluginHost.Effect.Basic
import PluginHost.Program.Prog
import PluginHost.Plugin.State
import PluginHost.Plugin.Dispatch
import PluginHost.Scripted.ActionExpr
import PluginHost.Scripted.StateExpr
import PluginHost.Scripted.Declaration
import PluginHost.Scripted.Notation
import PluginHost.Text.Identifier
import PluginHost.Toml.Read
import PluginHost.Log.Settings
import PluginHost.Session.Basic
import PluginHost.Host.Manifest
import PluginHost.Host.Preferences
import PluginHost.Session.Rehearsal
import PluginHost.Host.Trial
import PluginHost.Main
import PluginHost.Proofs.Script
import PluginHost.Proofs.Program.Meaning
import PluginHost.Proofs.Program.Bounds
import PluginHost.Proofs.Program.Tokens
import PluginHost.Proofs.Plugin.Running
import PluginHost.Proofs.Session.Calls
import PluginHost.Proofs.Editor.World
import PluginHost.Proofs.Trigger.Specs
import PluginHost.Proofs.Trigger.Table
import PluginHost.Proofs.Trigger.Redefinition
import PluginHost.Proofs.Session.Lines
import PluginHost.Proofs.Session.Serving
import PluginHost.Proofs.Session.Order
import PluginHost.Proofs.Session.Completion
import PluginHost.Proofs.Session.Sequential
import PluginHost.Proofs.Session.Faithful
import PluginHost.Proofs.Editor.Meaning
import PluginHost.Proofs.Json.Ordered
import PluginHost.Proofs.Document.Place
import PluginHost.Proofs.Document.Patching
import PluginHost.Proofs.Json.Literals
import PluginHost.Proofs.Json.RoundTrip
import PluginHost.Proofs.Json.Nesting
import PluginHost.Proofs.Session.Framing
import PluginHost.Proofs.Json.OneLine
import PluginHost.Proofs.Plugin.Views
import PluginHost.Proofs.Trigger.Lookup
import PluginHost.Proofs.Plugin.WriteBacks
import PluginHost.Proofs.Dispatch.Turns
import PluginHost.Proofs.Dispatch.Panicking
import PluginHost.Proofs.Dispatch.Serial
import PluginHost.Proofs.Dispatch.Concurrent
import PluginHost.Proofs.Plugin.Transaction
import PluginHost.Proofs.Plugin.Activation
import PluginHost.Proofs.Trigger.ActivationOrder
import PluginHost.Proofs.Dispatch.Allowed
import PluginHost.Proofs.Plugin.Hidden
import PluginHost.Proofs.Plugin.Invariants
import PluginHost.Proofs.Keys.Bindings
import PluginHost.Proofs.Keys.Callbacks
import PluginHost.Proofs.Editor.Chains
import PluginHost.Proofs.Editor.Finalizers
import PluginHost.Proofs.Editor.Alike
import PluginHost.Proofs.Stateful.Threading
import PluginHost.Proofs.Stateful.Zooming
import PluginHost.Proofs.Plugin.Isolation
import PluginHost.Proofs.Dispatch.Documents
import PluginHost.Proofs.Dispatch.Logging
import PluginHost.Proofs.Document.Commuting
import PluginHost.Proofs.Effect.Gathering
import PluginHost.Proofs.Keys.Normalizing
import PluginHost.Proofs.Plugin.Patches
import PluginHost.Proofs.Document.Reading
import PluginHost.Proofs.Trigger.Counts
import PluginHost.Proofs.Dispatch.Builtins
import PluginHost.Proofs.Dispatch.Callees
import PluginHost.Proofs.Dispatch.Unlogged
import PluginHost.Proofs.Dispatch.Looks
import PluginHost.Proofs.Document.Merging
import PluginHost.Proofs.Keys.Quoting
import PluginHost.Proofs.Plugin.Registration
import PluginHost.Proofs.Editor.Trail
