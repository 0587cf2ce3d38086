import RemoteDom.Text.Blank
import RemoteDom.Text.Spans
import RemoteDom.Text.Word
import RemoteDom.Text.Lower
import RemoteDom.Text.Direction
import RemoteDom.Text.Joining
import RemoteDom.Text.Composition
import RemoteDom.Text.Ascii
import RemoteDom.Json.Basic
import RemoteDom.Json.Decimal
import RemoteDom.Json.Shortest
import RemoteDom.Json.Writer
import RemoteDom.Json.Reader
import RemoteDom.Selector.Identifier
import RemoteDom.Selector.Literal
import RemoteDom.Selector.Path
import RemoteDom.Selector.Compound
import RemoteDom.Selector.Locator
import RemoteDom.Error
import RemoteDom.Wire.Fields
import RemoteDom.Wire.Node
import RemoteDom.Wire.RemoteObject
import RemoteDom.Wire.Geometry
import RemoteDom.Wire.Target
import RemoteDom.Wire.Command
import RemoteDom.Wire.Request
import RemoteDom.Wire.Event
import RemoteDom.Wire.Incoming
import RemoteDom.Wire.Locator
import RemoteDom.Program
import RemoteDom.Polling
import RemoteDom.Turnstile
import RemoteDom.Connection.Streams
import RemoteDom.Connection.Basic
import RemoteDom.Session.Table
import RemoteDom.Client.Act
import RemoteDom.Client.Sessions
import RemoteDom.Dom.Basic
import RemoteDom.Dom.Description
import RemoteDom.Dom.Frame
import RemoteDom.Dom.Script
import RemoteDom.Dom.Query
import RemoteDom.Dom.Element
import RemoteDom.Rehearsal.Browser
import RemoteDom.Rehearsal.Step
import RemoteDom.Rehearsal.Shown
import RemoteDom.Rehearsal.Inspect
import RemoteDom.Rehearsal.Perform
import RemoteDom.Rehearsal.World
import RemoteDom.Rehearsal.Looks
import RemoteDom.Rehearsal.Visits
import RemoteDom.Endpoint.Punycode
import RemoteDom.Endpoint.Address
import RemoteDom.Endpoint.Mapping
import RemoteDom.Endpoint.Label
import RemoteDom.Endpoint.Host
import RemoteDom.Endpoint.Basic
import RemoteDom.Client.Options
import RemoteDom.Proofs.Selector.CompoundRuns
import RemoteDom.Proofs.Selector.PathRuns
import RemoteDom.Proofs.Selector.Segments
import RemoteDom.Proofs.Dom.ManualChain
import RemoteDom.Proofs.Dom.Provenance
import RemoteDom.Proofs.Dom.Handles
import RemoteDom.Proofs.Dom.Operations
import RemoteDom.Proofs.Connection.Ledger
import RemoteDom.Proofs.Connection.Correlation
import RemoteDom.Proofs.Connection.Winding
import RemoteDom.Proofs.Connection.Fate
import RemoteDom.Proofs.Connection.Aftermath
import RemoteDom.Proofs.Connection.Delivery
import RemoteDom.Proofs.Dom.Inheritance
import RemoteDom.Proofs.Session.Correspondence
import RemoteDom.Proofs.Session.SingleFlight
import RemoteDom.Proofs.Dom.Staleness
import RemoteDom.Proofs.Session.Forgetting
import RemoteDom.Proofs.Session.Watching
import RemoteDom.Proofs.Client.Balance
import RemoteDom.Proofs.Client.Visitors
import RemoteDom.Proofs.Client.Admission
import RemoteDom.Proofs.Dom.Capability
import RemoteDom.Proofs.Selector.CompoundText
import RemoteDom.Proofs.Selector.PathText
import RemoteDom.Proofs.Session.Cascade
import RemoteDom.Proofs.Dom.Unions
import RemoteDom.Proofs.Selector.TypeNames
import RemoteDom.Proofs.Selector.Alternatives
import RemoteDom.Proofs.Selector.Axes
import RemoteDom.Proofs.Selector.Groups
import RemoteDom.Proofs.Selector.Literals
import RemoteDom.Proofs.Selector.Escapes
import RemoteDom.Proofs.Selector.Identifiers
import RemoteDom.Proofs.Selector.CssTokens
import RemoteDom.Proofs.Selector.TextExpressions
import RemoteDom.Proofs.Selector.Shorthands
import RemoteDom.Proofs.Selector.Gaps
import RemoteDom.Proofs.Selector.Outlines
import RemoteDom.Proofs.Selector.Spacing
import RemoteDom.Proofs.Client.Waiting
import RemoteDom.Proofs.Connection.Classification
import RemoteDom.Proofs.Wire.Requests
import RemoteDom.Proofs.Dom.Searches
import RemoteDom.Proofs.Program.Runs
import RemoteDom.Proofs.Dom.Items
import RemoteDom.Proofs.Dom.Enumerations
import RemoteDom.Proofs.Dom.Lists
import RemoteDom.Proofs.Dom.Clicks
import RemoteDom.Proofs.Dom.ShadowRoots
import RemoteDom.Proofs.Dom.Absence
import RemoteDom.Proofs.Session.Unnamed
import RemoteDom.Proofs.Wire.Descriptions
import RemoteDom.Proofs.Rehearsal.Calls
import RemoteDom.Proofs.Rehearsal.Attending
