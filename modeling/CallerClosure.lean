import CallerClosure.Main
import CallerClosure.Program.Observed
import CallerClosure.Program.Recorded
import CallerClosure.Program.Tabled
import CallerClosure.Symbol.Codec
import CallerClosure.Text.Search
import CallerClosure.Proofs.Closure.BreadthFirst
import CallerClosure.Proofs.Closure.CallGraph
import CallerClosure.Proofs.Closure.Callers
import CallerClosure.Proofs.Closure.Counting
import CallerClosure.Proofs.Closure.OrderIndependence
import CallerClosure.Proofs.Extract.Agreement
import CallerClosure.Proofs.Extract.Cancellation
import CallerClosure.Proofs.Extract.Failure
import CallerClosure.Proofs.Extract.Journal
import CallerClosure.Proofs.Extract.Members
import CallerClosure.Proofs.Extract.Recorded
import CallerClosure.Proofs.Extract.SinkProtocol
import CallerClosure.Proofs.Extract.Stages
import CallerClosure.Proofs.Files.Lookup
import CallerClosure.Proofs.Json.RoundTrip
import CallerClosure.Proofs.Materialize.Canonical
import CallerClosure.Proofs.Materialize.Contents
import CallerClosure.Proofs.Materialize.Fragments
import CallerClosure.Proofs.Materialize.Order
import CallerClosure.Proofs.Outline.Containment
import CallerClosure.Proofs.Outline.Dropping
import CallerClosure.Proofs.Outline.Forest
import CallerClosure.Proofs.Outline.Hierarchy
import CallerClosure.Proofs.Outline.Identities
import CallerClosure.Proofs.Outline.Naming
import CallerClosure.Proofs.Outline.Preorder
import CallerClosure.Proofs.Outline.Rebuilding
import CallerClosure.Proofs.Outline.Spans
import CallerClosure.Proofs.Outline.Ways
import CallerClosure.Proofs.Program.History
import CallerClosure.Proofs.Program.Interruption
import CallerClosure.Proofs.Program.Nesting
import CallerClosure.Proofs.Program.OpenSpans
import CallerClosure.Proofs.Program.Simulation
import CallerClosure.Proofs.Program.Transcript
import CallerClosure.Proofs.Recording.Answers
import CallerClosure.Proofs.Recording.Checks
import CallerClosure.Proofs.Recording.Containing
import CallerClosure.Proofs.Recording.Crossing
import CallerClosure.Proofs.Recording.Faults
import CallerClosure.Proofs.Recording.Identities
import CallerClosure.Proofs.Recording.Nodes
import CallerClosure.Proofs.Recording.Rooted
import CallerClosure.Proofs.Recording.Tree
import CallerClosure.Proofs.Resolve.Visits
import CallerClosure.Proofs.Resolve.Walk
import CallerClosure.Proofs.Selection.Lines
import CallerClosure.Proofs.Selection.Positions
import CallerClosure.Proofs.Selection.Spans
import CallerClosure.Proofs.Session.Announcements
import CallerClosure.Proofs.Session.CacheTransparency
import CallerClosure.Proofs.Session.Confinement
import CallerClosure.Proofs.Session.Deeds
import CallerClosure.Proofs.Session.Definitions
import CallerClosure.Proofs.Session.Resolution
import CallerClosure.Proofs.Session.SelfConsistency
import CallerClosure.Proofs.Session.Spelling
import CallerClosure.Proofs.Session.Steps
import CallerClosure.Proofs.Session.Surroundings
import CallerClosure.Proofs.Session.Tracking
import CallerClosure.Proofs.Session.Watch
import CallerClosure.Proofs.Session.WatchedSteps
import CallerClosure.Proofs.Symbol.Additions
import CallerClosure.Proofs.Symbol.Gathering
import CallerClosure.Proofs.Text.LineTable
import CallerClosure.Proofs.Text.Lines
import CallerClosure.Proofs.Text.Numbers
import CallerClosure.Proofs.Text.Places
import CallerClosure.Proofs.Text.PositionOrder
import CallerClosure.Proofs.Text.Positions
import CallerClosure.Proofs.Text.Utf8
import CallerClosure.Proofs.Text.WholeLines
import CallerClosure.Proofs.Uri.FileName
