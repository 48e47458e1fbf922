import FormTree.Json
import FormTree.Attribute
import FormTree.Behavior
import FormTree.Entry
import FormTree.Pager
import FormTree.Enablement
import FormTree.ViewType
import FormTree.Context
import FormTree.Form
import FormTree.Event
import FormTree.Outbox
import FormTree.Submission
import FormTree.Report
import FormTree.Observable.Basic
import FormTree.Observable.Delivery
import FormTree.Observable.Session
import FormTree.Observable.Counter
import FormTree.Text.Alphanumeric
import FormTree.Text.Blank
import FormTree.Config.Toml
import FormTree.Config.Filter
import FormTree.Config
import FormTree.Spec
import FormTree.LayoutError
import FormTree.Tree
import FormTree.Table
import FormTree.Layout.Basic
import FormTree.Layout.Cascade
import FormTree.Layout.Routing
import FormTree.Layout.Activation
import FormTree.Layout.Call
import FormTree.Layout.InPlace
import FormTree.Proofs.Tree.Links
import FormTree.Proofs.Observable.Rounds
import FormTree.Proofs.Observable.Log
import FormTree.Proofs.Observable.History
import FormTree.Proofs.Observable.Subscriptions
import FormTree.Proofs.Observable.Failures
import FormTree.Proofs.Observable.Moments
import FormTree.Proofs.Layout.Verdict
import FormTree.Proofs.Layout.Wiring
import FormTree.Proofs.Layout.Turn
import FormTree.Proofs.Layout.Wake
import FormTree.Proofs.Layout.Cascade
import FormTree.Proofs.Layout.Sound
import FormTree.Proofs.Layout.Keeping
import FormTree.Proofs.Layout.Steps
import FormTree.Proofs.Layout.Moves
import FormTree.Proofs.Layout.Assembly
import FormTree.Proofs.Enablement
import FormTree.Proofs.Layout.Notices
import FormTree.Proofs.Layout.Calls
import FormTree.Proofs.Submission
import FormTree.Proofs.Display
import FormTree.Proofs.Layout.Entrances
import FormTree.Proofs.Layout.Records
import FormTree.Proofs.Aggregation
import FormTree.Proofs.Contribution
import FormTree.Proofs.Mirror
import FormTree.Proofs.Tree.Descent
import FormTree.Proofs.Layout.Announcing
import FormTree.Proofs.Layout.Inheriting
import FormTree.Proofs.Layout.Telling
import FormTree.Proofs.Layout.Hearing
import FormTree.Proofs.Layout.Introducing
import FormTree.Proofs.Layout.Logging
import FormTree.Proofs.Inheritance
import FormTree.Proofs.Layout.Travel
import FormTree.Proofs.Layout.Settling
import FormTree.Proofs.Layout.Strays
import FormTree.Proofs.Tree.Malformed
import FormTree.Proofs.Observable.Ending
import FormTree.Proofs.Layout.Ending
import FormTree.Proofs.Tree.Alike
import FormTree.Proofs.Layout.Alteration
import FormTree.Proofs.Layout.Limit
import FormTree.Proofs.Layout.Refusal
import FormTree.Proofs.SubmitClick
import FormTree.Proofs.NodeEnablement
import FormTree.Proofs.Quiescence
import FormTree.Proofs.Tree.Addresses
import FormTree.Proofs.Traversal
import FormTree.Proofs.DataChain
import FormTree.Proofs.Layout.Interventions
import FormTree.Proofs.Reporting
import FormTree.Proofs.DeclaredSets
import FormTree.Proofs.LastWord
import FormTree.Proofs.Withdrawal
import FormTree.Proofs.Layout.Passing
import FormTree.Proofs.Dismissal
import FormTree.Proofs.Layout.Lasting
import FormTree.Proofs.Layout.Owning
import FormTree.Proofs.Teardown
import FormTree.Proofs.Backlog
import FormTree.Proofs.Layout.Steady
import FormTree.Proofs.RefusedCalls
import FormTree.Proofs.Layout.Standstill
import FormTree.Proofs.Repetition
import FormTree.Proofs.Layout.Naming
import FormTree.Proofs.Layout.Occasions
import FormTree.Proofs.ReportContexts
import FormTree.Proofs.Cutoff
import FormTree.Proofs.Layout.Standards
import FormTree.Proofs.PagerRange
import FormTree.Proofs.Encoding
import FormTree.Proofs.FormData
import FormTree.Proofs.Observable.Course
import FormTree.Proofs.Observable.Removal
import FormTree.Proofs.Layout.Outsiders
import FormTree.Proofs.Layout.Echoing
import FormTree.Proofs.Layout.Sufficing
import FormTree.Proofs.Layout.Reaching
import FormTree.Proofs.Layout.Starting
import FormTree.Proofs.Announcements
