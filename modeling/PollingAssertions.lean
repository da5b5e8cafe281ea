import PollingAssertions.Action
import PollingAssertions.Channel
import PollingAssertions.Checker.Basic
import PollingAssertions.Checker.Failure
import PollingAssertions.Clock
import PollingAssertions.Configuration.Defaults
import PollingAssertions.Configuration.Error
import PollingAssertions.Configuration.Settings
import PollingAssertions.Context.Basic
import PollingAssertions.Context.Derive
import PollingAssertions.Context.Finish
import PollingAssertions.Matcher.Basic
import PollingAssertions.Matcher.Channel
import PollingAssertions.Matcher.Combinator
import PollingAssertions.Matcher.Outcome
import PollingAssertions.Matcher.Value
import PollingAssertions.Number.Binary
import PollingAssertions.Number.Numeral
import PollingAssertions.Number.Shortest
import PollingAssertions.Part
import PollingAssertions.Polling.Assertion
import PollingAssertions.Polling.Evaluation
import PollingAssertions.Polling.Report
import PollingAssertions.Polling.Run
import PollingAssertions.Probe.Basic
import PollingAssertions.Probe.Param
import PollingAssertions.Probe.Shape
import PollingAssertions.Probe.Source
import PollingAssertions.Progress
import PollingAssertions.Session.Entry
import PollingAssertions.Session.Inquiry
import PollingAssertions.Session.MatcherScript
import PollingAssertions.Session.ParamScript
import PollingAssertions.Session.Perform
import PollingAssertions.Session.Script
import PollingAssertions.Session.Step
import PollingAssertions.Session.World
import PollingAssertions.StopSignal
import PollingAssertions.Text.Classes
import PollingAssertions.Text.Quoted
import PollingAssertions.Text.Template
import PollingAssertions.Text.TypeName
import PollingAssertions.Time.Reading
import PollingAssertions.Time.Span
import PollingAssertions.Value.Basic
import PollingAssertions.Value.Collection
import PollingAssertions.Value.Order
import PollingAssertions.Value.Render
import PollingAssertions.Value.TypeReading
import PollingAssertions.Value.Zero
import PollingAssertions.Proofs.Polling.Journal
import PollingAssertions.Proofs.Polling.Course
import PollingAssertions.Proofs.Polling.Decision
import PollingAssertions.Proofs.Polling.Verdict
import PollingAssertions.Proofs.Polling.Stopping
import PollingAssertions.Proofs.Context.History
import PollingAssertions.Proofs.Context.Nearest
import PollingAssertions.Proofs.Probe.Filling
import PollingAssertions.Proofs.Polling.Pace
import PollingAssertions.Proofs.Polling.Lockstep
import PollingAssertions.Proofs.Polling.SameWorld
import PollingAssertions.Proofs.Polling.Looking
import PollingAssertions.Proofs.Polling.Cancellation
import PollingAssertions.Proofs.Polling.Reporting
import PollingAssertions.Proofs.Polling.Judging
import PollingAssertions.Proofs.Polling.Attachment
import PollingAssertions.Proofs.Polling.Finiteness
import PollingAssertions.Proofs.Polling.Reasons
import PollingAssertions.Proofs.Polling.Unwinding
import PollingAssertions.Proofs.Channel.Traffic
import PollingAssertions.Proofs.Polling.Parting
import PollingAssertions.Proofs.Polling.Hinting
import PollingAssertions.Proofs.Polling.Negation
import PollingAssertions.Proofs.Polling.Reception
import PollingAssertions.Proofs.Polling.LongerTime
import PollingAssertions.Proofs.Matcher.Showing
import PollingAssertions.Proofs.Polling.Deferral
import PollingAssertions.Proofs.Context.Cause
import PollingAssertions.Proofs.Context.Waking
import PollingAssertions.Proofs.Polling.Assessment
import PollingAssertions.Proofs.Polling.Expecting
import PollingAssertions.Proofs.Matcher.Combination
import PollingAssertions.Proofs.Matcher.Explanation
import PollingAssertions.Proofs.Matcher.Draining
import PollingAssertions.Proofs.Polling.Aborting
import PollingAssertions.Proofs.Configuration.Calls
import PollingAssertions.Proofs.Probe.Refusal
import PollingAssertions.Proofs.Polling.LateRefusal
import PollingAssertions.Proofs.Polling.Immediate
import PollingAssertions.Proofs.Text.Holes
import PollingAssertions.Proofs.Text.Shortening
import PollingAssertions.Proofs.Number.Nearest
import PollingAssertions.Proofs.Time.Notation
import PollingAssertions.Proofs.Time.Precision
import PollingAssertions.Proofs.Configuration.Lookup
import PollingAssertions.Proofs.Context.Binding
import PollingAssertions.Proofs.Probe.Taking
import PollingAssertions.Proofs.Value.Nought
