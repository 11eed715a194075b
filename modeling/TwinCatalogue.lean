import TwinCatalogue.CommandLine.Directory
import TwinCatalogue.Diagnostic
import TwinCatalogue.Main
import TwinCatalogue.Script
import TwinCatalogue.Session
import TwinCatalogue.Proofs.Retry.Attempts
import TwinCatalogue.Proofs.Events
import TwinCatalogue.Proofs.Retry.Reference
import TwinCatalogue.Proofs.Retry.Calls
import TwinCatalogue.Proofs.Dispatch.Central
import TwinCatalogue.Proofs.Activity.Leaves
import TwinCatalogue.Proofs.Catalogue.Basic
import TwinCatalogue.Proofs.Catalogue.World
import TwinCatalogue.Proofs.Catalogue.Repair
import TwinCatalogue.Proofs.Catalogue.Writes
import TwinCatalogue.Proofs.Catalogue.Agreement
import TwinCatalogue.Proofs.Catalogue.Scripted
import TwinCatalogue.Proofs.Catalogue.LostReply
import TwinCatalogue.Proofs.Activity.Course
import TwinCatalogue.Proofs.Dispatch.Course
import TwinCatalogue.Proofs.Adapter.Course
import TwinCatalogue.Proofs.Onboarding.Course
import TwinCatalogue.Proofs.Onboarding.Workflow
import TwinCatalogue.Proofs.Onboarding.Compensation
import TwinCatalogue.Proofs.Repair.Course
import TwinCatalogue.Proofs.Activity.Order
import TwinCatalogue.Proofs.Onboarding.PhaseOrder
import TwinCatalogue.Proofs.Token.Anonymous
import TwinCatalogue.Proofs.Token.Signed
import TwinCatalogue.Proofs.Token.Alike
import TwinCatalogue.Proofs.Token.Independence
import TwinCatalogue.Proofs.Item.Holdings
import TwinCatalogue.Proofs.Item.World
import TwinCatalogue.Proofs.Item.Registration
import TwinCatalogue.Proofs.Repair.Phases
import TwinCatalogue.Proofs.Counting.Told
import TwinCatalogue.Proofs.Counting.Records
import TwinCatalogue.Proofs.Counting.Alarm
import TwinCatalogue.Proofs.Counting.Crew
import TwinCatalogue.Proofs.Counting.Balance
import TwinCatalogue.Proofs.Effort.Work
import TwinCatalogue.Proofs.Effort.Verbs
import TwinCatalogue.Proofs.Effort.Bound
import TwinCatalogue.Proofs.Repair.Verdict
import TwinCatalogue.Proofs.Onboarding.Identifier
import TwinCatalogue.Proofs.Adapter.Contract
import TwinCatalogue.Proofs.Onboarding.Refusal
import TwinCatalogue.Proofs.Text.Trim
import TwinCatalogue.Proofs.Dispatch.Target
import TwinCatalogue.Proofs.Repair.Copying
import TwinCatalogue.Proofs.Repair.Restored
import TwinCatalogue.Proofs.Http.WireForms
import TwinCatalogue.Proofs.CommandLine.Outcome
import TwinCatalogue.Proofs.Adapter.Address
import TwinCatalogue.Proofs.Number.Rounding
import TwinCatalogue.Proofs.Number.Magnitude
import TwinCatalogue.Proofs.Number.Power
import TwinCatalogue.Proofs.Retry.Backoff
import TwinCatalogue.Proofs.CommandLine.Identifier
import TwinCatalogue.Proofs.Counting.Waiting
import TwinCatalogue.Proofs.Http.BaseAddress
import TwinCatalogue.Proofs.Http.Decoding
import TwinCatalogue.Proofs.Text.Utf8
import TwinCatalogue.Proofs.Url.Percent
import TwinCatalogue.Proofs.Url.Form
import TwinCatalogue.Proofs.Url.Reading
import TwinCatalogue.Proofs.Url.Segments
import TwinCatalogue.Proofs.Http.Deletion
import TwinCatalogue.Proofs.Http.Lookup
import TwinCatalogue.Proofs.Config.Runnable
