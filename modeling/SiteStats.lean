import SiteStats.Calendar.Day
import SiteStats.Calendar.Moment
import SiteStats.Calendar.Reading
import SiteStats.Calendar.Timestamp
import SiteStats.Config.Basic
import SiteStats.Config.EnvFile
import SiteStats.DateRange
import SiteStats.Deflate.Bits
import SiteStats.Deflate.Block
import SiteStats.Deflate.Code
import SiteStats.Deflate.Frame
import SiteStats.Failure
import SiteStats.Filter.Basic
import SiteStats.Filter.Build
import SiteStats.Filter.Display
import SiteStats.Filter.Document
import SiteStats.Filter.Schema
import SiteStats.Filter.Text
import SiteStats.Gateway
import SiteStats.Http.Domain.Allowed
import SiteStats.Http.Domain.Name
import SiteStats.Http.Domain.Punycode
import SiteStats.Http.Encoding
import SiteStats.Http.Exchange
import SiteStats.Http.Host
import SiteStats.Http.Message
import SiteStats.Http.Reference
import SiteStats.Http.Url
import SiteStats.Json.Encoding
import SiteStats.Json.Fault
import SiteStats.Json.Number
import SiteStats.Json.Reader
import SiteStats.Json.Text
import SiteStats.Json.Writer
import SiteStats.Number.Binary64
import SiteStats.Number.Numeral
import SiteStats.Number.Shortest
import SiteStats.Number.Whole
import SiteStats.Program
import SiteStats.Proofs.Calendar.Count
import SiteStats.Proofs.Calendar.Digits
import SiteStats.Proofs.Calendar.Reading
import SiteStats.Proofs.Calendar.Text
import SiteStats.Proofs.Calendar.Utc
import SiteStats.Proofs.Common
import SiteStats.Proofs.Config.Acceptance
import SiteStats.Proofs.Config.BaseUrl
import SiteStats.Proofs.Config.EnvFile
import SiteStats.Proofs.Config.Loading
import SiteStats.Proofs.DateRange.Moments
import SiteStats.Proofs.DateRange.Texts
import SiteStats.Proofs.Filter.Acceptance
import SiteStats.Proofs.Filter.Agreement
import SiteStats.Proofs.Filter.Construction
import SiteStats.Proofs.Filter.ErrorKinds
import SiteStats.Proofs.Filter.Explanations
import SiteStats.Proofs.Filter.Faults
import SiteStats.Proofs.Filter.Grammar
import SiteStats.Proofs.Filter.Parentheses
import SiteStats.Proofs.Filter.Properties
import SiteStats.Proofs.Filter.Readability
import SiteStats.Proofs.Filter.Reduction
import SiteStats.Proofs.Filter.Reporting
import SiteStats.Proofs.Filter.Rewriting
import SiteStats.Proofs.Filter.RoundTrip
import SiteStats.Proofs.Filter.Tree
import SiteStats.Proofs.Filter.Validity
import SiteStats.Proofs.Gateway.Classification
import SiteStats.Proofs.Gateway.DefaultAddress
import SiteStats.Proofs.Gateway.Delivery
import SiteStats.Proofs.Gateway.Request
import SiteStats.Proofs.Http.Form
import SiteStats.Proofs.Http.Query
import SiteStats.Proofs.Json.Members
import SiteStats.Proofs.Json.Reading
import SiteStats.Proofs.Json.Returned
import SiteStats.Proofs.Json.Spelling
import SiteStats.Proofs.Query.Acceptance
import SiteStats.Proofs.Query.Loose
import SiteStats.Proofs.Query.Parameters
import SiteStats.Proofs.Question.Discipline
import SiteStats.Proofs.Question.Reports
import SiteStats.Proofs.Question.Secrecy
import SiteStats.Proofs.Question.Steps
import SiteStats.Proofs.Reports.Results
import SiteStats.Proofs.Reports.Sending
import SiteStats.Proofs.Result
import SiteStats.Proofs.Schema.Acceptance
import SiteStats.Proofs.Schema.Issues
import SiteStats.Proofs.Session.Sharing
import SiteStats.Proofs.Text.Joined
import SiteStats.Proofs.Text.Nesting
import SiteStats.Query.Basic
import SiteStats.Query.Edit
import SiteStats.Query.Held
import SiteStats.Query.Loose
import SiteStats.Query.Params
import SiteStats.Query.Schema
import SiteStats.Question
import SiteStats.Reports
import SiteStats.Result
import SiteStats.Schema.Checked
import SiteStats.Schema.Issue
import SiteStats.Schema.Scalar
import SiteStats.Session
import SiteStats.Text.Basic
import SiteStats.Text.Classes
import SiteStats.Text.Composition
import SiteStats.Text.Decomposition
import SiteStats.Text.Direction
import SiteStats.Text.Joining
import SiteStats.Text.LowerCase
import SiteStats.Text.Mark
import SiteStats.Text.Quoted
import SiteStats.Text.Utf8
import SiteStats.Value.Basic
import SiteStats.Value.Display
import SiteStats.Vocabulary
