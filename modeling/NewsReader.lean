import NewsReader.Main
import NewsReader.Session.Handles
import NewsReader.Api.Client
import NewsReader.Proofs.Text.Utf8
import NewsReader.Proofs.Text.Digits
import NewsReader.Proofs.Text.Blank
import NewsReader.Proofs.Calendar.DateText
import NewsReader.Proofs.Url.Segments
import NewsReader.Proofs.Url.Authority
import NewsReader.Proofs.Url.Layers
import NewsReader.Proofs.Url.Extended
import NewsReader.Proofs.Url.Pairs
import NewsReader.Proofs.Json.Record
import NewsReader.Proofs.Json.Values
import NewsReader.Proofs.Json.Written
import NewsReader.Proofs.Json.Grammar
import NewsReader.Proofs.Json.Lists
import NewsReader.Proofs.Json.Members
import NewsReader.Proofs.Vault.Content
import NewsReader.Proofs.Vault.Cell
import NewsReader.Proofs.Vault.Tokens
import NewsReader.Proofs.Session.Callers
import NewsReader.Proofs.Session.Restart
import NewsReader.Proofs.Session.Filed
import NewsReader.Proofs.Session.Redacted
import NewsReader.Proofs.Api.Credential
import NewsReader.Proofs.Api.Login
import NewsReader.Proofs.Api.Classification
import NewsReader.Proofs.Api.Endpoint
import NewsReader.Proofs.Api.Replies
import NewsReader.Proofs.Api.Headers
import NewsReader.Proofs.Api.AfterLogin
import NewsReader.Proofs.Api.Sent
import NewsReader.Proofs.Api.Settled
import NewsReader.Proofs.Api.Secrets
import NewsReader.Proofs.Config.File
import NewsReader.Proofs.Records.RoundTrip
import NewsReader.Proofs.Program.SavedSettings
import NewsReader.Proofs.Live.Outbound
import NewsReader.Proofs.Live.Inbound
import NewsReader.Proofs.Program.Watching
import NewsReader.Proofs.Program.Commands
import NewsReader.Proofs.Program.Visits
import NewsReader.Proofs.Program.Precedence
import NewsReader.Proofs.Json.Tree
import NewsReader.Proofs.Json.Meaning
import NewsReader.Proofs.Json.Compound
import NewsReader.Proofs.Config.Trees
import NewsReader.Proofs.Records.Torn
import NewsReader.Proofs.Json.Variation
import NewsReader.Proofs.Records.Variation
import NewsReader.Proofs.Api.GivenUp
import NewsReader.Proofs.Program.Rejections
import NewsReader.Proofs.Api.Answers
import NewsReader.Proofs.Json.Joined
import NewsReader.Proofs.Live.Pushed
import NewsReader.Proofs.Program.Data
import NewsReader.Live.Holding
import NewsReader.Proofs.Live.Holding
import NewsReader.Proofs.Url.Numbers
import NewsReader.Proofs.Url.Pieces
import NewsReader.Proofs.Url.Hosts
import NewsReader.Proofs.Url.Written
import NewsReader.Proofs.Config.Endpoint
import NewsReader.Proofs.Calendar.Moment
import NewsReader.Proofs.Calendar.Timestamp
import NewsReader.Proofs.Records.Dates
import NewsReader.Proofs.Text.Entities
import NewsReader.Proofs.Text.Titles
import NewsReader.Proofs.Text.Scan
import NewsReader.Proofs.Text.OpenTags
import NewsReader.Proofs.Records.Lines
import NewsReader.Proofs.Api.Refusals
import NewsReader.Proofs.Program.FailedLogin
import NewsReader.Proofs.Program.Placements
import NewsReader.Proofs.Decimal.Bounds
import NewsReader.Proofs.Json.Faults
import NewsReader.Proofs.Log.Excerpts
