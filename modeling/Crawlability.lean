import Crawlability.CommandLine.Memory
import Crawlability.Main
import Crawlability.Proofs.Robots.LongestMatch
import Crawlability.Proofs.Text.Trimming
import Crawlability.Proofs.Robots.Line
import Crawlability.Proofs.Robots.Grouping
import Crawlability.Proofs.Text.Runs
import Crawlability.Proofs.Text.Utf8
import Crawlability.Proofs.Text.Lowercase
import Crawlability.Proofs.Robots.Unknown
import Crawlability.Proofs.Robots.Canonical
import Crawlability.Proofs.Session.Course
import Crawlability.Proofs.IndexNow.Backoff
import Crawlability.Proofs.IndexNow.Sending
import Crawlability.Proofs.Tool.Arguments
import Crawlability.Proofs.Audit.Findings
import Crawlability.Proofs.Audit.Parts
import Crawlability.Proofs.Perplexity.Asking
import Crawlability.Proofs.Tool.Calls
import Crawlability.Proofs.Page.Spans
import Crawlability.Proofs.Http.HeaderLines
import Crawlability.Proofs.Page.DirectiveLists
import Crawlability.Proofs.Page.DirectiveSets
import Crawlability.Proofs.Page.TagSignals
import Crawlability.Proofs.Audit.Critical
import Crawlability.Proofs.Text.Lines
import Crawlability.Proofs.Url.Controls
import Crawlability.Proofs.Audit.Layout
import Crawlability.Proofs.Audit.LineFeeds
import Crawlability.Proofs.Log.Lines
import Crawlability.Proofs.Page.AttributeList
import Crawlability.Proofs.Page.QuotedPairs
import Crawlability.Proofs.Page.Markup
import Crawlability.Proofs.Audit.HeaderFindings
import Crawlability.Proofs.Config.Credentials
import Crawlability.Proofs.Json.Members
import Crawlability.Proofs.Json.Schema
import Crawlability.Proofs.Tool.NormalForm
import Crawlability.Proofs.Tool.Schema
import Crawlability.Proofs.Text.LetterCase
import Crawlability.Proofs.Page.CharacterMaps
import Crawlability.Proofs.Page.LetterCase
import Crawlability.Proofs.Audit.LetterCase
import Crawlability.Proofs.Page.Fragments
import Crawlability.Proofs.Perplexity.Refusals
import Crawlability.Proofs.IndexNow.Resolving
import Crawlability.Proofs.Robots.Selection
import Crawlability.Proofs.Robots.RuleChanges
import Crawlability.Proofs.Robots.Continuation
import Crawlability.Proofs.Json.Records
import Crawlability.Proofs.Perplexity.Answers
import Crawlability.Proofs.Text.Padding
import Crawlability.Proofs.IndexNow.Schedule
import Crawlability.Proofs.Robots.Root
import Crawlability.Proofs.Audit.RobotsFindings
import Crawlability.Proofs.Robots.Spelling
import Crawlability.Proofs.Url.Hosts
import Crawlability.Proofs.IndexNow.Stability
import Crawlability.Proofs.Json.Quoted
import Crawlability.Proofs.Json.Numbers
import Crawlability.Proofs.Json.Compact
import Crawlability.Proofs.Http.Bodies
import Crawlability.Proofs.Config.Overlay
import Crawlability.Proofs.Config.Bounds
import Crawlability.Proofs.CommandLine.Commands
import Crawlability.Proofs.Text.Words
import Crawlability.Proofs.Page.TagStarts
import Crawlability.Proofs.Page.VisibleText
import Crawlability.Proofs.Audit.Decoding
import Crawlability.Proofs.Config.Defaults
import Crawlability.Proofs.Http.Insertions
import Crawlability.Proofs.Page.DirectiveTokens
import Crawlability.Proofs.Page.WrittenTags
import Crawlability.Proofs.Files.Growth
import Crawlability.Proofs.Files.PlainPaths
import Crawlability.Proofs.Files.AppendOnly
import Crawlability.Proofs.CommandLine.LogFile
