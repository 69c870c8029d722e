import UrlRouting.Main
import UrlRouting.Proofs.Bindings
import UrlRouting.Proofs.Pattern.Binding
import UrlRouting.Proofs.Pattern.Filling
import UrlRouting.Proofs.Pattern.Tokens
import UrlRouting.Proofs.Route.Match
import UrlRouting.Proofs.Route.RoundTrip
import UrlRouting.Proofs.Route.Coherence
import UrlRouting.Proofs.Session.Store
import UrlRouting.Proofs.Session.Writable
import UrlRouting.Proofs.Session.Dispatch
import UrlRouting.Proofs.Demo
import UrlRouting.Proofs.Regex.Language
import UrlRouting.Proofs.Regex.Search
import UrlRouting.Proofs.Regex.CharTest
import UrlRouting.Proofs.Regex.Lexeme
import UrlRouting.Proofs.Regex.Reading
import UrlRouting.Proofs.Regex.Merging
import UrlRouting.Proofs.Regex.Rule
import UrlRouting.Proofs.Route.RuleLanguage
import UrlRouting.Proofs.Pattern.Canonical
import UrlRouting.Proofs.Route.MatchValues
import UrlRouting.Proofs.Session.Registration
import UrlRouting.Proofs.Session.Precedence
import UrlRouting.Proofs.Session.Renaming
import UrlRouting.Proofs.Session.SharedRoutes
import UrlRouting.Proofs.Text.Lowercase
import UrlRouting.Proofs.Text.SingleLine
import UrlRouting.Proofs.Session.Logging
import UrlRouting.Proofs.Table.Influence
import UrlRouting.Proofs.Url.Address
import UrlRouting.Proofs.Url.Authority
import UrlRouting.Proofs.Session.Refusal
import UrlRouting.Proofs.Route.LeadsBack
import UrlRouting.Proofs.Pattern.Anchors
import UrlRouting.Proofs.Regex.LetterCase
import UrlRouting.Proofs.Regex.WholeText
import UrlRouting.Proofs.Route.Context
import UrlRouting.Proofs.Route.RulesOnUrls
import UrlRouting.Proofs.Regex.Numbering
import UrlRouting.Proofs.Regex.Traces
import UrlRouting.Proofs.Regex.Choice
import UrlRouting.Proofs.Regex.Boundary
import UrlRouting.Proofs.Regex.Embedding
import UrlRouting.Proofs.Regex.Alternation
import UrlRouting.Proofs.Route.FirstFault
import UrlRouting.Proofs.Regex.Oversize
import UrlRouting.Proofs.Session.RefusedRules
import UrlRouting.Proofs.Pattern.Variables
import UrlRouting.Proofs.Route.LocalUrls
import UrlRouting.Proofs.Route.RepeatedNames
import UrlRouting.Proofs.Session.Messages
