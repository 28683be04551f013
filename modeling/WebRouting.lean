import WebRouting.Main
import WebRouting.Proofs.Route.Reverse
import WebRouting.Proofs.Route.Broken
import WebRouting.Proofs.Route.Assembly
import WebRouting.Proofs.Router.Allowed
import WebRouting.Proofs.Router.Order
import WebRouting.Proofs.Router.Later
import WebRouting.Proofs.Rule.Spelling
import WebRouting.Proofs.App.Flatten
import WebRouting.Proofs.App.Serving
import WebRouting.Proofs.App.Views
import WebRouting.Proofs.App.Filters
import WebRouting.Proofs.Rule.Reading
import WebRouting.Proofs.App.Order
import WebRouting.Proofs.Number.Readable
import WebRouting.Proofs.Regex.Language
import WebRouting.Proofs.Filter.Decoding
import WebRouting.Proofs.Route.LastParam
import WebRouting.Proofs.Demo.Pages
import WebRouting.Proofs.Demo.Routes
import WebRouting.Proofs.Demo.Classification
import WebRouting.Proofs.Route.Faults
import WebRouting.Proofs.Url.Path
import WebRouting.Proofs.Route.Decoding
import WebRouting.Proofs.Regex.Preference
import WebRouting.Proofs.Regex.Encodings
import WebRouting.Proofs.Rule.Greedy
import WebRouting.Proofs.Route.Greedy
import WebRouting.Proofs.Url.Spelling
import WebRouting.Proofs.Rule.Join
import WebRouting.Proofs.App.Groups
import WebRouting.Proofs.Rule.Alignment
import WebRouting.Proofs.Handler.Invocation
import WebRouting.Proofs.Filter.Exactness
import WebRouting.Proofs.App.Attachments
import WebRouting.Proofs.Url.Query
import WebRouting.Proofs.Context.Cookies
import WebRouting.Proofs.Config.Settings
