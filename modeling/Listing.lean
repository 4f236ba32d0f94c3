import Listing.Main
import Listing.Declaration.Derive
import Listing.Proofs.Catalog.Answer
import Listing.Proofs.Catalog.Change
import Listing.Proofs.Declaration.Derive
import Listing.Proofs.Filter.Language
import Listing.Proofs.Http.Agreement
import Listing.Proofs.Http.Session
import Listing.Proofs.Json.Reader
import Listing.Proofs.Json.RoundTrip
import Listing.Proofs.Number.Layout
import Listing.Proofs.Query.Binding
import Listing.Proofs.Query.Expressible
import Listing.Proofs.Query.Injection
import Listing.Proofs.Query.Kernel
import Listing.Proofs.Query.ReadBack
import Listing.Proofs.Schema.Declared
import Listing.Proofs.Declaration.DefaultEntity
import Listing.Proofs.Declaration.Layers
import Listing.Proofs.Declaration.Lossless
import Listing.Proofs.SortLanguage
import Listing.Proofs.Startup.Database
import Listing.Proofs.Startup.Interface
import Listing.Proofs.Startup.Settings
import Listing.Proofs.Startup.Outcome
import Listing.Proofs.Log
import Listing.Proofs.Catalog.Seeding
import Listing.Proofs.Http.Readiness
import Listing.Proofs.Acceptance
import Listing.Proofs.Filter.RoundTrip
