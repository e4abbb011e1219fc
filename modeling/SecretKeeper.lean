import SecretKeeper.About
import SecretKeeper.Cache.Step
import SecretKeeper.Log.Logger
import SecretKeeper.Metrics.Session
import SecretKeeper.Proofs.Cache.LateAnswers
import SecretKeeper.Proofs.Cache.Traffic
import SecretKeeper.Proofs.Cache.Waits
import SecretKeeper.Secret.Document
import SecretKeeper.Secret.Mode
import SecretKeeper.Secret.Shown
import SecretKeeper.Settings.Document
import SecretKeeper.Settings.Environment
import SecretKeeper.Proofs.Cache.Exchange
import SecretKeeper.Proofs.Cache.Secrecy
import SecretKeeper.Proofs.Cache.Failures
import SecretKeeper.Proofs.Metrics.Recorder
import SecretKeeper.Proofs.Cache.Balance
import SecretKeeper.Proofs.Base64
import SecretKeeper.Proofs.Json.Text
import SecretKeeper.Proofs.Json.Number
import SecretKeeper.Proofs.Json.Reader
import SecretKeeper.Proofs.Json.Record
import SecretKeeper.Proofs.Calendar
import SecretKeeper.Proofs.Moment
import SecretKeeper.Proofs.Secret.Document
import SecretKeeper.Proofs.Cache.Books
import SecretKeeper.Proofs.Cache.Gauge
import SecretKeeper.Proofs.Cache.Integrity
import SecretKeeper.Proofs.Cache.Trails
import SecretKeeper.Proofs.Json.Syntax
import SecretKeeper.Proofs.Json.Pieces
import SecretKeeper.Proofs.Json.Skipping
import SecretKeeper.Proofs.Json.Meaning
import SecretKeeper.Proofs.Json.Members
import SecretKeeper.Proofs.Json.Slots
import SecretKeeper.Proofs.Secret.Schema
import SecretKeeper.Proofs.Cache.Labels
import SecretKeeper.Proofs.Metrics.Isolation
import SecretKeeper.Proofs.Log.Filter
import SecretKeeper.Proofs.Log.Record
import SecretKeeper.Proofs.Cache.Attribution
import SecretKeeper.Proofs.Settings.Document
import SecretKeeper.Proofs.Settings.Bounds
import SecretKeeper.Proofs.Settings.Loading
import SecretKeeper.Proofs.Validation
import SecretKeeper.Proofs.Text.Case
import SecretKeeper.Proofs.Settings.Environment
import SecretKeeper.Proofs.Cache.Listings
import SecretKeeper.Proofs.Secret.Content
import SecretKeeper.Proofs.Secret.Listing
import SecretKeeper.Proofs.Json.Delimited
import SecretKeeper.Proofs.Secret.Truncation
import SecretKeeper.Proofs.Metrics.Agreement
import SecretKeeper.Proofs.Cache.Locality
import SecretKeeper.Proofs.Cache.Reordering
import SecretKeeper.Proofs.Cache.Commutation
import SecretKeeper.Proofs.Secret.Mode
import SecretKeeper.Proofs.Text.Shown
import SecretKeeper.Proofs.Secret.Shown
import SecretKeeper.Proofs.Log.Turns
import SecretKeeper.Proofs.Cache.Notes
import SecretKeeper.Proofs.Cache.Levels
import SecretKeeper.Proofs.Json.Values
import SecretKeeper.Proofs.Json.Compact
import SecretKeeper.Proofs.Log.Reading
import SecretKeeper.Proofs.Cache.JsonLog
