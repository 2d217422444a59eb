import StreamingService.Server
import StreamingService.Footprint
import StreamingService.Payments.Ledger
import StreamingService.Payments.Delivery
import StreamingService.Payments.Provenance
import StreamingService.Payments.Period
import StreamingService.Media.Playback
import StreamingService.Payments.Status
import StreamingService.Payments.Secrets
import StreamingService.Payments.Confirmation
import StreamingService.Catalog.PlayFull
import StreamingService.Auth.Tokens
import StreamingService.Auth.Rotation
import StreamingService.Lib.Crash
import StreamingService.Payments.Books
import StreamingService.Payments.Redelivery
import StreamingService.Payments.ExactlyOnce
import StreamingService.Account
import StreamingService.Payments.Entitlement
import StreamingService.Payments.Sweep
import StreamingService.Isolation
import StreamingService.Catalog.Drafts
import StreamingService.Auth.Reuse
import StreamingService.Payments.Attribution
import StreamingService.Media.Source
import StreamingService.Catalog.Publishing
import StreamingService.Media.Playlist
import StreamingService.Frontend.Parallel
import StreamingService.Payments.Initiation
import StreamingService.Auth.Atomicity
import StreamingService.Media.Upload
import StreamingService.Media.Job
import StreamingService.Payments.Renewal
import StreamingService.Payments.History
import StreamingService.Catalog.Structure
import StreamingService.Media.Trailer
import StreamingService.Auth.SignIn
import StreamingService.Frontend.Logout
import StreamingService.Media.Servable
import StreamingService.Payments.Boot
import StreamingService.Lib.Rounding
import StreamingService.Payments.Amounts
import StreamingService.Lib.Paging
import StreamingService.Lib.Polling
import StreamingService.Catalog.Paging
import StreamingService.Frontend.Polling
import StreamingService.Catalog.Genres
import StreamingService.Lib.Strict
import StreamingService.Payments.Acknowledge
import StreamingService.Lib.InTurn
import StreamingService.InTurn
import StreamingService.Accountability
import StreamingService.Auth.Authority
import StreamingService.Lib.Journal
import StreamingService.Journal
import StreamingService.Lib.References
import StreamingService.Integrity
import StreamingService.Lib.Pattern
import StreamingService.Payments.Msisdn
import StreamingService.Payments.Charges
import StreamingService.Lib.Refusal
import StreamingService.Refusals
import StreamingService.Lib.Commits
import StreamingService.Lib.Lookup
import StreamingService.Catalog.Library
import StreamingService.Auth.Passwords
import StreamingService.Lib.Coupling
import StreamingService.Auth.Hashes
import StreamingService.Media.Served
import StreamingService.Lib.Base64
import StreamingService.Lib.Calendar
import StreamingService.Payments.Daraja
import StreamingService.Lib.Asker
import StreamingService.Frontend.ReturnPage
import StreamingService.Lib.Turning
import StreamingService.Catalog.Browsing
