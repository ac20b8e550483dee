import PromptRelay.Main
import PromptRelay.Prompt.Json
import PromptRelay.Rehearsal.Server
import PromptRelay.Proofs.Run.Budget
import PromptRelay.Proofs.Run.Outcomes
import PromptRelay.Proofs.Run.Schedules
import PromptRelay.Proofs.Run.TimeLimits
import PromptRelay.Proofs.Chain.History
import PromptRelay.Proofs.Run.Delivery
import PromptRelay.Proofs.Run.Lifecycle
import PromptRelay.Proofs.Run.Records
import PromptRelay.Proofs.Run.Context
import PromptRelay.Proofs.Run.Accounts
import PromptRelay.Proofs.Run.Ends
import PromptRelay.Proofs.Run.Attempts
import PromptRelay.Proofs.Relay.Answers
import PromptRelay.Proofs.Relay.Responses
import PromptRelay.Proofs.Relay.Preflight
import PromptRelay.Proofs.Relay.Startup
import PromptRelay.Proofs.Prompt.Rendering
import PromptRelay.Proofs.Run.Essence
import PromptRelay.Proofs.Run.Purse
import PromptRelay.Proofs.Run.Response
import PromptRelay.Proofs.Backend.Posting
import PromptRelay.Proofs.Backend.Secrecy
import PromptRelay.Proofs.Document.Forms
import PromptRelay.Proofs.Json.Records
import PromptRelay.Proofs.Backend.Completions
import PromptRelay.Proofs.Backend.Requests
import PromptRelay.Proofs.Pattern.Sets
import PromptRelay.Proofs.Chain.Scoring
import PromptRelay.Proofs.Credential.Support
import PromptRelay.Proofs.Decimal.Finite
import PromptRelay.Proofs.Document.Fields
import PromptRelay.Proofs.Json.Codecs
import PromptRelay.Proofs.Json.Faithful
import PromptRelay.Proofs.Credential.Settings
import PromptRelay.Proofs.Document.Sections
import PromptRelay.Proofs.Config.Keys
import PromptRelay.Proofs.Provider.Ids
