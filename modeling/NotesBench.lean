import NotesBench.Command.Rehearsal
import NotesBench.Load.Target
import NotesBench.Main
import NotesBench.Proofs.Command.Smoke
import NotesBench.Proofs.Load.Move
import NotesBench.Service.Operation
import NotesBench.Proofs.Load.Numbering
import NotesBench.Proofs.Load.Playing
import NotesBench.Proofs.Load.Telling
import NotesBench.Proofs.Load.Accounting
import NotesBench.Proofs.Text.Utf8
import NotesBench.Proofs.Json.Text
import NotesBench.Proofs.Json.Token
import NotesBench.Proofs.Json.Tree
import NotesBench.Proofs.Http.Message
import NotesBench.Proofs.Http.Url
import NotesBench.Proofs.Load.Answering
import NotesBench.Proofs.Load.Agreement
import NotesBench.Proofs.Service.Effects
import NotesBench.Proofs.Service.Tokens
import NotesBench.Proofs.Service.Pages
import NotesBench.Proofs.Service.Requests
import NotesBench.Proofs.Service.Versions
import NotesBench.Proofs.Service.Exchanges
import NotesBench.Proofs.Service.Revalidation
import NotesBench.Proofs.Load.Handover
import NotesBench.Proofs.Service.Notes
import NotesBench.Proofs.Service.Privacy
import NotesBench.Proofs.Service.Verdict
import NotesBench.Proofs.Service.Faults
import NotesBench.Proofs.Service.Listing
import NotesBench.Proofs.Service.Soundness
import NotesBench.Proofs.Load.WireForms
import NotesBench.Proofs.Service.Searching
import NotesBench.Proofs.Service.Passwords
import NotesBench.Proofs.Service.Registration
import NotesBench.Proofs.Load.Fields
import NotesBench.Proofs.Command.Addresses
import NotesBench.Proofs.Load.NotePaths
import NotesBench.Proofs.Load.Snapshots
import NotesBench.Proofs.Load.Pausing
import NotesBench.Proofs.Duration
import NotesBench.Proofs.Http.Query
import NotesBench.Proofs.Service.Querying
import NotesBench.Proofs.Load.Waiting
import NotesBench.Proofs.Service.Failures
import NotesBench.Proofs.Load.SummaryFiles
