import Renaming.Analysis
import Renaming.Answer.Extract
import Renaming.Answer.Name
import Renaming.Apply
import Renaming.Command.Basic
import Renaming.Command.Replay
import Renaming.Command.Review
import Renaming.Command.Run
import Renaming.Command.Usage
import Renaming.Decimal.Binary
import Renaming.Decimal.Fixed
import Renaming.Decimal.Reader
import Renaming.Decimal.Shortest
import Renaming.Files.Disk
import Renaming.Files.Error
import Renaming.Files.Path
import Renaming.Files.Write
import Renaming.Http.Message
import Renaming.Http.Status
import Renaming.Http.Transport
import Renaming.Json.Basic
import Renaming.Json.Decode
import Renaming.Json.Float
import Renaming.Json.Printer
import Renaming.Json.Reader
import Renaming.Main
import Renaming.Model.Assembly
import Renaming.Model.Entity
import Renaming.Model.File
import Renaming.Model.Format
import Renaming.Model.Kind
import Renaming.Model.Render
import Renaming.Oracle
import Renaming.Outcome
import Renaming.Outcome.Log
import Renaming.Plan
import Renaming.Plan.Format
import Renaming.Plan.Queue
import Renaming.Prompt
import Renaming.Request
import Renaming.Server.Address
import Renaming.Server.Client
import Renaming.Session
import Renaming.Settings.Basic
import Renaming.Settings.File
import Renaming.Suggestion
import Renaming.Text.Blank
import Renaming.Text.Case
import Renaming.Text.CaseTable
import Renaming.Text.Compose
import Renaming.Text.Lines
import Renaming.Text.MarkTable
import Renaming.Text.Split
import Renaming.Text.Window
import Renaming.Text.Word
import Renaming.Text.WordTable
import Renaming.Time.Moment
import Renaming.Time.Text
import Renaming.Url.Address
import Renaming.Url.Basic
import Renaming.Url.Domain
import Renaming.Url.DomainTable
import Renaming.Url.Host
import Renaming.Url.Path
import Renaming.Url.Percent
import Renaming.Url.Punycode
import Renaming.Url.Reader
import Renaming.Warned
import Renaming.Proofs.Apply.Basic
import Renaming.Proofs.Apply.Log
import Renaming.Proofs.Session.Basic
import Renaming.Proofs.Session.Log
import Renaming.Proofs.Apply.Frame
import Renaming.Proofs.Command.Suggest
import Renaming.Proofs.Answer.Extract
import Renaming.Proofs.Apply.Full
import Renaming.Proofs.Server.Client
import Renaming.Proofs.Apply.Repeated
import Renaming.Proofs.Session.Account
import Renaming.Proofs.Server.Echo
import Renaming.Proofs.Text.Compose
import Renaming.Proofs.Url.Domain
import Renaming.Proofs.Url.Percent
import Renaming.Proofs.Url.Host
import Renaming.Proofs.Url.Reader
import Renaming.Proofs.Server.Address
import Renaming.Proofs.Server.Posts
import Renaming.Proofs.Server.Response
import Renaming.Proofs.Apply.Verdicts
import Renaming.Proofs.Session.Analysis
import Renaming.Proofs.Session.Messages
import Renaming.Proofs.Model.Handles
import Renaming.Proofs.Model.Format
import Renaming.Proofs.Command.Review
import Renaming.Proofs.Files.Path
import Renaming.Proofs.Files.Disk
import Renaming.Proofs.Files.Write
import Renaming.Proofs.Files.Replace
import Renaming.Proofs.Model.File
import Renaming.Proofs.Command.Saving
import Renaming.Proofs.Model.Backup
import Renaming.Proofs.Settings.File
import Renaming.Proofs.Command.Settings
import Renaming.Proofs.Files.Rooted
import Renaming.Proofs.Plan.Editing
import Renaming.Proofs.Plan.Questions
import Renaming.Proofs.Time.Date
import Renaming.Proofs.Time.Text
import Renaming.Proofs.Stored.Entity
import Renaming.Proofs.Stored.Records
import Renaming.Proofs.Json.Float
import Renaming.Proofs.Model.Kind
import Renaming.Proofs.Answer.Draft
import Renaming.Proofs.Server.Replies
import Renaming.Proofs.Model.Lens
import Renaming.Proofs.Plan.Profile
import Renaming.Proofs.Answer.Fence
import Renaming.Proofs.Text.Word
import Renaming.Proofs.Plan.Excerpt
import Renaming.Proofs.Url.Origin
import Renaming.Proofs.Server.Origin
import Renaming.Proofs.Settings.Change
import Renaming.Proofs.Text.Lines
import Renaming.Proofs.Render.Basic
import Renaming.Proofs.Render.Views
import Renaming.Proofs.Render.Braces
import Renaming.Proofs.Render.Spaces
import Renaming.Proofs.Files.AllOrNothing
import Renaming.Proofs.Settings.Overlay
import Renaming.Proofs.Settings.Shared
import Renaming.Proofs.Text.Window
import Renaming.Proofs.Prompt.Reader
