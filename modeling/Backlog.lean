import Backlog.Api
import Backlog.Cache
import Backlog.Date
import Backlog.Entity.Hydrated
import Backlog.Json.Reader
import Backlog.Json.Writer
import Backlog.Query.Compile
import Backlog.Report
import Backlog.Resolver
import Backlog.Server.Basic
import Backlog.Server.Tool
import Backlog.Session
import Backlog.Settings
import Backlog.Tools.Entity
import Backlog.Tools.Search
import Backlog.Tools.Story
import Backlog.Tools.Workflow
import Backlog.Proofs.Absorption
import Backlog.Proofs.Batch
import Backlog.Proofs.BranchName
import Backlog.Proofs.CacheHistory
import Backlog.Proofs.Coherence
import Backlog.Proofs.Collecting
import Backlog.Proofs.Creating
import Backlog.Proofs.CurrentUser
import Backlog.Proofs.Date.Grammar
import Backlog.Proofs.DefaultWorkflow
import Backlog.Proofs.EntityAddress
import Backlog.Proofs.Fetching
import Backlog.Proofs.FullShape
import Backlog.Proofs.Listing
import Backlog.Proofs.Owners
import Backlog.Proofs.PageToken
import Backlog.Proofs.Payload
import Backlog.Proofs.Query.Foresight
import Backlog.Proofs.RefillLog
import Backlog.Proofs.Searching
import Backlog.Proofs.Surfacing
import Backlog.Proofs.TeamLabel
import Backlog.Proofs.Updating
import Backlog.Proofs.WorkflowState
import Backlog.Proofs.Writing
