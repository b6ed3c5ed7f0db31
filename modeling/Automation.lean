import Automation.Cli.Arguments
import Automation.Cli.Console
import Automation.Cli.Help
import Automation.Cli.Program
import Automation.Cli.Session
import Automation.Conversation.History
import Automation.Conversation.Instances
import Automation.Conversation.Reply
import Automation.Conversation.Response
import Automation.Conversation.State
import Automation.Decimal
import Automation.Decimal.Reader
import Automation.Driver.Basic
import Automation.Driver.Bench
import Automation.Driver.DryRun
import Automation.Driver.Reader
import Automation.Driver.Registry
import Automation.Driver.Replay
import Automation.Driver.Standard
import Automation.Entries
import Automation.Http.Address
import Automation.Http.Request
import Automation.Http.Status
import Automation.Http.Url
import Automation.Id
import Automation.Id.Label
import Automation.Intent.Basic
import Automation.Intent.Cadence
import Automation.Intent.Category
import Automation.Intent.Classifier
import Automation.Intent.Extractor
import Automation.Intent.Lexicon
import Automation.Intent.Router
import Automation.Json.Access
import Automation.Json.Basic
import Automation.Json.Decode
import Automation.Json.Fault
import Automation.Json.Layout
import Automation.Json.Literal
import Automation.Json.Printer
import Automation.Json.Reader
import Automation.Json.Source
import Automation.Main
import Automation.Model.Basic
import Automation.Model.Client
import Automation.Model.Fence
import Automation.Model.Planner
import Automation.Model.Script
import Automation.Model.Settings
import Automation.Pattern.Basic
import Automation.Pattern.Code
import Automation.Pattern.Reader
import Automation.Pattern.Search
import Automation.Process
import Automation.Proofs.Conversation.Copies
import Automation.Proofs.Conversation.FollowUp
import Automation.Proofs.Conversation.History
import Automation.Proofs.Conversation.Instances
import Automation.Proofs.Conversation.NamedReply
import Automation.Proofs.Conversation.Sweeping
import Automation.Proofs.Decimal.Packing
import Automation.Proofs.Decimal.Rounding
import Automation.Proofs.Driver.DryRun
import Automation.Proofs.Entries
import Automation.Proofs.Id
import Automation.Proofs.Intent.Cadence
import Automation.Proofs.Intent.Classification
import Automation.Proofs.Intent.Extraction
import Automation.Proofs.Intent.Routing
import Automation.Proofs.Json.Decoding
import Automation.Proofs.Json.Numbers
import Automation.Proofs.Json.Text
import Automation.Proofs.Process.Background
import Automation.Proofs.Process.Course
import Automation.Proofs.Process.Interleaving
import Automation.Proofs.Process.Likeness
import Automation.Proofs.Repository.Listing
import Automation.Proofs.Repository.Refinement
import Automation.Proofs.Repository.Rows
import Automation.Proofs.Repository.Triggers
import Automation.Proofs.Run.Account
import Automation.Proofs.Run.Agreement
import Automation.Proofs.Run.Batch
import Automation.Proofs.Run.Consistency
import Automation.Proofs.Run.Course
import Automation.Proofs.Run.DryRuns
import Automation.Proofs.Run.Explained
import Automation.Proofs.Run.Halting
import Automation.Proofs.Run.History
import Automation.Proofs.Run.Order
import Automation.Proofs.Run.Preparation
import Automation.Proofs.Run.Progress
import Automation.Proofs.Run.Rehearsal
import Automation.Proofs.Run.Retries
import Automation.Proofs.Run.State
import Automation.Proofs.Service.Cadence
import Automation.Proofs.Service.Conversation
import Automation.Proofs.Service.Effects
import Automation.Proofs.Service.Likeness
import Automation.Proofs.Service.Questions
import Automation.Proofs.Session.Exclusion
import Automation.Proofs.Session.Isolation
import Automation.Proofs.Session.Record
import Automation.Proofs.Session.Rows
import Automation.Proofs.Session.Standings
import Automation.Proofs.Session.Surroundings
import Automation.Proofs.Session.System
import Automation.Proofs.Session.Turns
import Automation.Proofs.Settings.Durations
import Automation.Proofs.Template.Loading
import Automation.Proofs.Template.Merging
import Automation.Proofs.Template.Ranking
import Automation.Proofs.Template.Scoring
import Automation.Proofs.Text
import Automation.Proofs.Text.LowerCase
import Automation.Proofs.Text.Trimming
import Automation.Proofs.Trigger.Acceptance
import Automation.Proofs.Trigger.Activity
import Automation.Proofs.Trigger.Exclusion
import Automation.Proofs.Trigger.Handoff
import Automation.Proofs.Trigger.Intervals
import Automation.Proofs.Trigger.Passing
import Automation.Proofs.Trigger.Polling
import Automation.Proofs.Trigger.Staleness
import Automation.Proofs.Trigger.Traces
import Automation.Proofs.Trigger.Turns
import Automation.Proofs.Workflow.Acyclicity
import Automation.Proofs.Workflow.Answering
import Automation.Proofs.Workflow.Binding
import Automation.Proofs.Workflow.Cycles
import Automation.Proofs.Workflow.Document
import Automation.Proofs.Workflow.Grammar
import Automation.Proofs.Workflow.Literal
import Automation.Proofs.Workflow.Order
import Automation.Proofs.Workflow.Replacement
import Automation.Proofs.Workflow.Resolution
import Automation.Proofs.Workflow.Scanning
import Automation.Proofs.Workflow.Substitution
import Automation.Proofs.Workflow.Validity
import Automation.Repository.Basic
import Automation.Repository.Memory
import Automation.Repository.Tables
import Automation.Run.Attempt
import Automation.Run.Engine
import Automation.Run.Record
import Automation.Run.Settings
import Automation.Service.Basic
import Automation.Service.Firing
import Automation.Service.Requests
import Automation.Service.Turn
import Automation.Settings.Basic
import Automation.Settings.Environment
import Automation.Settings.EnvironmentFile
import Automation.Simulation.Run
import Automation.Simulation.Scenario
import Automation.Simulation.Stage
import Automation.Simulation.World
import Automation.Store.Database
import Automation.Store.Error
import Automation.Store.Report
import Automation.Template.Catalog
import Automation.Template.Match
import Automation.Template.Source
import Automation.Template.Standard
import Automation.Text.Basic
import Automation.Text.Case
import Automation.Text.Letter
import Automation.Text.Quoted
import Automation.Time.Civil
import Automation.Time.Instant
import Automation.Toml.Reader
import Automation.Toml.Scalar
import Automation.Toml.Tree
import Automation.Trigger.Basic
import Automation.Trigger.Claims
import Automation.Trigger.Cron
import Automation.Trigger.CronReader
import Automation.Trigger.Polling
import Automation.Trigger.Schedule
import Automation.Trigger.Settings
import Automation.Web.Api
import Automation.Workflow.Basic
import Automation.Workflow.Braces
import Automation.Workflow.Compile
import Automation.Workflow.Cycle
import Automation.Workflow.Placeholder
import Automation.Workflow.PlanReader
import Automation.Workflow.Reference
import Automation.Workflow.Skeleton
