import NetSweep.Assoc
import NetSweep.Authority
import NetSweep.Backend
import NetSweep.BackendError
import NetSweep.Cleanup.Action
import NetSweep.Cleanup.Category
import NetSweep.Cleanup.Sweep
import NetSweep.Cleanup.Task
import NetSweep.CommandLine
import NetSweep.Decimal.Binary64
import NetSweep.Decimal.Shortest
import NetSweep.Files
import NetSweep.Http.Base64
import NetSweep.Http.Exchange
import NetSweep.Http.Host
import NetSweep.Http.Name
import NetSweep.Http.Name.Mapping
import NetSweep.Http.Percent
import NetSweep.Http.Punycode
import NetSweep.Http.Script
import NetSweep.Http.Status
import NetSweep.Http.Url
import NetSweep.Json.Basic
import NetSweep.Json.Numeral
import NetSweep.Json.Parser
import NetSweep.Json.Printer
import NetSweep.Kind
import NetSweep.Log
import NetSweep.LogSink
import NetSweep.Main
import NetSweep.Manager
import NetSweep.Migration.ObjectKind
import NetSweep.Migration.Prepare
import NetSweep.Migration.TagService
import NetSweep.Migration.Tags
import NetSweep.Ownership
import NetSweep.Plan
import NetSweep.Program
import NetSweep.Proofs.Aborts
import NetSweep.Proofs.AdjustedFields
import NetSweep.Proofs.AskedChanges
import NetSweep.Proofs.AuxiliaryDeletes
import NetSweep.Proofs.Candidates
import NetSweep.Proofs.CanonicalJson
import NetSweep.Proofs.CarriedOut
import NetSweep.Proofs.CategoryChanges
import NetSweep.Proofs.Changes
import NetSweep.Proofs.CheckedPlans
import NetSweep.Proofs.CompleteRuns
import NetSweep.Proofs.CoveredChanges
import NetSweep.Proofs.CustomPlans
import NetSweep.Proofs.DecodedResources
import NetSweep.Proofs.DryRun
import NetSweep.Proofs.FailClosed
import NetSweep.Proofs.FilledStores
import NetSweep.Proofs.FirstFailures
import NetSweep.Proofs.FormQueries
import NetSweep.Proofs.GrantedDeletes
import NetSweep.Proofs.InsideFirst
import NetSweep.Proofs.KnownIds
import NetSweep.Proofs.LeavesFirst
import NetSweep.Proofs.LoadBalancerChildren
import NetSweep.Proofs.LoadBalancers
import NetSweep.Proofs.Lockstep
import NetSweep.Proofs.ManagerPatches
import NetSweep.Proofs.NarrowerRuns
import NetSweep.Proofs.NothingDangling
import NetSweep.Proofs.ObjectAddresses
import NetSweep.Proofs.OrderlyCategories
import NetSweep.Proofs.OwnershipSafety
import NetSweep.Proofs.PagedLists
import NetSweep.Proofs.PagingRounds
import NetSweep.Proofs.Passthrough
import NetSweep.Proofs.PercentEscapes
import NetSweep.Proofs.PreparationLogs
import NetSweep.Proofs.PreparedFields
import NetSweep.Proofs.PreparedPorts
import NetSweep.Proofs.PrintedJson
import NetSweep.Proofs.Procedures
import NetSweep.Proofs.ProviderFields
import NetSweep.Proofs.QueryRoundTrip
import NetSweep.Proofs.QueryTexts
import NetSweep.Proofs.Rehearsals
import NetSweep.Proofs.RepeatedPreparations
import NetSweep.Proofs.Replays
import NetSweep.Proofs.ReportAccounts
import NetSweep.Proofs.RequestPaths
import NetSweep.Proofs.ResourceRoundTrip
import NetSweep.Proofs.SearchedTags
import NetSweep.Proofs.SentRequests
import NetSweep.Proofs.SettledCategories
import NetSweep.Proofs.SettledTasks
import NetSweep.Proofs.SharedCollections
import NetSweep.Proofs.SharedFirewall
import NetSweep.Proofs.SortedMaps
import NetSweep.Proofs.StandardOrder
import NetSweep.Proofs.Survivors
import NetSweep.Proofs.TagAccounts
import NetSweep.Proofs.TagReplays
import NetSweep.Proofs.TaggedFirewall
import NetSweep.Proofs.TaskInvariants
import NetSweep.Proofs.ThinnedStores
import NetSweep.Proofs.Transcripts
import NetSweep.Proofs.TypicalStores
import NetSweep.Proofs.Utf8Texts
import NetSweep.Proofs.WholeSegments
import NetSweep.Proofs.ZoneHints
import NetSweep.Report
import NetSweep.Resource
import NetSweep.Search
import NetSweep.Settings
import NetSweep.Snapshot
import NetSweep.Store
import NetSweep.Tag
import NetSweep.Text.Hidden
import NetSweep.Text.Quoted
import NetSweep.Text.Split
import NetSweep.Text.Utf8
import NetSweep.Toml.Parser
import NetSweep.Toml.Scalar
import NetSweep.Toml.Table
import NetSweep.Unicode.Composition
import NetSweep.Unicode.Direction
import NetSweep.Unicode.Joining
import NetSweep.Unicode.Mark
import NetSweep.Unicode.Rows
