import MockCluster.Files.Tree
import MockCluster.Main
import MockCluster.Proofs.Lists
import MockCluster.Proofs.OrderedMap
import MockCluster.Proofs.InPlace
import MockCluster.Proofs.FreshName
import MockCluster.Proofs.IdSet
import MockCluster.Proofs.SumBy
import MockCluster.Proofs.Digits
import MockCluster.Proofs.Calendar.Dates
import MockCluster.Proofs.Calendar.Texts
import MockCluster.Proofs.Index
import MockCluster.Proofs.Lookup
import MockCluster.Proofs.Files
import MockCluster.Proofs.WriteBack
import MockCluster.Proofs.Json.Shows
import MockCluster.Proofs.Json.Text
import MockCluster.Proofs.Json.Scan
import MockCluster.Proofs.Json.Objects
import MockCluster.Proofs.Json.Fits
import MockCluster.Proofs.Json.Unbroken
import MockCluster.Proofs.Json.Codec
import MockCluster.Proofs.Json.Members
import MockCluster.Proofs.Json.Record
import MockCluster.Proofs.Json.Shapes
import MockCluster.Proofs.Json.NodeIds
import MockCluster.Proofs.Json.Strings
import MockCluster.Proofs.Json.Tallies
import MockCluster.Proofs.Document.Layout
import MockCluster.Proofs.Document.Lines
import MockCluster.Proofs.Document.Task
import MockCluster.Proofs.Document.Fits
import MockCluster.Proofs.Document.Untyped
import MockCluster.Proofs.Views.Projection
import MockCluster.Proofs.Views.Holders
import MockCluster.Proofs.Views.Refile
import MockCluster.Proofs.Views.Backfill
import MockCluster.Proofs.Views.Sync
import MockCluster.Proofs.Views.Counts
import MockCluster.Proofs.Views.Survivors
import MockCluster.Proofs.Views.Insertion
import MockCluster.Proofs.Document.Substitution
import MockCluster.Proofs.Document.Walk
import MockCluster.Proofs.Document.Listings
import MockCluster.Proofs.Document.Retained
import MockCluster.Proofs.Document.Rekey
import MockCluster.Proofs.Document.Positions
import MockCluster.Proofs.Document.Members
import MockCluster.Proofs.Views.Transpose
import MockCluster.Proofs.Views.Differences
import MockCluster.Proofs.Repair.Duplicates
import MockCluster.Proofs.Repair.Suffixes
import MockCluster.Proofs.Repair.Renames
import MockCluster.Proofs.Repair.Settled
import MockCluster.Proofs.Repair.Replacement
import MockCluster.Proofs.Repair.Findings
import MockCluster.Proofs.Repair.NodeRefs
import MockCluster.Proofs.Repair.Probing
import MockCluster.Proofs.Repair.Stubs
import MockCluster.Proofs.Repair.Violations
import MockCluster.Proofs.Repair.Updates
import MockCluster.Proofs.Repair.Remnants
import MockCluster.Proofs.Synthesis.Services
import MockCluster.Proofs.Synthesis.Enrolment
import MockCluster.Proofs.Synthesis.Tasks
import MockCluster.Proofs.Synthesis.Passes
import MockCluster.Proofs.Synthesis.Increments
import MockCluster.Proofs.Synthesis.Timestamps
import MockCluster.Proofs.Views.Incremental
import MockCluster.Proofs.Pipeline.Effect
import MockCluster.Proofs.Pipeline.Separation
import MockCluster.Proofs.Pipeline.Growth
import MockCluster.Proofs.Pipeline.Refill
import MockCluster.Proofs.Pipeline.Ledger
import MockCluster.Proofs.Pipeline.Convergence
import MockCluster.Proofs.Pipeline.Warnings
import MockCluster.Proofs.Pipeline.Freshness
import MockCluster.Proofs.Pipeline.Retention
import MockCluster.Proofs.Pipeline.UpToDate
import MockCluster.Proofs.Pipeline.Stale
import MockCluster.Proofs.Pipeline.Closure
import MockCluster.Proofs.Pipeline.Unlisted
import MockCluster.Proofs.Pipeline.Listed
import MockCluster.Proofs.Pipeline.Chain
import MockCluster.Proofs.Pipeline.Validation
import MockCluster.Proofs.Views.Fits
import MockCluster.Proofs.Repair.Fits
import MockCluster.Proofs.Pipeline.RoundTrip
