import DatadogOperator.RevisionHistory
import DatadogOperator.Transitions
import DatadogOperator.Promotion
import DatadogOperator.Abort
import DatadogOperator.Restore
import DatadogOperator.Baseline
import DatadogOperator.Replay
import DatadogOperator.Interleaving
import DatadogOperator.Fleet.Daemon
import DatadogOperator.Fleet.System
import DatadogOperator.Fleet.Plans
import DatadogOperator.Fleet.Start
import DatadogOperator.Fleet.Stop
import DatadogOperator.Fleet.Slot
import DatadogOperator.Fleet.Coherence
import DatadogOperator.Fleet.Orderly
import DatadogOperator.Fleet.Versions
import DatadogOperator.Fleet.Publication
import DatadogOperator.Installation.Progress
import DatadogOperator.Profiles.Assignment
import DatadogOperator.Profiles.Order
import DatadogOperator.Profiles.Internals
import DatadogOperator.Profiles.Exclusion
import DatadogOperator.Dependencies.Authorization
import DatadogOperator.Dependencies.Objects
import DatadogOperator.Dependencies.Store
import DatadogOperator.Dependencies.Convergence
import DatadogOperator.Dependencies.Ownership
import DatadogOperator.Dependencies.Finalizer
import DatadogOperator.Remote.Controllers
import DatadogOperator.Remote.Endings
import DatadogOperator.Remote.Uniqueness
import DatadogOperator.Remote.Retrying
import DatadogOperator.Remote.MonitorState
import DatadogOperator.Lib.LastSet
import DatadogOperator.RemoteConfig.Updater
import DatadogOperator.RemoteConfig.Merge
import DatadogOperator.RemoteConfig.Acknowledgement
import DatadogOperator.Profiles.Writes
import DatadogOperator.Workloads.CreateOrUpdate
import DatadogOperator.Workloads.Convergence
import DatadogOperator.Rollback
import DatadogOperator.Profiles.CreateStrategy
import DatadogOperator.ClusterProvider
import DatadogOperator.Autoscaling.NodePools
import DatadogOperator.Autoscaling.Pooling
import DatadogOperator.Autoscaling.Services
import DatadogOperator.Autoscaling.Classify
import DatadogOperator.Autoscaling.Plan
import DatadogOperator.Autoscaling.Evict
import DatadogOperator.Autoscaling.Budgets
import DatadogOperator.Autoscaling.Run
import DatadogOperator.Autoscaling.Ownership
import DatadogOperator.Autoscaling.Draining
import DatadogOperator.Autoscaling.Coverage
import DatadogOperator.Dependencies.CanonicalRules
import DatadogOperator.Lib.Tables
import DatadogOperator.Merger.Containers
import DatadogOperator.Merger.Mounts
import DatadogOperator.Merger.Refinement
import DatadogOperator.Lib.Removal
import DatadogOperator.Merger.ConfigMapItems
import DatadogOperator.Merger.RbacManager
import DatadogOperator.Images.Image
import DatadogOperator.Images.Override
import DatadogOperator.Lib.Durations
import DatadogOperator.Untaint.Controller
import DatadogOperator.Untaint.Soundness
import DatadogOperator.Lib.Settings
import DatadogOperator.Profiles.OverlayOrder
import DatadogOperator.Lib.Interference
import DatadogOperator.NodeAgent.Cluster
import DatadogOperator.NodeAgent.Migration
import DatadogOperator.NodeAgent.Orderly
import DatadogOperator.NodeAgent.Safety
import DatadogOperator.Lib.FirstSeen
import DatadogOperator.RemoteConfig.CustomResources
import DatadogOperator.Workloads.Checksum
import DatadogOperator.Autoscaling.BudgetNames
import DatadogOperator.Credentials
import DatadogOperator.Merger.Service
import DatadogOperator.Defaulting
import DatadogOperator.Profiles.NodeLabels
import DatadogOperator.Lib.WorkQueue
import DatadogOperator.Metadata.CustomResource
import DatadogOperator.Metadata.Metrics
import DatadogOperator.Features
import DatadogOperator.Origin
import DatadogOperator.Settling
