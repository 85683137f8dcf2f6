import RbgPlanner.Properties.GpuCeiling
import RbgPlanner.Properties.FailedObservation
import RbgPlanner.Properties.Isolation
import RbgPlanner.Properties.Deletion
import RbgPlanner.Properties.ReplicaBounds
import RbgPlanner.Properties.TwoRoles
import RbgPlanner.Properties.ProfilerCommandLine
import RbgPlanner.Properties.PublishedProfile
import RbgPlanner.Properties.GpuNormalisation
import RbgPlanner.Properties.ScalingDecisions
import RbgPlanner.Properties.SpecTransport
import RbgPlanner.Properties.InertBudget
import RbgPlanner.Properties.TokenDemand
import RbgPlanner.Properties.ProfileReuse
import RbgPlanner.Properties.PositionalPatch
import RbgPlanner.Properties.ReadyEarned
import RbgPlanner.Properties.ProfilingFailure
import RbgPlanner.Properties.OrphanedBindings
import RbgPlanner.Properties.TransitionTimes
import RbgPlanner.Properties.Quiescence
import RbgPlanner.Properties.SharedCoordinates
import RbgPlanner.Properties.ZeroDivisors
import RbgPlanner.Properties.InfiniteSamples
import RbgPlanner.Properties.BudgetScaling
import RbgPlanner.Properties.SlaFeedback
import RbgPlanner.Properties.IdleForecast
import RbgPlanner.Properties.PrefillCapacity
import RbgPlanner.Properties.OptimalColumn
import RbgPlanner.Properties.SearchAgreement
import RbgPlanner.Properties.PartialScaling
import RbgPlanner.Properties.FallbackScaling
import RbgPlanner.Properties.PairedFactors
import RbgPlanner.Properties.CycleSurvival
import RbgPlanner.Properties.PredictorWindow
import RbgPlanner.Properties.EstablishedAccess
import RbgPlanner.Properties.PodRequests
import RbgPlanner.Properties.StableTemplate
import RbgPlanner.Properties.AlignedProfile
import RbgPlanner.Properties.ConcurrencySweep
import RbgPlanner.Properties.LabelFilter
import RbgPlanner.Properties.OperatorRole
import RbgPlanner.Properties.PacedScaling
import RbgPlanner.Properties.BoundedRuns
import RbgPlanner.Properties.PlannerCommandLine
import RbgPlanner.Properties.MeasuredProfile
import RbgPlanner.Properties.SteadyLoad
import RbgPlanner.Properties.Stabilisation
import RbgPlanner.Properties.OwnedObjects
import RbgPlanner.Properties.PlannerStartup
import RbgPlanner.Properties.OverlappingPlanners
import RbgPlanner.Properties.ExitStatus
import RbgPlanner.Properties.ConformingStatus
