import CestaPlan.Basket.ChargedRule
import CestaPlan.Basket.Labels
import CestaPlan.Candidates.Amounts
import CestaPlan.Candidates.Fallback
import CestaPlan.Candidates.Preflight
import CestaPlan.Catalog.Provenance
import CestaPlan.Catalog.RowOrder
import CestaPlan.Commercial.Sync
import CestaPlan.Comparison.Split
import CestaPlan.Consolidation.FoldedDemand
import CestaPlan.Consolidation.Restoring
import CestaPlan.Consolidation.SpecNames
import CestaPlan.Costing.Capture
import CestaPlan.Costing.CatalogCoverage
import CestaPlan.Costing.Lanes
import CestaPlan.Engine.AllergenSafety
import CestaPlan.Engine.BudgetSearch
import CestaPlan.Engine.Coverage
import CestaPlan.Engine.DietAllergens
import CestaPlan.Engine.Exploration
import CestaPlan.Engine.FormatUnits
import CestaPlan.Engine.LimitSearch
import CestaPlan.Engine.LineUnits
import CestaPlan.Engine.PackageCounts
import CestaPlan.Engine.PantryShares
import CestaPlan.Engine.RoundTrips
import CestaPlan.Engine.RunningCost
import CestaPlan.Engine.Schedules
import CestaPlan.Engine.SearchEnds
import CestaPlan.Engine.Totals
import CestaPlan.Engine.UnitFree
import CestaPlan.Grocery.ChecklistSync
import CestaPlan.Grocery.CostBreakdown
import CestaPlan.Grocery.Edits
import CestaPlan.History.ApplyRestore
import CestaPlan.History.Books
import CestaPlan.History.Confluence
import CestaPlan.History.CurrentPrice
import CestaPlan.History.DedupRestore
import CestaPlan.History.LaneRepair
import CestaPlan.History.Operations
import CestaPlan.History.PlannerOrder
import CestaPlan.History.PlannerRedaction
import CestaPlan.History.PriceHistory
import CestaPlan.History.PriceSync
import CestaPlan.History.Promotion
import CestaPlan.History.Remediation
import CestaPlan.History.SealedPlans
import CestaPlan.History.Undo
import CestaPlan.History.WriterFrame
import CestaPlan.Households.Invitations
import CestaPlan.Households.Ownership
import CestaPlan.Households.PartialUpdate
import CestaPlan.Imports.DryRun
import CestaPlan.Imports.RecordGuarantee
import CestaPlan.Imports.Rollbacks
import CestaPlan.Ingestion.FeedRows
import CestaPlan.Ingestion.HttpFetcher
import CestaPlan.Ingestion.ProductNormalization
import CestaPlan.Jobs.Cadence
import CestaPlan.Jobs.Capacity
import CestaPlan.Jobs.Connectors
import CestaPlan.Jobs.Enqueue
import CestaPlan.Jobs.Lifecycle
import CestaPlan.Mapping.Approvals
import CestaPlan.Mapping.Decisions
import CestaPlan.Mapping.Lifecycle
import CestaPlan.Plans.Outcomes
import CestaPlan.Plans.PlanContext
import CestaPlan.Plans.Quota
import CestaPlan.Prices.Fallback
import CestaPlan.Prices.Resolution
import CestaPlan.Provenance.StorageReference
import CestaPlan.Providers.MoneyReading
import CestaPlan.Providers.SchemaDrift
import CestaPlan.Providers.SchemaRegistry
import CestaPlan.Security.RateLimiter
