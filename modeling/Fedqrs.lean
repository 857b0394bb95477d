import Fedqrs.Library.DecimalText
import Fedqrs.Library.DecodedPositions
import Fedqrs.Library.DerivedDecoding
import Fedqrs.Library.Emission
import Fedqrs.Library.Grouping
import Fedqrs.Library.Interference
import Fedqrs.Library.JoinKinds
import Fedqrs.Library.Json
import Fedqrs.Library.Ownership
import Fedqrs.Library.Proc
import Fedqrs.Library.Reading
import Fedqrs.Library.SemiJoin
import Fedqrs.Library.SharedPool
import Fedqrs.Library.SharedPoolRuns
import Fedqrs.Library.ThreeValued
import Fedqrs.Library.WorkerPool
import Fedqrs.Arrow.Batches
import Fedqrs.Arrow.Numeric
import Fedqrs.Arrow.NumericRows
import Fedqrs.Arrow.Types
import Fedqrs.Core.Aggregate
import Fedqrs.Core.Columns
import Fedqrs.Core.Decode
import Fedqrs.Core.Expr
import Fedqrs.Core.Ir
import Fedqrs.Core.Partition
import Fedqrs.Core.Sql
import Fedqrs.Connectors.Answers
import Fedqrs.Connectors.CallEffects
import Fedqrs.Connectors.Effects
import Fedqrs.Connectors.Fetch
import Fedqrs.Connectors.Interface
import Fedqrs.Connectors.Native
import Fedqrs.Connectors.Parallel
import Fedqrs.Connectors.Sent
import Fedqrs.Connectors.SharedReads
import Fedqrs.Connectors.State
import Fedqrs.Connectors.TempTables
import Fedqrs.Connectors.Threads
import Fedqrs.Connectors.ViewedCalls
import Fedqrs.Connectors.Views
import Fedqrs.Engine.Bindings
import Fedqrs.Engine.Collect
import Fedqrs.Engine.Effects
import Fedqrs.Engine.Execute
import Fedqrs.Engine.Fragments
import Fedqrs.Engine.Probe
import Fedqrs.Engine.ProbeAnswers
import Fedqrs.Engine.ProbeEffects
import Fedqrs.Ffi.Delivery
import Fedqrs.Ffi.Ownership
import Fedqrs.Ffi.Streams
import Fedqrs.Semantics.Aggregation
import Fedqrs.Semantics.DuckTypes
import Fedqrs.Semantics.IrMeaning
import Fedqrs.Semantics.Naive
import Fedqrs.Semantics.Reference
import Fedqrs.Semantics.ReferenceEngine
import Fedqrs.Semantics.Rows
import Fedqrs.Semantics.Scope
import Fedqrs.Semantics.Similar
import Fedqrs.Semantics.Source
import Fedqrs.Semantics.Stepwise
import Fedqrs.Semantics.Uniform
import Fedqrs.Correctness.AggregateMeaning
import Fedqrs.Correctness.CatalogText
import Fedqrs.Correctness.ColumnNames
import Fedqrs.Correctness.ConcurrentQueries
import Fedqrs.Correctness.Confinement
import Fedqrs.Correctness.CtidRead
import Fedqrs.Correctness.DuckIngest
import Fedqrs.Correctness.ExprTranslation
import Fedqrs.Correctness.IrDecoding
import Fedqrs.Correctness.JoinReduction
import Fedqrs.Correctness.KeyReduction
import Fedqrs.Correctness.Modifiers
import Fedqrs.Correctness.NaiveExecution
import Fedqrs.Correctness.NaiveRefinement
import Fedqrs.Correctness.NumericExact
import Fedqrs.Correctness.ParallelFlag
import Fedqrs.Correctness.ParallelReads
import Fedqrs.Correctness.PartitionedNumeric
import Fedqrs.Correctness.PartitionedRead
import Fedqrs.Correctness.PermanentTables
import Fedqrs.Correctness.ProbeRelation
import Fedqrs.Correctness.ProbeRows
import Fedqrs.Correctness.Reconcile
import Fedqrs.Correctness.RegionInputs
import Fedqrs.Correctness.Registration
import Fedqrs.Correctness.RepeatedNames
import Fedqrs.Correctness.ResidentBudget
import Fedqrs.Correctness.Roundtrips
import Fedqrs.Correctness.RowValues
import Fedqrs.Correctness.SameMachine
import Fedqrs.Correctness.ScanText
import Fedqrs.Correctness.Scoping
import Fedqrs.Correctness.Shipments
import Fedqrs.Correctness.SingleRowGuard
import Fedqrs.Correctness.SpillPolicy
import Fedqrs.Correctness.SpillTransparency
import Fedqrs.Correctness.StaleKeys
import Fedqrs.Correctness.StepwiseRefinement
import Fedqrs.Correctness.StoredTypes
import Fedqrs.Correctness.StreamDelivery
import Fedqrs.Correctness.StreamOwnership
import Fedqrs.Correctness.Unspilled
