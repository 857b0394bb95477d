import Fedqrs.Connectors.Parallel
import Fedqrs.Connectors.TempTables
import Fedqrs.Engine.Collect

/-! The connectors that the engine runs with. -/

namespace Fedqrs

/-- The connectors over the native drivers. -/
def nativeConnectors (drivers : Drivers) (shown : ScalarValue → String)
    : Connectors Sources Batches where
  kind := kind
  fetch := fetch drivers shown
  fetchParallel := fetchParallel drivers shown
  fetchTempJoin := fetchTempJoin drivers shown
  columnHasIndex := columnHasIndex drivers shown
  estimateSelectivity := estimateSelectivity drivers shown
  shipTable := shipTable drivers
  clearShipments := clearShipments

end Fedqrs
