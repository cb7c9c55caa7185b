import HeapTables.Tables
import HeapTables.Shipped.InstanceTypes
import HeapTables.Shipped.KnownMaps
import HeapTables.Shipped.KnownObjects
import HeapTables.Shipped.FirstPages
import HeapTables.Shipped.FrameMarkers

/-! The tables of the shipping engine build. The row lists are recorded by that
build as one set; no part of them is edited alone. -/
namespace HeapTables.Shipped

def shippingBuild : Bool := true

def rows : Rows where
  instanceTypes := instanceTypes
  knownMaps := knownMaps
  knownObjects := knownObjects
  firstPages := firstPages
  frameMarkers := frameMarkers

def tables : Tables := .ofRows rows

end HeapTables.Shipped
