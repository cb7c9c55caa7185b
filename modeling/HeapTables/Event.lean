import HeapTables.Miss

/-! What building tables and looking things up reports on the side. -/
namespace HeapTables

structure Stats where
  instanceTypes : Nat := 0
  knownMaps : Nat := 0
  knownObjects : Nat := 0
  firstPages : Nat := 0
  frameMarkers : Nat := 0
  deriving DecidableEq, Repr

inductive Level where
  | warn
  | debug
  | trace
  deriving DecidableEq, Repr

inductive Event where
  | repeatedType (row : Named UInt16)
  | repeatedMap (row : Placed KnownMap)
  | repeatedObject (row : Placed String)
  | repeatedPage (row : Named UInt32)
  | built (stats : Stats)
  | dangling (count : Nat)
  | missed (miss : Miss)
  deriving DecidableEq, Repr

namespace Event

def level : Event → Level
  | .repeatedType _ | .repeatedMap _ | .repeatedObject _ | .repeatedPage _ => .warn
  | .built _ | .dangling _ => .debug
  | .missed _ => .trace

def message : Event → String
  | .repeatedType row =>
      "Duplicate instance type code " ++ codeText row.key ++ " (" ++ row.name ++ ") ignored"
  | .repeatedMap row => "Duplicate known map at " ++ row.site.text ++ " ignored"
  | .repeatedObject row => "Duplicate known object at " ++ row.site.text ++ " ignored"
  | .repeatedPage row =>
      "Duplicate first page " ++ pageText row.key ++ " (" ++ row.name ++ ") ignored"
  | .built stats =>
      "Built constant tables: " ++ toString stats.instanceTypes ++ " instance types, " ++
      toString stats.knownMaps ++ " known maps, " ++ toString stats.knownObjects ++
      " known objects, " ++ toString stats.firstPages ++ " first pages, " ++
      toString stats.frameMarkers ++ " frame markers"
  | .dangling count => toString count ++ " known maps reference unlisted instance types"
  | .missed miss => miss.message

end Event
end HeapTables
