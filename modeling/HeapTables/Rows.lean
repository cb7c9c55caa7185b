/-! The rows that heap tables are made of, in the order in which they were
recorded. A row list is a sequence: repeated keys stay in place here, and only
the tables built from the rows decide which row of a key answers. -/
namespace HeapTables

/-- A key of type `κ` and the name listed for it. Instance types list a name for
a 16-bit code, first pages a heap space for the lower 32 address bits of a page. -/
structure Named (κ : Type) where
  key : κ
  name : String
  deriving DecidableEq, Repr

structure KnownMap where
  instanceType : UInt16
  name : String
  deriving DecidableEq, Repr

def KnownMap.display (m : KnownMap) : String :=
  m.name ++ " (" ++ toString m.instanceType.toNat ++ ")"

structure Site where
  space : String
  offset : UInt32
  deriving DecidableEq, Repr

structure Placed (α : Type) where
  site : Site
  item : α
  deriving DecidableEq, Repr

structure Rows where
  instanceTypes : List (Named UInt16) := []
  knownMaps : List (Placed KnownMap) := []
  knownObjects : List (Placed String) := []
  firstPages : List (Named UInt32) := []
  frameMarkers : List String := []
  deriving DecidableEq, Repr

end HeapTables
