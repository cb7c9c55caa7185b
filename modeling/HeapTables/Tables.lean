import HeapTables.Naming
import HeapTables.Placement
import HeapTables.FrameMarkers
import HeapTables.Logged

/-! Tables built from rows, and the report of building them. Instance types of
known maps are not checked against the type table: a code that is not listed
there is reported and kept. -/
namespace HeapTables

structure Tables where
  rows : Rows
  types : Naming UInt16
  maps : Placement KnownMap
  objects : Placement String
  pages : Naming UInt32
  markers : FrameMarkers

namespace Tables

def ofRows (rows : Rows) : Tables where
  rows := rows
  types := .ofRows rows.instanceTypes
  maps := .ofRows rows.knownMaps
  objects := .ofRows rows.knownObjects
  pages := .ofRows rows.firstPages
  markers := .ofNames rows.frameMarkers

@[simp] theorem rowsOfRows (rows : Rows) : (ofRows rows).rows = rows := rfl

def stats (t : Tables) : Stats where
  instanceTypes := t.types.size
  knownMaps := t.maps.size
  knownObjects := t.objects.size
  firstPages := t.pages.size
  frameMarkers := t.markers.size

/-- The known map rows, kept or set aside, whose instance type is not listed. -/
def danglingMaps (t : Tables) : List (Placed KnownMap) :=
  t.rows.knownMaps.filter (fun row => (t.types.name? row.item.instanceType).isNone)

/- Each row set aside is reported once, table by table. Repeated frame markers
are no conflict and pass in silence. -/
def buildEvents (t : Tables) : List Event :=
  t.types.repeats.toList.map .repeatedType ++
  t.maps.repeats.toList.map .repeatedMap ++
  t.objects.repeats.toList.map .repeatedObject ++
  t.pages.repeats.toList.map .repeatedPage ++
  [.built t.stats] ++
  (if t.danglingMaps.isEmpty then [] else [.dangling t.danglingMaps.length])

def build (rows : Rows) : Logged Tables := ⟨ofRows rows, (ofRows rows).buildEvents⟩

@[simp] theorem valueOfBuild (rows : Rows) : (build rows).value = ofRows rows := rfl

end Tables
end HeapTables
