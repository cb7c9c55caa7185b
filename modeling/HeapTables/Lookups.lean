import HeapTables.Tables

/-! Lookups of single keys. Matching is exact: a text is compared as it stands
and an offset one byte off is a miss. -/
namespace HeapTables

def unknownType : String := "UNKNOWN_TYPE"

def unknownFrame : String := "UNKNOWN_FRAME"

def firstNonstringType : UInt16 := 128

def isStringType (code : UInt16) : Bool := code < firstNonstringType

namespace Tables

def typeName (t : Tables) (code : UInt16) : Lookup String :=
  .found (t.types.name? code) (.notFound .instanceTypes (codeText code))

/- The fallback asks the index itself, so a code that is not listed is not
reported as a miss. -/
def typeNameOrUnknown (t : Tables) (code : UInt16) : String :=
  (t.types.name? code).getD unknownType

def typeCode (t : Tables) (name : String) : Lookup UInt16 :=
  .found (t.types.key? name) (.notFound .instanceTypes name)

def mapAt (t : Tables) (site : Site) : Lookup KnownMap :=
  .found (t.maps.item? site) (.notFound .knownMaps site.text)

def objectAt (t : Tables) (site : Site) : Lookup String :=
  .found (t.objects.item? site) (.notFound .knownObjects site.text)

def pageSpace (t : Tables) (page : UInt32) : Lookup String :=
  .found (t.pages.name? page) (.notFound .firstPages (pageText page))

def firstPage (t : Tables) (space : String) : Lookup UInt32 :=
  .found (t.pages.key? space) (.notFound .firstPages space)

def markerName (t : Tables) (ordinal : Int) : Lookup String :=
  .found (t.markers.name? ordinal) (.outOfRange ordinal t.markers.size)

def markerNameOrUnknown (t : Tables) (ordinal : Int) : Logged String :=
  (t.markerName ordinal).getD unknownFrame

def markerOrdinal (t : Tables) (name : String) : Lookup Nat :=
  .found (t.markers.ordinal? name) (.notFound .frameMarkers name)

end Tables
end HeapTables
