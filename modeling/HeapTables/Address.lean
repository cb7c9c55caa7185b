import HeapTables.Lookups

/-! Raw addresses against sites. Only the lower 32 bits of an address count; they
split into the page, whose in-page bits are clear, and the offset in that page.
Both ways meet where a space's first page is aligned and the offset is in the page. -/
namespace HeapTables

def pageBits : UInt32 := 18

def offsetMask : UInt32 := (1 <<< pageBits) - 1

def unknownMap : String := "UNKNOWN_MAP"

def splitAddress (address : UInt64) : UInt32 × UInt32 :=
  (address.toUInt32 &&& ~~~offsetMask, address.toUInt32 &&& offsetMask)

inductive Entry where
  | map (m : KnownMap)
  | object (name : String)
  deriving DecidableEq, Repr

namespace Entry

def name : Entry → String
  | .map m => m.name
  | .object name => name

def display : Entry → String
  | .map m => m.display
  | .object name => name

end Entry

structure Resolved where
  site : Site
  absolute : UInt32
  entry : Entry
  deriving DecidableEq, Repr

def Site.label (site : Site) : String :=
  site.space ++ "+0x" ++ Text.hex site.offset.toNat ++ ": "

def Resolved.display (r : Resolved) : String := r.site.label ++ r.entry.display

namespace Tables

/-- The sum wraps at 32 bits, as the address bits of a first page do. -/
def absoluteAddress (t : Tables) (site : Site) : Lookup UInt32 := do
  let page ← t.firstPage site.space
  return page + site.offset

def entryAt (t : Tables) (site : Site) : Lookup Entry :=
  (Entry.map <$> t.mapAt site) <|> (Entry.object <$> t.objectAt site)

def classify (t : Tables) (address : UInt64) : Lookup Resolved := do
  let (page, offset) := splitAddress address
  let space ← t.pageSpace page
  let entry ← t.entryAt ⟨space, offset⟩
  return ⟨⟨space, offset⟩, page ||| offset, entry⟩

def label (t : Tables) (r : Resolved) : String :=
  match r.entry with
  | .map m =>
      r.site.label ++ m.name ++ " (" ++ codeText m.instanceType ++ " " ++
      t.typeNameOrUnknown m.instanceType ++ ")"
  | .object _ => r.display

def unknownLabel (address : UInt64) : String :=
  pageText address.toUInt32 ++ ": " ++ unknownMap

def describe (t : Tables) (address : UInt64) : Logged String :=
  (t.label <$> t.classify address).getD (unknownLabel address)

end Tables
end HeapTables
