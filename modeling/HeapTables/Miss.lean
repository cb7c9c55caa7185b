import HeapTables.Rows
import HeapTables.Text.Cut

/-! Lookup misses and their wording. A miss is the only way a lookup fails: a key
that a table does not hold, or an ordinal that is no position of the sequence. -/
namespace HeapTables

inductive Table where
  | instanceTypes
  | knownMaps
  | knownObjects
  | firstPages
  | frameMarkers
  deriving DecidableEq, Repr

def Table.title : Table → String
  | .instanceTypes => "instance types"
  | .knownMaps => "known maps"
  | .knownObjects => "known objects"
  | .firstPages => "heap first pages"
  | .frameMarkers => "frame markers"

inductive Miss where
  | notFound (table : Table) (key : String)
  | outOfRange (ordinal : Int) (length : Nat)
  deriving DecidableEq, Repr

namespace Miss

def table : Miss → Table
  | .notFound table _ => table
  | .outOfRange _ _ => .frameMarkers

def isNotFound : Miss → Bool
  | .notFound _ _ => true
  | .outOfRange _ _ => false

def message : Miss → String
  | .notFound table key => key ++ " not found in " ++ table.title ++ " table"
  | .outOfRange ordinal length =>
      "frame marker ordinal " ++ toString ordinal ++ " out of range (0.." ++ toString length ++ ")"

end Miss

/-! The keys as a miss shows them. A page always has eight digits; an offset has
five and grows from there. -/

def codeText (code : UInt16) : String := toString code.toNat

def Site.text (site : Site) : String :=
  "(" ++ site.space ++ ", 0x" ++ Text.hexPadded 5 site.offset.toNat ++ ")"

def pageText (page : UInt32) : String := "0x" ++ Text.hexPadded 8 page.toNat

theorem codeTextInj {code other : UInt16} (same : codeText code = codeText other) : code = other :=
  UInt16.toNat_inj.mp (Nat.repr_injective same)

theorem siteText (site : Site) : ∃ digits, Text.Padded 5 site.offset.toNat digits ∧
    site.text = "(" ++ site.space ++ ", 0x" ++ digits ++ ")" :=
  ⟨_, Text.paddedHex (by decide) _, rfl⟩

theorem pageDigits (page : UInt32) : ∃ digits, Text.Padded 8 page.toNat digits ∧
    pageText page = "0x" ++ digits :=
  ⟨_, Text.paddedHex (by decide) _, rfl⟩

theorem siteTextInj {site other : Site} (same : site.text = other.text) : site = other := by
  have free (n : Nat) : 'x' ∉ (Text.hexPadded 5 n).toList :=
    (Text.paddedHex (by decide) n).free (by decide)
  have unclosed := (String.append_left_inj _).mp same
  -- The last x, not the first one, starts the offset: a space may hold a whole key itself.
  obtain ⟨fronts, numerals⟩ := Text.cutBack rfl (free _) (free _) unclosed
  have spaces := (String.append_right_inj _).mp fronts
  have offsets := UInt32.toNat_inj.mp (Text.hexPaddedInj numerals)
  cases site
  cases other
  cases spaces
  cases offsets
  rfl

theorem pageTextInj {page other : UInt32} (same : pageText page = pageText other) :
    page = other := by
  have numerals := (String.append_right_inj _).mp same
  exact UInt32.toNat_inj.mp (Text.hexPaddedInj numerals)

theorem pageEight (page : UInt32) : (Text.hexPadded 8 page.toNat).length = 8 := by
  have fits : (Nat.toDigits 16 page.toNat).length ≤ 8 :=
    (Nat.length_toDigits_le_iff (by decide) (by decide)).mpr page.toNat_lt
  exact (Text.lengthPadded 8 page.toNat).trans (Nat.max_eq_left fits)

end HeapTables
