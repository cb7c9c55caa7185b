import HeapTables.Address

/-! Sweeps over a half-open range of codes or addresses. What misses is left out
of the result and stays in the report. -/
namespace HeapTables.Tables

structure ListedType where
  code : UInt16
  name : String
  isString : Bool
  deriving DecidableEq, Repr

def listedType (t : Tables) (code : UInt16) : Logged (Option ListedType) :=
  ((fun name => ⟨code, name, isStringType code⟩) <$> t.typeName code).toOption

/-- The listed codes from `first` up to and without `stop`; codes end at 65535. -/
def listedTypes (t : Tables) (first stop : Nat) : Logged (List ListedType) :=
  .collect ((List.range' first (stop - first)).map (fun n => t.listedType n.toUInt16))

def labelled (t : Tables) (address : UInt64) : Logged (Option (UInt64 × String)) := do
  match ← (t.classify address).toOption with
  | some _ => return some (address, ← t.describe address)
  | none => return none

def labelledAddresses (t : Tables) (first stop : UInt64) : Logged (List (UInt64 × String)) :=
  .collect ((List.range' first.toNat (stop.toNat - first.toNat)).map
    (fun n => t.labelled n.toUInt64))

end HeapTables.Tables
