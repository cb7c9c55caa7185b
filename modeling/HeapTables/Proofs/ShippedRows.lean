import Mathlib.Data.List.Nodup
import HeapTables.Shipped.Tables
import HeapTables.Proofs.Pages

/-! What the shipped rows have in common as one set: nothing comes twice in its list, pages
lie on the page grid, offsets are inside a page, and the type of each map is listed.

A long list is checked by reading it once, each row marked as a bit by a number of its own,
so the check grows with the list and not with its square. Two rows of one number could only
make the check fail. -/
namespace HeapTables

def marks : List Nat → Nat
  | [] => 0
  | n :: rest => marks rest ||| 1 <<< n

theorem testMarks {numbers : List Nat} {n : Nat} :
    (marks numbers).testBit n = true ↔ n ∈ numbers := by
  induction numbers with
  | nil => simp [marks]
  | cons first rest ih =>
    rw [marks, Nat.testBit_or, Nat.one_shiftLeft, Nat.testBit_two_pow, Bool.or_eq_true,
      decide_eq_true_eq, ih, List.mem_cons, or_comm, eq_comm]

def unmarked (marked : Nat) : List Nat → Bool
  | [] => true
  | n :: rest => !marked.testBit n && unmarked (marked ||| 1 <<< n) rest

theorem unmarkedNodup {marked : Nat} {numbers : List Nat} (fresh : unmarked marked numbers = true) :
    numbers.Nodup ∧ ∀ n ∈ numbers, marked.testBit n = false := by
  induction numbers generalizing marked with
  | nil => simp
  | cons first rest ih =>
    simp only [unmarked, Bool.and_eq_true, Bool.not_eq_true'] at fresh
    obtain ⟨distinct, later⟩ := ih fresh.2
    simp only [Nat.testBit_or, Bool.or_eq_false_iff, Nat.one_shiftLeft, Nat.testBit_two_pow,
      decide_eq_false_iff_not] at later
    constructor
    · exact List.nodup_cons.mpr ⟨fun mem => (later first mem).2 rfl, distinct⟩
    · intro n mem
      rcases List.mem_cons.mp mem with rfl | inside
      · exact fresh.1
      · exact (later n inside).1

theorem nodupOfNumbers {α : Type} {rows : List α} (number : α → Nat)
    (fresh : unmarked 0 (rows.map number) = true) : rows.Nodup :=
  (unmarkedNodup fresh).1.of_map number

/- The names of rows letter by letter. A literal unfolds into its letters, so they are found
by matching; to compute the letters of a text would mean to decode it. -/
inductive Spelled {κ : Type} : List (Named κ) → List (List Char) → Prop where
  | nil : Spelled [] []
  | cons {key : κ} {letters : List Char} {rows : List (Named κ)} {spelling : List (List Char)}
      (tail : Spelled rows spelling) :
      Spelled (⟨key, String.ofList letters⟩ :: rows) (letters :: spelling)

theorem spelledNames {κ : Type} {rows : List (Named κ)} {spelling : List (List Char)}
    (spelled : Spelled rows spelling) : rows.map Named.name = spelling.map String.ofList := by
  induction spelled with
  | nil => rfl
  | cons tail ih => exact congrArg (_ :: ·) ih

def letterNumber (letters : List Char) : Nat :=
  letters.foldl (fun n letter => (17 * n + letter.toNat) % 32749) 0

theorem namesNodup {κ : Type} {rows : List (Named κ)} {spelling : List (List Char)}
    (spelled : Spelled rows spelling) (fresh : unmarked 0 (spelling.map letterNumber) = true) :
    (rows.map Named.name).Nodup := by
  rw [spelledNames spelled]
  exact (nodupOfNumbers letterNumber fresh).map (fun _ _ => String.ofList_injective)

/- Rows of which each says what no other row says, all within reach of an address. The text
for types that are not listed counts as taken. -/
structure Rows.Tidy (rows : Rows) : Prop where
  codes : (rows.instanceTypes.map Named.key).Nodup
  typeNames : (unknownType :: rows.instanceTypes.map Named.name).Nodup
  mapSites : (rows.knownMaps.map Placed.site).Nodup
  mapsInPage : ∀ row ∈ rows.knownMaps, InPage row.site.offset
  mapTypes : ∀ row ∈ rows.knownMaps, ∃ type ∈ rows.instanceTypes, type.key = row.item.instanceType
  objectSites : (rows.knownObjects.map Placed.site).Nodup
  objectsInPage : ∀ row ∈ rows.knownObjects, InPage row.site.offset
  spaces : (rows.firstPages.map Named.name).Nodup
  aligned : ∀ row ∈ rows.firstPages, Aligned row.key
  markers : rows.frameMarkers.Nodup

theorem shippedTypesSpelled : ∃ spelling,
    Spelled (⟨0, unknownType⟩ :: Shipped.instanceTypes) spelling ∧
      unmarked 0 (spelling.map letterNumber) = true := by
  apply Exists.intro
  apply And.intro
  · unfold unknownType Shipped.instanceTypes
    repeat (first | exact .nil | apply Spelled.cons)
  · decide +kernel

theorem shippedTidy : Shipped.rows.Tidy where
  codes := nodupOfNumbers UInt16.toNat (by decide +kernel)
  typeNames := by
    obtain ⟨_, spelled, fresh⟩ := shippedTypesSpelled
    exact namesNodup spelled fresh
  mapSites := nodupOfNumbers (·.offset.toNat) (by decide +kernel)
  mapsInPage := by decide +kernel
  mapTypes := by
    intro row mem
    have marked : ∀ row ∈ Shipped.knownMaps, (marks (Shipped.instanceTypes.map
        (·.key.toNat))).testBit row.item.instanceType.toNat = true := by decide +kernel
    obtain ⟨type, listed, same⟩ := List.mem_map.mp (testMarks.mp (marked row mem))
    exact ⟨type, listed, UInt16.toNat_inj.mp same⟩
  objectSites := nodupOfNumbers (·.offset.toNat) (by decide +kernel)
  objectsInPage := by decide +kernel
  spaces := by decide
  aligned := by decide
  markers := by decide +kernel

end HeapTables
