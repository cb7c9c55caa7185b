import Mathlib.Data.Set.Card
import HeapTables.Proofs.Reordered
import HeapTables.Proofs.Positions

/-! Counts of tables against what their lookups answer. Each count is the number of keys that get
an answer, over all spaces together, however the rows repeat. Going back there can be fewer names
than keys, since kept rows may share a name, and there are as many exactly where none do. -/
namespace HeapTables

def answeredKeys {κ β : Type} (lookup : κ → Lookup β) : Set κ :=
  {key | ∃ answer, (lookup key).answer = .ok answer}

structure CountsBothWays {κ : Type} [DecidableEq κ] (listed : List (Named κ))
    (forward : κ → Lookup String) (backward : String → Lookup κ) (count : Nat) : Prop where
  keys : (answeredKeys forward).encard = count
  names : (answeredKeys backward).encard ≤ count
  allNames : (answeredKeys backward).encard = count ↔ NamesApart listed

structure Counted (rows : Rows) (t : Tables) : Prop where
  types : CountsBothWays rows.instanceTypes t.typeName t.typeCode t.stats.instanceTypes
  maps : (answeredKeys t.mapAt).encard = t.stats.knownMaps
  objects : (answeredKeys t.objectAt).encard = t.stats.knownObjects
  pages : CountsBothWays rows.firstPages t.pageSpace t.firstPage t.stats.firstPages
  markers : (answeredKeys (fun ordinal : Int64 => t.markerName ordinal.toInt)).encard =
    t.stats.frameMarkers

section
variable {α κ : Type} [DecidableEq κ] {rows : List α} {value : α → κ} {wanted : Set κ}

theorem countValues (same : ∀ k, k ∈ wanted ↔ k ∈ rows.map value) :
    wanted.encard = (rows.map value).toFinset.card := by
  have members : wanted = (rows.map value).toFinset := by
    ext k
    rw [same, List.coe_toFinset, Set.mem_ofPred_eq]
  rw [members, Set.encard_coe_eq_coe_finsetCard]

theorem countAtMost (same : ∀ k, k ∈ wanted ↔ k ∈ rows.map value) :
    wanted.encard ≤ rows.length := by
  have bound := List.toFinset_card_le (rows.map value)
  rw [List.length_map] at bound
  rw [countValues same]
  exact Nat.cast_le.mpr bound

theorem countFull (same : ∀ k, k ∈ wanted ↔ k ∈ rows.map value) :
    wanted.encard = rows.length ↔ (rows.map value).Nodup := by
  have full := Multiset.toFinset_card_eq_card_iff_nodup (m := (rows.map value : Multiset κ))
  rw [Multiset.coe_card, List.length_map, Multiset.coe_nodup] at full
  rw [countValues same, Nat.cast_inj]
  exact full

end

theorem answeredFound {κ β : Type} {value? : κ → Option β} {shown : κ → Miss} {key : κ} :
    key ∈ answeredKeys (fun key => .found (value? key) (shown key)) ↔
      ∃ answer, value? key = some answer := by
  simp only [answeredKeys, Set.mem_ofPred_eq, Lookup.answerFoundOk]

theorem countFirsts {α β κ : Type} [DecidableEq κ] {rows : List α} {key : α → κ} {value : α → β}
    {value? : κ → Option β} (index : ∀ k, value? k = (rows.find? (key · == k)).map value)
    (shown : κ → Miss) :
    (answeredKeys (fun k => .found (value? k) (shown k))).encard = (firsts key [] rows).length := by
  rw [firstsKept]
  refine (countFull (fun k => ?_)).mpr (keptKeys key rows)
  rw [answeredFound, index, List.mem_map]
  simp only [findValue, keptAccepted]
  constructor
  · rintro ⟨_, position, row, accepted, same, _⟩
    exact ⟨row, ⟨position, accepted⟩, same⟩
  · rintro ⟨row, ⟨position, accepted⟩, same⟩
    exact ⟨_, position, row, accepted, same, rfl⟩

section
variable {κ : Type} [DecidableEq κ] [Hashable κ]

theorem Naming.answeredName (rows : List (Named κ)) (absent : String → Miss) (name : String) :
    name ∈ answeredKeys (fun name => .found ((ofRows rows).key? name) (absent name)) ↔
      name ∈ (firsts Named.key [] rows).map Named.name := by
  rw [answeredFound, List.mem_map]
  simp only [keyEarliest, memFirsts]
  constructor
  · rintro ⟨key, position, earliest⟩
    exact ⟨_, ⟨position, earliest.accepted⟩, rfl⟩
  · rintro ⟨⟨_, _⟩, ⟨position, accepted⟩, rfl⟩
    obtain ⟨place, _, first, earliest⟩ := earliestNamed accepted
    exact ⟨first, place, earliest⟩

theorem Naming.countsBothWays (rows : List (Named κ)) (shown : κ → Miss) (absent : String → Miss) :
    CountsBothWays rows (fun key => .found ((ofRows rows).name? key) (shown key))
      (fun name => .found ((ofRows rows).key? name) (absent name)) (ofRows rows).size := by
  have names := answeredName rows absent
  rw [sizeOfRows]
  refine ⟨countFirsts (nameOfRows rows) shown, countAtMost names, (countFull names).trans ?_⟩
  rw [NamesApart, firstsKept]

end

theorem Placement.countsSites {α : Type} (rows : List (Placed α)) (shown : Site → Miss) :
    (answeredKeys (fun site => .found ((ofRows rows).item? site) (shown site))).encard =
      (ofRows rows).size := by
  rw [sizeOfRows]
  exact countFirsts (itemOfRows rows) shown

theorem positionWord {names : List String} (short : names.length < 2 ^ 63) (ordinal : Int64) :
    IsPosition names ordinal ↔ ordinal ∈ (List.range names.length).map Int64.ofNat := by
  rw [List.mem_map]
  constructor
  · rintro ⟨least, below⟩
    refine ⟨ordinal.toInt.toNat, List.mem_range.mpr (by omega), Int64.toInt_inj.mp ?_⟩
    rw [Int64.toInt_ofNat_of_lt (by omega), Int.toNat_of_nonneg least]
  · rintro ⟨position, inside, rfl⟩
    have bound := List.mem_range.mp inside
    have whole := Int64.toInt_ofNat_of_lt (Nat.lt_trans bound short)
    unfold IsPosition
    omega

theorem wordsDistinct {count : Nat} (short : count < 2 ^ 63) :
    ((List.range count).map Int64.ofNat).Nodup := by
  apply List.nodup_range.map_on
  intro a first b second same
  have word {n : Nat} (mem : n ∈ List.range count) : (Int64.ofNat n).toInt = n :=
    Int64.toInt_ofNat_of_lt (Nat.lt_trans (List.mem_range.mp mem) short)
  exact Int.ofNat.inj ((word first).symm.trans (same ▸ word second))

namespace Tables
variable {rows : Rows}

theorem answeredOrdinal {ordinal : Int64} :
    ordinal ∈ answeredKeys (fun ordinal : Int64 => (ofRows rows).markerName ordinal.toInt) ↔
      IsPosition rows.frameMarkers ordinal := by
  constructor
  · rintro ⟨name, named⟩
    exact (markerNameOk.mp named).1
  · intro inside
    exact markerAnswered inside

theorem countsOrdinals (short : rows.frameMarkers.length < 2 ^ 63) :
    (answeredKeys (fun ordinal : Int64 => (ofRows rows).markerName ordinal.toInt)).encard =
      (ofRows rows).stats.frameMarkers := by
  have words (ordinal : Int64) := answeredOrdinal.trans (positionWord short ordinal)
  have full := (countFull words).mpr (wordsDistinct short)
  rw [List.length_range] at full
  exact full

end Tables

theorem countsAnswered (rows : Rows) (short : rows.frameMarkers.length < 2 ^ 63) :
    Counted rows (.ofRows rows) where
  types := Naming.countsBothWays rows.instanceTypes _ _
  maps := Placement.countsSites rows.knownMaps _
  objects := Placement.countsSites rows.knownObjects _
  pages := Naming.countsBothWays rows.firstPages _ _
  markers := Tables.countsOrdinals short

def interleavedSites : Rows where
  instanceTypes := [⟨1, "A"⟩, ⟨2, "A"⟩, ⟨1, "B"⟩]
  knownMaps := [⟨⟨"old", 0x10⟩, ⟨1, "M"⟩⟩, ⟨⟨"new", 0x10⟩, ⟨1, "M"⟩⟩, ⟨⟨"old", 0x10⟩, ⟨2, "N"⟩⟩,
    ⟨⟨"old", 0x20⟩, ⟨1, "M"⟩⟩]
  frameMarkers := ["X", "Y", "X"]

theorem interleavedSitesCounted :
    let t := Tables.ofRows interleavedSites
    interleavedSites.frameMarkers.length < 2 ^ 63 ∧
    (answeredKeys t.mapAt).encard = 3 ∧ (answeredKeys t.typeName).encard = 2 ∧
    (answeredKeys t.typeCode).encard < 2 ∧
    (answeredKeys (fun ordinal : Int64 => t.markerName ordinal.toInt)).encard = 3 := by
  intro t
  have short : interleavedSites.frameMarkers.length < 2 ^ 63 := by decide
  have laws : Counted interleavedSites t := countsAnswered interleavedSites short
  have stats : t.stats = { instanceTypes := 2, knownMaps := 3, frameMarkers := 3 } :=
    (statsOfRows interleavedSites).trans (by decide)
  have maps := laws.maps
  have types := laws.types
  have markers := laws.markers
  rw [stats] at maps types markers
  have shared : (answeredKeys t.typeCode).encard ≠ 2 := types.allNames.not.mpr (by decide)
  exact ⟨short, maps, types.keys, lt_of_le_of_ne types.names shared, markers⟩

end HeapTables
