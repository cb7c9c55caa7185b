import HeapTables.Lookups
import HeapTables.Proofs.Accepted

/-! Lookups by key against a flat scan of the listed rows. However rows repeat or
interleave, the row that answers is the first one with the whole key, and a miss
means that no row has it. Nothing else in the tables has a say. -/
namespace HeapTables

theorem Naming.earliestNamed {κ : Type} {rows : List (Named κ)} {k : κ} {name : String}
    {position : Nat} (accepted : Accepted Named.key rows position ⟨k, name⟩) :
    ∃ place ≤ position, ∃ other,
      Earliest Named.key rows (·.name = name) place ⟨other, name⟩ := by
  obtain ⟨place, le, ⟨other, _⟩, earliest⟩ :=
    earliestBefore (fun row => row.name = name) accepted rfl
  have met := earliest.met
  cases met
  exact ⟨place, le, other, earliest⟩

section
variable {κ : Type} [DecidableEq κ] [Hashable κ] {rows : List (Named κ)} {k : κ} {name : String}

theorem Naming.nameAccepted : (Naming.ofRows rows).name? k = some name ↔
    ∃ position, Accepted Named.key rows position ⟨k, name⟩ := by
  rw [Naming.nameOfRows, findValue]
  refine ⟨fun ⟨position, row, accepted, whole, same⟩ => ?_, fun ⟨position, accepted⟩ => ?_⟩
  · cases whole
    cases same
    exact ⟨position, accepted⟩
  · exact ⟨position, _, accepted, rfl, rfl⟩

theorem Naming.nameNone : (Naming.ofRows rows).name? k = none ↔ ∀ row ∈ rows, row.key ≠ k := by
  rw [Naming.nameOfRows, Option.map_eq_none_iff, List.find?_eq_none]
  simp only [beq_iff_eq]

theorem Naming.keyEarliest : (Naming.ofRows rows).key? name = some k ↔
    ∃ position, Earliest Named.key rows (·.name = name) position ⟨k, name⟩ := by
  have same : (fun row : Named κ => (row.name == name) = true) = (·.name = name) := by
    funext row
    exact propext beq_iff_eq
  rw [Naming.keyOfRows, Option.map_eq_some_iff, ← same]
  refine ⟨fun ⟨row, found, last⟩ => ?_, fun ⟨position, earliest⟩ => ?_⟩
  · obtain ⟨position, earliest⟩ := foundEarliest found
    have met : row.name = name := beq_iff_eq.mp earliest.met
    cases met
    cases last
    exact ⟨position, earliest⟩
  · exact ⟨_, earliestFound earliest, rfl⟩

end

theorem Placement.itemAccepted {α : Type} {rows : List (Placed α)} {site : Site} {item : α} :
    (Placement.ofRows rows).item? site = some item ↔
      ∃ position, Accepted Placed.site rows position ⟨site, item⟩ := by
  rw [Placement.itemOfRows, findValue]
  refine ⟨fun ⟨position, row, accepted, whole, same⟩ => ?_, fun ⟨position, accepted⟩ => ?_⟩
  · cases whole
    cases same
    exact ⟨position, accepted⟩
  · exact ⟨position, _, accepted, rfl, rfl⟩

theorem Placement.itemNone {α : Type} {rows : List (Placed α)} {site : Site} :
    (Placement.ofRows rows).item? site = none ↔ ∀ row ∈ rows, row.site ≠ site := by
  rw [Placement.itemOfRows, Option.map_eq_none_iff, List.find?_eq_none]
  simp only [beq_iff_eq]

namespace Tables
variable {rows : Rows} {site : Site} {code : UInt16} {page : UInt32} {name space : String}

theorem typeNameOk : ((ofRows rows).typeName code).answer = .ok name ↔
    ∃ position, Accepted Named.key rows.instanceTypes position ⟨code, name⟩ :=
  Lookup.answerFoundOk.trans Naming.nameAccepted

theorem typeCodeOk : ((ofRows rows).typeCode name).answer = .ok code ↔
    ∃ position, Earliest Named.key rows.instanceTypes (·.name = name) position ⟨code, name⟩ :=
  Lookup.answerFoundOk.trans Naming.keyEarliest

theorem pageSpaceOk : ((ofRows rows).pageSpace page).answer = .ok space ↔
    ∃ position, Accepted Named.key rows.firstPages position ⟨page, space⟩ :=
  Lookup.answerFoundOk.trans Naming.nameAccepted

theorem firstPageOk : ((ofRows rows).firstPage space).answer = .ok page ↔
    ∃ position, Earliest Named.key rows.firstPages (·.name = space) position ⟨page, space⟩ :=
  Lookup.answerFoundOk.trans Naming.keyEarliest

theorem pageSpaceOfFirst (first : ((ofRows rows).firstPage space).answer = .ok page) :
    ((ofRows rows).pageSpace page).answer = .ok space := by
  obtain ⟨position, earliest⟩ := firstPageOk.mp first
  exact pageSpaceOk.mpr ⟨position, earliest.accepted⟩

theorem mapAtOk {m : KnownMap} : ((ofRows rows).mapAt site).answer = .ok m ↔
    ∃ position, Accepted Placed.site rows.knownMaps position ⟨site, m⟩ :=
  Lookup.answerFoundOk.trans Placement.itemAccepted

theorem mapAtError : (∃ miss, ((ofRows rows).mapAt site).answer = .error miss) ↔
    ∀ row ∈ rows.knownMaps, row.site ≠ site := by
  rw [← Placement.itemNone]
  exact ⟨fun ⟨_, missed⟩ => (Lookup.answerFoundError.mp missed).1,
    fun absent => ⟨_, Lookup.answerFoundError.mpr ⟨absent, rfl⟩⟩⟩

theorem objectAtOk : ((ofRows rows).objectAt site).answer = .ok name ↔
    ∃ position, Accepted Placed.site rows.knownObjects position ⟨site, name⟩ :=
  Lookup.answerFoundOk.trans Placement.itemAccepted

end Tables

end HeapTables
