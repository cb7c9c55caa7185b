import HeapTables.Proofs.Scan
import HeapTables.Proofs.SetAside

/-! Lookups by name against lookups by key. Two rules decide: a key keeps its first
row, and a name goes to the earliest row that was kept. Where keys and names repeat
crosswise the first row with a name need not be the one, since a repeat of another
key may carry it; the two directions still never contradict each other. -/
namespace HeapTables

structure Reverses {κ : Type} (listed : List (Named κ)) (forward : κ → Lookup String)
    (backward : String → Lookup κ) (absent : String → Miss) : Prop where
  found : ∀ (name : String) (key : κ), (backward name).answer = .ok key ↔
    ∃ position, Earliest Named.key listed (·.name = name) position ⟨key, name⟩
  missed : ∀ (name : String) (miss : Miss), (backward name).answer = .error miss ↔
    miss = absent name ∧ ∀ position row, listed[position]? = some row → row.name = name →
      ¬Accepted Named.key listed position row
  agrees : ∀ (name : String) (key : κ), (backward name).answer = .ok key →
    (forward key).answer = .ok name
  notAfter : ∀ (key : κ) (name : String), (forward key).answer = .ok name →
    ∃ position place other, Accepted Named.key listed position ⟨key, name⟩ ∧
      Accepted Named.key listed place ⟨other, name⟩ ∧ place ≤ position ∧
      (backward name).answer = .ok other ∧ (forward other).answer = .ok name

theorem Reverses.shadowed {κ : Type} [DecidableEq κ] {listed : List (Named κ)}
    {forward : κ → Lookup String} {backward : String → Lookup κ} {absent : String → Miss}
    {name : String} (laws : Reverses listed forward backward absent)
    (repeated : name ∉ (keptRows Named.key listed).map Named.name) :
    (backward name).answer = .error (absent name) := by
  refine (laws.missed _ _).mpr ⟨rfl, fun position row _ carries accepted => repeated ?_⟩
  cases carries
  exact List.mem_map_of_mem (keptAccepted.mpr ⟨position, accepted⟩)

section
variable {κ : Type} [DecidableEq κ] [Hashable κ]

theorem Naming.keyNone {rows : List (Named κ)} {name : String} :
    (Naming.ofRows rows).key? name = none ↔ ∀ position row, rows[position]? = some row →
      row.name = name → ¬Accepted Named.key rows position row := by
  refine ⟨fun absent position row _ carries accepted => ?_, fun repeated => ?_⟩
  · cases carries
    obtain ⟨place, _, key, earliest⟩ := Naming.earliestNamed accepted
    have found := Naming.keyEarliest.mpr ⟨place, earliest⟩
    rw [absent] at found
    contradiction
  · cases found : (Naming.ofRows rows).key? name with
    | none => rfl
    | some key =>
      obtain ⟨position, earliest⟩ := Naming.keyEarliest.mp found
      exact absurd earliest.accepted (repeated position _ earliest.accepted.here rfl)

theorem Naming.reverses (rows : List (Named κ)) (shown : κ → Miss) (absent : String → Miss) :
    Reverses rows (fun key => .found ((ofRows rows).name? key) (shown key))
      (fun name => .found ((ofRows rows).key? name) (absent name)) absent where
  found := by
    intro name key
    rw [Lookup.answerFoundOk, keyEarliest]
  missed := by
    intro name miss
    rw [Lookup.answerFoundError, keyNone, and_comm]
  agrees := by
    intro name key answered
    obtain ⟨position, earliest⟩ := keyEarliest.mp (Lookup.answerFoundOk.mp answered)
    exact Lookup.answerFoundOk.mpr (nameAccepted.mpr ⟨position, earliest.accepted⟩)
  notAfter := by
    intro key name answered
    obtain ⟨position, accepted⟩ := nameAccepted.mp (Lookup.answerFoundOk.mp answered)
    obtain ⟨place, le, other, earliest⟩ := earliestNamed accepted
    refine ⟨position, place, other, accepted, earliest.accepted, le, ?_, ?_⟩
    · exact Lookup.answerFoundOk.mpr (keyEarliest.mpr ⟨place, earliest⟩)
    · exact Lookup.answerFoundOk.mpr (nameAccepted.mpr ⟨place, earliest.accepted⟩)

end

theorem reverseLookupsFollowForward (rows : Rows) :
    let t := Tables.ofRows rows
    t.rows = rows ∧
    Reverses rows.instanceTypes t.typeName t.typeCode (fun name => .notFound .instanceTypes name) ∧
    Reverses rows.firstPages t.pageSpace t.firstPage (fun space => .notFound .firstPages space) :=
  ⟨Tables.rowsOfRows rows, Naming.reverses _ _ _, Naming.reverses _ _ _⟩

/- Names and keys repeat crosswise in both tables: "B" and "new" first stand at a repeat of a
key, and "C" and "map" stand nowhere else. -/
def crossedNames : Rows where
  instanceTypes := [⟨1, "A"⟩, ⟨1, "B"⟩, ⟨1, "C"⟩, ⟨2, "B"⟩, ⟨3, "A"⟩]
  firstPages := [⟨0x40000, "old"⟩, ⟨0x40000, "new"⟩, ⟨0x40000, "map"⟩, ⟨0x80000, "new"⟩,
    ⟨0xc0000, "old"⟩]

theorem crossedNamesReverse :
    let t := Tables.ofRows crossedNames
    ((t.typeCode "A").answer = .ok 1 ∧ (t.typeName 1).answer = .ok "A" ∧
      (t.typeName 3).answer = .ok "A" ∧ (t.typeCode "B").answer = .ok 2 ∧
      ⟨1, "C"⟩ ∈ t.rows.instanceTypes ∧
      (t.typeCode "C").answer = .error (.notFound .instanceTypes "C")) ∧
    (t.firstPage "old").answer = .ok 0x40000 ∧ (t.pageSpace 0x40000).answer = .ok "old" ∧
      (t.pageSpace 0xc0000).answer = .ok "old" ∧ (t.firstPage "new").answer = .ok 0x80000 ∧
      ⟨0x40000, "map"⟩ ∈ t.rows.firstPages ∧
      (t.firstPage "map").answer = .error (.notFound .firstPages "map") := by
  intro t
  obtain ⟨listed, types, pages⟩ := reverseLookupsFollowForward crossedNames
  have code : (t.typeCode "A").answer = .ok 1 := (types.found _ _).mpr ⟨0, by decide⟩
  have secondCode : (t.typeName 3).answer = .ok "A" := Tables.typeNameOk.mpr ⟨4, by decide⟩
  have lateCode : (t.typeCode "B").answer = .ok 2 := (types.found _ _).mpr ⟨3, by decide⟩
  have page : (t.firstPage "old").answer = .ok 0x40000 := (pages.found _ _).mpr ⟨0, by decide⟩
  have secondPage : (t.pageSpace 0xc0000).answer = .ok "old" :=
    Tables.pageSpaceOk.mpr ⟨4, by decide⟩
  have latePage : (t.firstPage "new").answer = .ok 0x80000 := (pages.found _ _).mpr ⟨3, by decide⟩
  rw [listed]
  exact ⟨⟨code, types.agrees _ _ code, secondCode, lateCode, by decide,
      types.shadowed (by decide)⟩,
    page, pages.agrees _ _ page, secondPage, latePage, by decide, pages.shadowed (by decide)⟩

end HeapTables
