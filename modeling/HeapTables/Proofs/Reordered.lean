import HeapTables.Proofs.Agreement
import HeapTables.Proofs.BuildLog
import HeapTables.Proofs.Scan

/-! Rows in another order. Moving rows of different keys past each other changes no
answer to a key, no count and no label, and permutes the report of building. Going back
from a name can depend on the order of the kept rows that share it; where no two of them
share a name, it does not. -/
namespace HeapTables
variable {α κ : Type} [DecidableEq κ] {key : α → κ} {rows moved : List α} {row : α}

structure Reordered (key : α → κ) (rows moved : List α) : Prop where
  perm : rows.Perm moved
  order : ∀ k, rows.filter (key · == k) = moved.filter (key · == k)

theorem reorderedOccurring : Reordered key rows moved ↔ rows.Perm moved ∧
    ∀ row ∈ rows, rows.filter (key · == key row) = moved.filter (key · == key row) := by
  refine ⟨fun reordered => ⟨reordered.perm, fun row _ => reordered.order (key row)⟩, ?_⟩
  intro ⟨perm, order⟩
  refine ⟨perm, fun k => ?_⟩
  cases found : rows.filter (key · == k) with
  | nil =>
    have empty := perm.filter (key · == k)
    rw [found] at empty
    exact (List.nil_perm.mp empty).symm
  | cons row rest =>
    have here : row ∈ rows.filter (key · == k) := found ▸ List.mem_cons_self
    obtain ⟨mem, same⟩ := List.mem_filter.mp here
    cases beq_iff_eq.mp same
    exact found ▸ order row mem

instance [DecidableEq α] : Decidable (Reordered key rows moved) :=
  decidable_of_iff _ reorderedOccurring.symm

theorem findReordered (reordered : Reordered key rows moved) (k : κ) :
    rows.find? (key · == k) = moved.find? (key · == k) := by
  rw [← List.head?_filter, ← List.head?_filter, reordered.order]

theorem keptReordered (reordered : Reordered key rows moved) :
    (keptRows key rows).Perm (keptRows key moved) := by
  rw [List.perm_ext_iff_of_nodup (keptNodup key rows) (keptNodup key moved)]
  intro row
  rw [memKept, memKept, findReordered reordered]

theorem repeatedReordered (reordered : Reordered key rows moved) :
    (repeatedRows key rows).Perm (repeatedRows key moved) := by
  have left := sharedOut key [] rows
  have right := sharedOut key [] moved
  rw [firstsKept, repeatsRepeated] at left right
  have exchanged := (keptReordered reordered).symm.append_right (repeatedRows key rows)
  rw [← List.perm_append_left_iff (keptRows key moved)]
  exact exchanged.trans (left.trans (reordered.perm.trans right.symm))

theorem findPermuted {f : α → κ} (perm : rows.Perm moved) (apart : (rows.map f).Nodup) (k : κ) :
    rows.find? (f · == k) = moved.find? (f · == k) := by
  have there := (perm.map f).nodup_iff.mp apart
  apply Option.ext
  intro row
  rw [foundDistinct apart, foundDistinct there, perm.mem_iff]

section
variable {κ : Type} [DecidableEq κ] [Hashable κ] {rows moved : List (Named κ)}

def NamesApart (rows : List (Named κ)) : Prop := ((keptRows Named.key rows).map (·.name)).Nodup

instance : Decidable (NamesApart rows) :=
  inferInstanceAs (Decidable ((keptRows Named.key rows).map (·.name)).Nodup)

theorem Naming.nameReordered (reordered : Reordered Named.key rows moved) (key : κ) :
    (ofRows rows).name? key = (ofRows moved).name? key := by
  rw [nameOfRows, nameOfRows, findReordered reordered]

theorem Naming.keyReordered (reordered : Reordered Named.key rows moved) (apart : NamesApart rows)
    (name : String) : (ofRows rows).key? name = (ofRows moved).key? name := by
  rw [keyOfRows, keyOfRows, firstsKept, firstsKept,
    findPermuted (keptReordered reordered) apart]

end

theorem Placement.itemReordered {α : Type} {rows moved : List (Placed α)}
    (reordered : Reordered Placed.site rows moved) (site : Site) :
    (ofRows rows).item? site = (ofRows moved).item? site := by
  rw [itemOfRows, itemOfRows, findReordered reordered]

structure Rows.Reordered (rows moved : Rows) : Prop where
  instanceTypes : HeapTables.Reordered Named.key rows.instanceTypes moved.instanceTypes
  knownMaps : HeapTables.Reordered Placed.site rows.knownMaps moved.knownMaps
  knownObjects : HeapTables.Reordered Placed.site rows.knownObjects moved.knownObjects
  firstPages : HeapTables.Reordered Named.key rows.firstPages moved.firstPages
  frameMarkers : rows.frameMarkers = moved.frameMarkers

section
variable {rows moved : Rows}

theorem sameReordered (reordered : rows.Reordered moved) :
    Tables.SameByKey (.ofRows rows) (.ofRows moved) where
  types := Naming.nameReordered reordered.instanceTypes
  maps := Placement.itemReordered reordered.knownMaps
  objects := Placement.itemReordered reordered.knownObjects
  pages := Naming.nameReordered reordered.firstPages
  markers := congrArg FrameMarkers.ofNames reordered.frameMarkers

theorem backReordered (reordered : rows.Reordered moved) (types : NamesApart rows.instanceTypes)
    (pages : NamesApart rows.firstPages) :
    Tables.SameByName (.ofRows rows) (.ofRows moved) where
  types := Naming.keyReordered reordered.instanceTypes types
  pages := Naming.keyReordered reordered.firstPages pages

theorem statsReordered (reordered : rows.Reordered moved) :
    (Tables.ofRows rows).stats = (Tables.ofRows moved).stats := by
  have types := (keptReordered reordered.instanceTypes).length_eq
  have maps := (keptReordered reordered.knownMaps).length_eq
  have objects := (keptReordered reordered.knownObjects).length_eq
  have pages := (keptReordered reordered.firstPages).length_eq
  rw [statsOfRows, statsOfRows, types, maps, objects, pages, reordered.frameMarkers]

theorem danglingReordered (reordered : rows.Reordered moved) :
    (Tables.ofRows rows).danglingMaps.Perm (Tables.ofRows moved).danglingMaps := by
  have codes := (sameReordered reordered).types
  unfold Tables.danglingMaps
  simp only [codes]
  exact reordered.knownMaps.perm.filter _

theorem eventsReordered (reordered : rows.Reordered moved) :
    (Tables.build rows).events.Perm (Tables.build moved).events := by
  have types := (repeatedReordered reordered.instanceTypes).map Event.repeatedType
  have maps := (repeatedReordered reordered.knownMaps).map Event.repeatedMap
  have objects := (repeatedReordered reordered.knownObjects).map Event.repeatedObject
  have pages := (repeatedReordered reordered.firstPages).map Event.repeatedPage
  have summary : (Tables.ofRows rows).summary = (Tables.ofRows moved).summary := by
    unfold Tables.summary
    rw [statsReordered reordered, (danglingReordered reordered).length_eq]
  rw [eventsOfBuild, eventsOfBuild, summary]
  exact (((types.append maps).append objects).append pages).append_right _

theorem orderWithinKeys (reordered : rows.Reordered moved) :
    let t := (Tables.build rows).value
    let u := (Tables.build moved).value
    t.AnswersByKey u ∧ t.stats = u.stats ∧
    (Tables.build rows).events.Perm (Tables.build moved).events ∧
    t.danglingMaps.length = u.danglingMaps.length ∧
    (NamesApart rows.instanceTypes → NamesApart rows.firstPages → t.AnswersByName u) := by
  intro t u
  have same : t = .ofRows rows := Tables.valueOfBuild rows
  have other : u = .ofRows moved := Tables.valueOfBuild moved
  rw [same, other]
  exact ⟨Tables.answersByKey (sameReordered reordered), statsReordered reordered,
    eventsReordered reordered, (danglingReordered reordered).length_eq,
    fun types pages => Tables.answersByName (backReordered reordered types pages)⟩

end

def interleaved : Rows where
  instanceTypes := [⟨1, "A"⟩, ⟨2, "B"⟩, ⟨2, "A"⟩, ⟨1, "C"⟩, ⟨1, "B"⟩]
  knownMaps := [⟨⟨"old", 0x10⟩, ⟨9, "FirstMap"⟩⟩, ⟨⟨"new", 0x10⟩, ⟨1, "Other"⟩⟩,
    ⟨⟨"old", 0x10⟩, ⟨2, "LaterMap"⟩⟩]
  firstPages := [⟨0x40000, "old"⟩, ⟨0x80000, "new"⟩, ⟨0x40000, "new"⟩]
  frameMarkers := ["X", "Y", "X"]

def grouped : Rows where
  instanceTypes := [⟨2, "B"⟩, ⟨2, "A"⟩, ⟨1, "A"⟩, ⟨1, "C"⟩, ⟨1, "B"⟩]
  knownMaps := [⟨⟨"new", 0x10⟩, ⟨1, "Other"⟩⟩, ⟨⟨"old", 0x10⟩, ⟨9, "FirstMap"⟩⟩,
    ⟨⟨"old", 0x10⟩, ⟨2, "LaterMap"⟩⟩]
  firstPages := [⟨0x80000, "new"⟩, ⟨0x40000, "old"⟩, ⟨0x40000, "new"⟩]
  frameMarkers := ["X", "Y", "X"]

theorem interleavedGrouped :
    let t := (Tables.build interleaved).value
    let u := (Tables.build grouped).value
    interleaved.Reordered grouped ∧ NamesApart interleaved.instanceTypes ∧
    NamesApart interleaved.firstPages ∧
    (u.typeName 1).answer = .ok "A" ∧ (t.typeName 1).answer = .ok "A" ∧
    (u.typeCode "A").answer = .ok 1 ∧ t.typeCode "A" = u.typeCode "A" ∧
    t.describe 0x40010 = u.describe 0x40010 ∧
    (Tables.build interleaved).events.Perm (Tables.build grouped).events := by
  intro t u
  have reordered : interleaved.Reordered grouped :=
    ⟨by decide, by decide, by decide, by decide, rfl⟩
  have types : NamesApart interleaved.instanceTypes := by decide
  have pages : NamesApart interleaved.firstPages := by decide
  obtain ⟨byKey, _, events, _, byName⟩ := orderWithinKeys reordered
  have name : (u.typeName 1).answer = .ok "A" := Tables.typeNameOk.mpr ⟨2, by decide⟩
  have code : (u.typeCode "A").answer = .ok 1 := Tables.typeCodeOk.mpr ⟨2, by decide⟩
  refine ⟨reordered, types, pages, name, ?_, code, (byName types pages).typeCode "A",
    byKey.describe 0x40010, events⟩
  rw [byKey.typeName 1]
  exact name

end HeapTables
