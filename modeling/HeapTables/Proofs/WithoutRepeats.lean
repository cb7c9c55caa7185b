import HeapTables.Proofs.Agreement
import HeapTables.Proofs.BuildLog

/-! Rows without the repeats among them. Leaving out every row that is reported as set
aside changes no lookup in either direction, no count, no label and no report of a
miss: only the report of building gets shorter, and no second pass finds anything. -/
namespace HeapTables

def Rows.withoutRepeats (rows : Rows) : Rows where
  instanceTypes := keptRows Named.key rows.instanceTypes
  knownMaps := keptRows Placed.site rows.knownMaps
  knownObjects := keptRows Placed.site rows.knownObjects
  firstPages := keptRows Named.key rows.firstPages
  frameMarkers := rows.frameMarkers

theorem findKept {α κ : Type} [DecidableEq κ] {key : α → κ} (rows : List α) (k : κ) :
    (keptRows key rows).find? (key · == k) = rows.find? (key · == k) := by
  rw [← firstsKept, findFirsts (by simp)]

section
variable {κ : Type} [DecidableEq κ] [Hashable κ]

theorem Naming.nameKept (rows : List (Named κ)) (key : κ) :
    (ofRows (keptRows Named.key rows)).name? key = (ofRows rows).name? key := by
  rw [nameOfRows, nameOfRows, findKept]

theorem Naming.keyKept (rows : List (Named κ)) (name : String) :
    (ofRows (keptRows Named.key rows)).key? name = (ofRows rows).key? name := by
  rw [keyOfRows, keyOfRows, firstsKept, firstsKept, keptKept]

end

theorem Placement.itemKept {α : Type} (rows : List (Placed α)) (site : Site) :
    (ofRows (keptRows Placed.site rows)).item? site = (ofRows rows).item? site := by
  rw [itemOfRows, itemOfRows, findKept]

theorem sameWithoutRepeats (rows : Rows) :
    Tables.SameByKey (.ofRows rows.withoutRepeats) (.ofRows rows) where
  types := Naming.nameKept rows.instanceTypes
  maps := Placement.itemKept rows.knownMaps
  objects := Placement.itemKept rows.knownObjects
  pages := Naming.nameKept rows.firstPages
  markers := rfl

theorem backWithoutRepeats (rows : Rows) :
    Tables.SameByName (.ofRows rows.withoutRepeats) (.ofRows rows) where
  types := Naming.keyKept rows.instanceTypes
  pages := Naming.keyKept rows.firstPages

theorem withoutRepeatsTwice (rows : Rows) :
    rows.withoutRepeats.withoutRepeats = rows.withoutRepeats := by
  unfold Rows.withoutRepeats
  simp only [keptKept]

theorem statsWithoutRepeats (rows : Rows) :
    (Tables.ofRows rows.withoutRepeats).stats = (Tables.ofRows rows).stats := by
  rw [statsOfRows, statsOfRows]
  simp only [Rows.withoutRepeats, keptKept]

theorem noRepeatEvents (rows : Rows) : rows.withoutRepeats.repeatEvents = [] := by
  unfold Rows.repeatEvents Rows.withoutRepeats
  simp only [repeatedKept, List.map_nil, List.append_nil]

theorem danglingWithoutRepeats (rows : Rows) :
    (Tables.ofRows rows.withoutRepeats).danglingMaps.Sublist
      (Tables.ofRows rows).danglingMaps := by
  have codes := (sameWithoutRepeats rows).types
  unfold Tables.danglingMaps
  simp only [codes]
  exact (keptSublist Placed.site rows.knownMaps).filter _

theorem repeatsCarryNothing (rows : Rows) :
    let t := (Tables.build rows).value
    let u := (Tables.build rows.withoutRepeats).value
    (Tables.build rows.withoutRepeats).events.filter (·.level = .warn) = [] ∧
    u.AnswersByKey t ∧ u.AnswersByName t ∧ u.stats = t.stats ∧
    u.danglingMaps.Sublist t.danglingMaps ∧
    rows.withoutRepeats.withoutRepeats = rows.withoutRepeats := by
  intro t u
  have same : t = .ofRows rows := Tables.valueOfBuild rows
  have kept : u = .ofRows rows.withoutRepeats := Tables.valueOfBuild rows.withoutRepeats
  rw [same, kept, eventsOfBuild, noRepeatEvents, List.nil_append]
  exact ⟨summaryFiltered _ (by simp), Tables.answersByKey (sameWithoutRepeats rows),
    Tables.answersByName (backWithoutRepeats rows), statsWithoutRepeats rows,
    danglingWithoutRepeats rows, withoutRepeatsTwice rows⟩

end HeapTables
