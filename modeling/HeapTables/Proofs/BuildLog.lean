import HeapTables.Tables
import HeapTables.Proofs.SetAside

/-! The report of building tables, row for row. Every row whose key stood before is
reported once, in row order and table by table, and no other row is; the counts come
last. So rows, kept entries and reports always add up. -/
namespace HeapTables

def Rows.count (rows : Rows) : Table → Nat
  | .instanceTypes => rows.instanceTypes.length
  | .knownMaps => rows.knownMaps.length
  | .knownObjects => rows.knownObjects.length
  | .firstPages => rows.firstPages.length
  | .frameMarkers => rows.frameMarkers.length

def Stats.count (stats : Stats) : Table → Nat
  | .instanceTypes => stats.instanceTypes
  | .knownMaps => stats.knownMaps
  | .knownObjects => stats.knownObjects
  | .firstPages => stats.firstPages
  | .frameMarkers => stats.frameMarkers

namespace Event

def setAside : Event → Option Table
  | .repeatedType _ => some .instanceTypes
  | .repeatedMap _ => some .knownMaps
  | .repeatedObject _ => some .knownObjects
  | .repeatedPage _ => some .firstPages
  | .built _ | .dangling _ | .missed _ => none

def line (e : Event) : Level × String := (e.level, e.message)

def warnings (log : List Event) (table : Table) : List Event :=
  log.filter (fun e => e.level = .warn ∧ e.setAside = some table)

end Event

def Rows.repeatEvents (rows : Rows) : List Event :=
  (repeatedRows Named.key rows.instanceTypes).map .repeatedType ++
  (repeatedRows Placed.site rows.knownMaps).map .repeatedMap ++
  (repeatedRows Placed.site rows.knownObjects).map .repeatedObject ++
  (repeatedRows Named.key rows.firstPages).map .repeatedPage

def Tables.summary (t : Tables) : List Event :=
  .built t.stats :: if 0 < t.danglingMaps.length then [.dangling t.danglingMaps.length] else []

theorem eventsOfBuild (rows : Rows) :
    (Tables.build rows).events = rows.repeatEvents ++ (Tables.ofRows rows).summary := by
  have types := (Naming.repeatsOfRows rows.instanceTypes).trans (repeatsRepeated _ _)
  have maps := (Placement.repeatsOfRows rows.knownMaps).trans (repeatsRepeated _ _)
  have objects := (Placement.repeatsOfRows rows.knownObjects).trans (repeatsRepeated _ _)
  have pages := (Naming.repeatsOfRows rows.firstPages).trans (repeatsRepeated _ _)
  have counts : (Tables.ofRows rows).summary = [.built (Tables.ofRows rows).stats] ++
      if (Tables.ofRows rows).danglingMaps.isEmpty then []
      else [.dangling (Tables.ofRows rows).danglingMaps.length] := by
    unfold Tables.summary
    cases (Tables.ofRows rows).danglingMaps <;> rfl
  unfold Tables.build Tables.buildEvents
  rw [counts, Rows.repeatEvents, ← types, ← maps, ← objects, ← pages, ← List.append_assoc]
  rfl

theorem summaryFiltered (t : Tables) {wanted : Event → Bool}
    (warns : ∀ e, wanted e = true → e.level = .warn) : t.summary.filter wanted = [] := by
  apply List.filter_eq_nil_iff.mpr
  intro e mem want
  have level := warns e want
  unfold Tables.summary at mem
  rcases List.mem_cons.mp mem with rfl | last
  · cases level
  · split at last
    · cases List.mem_singleton.mp last
      cases level
    · cases last

theorem statsOfRows (rows : Rows) : (Tables.ofRows rows).stats =
    { instanceTypes := (keptRows Named.key rows.instanceTypes).length
      knownMaps := (keptRows Placed.site rows.knownMaps).length
      knownObjects := (keptRows Placed.site rows.knownObjects).length
      firstPages := (keptRows Named.key rows.firstPages).length
      frameMarkers := rows.frameMarkers.length } := by
  simp only [← firstsKept, ← Naming.sizeOfRows, ← Placement.sizeOfRows]
  rfl

theorem warningsOfRows {α : Type} {report : α → Event} {owner : Table}
    (level : ∀ row, (report row).level = .warn)
    (reported : ∀ row, (report row).setAside = some owner) (rows : List α) (table : Table) :
    Event.warnings (rows.map report) table = if owner = table then rows.map report else [] := by
  unfold Event.warnings
  split
  · next same =>
    apply List.filter_eq_self.mpr
    intro e mem
    obtain ⟨row, _, rfl⟩ := List.mem_map.mp mem
    simp [level, reported, same]
  · next other =>
    apply List.filter_eq_nil_iff.mpr
    intro e mem
    obtain ⟨row, _, rfl⟩ := List.mem_map.mp mem
    simp [reported, other]

theorem Event.warningsAppend (log later : List Event) (table : Table) :
    warnings (log ++ later) table = warnings log table ++ warnings later table :=
  List.filter_append log later

theorem warningsOfBuild (rows : Rows) (table : Table) :
    Event.warnings (Tables.build rows).events table =
      Event.warnings ((repeatedRows Named.key rows.instanceTypes).map .repeatedType) table ++
      Event.warnings ((repeatedRows Placed.site rows.knownMaps).map .repeatedMap) table ++
      Event.warnings ((repeatedRows Placed.site rows.knownObjects).map .repeatedObject) table ++
      Event.warnings ((repeatedRows Named.key rows.firstPages).map .repeatedPage) table := by
  have summary : Event.warnings (Tables.ofRows rows).summary table = [] :=
    summaryFiltered _ (by simp +contextual)
  rw [eventsOfBuild, Event.warningsAppend, summary, List.append_nil, Rows.repeatEvents]
  simp only [Event.warningsAppend]

theorem conserved (rows : Rows) (table : Table) : rows.count table =
    (Tables.ofRows rows).stats.count table +
      (Event.warnings (Tables.build rows).events table).length := by
  have types := keptAndRepeated Named.key rows.instanceTypes
  have maps := keptAndRepeated Placed.site rows.knownMaps
  have objects := keptAndRepeated Placed.site rows.knownObjects
  have pages := keptAndRepeated Named.key rows.firstPages
  rw [warningsOfBuild, statsOfRows, warningsOfRows (fun _ => rfl) (fun _ => rfl),
    warningsOfRows (fun _ => rfl) (fun _ => rfl), warningsOfRows (fun _ => rfl) (fun _ => rfl),
    warningsOfRows (fun _ => rfl) (fun _ => rfl)]
  cases table with
  | instanceTypes => simpa [Rows.count, Stats.count] using types.symm
  | knownMaps => simpa [Rows.count, Stats.count] using maps.symm
  | knownObjects => simpa [Rows.count, Stats.count] using objects.symm
  | firstPages => simpa [Rows.count, Stats.count] using pages.symm
  | frameMarkers => simp [Rows.count, Stats.count]

theorem buildLogAccounts (rows : Rows) :
    let t := (Tables.build rows).value
    let log := (Tables.build rows).events
    log.map Event.line =
      (repeatedRows Named.key rows.instanceTypes).map (fun row => (.warn,
        "Duplicate instance type code " ++ toString row.key.toNat ++ " (" ++ row.name ++
        ") ignored")) ++
      (repeatedRows Placed.site rows.knownMaps).map (fun row => (.warn,
        "Duplicate known map at " ++ row.site.text ++ " ignored")) ++
      (repeatedRows Placed.site rows.knownObjects).map (fun row => (.warn,
        "Duplicate known object at " ++ row.site.text ++ " ignored")) ++
      (repeatedRows Named.key rows.firstPages).map (fun row => (.warn,
        "Duplicate first page " ++ pageText row.key ++ " (" ++ row.name ++ ") ignored")) ++
      ([(.debug, "Built constant tables: " ++ toString t.stats.instanceTypes ++
        " instance types, " ++ toString t.stats.knownMaps ++ " known maps, " ++
        toString t.stats.knownObjects ++ " known objects, " ++ toString t.stats.firstPages ++
        " first pages, " ++ toString t.stats.frameMarkers ++ " frame markers")] ++
      if 0 < t.danglingMaps.length then [(.debug, toString t.danglingMaps.length ++
        " known maps reference unlisted instance types")] else []) ∧
    (∀ site : Site, ∃ digits, Text.Padded 5 site.offset.toNat digits ∧
      site.text = "(" ++ site.space ++ ", 0x" ++ digits ++ ")") ∧
    (∀ page : UInt32, ∃ digits, Text.Padded 8 page.toNat digits ∧
      pageText page = "0x" ++ digits) ∧
    ∀ table, rows.count table = t.stats.count table + (Event.warnings log table).length := by
  intro t log
  have same : t = .ofRows rows := Tables.valueOfBuild rows
  have events : log = rows.repeatEvents ++ t.summary := same ▸ eventsOfBuild rows
  refine ⟨?_, siteText, pageDigits, same ▸ conserved rows⟩
  rw [events, List.map_append]
  congr 1
  · unfold Rows.repeatEvents
    simp only [List.map_append, List.map_map]
    rfl
  · unfold Tables.summary
    split
    · rfl
    · rfl

end HeapTables
