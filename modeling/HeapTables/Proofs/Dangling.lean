import HeapTables.Proofs.AddressMap

/-! Known maps whose type is not listed, in the report and in labels. The report reads all rows,
repeats included; a label reads the row that answers. So a row set aside may be reported and never
be read, while a row that answers is reported exactly if its label has no type to give. Apart from
the type, the label of a map is how the map is displayed. -/
namespace HeapTables

structure LabelAgrees (t : Tables) (address : UInt64) : Prop where
  map : ∀ r m, (t.classify address).answer = .ok r → r.entry = .map m →
    ∃ front type, r.display = front ++ ")" ∧
      (t.describe address).value = front ++ " " ++ type ++ ")" ∧
      (∀ name, (t.typeName m.instanceType).answer = .ok name → type = name) ∧
      (type = "UNKNOWN_TYPE" ↔ ⟨r.site, m⟩ ∈ t.danglingMaps ∨
        (t.typeName m.instanceType).answer = .ok "UNKNOWN_TYPE")
  object : ∀ r name, (t.classify address).answer = .ok r → r.entry = .object name →
    (t.describe address).value = r.display
  unresolved : ∀ miss, (t.classify address).answer = .error miss →
    ∃ digits, Text.Padded 8 address.toUInt32.toNat digits ∧ digits.length = 8 ∧
      (t.describe address).value = "0x" ++ digits ++ ": UNKNOWN_MAP"

structure ReportsDangling (rows : Rows) (t : Tables) : Prop where
  listed : t.rows = rows
  report : t.danglingMaps =
    rows.knownMaps.filter (fun row => !(t.typeName row.item.instanceType).answer.isOk)
  unlisted : ∀ row, row ∈ t.danglingMaps ↔ row ∈ rows.knownMaps ∧
    ∀ type ∈ rows.instanceTypes, type.key ≠ row.item.instanceType
  labels : ∀ address, LabelAgrees t address
  siteTypes : t.danglingMaps = [] → ∀ site m, (t.mapAt site).answer = .ok m →
    ∃ name, (t.typeName m.instanceType).answer = .ok name
  addressTypes : t.danglingMaps = [] → ∀ address r m, (t.classify address).answer = .ok r →
    r.entry = .map m → ∃ name, (t.typeName m.instanceType).answer = .ok name

namespace Tables
variable {t : Tables} {rows : Rows} {site : Site} {address : UInt64} {r : Resolved} {m : KnownMap}

theorem memDangling {row : Placed KnownMap} : row ∈ t.danglingMaps ↔
    row ∈ t.rows.knownMaps ∧ t.types.name? row.item.instanceType = none := by
  rw [danglingMaps, List.mem_filter, Option.isNone_iff_eq_none]

theorem unlistedAnswer (t : Tables) (code : UInt16) :
    (t.types.name? code).isNone = !(t.typeName code).answer.isOk := by
  unfold typeName
  cases t.types.name? code <;> rfl

theorem typeNamed {code : UInt16} {name : String} (listed : (t.typeName code).answer = .ok name) :
    t.typeNameOrUnknown code = name := by
  rw [typeNameOrUnknown, Lookup.answerFoundOk.mp listed]
  rfl

theorem typeUnknown {code : UInt16} : t.typeNameOrUnknown code = "UNKNOWN_TYPE" ↔
    t.types.name? code = none ∨ (t.typeName code).answer = .ok "UNKNOWN_TYPE" := by
  unfold typeNameOrUnknown typeName
  cases t.types.name? code with
  | none => simp [unknownType]
  | some name => simp

theorem mapListed (found : ((ofRows rows).mapAt site).answer = .ok m) :
    ⟨site, m⟩ ∈ rows.knownMaps := by
  obtain ⟨position, accepted⟩ := mapAtOk.mp found
  exact List.mem_of_getElem? accepted.here

theorem mapResolved (answered : (t.classify address).answer = .ok r) (kind : r.entry = .map m) :
    (t.mapAt r.site).answer = .ok m := by
  have found := (classifyOk.mp answered).2.2.2
  rw [kind] at found
  exact entryMap.mp found

theorem danglingAnswered (found : ((ofRows rows).mapAt site).answer = .ok m) :
    ⟨site, m⟩ ∈ (ofRows rows).danglingMaps ↔ (ofRows rows).types.name? m.instanceType = none :=
  memDangling.trans (and_iff_right (mapListed found))

theorem typeOfAnswered (clean : (ofRows rows).danglingMaps = [])
    (found : ((ofRows rows).mapAt site).answer = .ok m) :
    ∃ name, ((ofRows rows).typeName m.instanceType).answer = .ok name := by
  cases type : (ofRows rows).types.name? m.instanceType with
  | some name => exact ⟨name, Lookup.answerFoundOk.mpr type⟩
  | none =>
    have reported := (danglingAnswered found).mpr type
    rw [clean] at reported
    cases reported

theorem noneDangling (tidy : rows.Tidy) : (ofRows rows).danglingMaps = [] := by
  apply List.eq_nil_iff_forall_not_mem.mpr
  intro row reported
  obtain ⟨mem, absent⟩ := memDangling.mp reported
  obtain ⟨type, listed, same⟩ := tidy.mapTypes row mem
  exact Naming.nameNone.mp absent type listed same

theorem mapDisplay (kind : r.entry = .map m) : ∃ front, r.display = front ++ ")" ∧
    t.label r = front ++ " " ++ t.typeNameOrUnknown m.instanceType ++ ")" := by
  refine ⟨r.site.label ++ m.name ++ " (" ++ codeText m.instanceType, ?_, ?_⟩
  · simp only [Resolved.display, kind, Entry.display, KnownMap.display, codeText,
      String.append_assoc]
  · simp only [label, kind]

end Tables

theorem labelAgrees (rows : Rows) (address : UInt64) : LabelAgrees (.ofRows rows) address where
  map := by
    intro r m answered kind
    have found := Tables.mapResolved answered kind
    obtain ⟨front, display, label⟩ := Tables.mapDisplay (t := .ofRows rows) kind
    refine ⟨front, _, display, (Tables.describeOk answered).trans label, ?_, ?_⟩
    · intro name listed
      exact Tables.typeNamed listed
    · rw [Tables.danglingAnswered found]
      exact Tables.typeUnknown
  object := by
    intro r name answered kind
    rw [Tables.describeOk answered, Tables.label, kind]
  unresolved := by
    intro miss missed
    exact labelOfMiss missed

theorem danglingAgrees (rows : Rows) : ReportsDangling rows (.ofRows rows) where
  listed := Tables.rowsOfRows rows
  report := by
    unfold Tables.danglingMaps
    simp only [Tables.rowsOfRows, Tables.unlistedAnswer]
  unlisted := by
    intro row
    exact Tables.memDangling.trans (and_congr_right' Naming.nameNone)
  labels := labelAgrees rows
  siteTypes := by
    intro clean site m found
    exact Tables.typeOfAnswered clean found
  addressTypes := by
    intro clean address r m answered kind
    exact Tables.typeOfAnswered clean (Tables.mapResolved answered kind)

def danglingTypes : Rows where
  instanceTypes := [⟨1, "A"⟩, ⟨2, "UNKNOWN_TYPE"⟩]
  knownMaps := [⟨⟨"old", 0x10⟩, ⟨9, "Dangling"⟩⟩, ⟨⟨"old", 0x20⟩, ⟨1, "Listed"⟩⟩,
    ⟨⟨"old", 0x20⟩, ⟨9, "Shadowed"⟩⟩, ⟨⟨"old", 0x30⟩, ⟨2, "Named"⟩⟩]
  firstPages := [⟨0x40000, "old"⟩]

theorem danglingTypesRead :
    let t := Tables.ofRows danglingTypes
    ⟨⟨"old", 0x10⟩, ⟨9, "Dangling"⟩⟩ ∈ t.danglingMaps ∧
    ⟨⟨"old", 0x20⟩, ⟨9, "Shadowed"⟩⟩ ∈ t.danglingMaps ∧
    ⟨⟨"old", 0x30⟩, ⟨2, "Named"⟩⟩ ∉ t.danglingMaps ∧
    (t.classify 0x40020).answer = .ok ⟨⟨"old", 0x20⟩, 0x40020, .map ⟨1, "Listed"⟩⟩ ∧
    (∃ front, (⟨⟨"old", 0x20⟩, 0x40020, .map ⟨1, "Listed"⟩⟩ : Resolved).display = front ++ ")" ∧
      (t.describe 0x40020).value = front ++ " " ++ "A" ++ ")") ∧
    Shipped.tables.danglingMaps = [] ∧
    ∀ site m, (Shipped.tables.mapAt site).answer = .ok m →
      ∃ name, (Shipped.tables.typeName m.instanceType).answer = .ok name := by
  intro t
  have laws : ReportsDangling danglingTypes t := danglingAgrees danglingTypes
  have known : (t.pageSpace 0x40000).answer = .ok "old" := Tables.pageSpaceOk.mpr ⟨0, by decide⟩
  have found : (t.mapAt ⟨"old", 0x20⟩).answer = .ok ⟨1, "Listed"⟩ :=
    Tables.mapAtOk.mpr ⟨1, by decide⟩
  have answered : (t.classify 0x40020).answer =
      .ok ⟨⟨"old", 0x20⟩, 0x40020, .map ⟨1, "Listed"⟩⟩ :=
    Tables.classifyOk.mpr ⟨known, rfl, rfl, Tables.entryMap.mpr found⟩
  have listed : (t.typeName 1).answer = .ok "A" :=
    Tables.typeNameOk.mpr ⟨0, by decide⟩
  obtain ⟨front, type, display, label, named, _⟩ := (laws.labels 0x40020).map _ _ answered rfl
  cases named "A" listed
  have shipped : ReportsDangling Shipped.rows Shipped.tables := danglingAgrees Shipped.rows
  have clean : Shipped.tables.danglingMaps = [] := Tables.noneDangling shippedTidy
  exact ⟨(laws.unlisted _).mpr (by decide), (laws.unlisted _).mpr (by decide),
    (laws.unlisted _).not.mpr (by decide), answered, ⟨front, display, label⟩, clean,
    shipped.siteTypes clean⟩

end HeapTables
