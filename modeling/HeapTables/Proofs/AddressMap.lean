import HeapTables.Proofs.Canonical
import HeapTables.Proofs.Inverse

/-! The map of all addresses over tidy rows. An address resolves exactly where the site of a
row has its lower 32 bits for an address, one row of each list at most; a map is what it
resolves to where both lists have one. Its label gives the type that is listed for a map, and
no map's type is missing. The shipped rows are tidy, so this is their address map. -/
namespace HeapTables

def Tables.StandsFor (t : Tables) (site : Site) (address : UInt64) : Prop :=
  (t.absoluteAddress site).answer = .ok address.toUInt32

structure Charted (rows : Rows) (t : Tables) (address : UInt64) : Prop where
  resolves : (∃ r, (t.classify address).answer = .ok r) ↔
    (∃ row ∈ rows.knownMaps, t.StandsFor row.site address) ∨
      ∃ row ∈ rows.knownObjects, t.StandsFor row.site address
  oneMap : ∀ (i j : Nat) (row other : Placed KnownMap),
    rows.knownMaps[i]? = some row → rows.knownMaps[j]? = some other →
    t.StandsFor row.site address → t.StandsFor other.site address → i = j
  oneObject : ∀ (i j : Nat) (row other : Placed String),
    rows.knownObjects[i]? = some row → rows.knownObjects[j]? = some other →
    t.StandsFor row.site address → t.StandsFor other.site address → i = j
  map : ∀ row ∈ rows.knownMaps, t.StandsFor row.site address →
    (t.classify address).answer = .ok ⟨row.site, address.toUInt32, .map row.item⟩
  object : (∀ row ∈ rows.knownMaps, ¬t.StandsFor row.site address) →
    ∀ row ∈ rows.knownObjects, t.StandsFor row.site address →
      (t.classify address).answer = .ok ⟨row.site, address.toUInt32, .object row.item⟩
  mapLabel : ∀ r m, (t.classify address).answer = .ok r → r.entry = .map m →
    ∃ digits type, Text.Padded 1 r.site.offset.toNat digits ∧
      ⟨m.instanceType, type⟩ ∈ rows.instanceTypes ∧
      (∀ row ∈ rows.instanceTypes, row.key = m.instanceType → row.name = type) ∧
      type ≠ "UNKNOWN_TYPE" ∧
      (t.describe address).value = r.site.space ++ "+0x" ++ digits ++ ": " ++ m.name ++ " (" ++
        toString m.instanceType.toNat ++ " " ++ type ++ ")"
  objectLabel : ∀ r name, (t.classify address).answer = .ok r → r.entry = .object name →
    ∃ digits, Text.Padded 1 r.site.offset.toNat digits ∧
      (t.describe address).value = r.site.space ++ "+0x" ++ digits ++ ": " ++ name
  unresolvedLabel : ∀ miss, (t.classify address).answer = .error miss →
    ∃ digits, Text.Padded 8 address.toUInt32.toNat digits ∧ digits.length = 8 ∧
      (t.describe address).value = "0x" ++ digits ++ ": UNKNOWN_MAP"

theorem Placement.itemOfRow {α : Type} {rows : List (Placed α)} {row : Placed α}
    (sites : (rows.map Placed.site).Nodup) (mem : row ∈ rows) :
    (ofRows rows).item? row.site = some row.item := by
  rw [itemOfRows, (foundDistinct sites).mpr ⟨mem, rfl⟩]
  rfl

theorem Naming.nameOfRow {κ : Type} [DecidableEq κ] [Hashable κ] {rows : List (Named κ)}
    {row : Named κ} (keys : (rows.map Named.key).Nodup) (mem : row ∈ rows) :
    (ofRows rows).name? row.key = some row.name := by
  rw [nameOfRows, (foundDistinct keys).mpr ⟨mem, rfl⟩]
  rfl

theorem onePosition {α κ : Type} {key : α → κ} {rows : List α} {i j : Nat} {row other : α}
    (keys : (rows.map key).Nodup) (here : rows[i]? = some row) (there : rows[j]? = some other)
    (same : key row = key other) : i = j := by
  have left : (rows.map key)[i]? = some (key row) := by rw [List.getElem?_map, here]; rfl
  have right : (rows.map key)[j]? = some (key row) := by rw [List.getElem?_map, there, same]; rfl
  have inside := (List.getElem?_eq_some_iff.mp left).1
  exact (List.getElem?_inj inside keys).mp (left.trans right.symm)

section
variable {rows : Rows} {address : UInt64} {site other : Site} {r : Resolved}

theorem splitOfSite (tidy : rows.Tidy) (inside : InPage site.offset)
    (stands : (Tables.ofRows rows).StandsFor site address) :
    ∃ page, splitAddress address = (page, site.offset) ∧
      ((Tables.ofRows rows).pageSpace page).answer = .ok site.space := by
  obtain ⟨page, first, sum⟩ := Tables.absoluteOk.mp stands
  obtain ⟨position, earliest⟩ := Tables.firstPageOk.mp first
  have aligned := tidy.aligned _ (List.mem_of_getElem? earliest.accepted.here)
  exact ⟨page, splitOfSum aligned inside sum, Tables.pageSpaceOfFirst first⟩

theorem oneSite (tidy : rows.Tidy) (inside : InPage site.offset) (insideOther : InPage other.offset)
    (stands : (Tables.ofRows rows).StandsFor site address)
    (standsOther : (Tables.ofRows rows).StandsFor other address) : site = other := by
  obtain ⟨page, split, known⟩ := splitOfSite tidy inside stands
  obtain ⟨_, splitOther, knownOther⟩ := splitOfSite tidy insideOther standsOther
  obtain ⟨space, offset⟩ := site
  obtain ⟨spaceOther, offsetOther⟩ := other
  cases split.symm.trans splitOther
  cases known.symm.trans knownOther
  rfl

theorem oneRow {α : Type} {placed : List (Placed α)} {i j : Nat} {row last : Placed α}
    (tidy : rows.Tidy) (sites : (placed.map Placed.site).Nodup)
    (inPage : ∀ row ∈ placed, InPage row.site.offset)
    (here : placed[i]? = some row) (there : placed[j]? = some last)
    (stands : (Tables.ofRows rows).StandsFor row.site address)
    (standsLast : (Tables.ofRows rows).StandsFor last.site address) : i = j := by
  have inside := inPage row (List.mem_of_getElem? here)
  have insideLast := inPage last (List.mem_of_getElem? there)
  exact onePosition sites here there (oneSite tidy inside insideLast stands standsLast)

theorem standsOfResolved (tidy : rows.Tidy)
    (answered : ((Tables.ofRows rows).classify address).answer = .ok r) :
    (Tables.ofRows rows).StandsFor r.site address := by
  obtain ⟨known, low, _⟩ := Tables.classifyOk.mp answered
  have pages := Tables.pagesInverse.mpr (apartOfNames tidy.spaces)
  have first := (pages _ _).mp known
  have total := (addInPage (splitAligned address) (splitInPage address)).2
  rw [splitSum, ← low] at total
  refine Tables.absoluteOk.mpr ⟨_, first, UInt32.toNat_inj.mp ?_⟩
  rw [total, UInt64.toNat_toUInt32]

theorem mapResolves (tidy : rows.Tidy) {row : Placed KnownMap} (mem : row ∈ rows.knownMaps)
    (stands : (Tables.ofRows rows).StandsFor row.site address) :
    ((Tables.ofRows rows).classify address).answer =
      .ok ⟨row.site, address.toUInt32, .map row.item⟩ := by
  obtain ⟨page, split, known⟩ := splitOfSite tidy (tidy.mapsInPage row mem) stands
  have found : ((Tables.ofRows rows).mapAt row.site).answer = .ok row.item :=
    Lookup.answerFoundOk.mpr (Placement.itemOfRow tidy.mapSites mem)
  exact (answersAt split known).map _ found

theorem objectResolves (tidy : rows.Tidy) {row : Placed String} (mem : row ∈ rows.knownObjects)
    (stands : (Tables.ofRows rows).StandsFor row.site address)
    (noMap : ∀ map ∈ rows.knownMaps, ¬(Tables.ofRows rows).StandsFor map.site address) :
    ((Tables.ofRows rows).classify address).answer =
      .ok ⟨row.site, address.toUInt32, .object row.item⟩ := by
  obtain ⟨page, split, known⟩ := splitOfSite tidy (tidy.objectsInPage row mem) stands
  have found : ((Tables.ofRows rows).objectAt row.site).answer = .ok row.item :=
    Lookup.answerFoundOk.mpr (Placement.itemOfRow tidy.objectSites mem)
  have absent : ∀ map ∈ rows.knownMaps, map.site ≠ row.site :=
    fun map listed same => noMap map listed (same ▸ stands)
  obtain ⟨hidden, missed⟩ := Tables.mapAtError.mpr absent
  exact (answersAt split known).object _ _ missed found

theorem rowOfResolved (tidy : rows.Tidy)
    (answered : ((Tables.ofRows rows).classify address).answer = .ok r) :
    (∃ row ∈ rows.knownMaps, (Tables.ofRows rows).StandsFor row.site address) ∨
      ∃ row ∈ rows.knownObjects, (Tables.ofRows rows).StandsFor row.site address := by
  have stands := standsOfResolved tidy answered
  have listed := entryListed (Tables.classifyOk.mp answered).2.2.2
  cases kind : r.entry with
  | map m =>
    rw [kind] at listed
    obtain ⟨position, accepted⟩ := listed
    exact Or.inl ⟨_, List.mem_of_getElem? accepted.here, stands⟩
  | object name =>
    rw [kind] at listed
    obtain ⟨_, position, accepted⟩ := listed
    exact Or.inr ⟨_, List.mem_of_getElem? accepted.here, stands⟩

theorem resolvesIff (tidy : rows.Tidy) :
    (∃ r, ((Tables.ofRows rows).classify address).answer = .ok r) ↔
      (∃ row ∈ rows.knownMaps, (Tables.ofRows rows).StandsFor row.site address) ∨
        ∃ row ∈ rows.knownObjects, (Tables.ofRows rows).StandsFor row.site address := by
  constructor
  · intro ⟨r, answered⟩
    exact rowOfResolved tidy answered
  · intro stands
    -- An object answers only where no map does, also where the rows have both.
    by_cases mapped : ∃ row ∈ rows.knownMaps, (Tables.ofRows rows).StandsFor row.site address
    · obtain ⟨row, mem, here⟩ := mapped
      exact ⟨_, mapResolves tidy mem here⟩
    · obtain ⟨row, mem, here⟩ := stands.resolve_left mapped
      have alone : ∀ map ∈ rows.knownMaps, ¬(Tables.ofRows rows).StandsFor map.site address :=
        fun map listed hides => mapped ⟨map, listed, hides⟩
      exact ⟨_, objectResolves tidy mem here alone⟩

theorem labelOfMap (tidy : rows.Tidy) {m : KnownMap} (kind : r.entry = .map m)
    (answered : ((Tables.ofRows rows).classify address).answer = .ok r) :
    ∃ digits type, Text.Padded 1 r.site.offset.toNat digits ∧
      ⟨m.instanceType, type⟩ ∈ rows.instanceTypes ∧
      (∀ row ∈ rows.instanceTypes, row.key = m.instanceType → row.name = type) ∧
      type ≠ "UNKNOWN_TYPE" ∧
      ((Tables.ofRows rows).describe address).value = r.site.space ++ "+0x" ++ digits ++ ": " ++
        m.name ++ " (" ++ toString m.instanceType.toNat ++ " " ++ type ++ ")" := by
  have listed := entryListed (Tables.classifyOk.mp answered).2.2.2
  rw [kind] at listed
  obtain ⟨position, accepted⟩ := listed
  obtain ⟨⟨code, type⟩, mem, same⟩ := tidy.mapTypes _ (List.mem_of_getElem? accepted.here)
  cases same
  have named := Naming.nameOfRow tidy.codes mem
  have label : (Tables.ofRows rows).typeNameOrUnknown m.instanceType = type :=
    congrArg (Option.getD · unknownType) named
  refine ⟨_, type, Text.shortestHex _, mem, ?_, ?_, ?_⟩
  · intro row inside code
    have other := Naming.nameOfRow tidy.codes inside
    rw [code, named] at other
    exact (Option.some.inj other).symm
  · intro unknown
    have reused : type ∈ rows.instanceTypes.map Named.name :=
      List.mem_map.mpr ⟨_, mem, rfl⟩
    rw [unknown] at reused
    exact (List.nodup_cons.mp tidy.typeNames).1 reused
  · rw [Tables.describeOk answered]
    simp only [Tables.label, kind, label]
    rfl

theorem labelOfObject {name : String} (kind : r.entry = .object name)
    (answered : ((Tables.ofRows rows).classify address).answer = .ok r) :
    ∃ digits, Text.Padded 1 r.site.offset.toNat digits ∧
      ((Tables.ofRows rows).describe address).value =
        r.site.space ++ "+0x" ++ digits ++ ": " ++ name := by
  refine ⟨_, Text.shortestHex _, ?_⟩
  rw [Tables.describeOk answered]
  simp only [Tables.label, Resolved.display, kind]
  rfl

theorem labelOfMiss {miss : Miss}
    (missed : ((Tables.ofRows rows).classify address).answer = .error miss) :
    ∃ digits, Text.Padded 8 address.toUInt32.toNat digits ∧ digits.length = 8 ∧
      ((Tables.ofRows rows).describe address).value = "0x" ++ digits ++ ": UNKNOWN_MAP" := by
  refine ⟨_, Text.paddedHex (by decide) _, pageEight _, ?_⟩
  rw [Tables.describeError missed, Tables.unknownLabel, String.append_assoc]
  rfl

end

theorem charted {rows : Rows} (tidy : rows.Tidy) (address : UInt64) :
    Charted rows (.ofRows rows) address where
  resolves := resolvesIff tidy
  oneMap := fun _ _ _ _ here there => oneRow tidy tidy.mapSites tidy.mapsInPage here there
  oneObject := fun _ _ _ _ here there => oneRow tidy tidy.objectSites tidy.objectsInPage here there
  map := fun _ mem stands => mapResolves tidy mem stands
  object := fun noMap _ mem stands => objectResolves tidy mem stands noMap
  mapLabel := fun _ _ answered kind => labelOfMap tidy kind answered
  objectLabel := fun _ _ answered kind => labelOfObject kind answered
  unresolvedLabel := fun _ missed => labelOfMiss missed

theorem shippedAddressMap (address : UInt64) : Charted Shipped.rows Shipped.tables address :=
  charted shippedTidy address

theorem externalMapCovers :
    ⟨⟨"old_space", 0x43a5⟩, "ExternalMap"⟩ ∈ Shipped.rows.knownObjects ∧
    Shipped.tables.StandsFor ⟨"old_space", 0x43a5⟩ 0x12345678000c43a5 ∧
    (Shipped.tables.classify 0x12345678000c43a5).answer =
      .ok ⟨⟨"old_space", 0x43a5⟩, 0xc43a5, .map ⟨2116, "ExternalMap"⟩⟩ := by
  have object : ⟨⟨"old_space", 0x43a5⟩, "ExternalMap"⟩ ∈ Shipped.rows.knownObjects :=
    List.mem_of_getElem? (i := 60) rfl
  have map : ⟨⟨"old_space", 0x43a5⟩, ⟨2116, "ExternalMap"⟩⟩ ∈ Shipped.rows.knownMaps :=
    List.mem_of_getElem? (i := 179) rfl
  have first : (Shipped.tables.firstPage "old_space").answer = .ok 0xc0000 :=
    Tables.firstPageOk.mpr ⟨0, by decide⟩
  have stands : Shipped.tables.StandsFor ⟨"old_space", 0x43a5⟩ 0x12345678000c43a5 :=
    Tables.absoluteOk.mpr ⟨0xc0000, first, rfl⟩
  exact ⟨object, stands, (shippedAddressMap 0x12345678000c43a5).map _ map stands⟩

end HeapTables
