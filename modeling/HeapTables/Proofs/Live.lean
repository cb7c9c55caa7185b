import HeapTables.Proofs.RoundTrip

/-! Rows that an address can reach. An address asks for aligned pages only, for offsets
inside a page, at spaces that own such a page, and for the types of the maps listed there.
Other rows answer look-ups of their keys, but no address: leaving them out changes neither
what an address stands for, nor its label, nor the misses reported on the way. -/
namespace HeapTables

def Rows.livePages (rows : Rows) : List (Named UInt32) :=
  rows.firstPages.filter (fun row => Aligned row.key)

structure Rows.Reaches (rows : Rows) (site : Site) : Prop where
  inside : InPage site.offset
  paged : ∃ row ∈ rows.livePages, row.name = site.space

instance {rows : Rows} {site : Site} : Decidable (rows.Reaches site) :=
  decidable_of_iff (InPage site.offset ∧ ∃ row ∈ rows.livePages, row.name = site.space)
    ⟨fun h => ⟨h.1, h.2⟩, fun h => ⟨h.inside, h.paged⟩⟩

def Rows.liveMaps (rows : Rows) : List (Placed KnownMap) :=
  rows.knownMaps.filter (fun row => rows.Reaches row.site)

/-- The rows that some address can have a part of its answer or label from. -/
def Rows.live (rows : Rows) : Rows where
  instanceTypes := rows.instanceTypes.filter
    (fun row => ∃ map ∈ rows.liveMaps, map.item.instanceType = row.key)
  knownMaps := rows.liveMaps
  knownObjects := rows.knownObjects.filter (fun row => rows.Reaches row.site)
  firstPages := rows.livePages
  frameMarkers := []

theorem findFiltered {α κ : Type} [DecidableEq κ] {key : α → κ} {rows : List α} {k : κ}
    {kept : α → Bool} (all : ∀ row ∈ rows, key row = k → kept row = true) :
    (rows.filter kept).find? (key · == k) = rows.find? (key · == k) := by
  induction rows with
  | nil => rfl
  | cons row rest ih =>
    have tail := ih (fun other mem => all other (List.mem_cons_of_mem _ mem))
    cases wanted : key row == k with
    | true =>
      have here := all row List.mem_cons_self (beq_iff_eq.mp wanted)
      simp [here, wanted]
    | false => cases keeps : kept row <;> simp [keeps, wanted, tail]

theorem Naming.nameFiltered {κ : Type} [DecidableEq κ] [Hashable κ] {rows : List (Named κ)}
    {key : κ} {kept : Named κ → Bool} (all : ∀ row ∈ rows, row.key = key → kept row = true) :
    (ofRows (rows.filter kept)).name? key = (ofRows rows).name? key := by
  rw [nameOfRows, nameOfRows, findFiltered all]

theorem Placement.itemFiltered {α : Type} {rows : List (Placed α)} {site : Site}
    {kept : Placed α → Bool} (all : ∀ row ∈ rows, row.site = site → kept row = true) :
    (ofRows (rows.filter kept)).item? site = (ofRows rows).item? site := by
  rw [itemOfRows, itemOfRows, findFiltered all]

theorem Placement.itemReached {α : Type} {rows : Rows} {site : Site} (placed : List (Placed α))
    (reached : rows.Reaches site) :
    (ofRows (placed.filter (fun row => rows.Reaches row.site))).item? site =
      (ofRows placed).item? site := by
  apply itemFiltered
  intro row _ same
  exact decide_eq_true (same ▸ reached)

namespace Tables
variable {rows : Rows} {site : Site} {page offset : UInt32} {space : String} {address : UInt64}

theorem pageLive (aligned : Aligned page) :
    (ofRows rows.live).pageSpace page = (ofRows rows).pageSpace page := by
  have same : (Naming.ofRows rows.livePages).name? page =
      (Naming.ofRows rows.firstPages).name? page := by
    apply Naming.nameFiltered
    intro row _ named
    exact decide_eq_true (named ▸ aligned)
  exact congrArg (Lookup.found · _) same

theorem mapLive (reached : rows.Reaches site) :
    (ofRows rows.live).mapAt site = (ofRows rows).mapAt site :=
  congrArg (Lookup.found · _) (Placement.itemReached rows.knownMaps reached)

theorem objectLive (reached : rows.Reaches site) :
    (ofRows rows.live).objectAt site = (ofRows rows).objectAt site :=
  congrArg (Lookup.found · _) (Placement.itemReached rows.knownObjects reached)

theorem entryLive (reached : rows.Reaches site) :
    (ofRows rows.live).entryAt site = (ofRows rows).entryAt site := by
  unfold entryAt
  rw [mapLive reached, objectLive reached]

theorem typeLive {map : Placed KnownMap} (mem : map ∈ rows.liveMaps) :
    (ofRows rows.live).typeNameOrUnknown map.item.instanceType =
      (ofRows rows).typeNameOrUnknown map.item.instanceType := by
  have same : (Naming.ofRows rows.live.instanceTypes).name? map.item.instanceType =
      (Naming.ofRows rows.instanceTypes).name? map.item.instanceType := by
    apply Naming.nameFiltered
    intro row _ named
    exact decide_eq_true ⟨map, mem, named.symm⟩
  exact congrArg (Option.getD · _) same

theorem reachesOfPage (aligned : Aligned page) (inside : InPage offset)
    (known : ((ofRows rows).pageSpace page).answer = .ok space) :
    rows.Reaches ⟨space, offset⟩ := by
  obtain ⟨position, accepted⟩ := pageSpaceOk.mp known
  have mem := List.mem_of_getElem? accepted.here
  exact ⟨inside, _, List.mem_filter.mpr ⟨mem, decide_eq_true aligned⟩, rfl⟩

theorem classifyLive (rows : Rows) (address : UInt64) :
    (ofRows rows.live).classify address = (ofRows rows).classify address := by
  unfold classify
  cases split : splitAddress address with
  | mk page offset =>
    obtain ⟨aligned, inside, _⟩ := splitExact.mp split
    simp only [pageLive aligned]
    apply Lookup.bindAgree
    intro space known
    rw [entryLive (reachesOfPage aligned inside known)]

theorem labelLive {r : Resolved} (answered : ((ofRows rows).classify address).answer = .ok r) :
    (ofRows rows.live).label r = (ofRows rows).label r := by
  obtain ⟨known, low, _, found⟩ := classifyOk.mp answered
  have inside : InPage r.site.offset := low ▸ splitInPage address
  have reached : rows.Reaches r.site := reachesOfPage (splitAligned address) inside known
  cases kind : r.entry with
  | object name => simp only [label, kind]
  | map m =>
    rw [kind] at found
    obtain ⟨position, accepted⟩ := mapAtOk.mp (entryMap.mp found)
    have listed := List.mem_of_getElem? accepted.here
    have mem : ⟨r.site, m⟩ ∈ rows.liveMaps :=
      List.mem_filter.mpr ⟨listed, decide_eq_true reached⟩
    have typed : (ofRows rows.live).typeNameOrUnknown m.instanceType =
        (ofRows rows).typeNameOrUnknown m.instanceType := typeLive mem
    simp only [label, kind, typed]

theorem describeLive (rows : Rows) (address : UInt64) :
    (ofRows rows.live).describe address = (ofRows rows).describe address := by
  unfold describe
  rw [classifyLive, Lookup.mapAgree (fun r answered => labelLive answered)]

section
variable {place position : Nat} {m : KnownMap}

theorem livePage (paged : Accepted Named.key rows.livePages place ⟨page, space⟩) : Aligned page :=
  of_decide_eq_true (List.mem_filter.mp (List.mem_of_getElem? paged.here)).2

theorem liveMap (listed : Accepted Placed.site rows.liveMaps position ⟨site, m⟩) :
    rows.Reaches site :=
  of_decide_eq_true (List.mem_filter.mp (List.mem_of_getElem? listed.here)).2

theorem mapReached (paged : Accepted Named.key rows.livePages place ⟨page, space⟩)
    (listed : Accepted Placed.site rows.liveMaps position ⟨⟨space, offset⟩, m⟩)
    (sum : address.toNat % 2 ^ 32 = page.toNat + offset.toNat) :
    ((ofRows rows.live).classify address).answer =
      .ok ⟨⟨space, offset⟩, address.toUInt32, .map m⟩ := by
  have split := splitExact.mpr ⟨livePage paged, (liveMap listed).inside, sum⟩
  have known : ((ofRows rows.live).pageSpace page).answer = .ok space :=
    pageSpaceOk.mpr ⟨place, paged⟩
  exact (answersAt split known).map m (mapAtOk.mpr ⟨position, listed⟩)

end
end Tables

theorem liveRowsSuffice (rows : Rows) :
    let t := Tables.ofRows rows
    let u := Tables.ofRows rows.live
    (∀ address, t.classify address = u.classify address) ∧
    (∀ address, t.describe address = u.describe address) ∧
    ∀ place position page space offset m,
      Accepted Named.key rows.live.firstPages place ⟨page, space⟩ →
      Accepted Placed.site rows.live.knownMaps position ⟨⟨space, offset⟩, m⟩ →
      page.toNat + offset.toNat < 2 ^ 32 ∧
      ∀ address : UInt64, address.toNat % 2 ^ 32 = page.toNat + offset.toNat →
        (t.classify address).answer = .ok ⟨⟨space, offset⟩, page + offset, .map m⟩ ∧
        (u.classify address).answer = .ok ⟨⟨space, offset⟩, page + offset, .map m⟩ := by
  intro t u
  have same (address : UInt64) : u.classify address = t.classify address :=
    Tables.classifyLive rows address
  refine ⟨fun address => (same address).symm,
    fun address => (Tables.describeLive rows address).symm, ?_⟩
  intro place position page space offset m paged listed
  obtain ⟨fits, total⟩ := addInPage (Tables.livePage paged) (Tables.liveMap listed).inside
  refine ⟨fits, fun address sum => ?_⟩
  have whole : address.toUInt32 = page + offset := by
    apply UInt32.toNat_inj.mp
    rw [UInt64.toNat_toUInt32, sum, total]
  have answered := Tables.mapReached paged listed sum
  rw [whole] at answered
  exact ⟨same address ▸ answered, answered⟩

/- A page off the page grid, an offset past the page, a space without a page and a type that
no live map has are all dropped; a repeat of a live map is live. -/
def halfDead : Rows where
  instanceTypes := [⟨9, "UNUSED"⟩, ⟨7, "USED"⟩]
  knownMaps := [⟨⟨"old", 0x40000⟩, ⟨9, "Outside"⟩⟩, ⟨⟨"odd", 0x10⟩, ⟨9, "OffGrid"⟩⟩,
    ⟨⟨"old", 0x10⟩, ⟨7, "Inside"⟩⟩, ⟨⟨"old", 0x10⟩, ⟨8, "Repeat"⟩⟩,
    ⟨⟨"none", 0x10⟩, ⟨9, "Pageless"⟩⟩]
  firstPages := [⟨0x40001, "odd"⟩, ⟨0x80000, "old"⟩]
  frameMarkers := ["X"]

theorem halfDeadReached :
    halfDead.live.instanceTypes = [⟨7, "USED"⟩] ∧
    halfDead.live.knownMaps.length = 2 ∧
    halfDead.live.firstPages = [⟨0x80000, "old"⟩] ∧
    ((Tables.ofRows halfDead).classify 0x1200080010).answer =
      .ok ⟨⟨"old", 0x10⟩, 0x80010, .map ⟨7, "Inside"⟩⟩ ∧
    (Tables.ofRows halfDead).describe 0x40011 = (Tables.ofRows halfDead.live).describe 0x40011 := by
  have paged : Accepted Named.key halfDead.live.firstPages 0 ⟨0x80000, "old"⟩ := by decide
  have listed : Accepted Placed.site halfDead.live.knownMaps 0 ⟨⟨"old", 0x10⟩, ⟨7, "Inside"⟩⟩ := by
    decide
  obtain ⟨_, labels, reached⟩ := liveRowsSuffice halfDead
  have answered := ((reached _ _ _ _ _ _ paged listed).2 0x1200080010 rfl).1
  exact ⟨by decide, by decide, by decide, answered, labels 0x40011⟩

end HeapTables
