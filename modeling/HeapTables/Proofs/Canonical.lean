import HeapTables.Proofs.RoundTrip

/-! What a resolved address says, and the address it is canonically written with. A
space may own several pages while one of them is its first, so going back to an
address moves every page of a space onto that one; on an aligned first page the move
keeps site and entry, and a second move changes nothing. -/
namespace HeapTables

def ListedFirst (rows : Rows) (site : Site) : Entry → Prop
  | .map m => ∃ position, Accepted Placed.site rows.knownMaps position ⟨site, m⟩
  | .object name => (∀ row ∈ rows.knownMaps, row.site ≠ site) ∧
      ∃ position, Accepted Placed.site rows.knownObjects position ⟨site, name⟩

def Resolved.page (r : Resolved) : UInt32 := r.absolute - r.site.offset

def Tables.canonical (t : Tables) (address : UInt64) : Lookup UInt32 := do
  let r ← t.classify address
  t.absoluteAddress r.site

structure Sound (rows : Rows) (address : UInt64) (r : Resolved) : Prop where
  absolute : r.absolute.toNat = address.toNat % 2 ^ 32
  offset : r.site.offset.toNat = r.absolute.toNat % 2 ^ 18
  aligned : Aligned r.page
  listed : ∃ position, Accepted Named.key rows.firstPages position ⟨r.page, r.site.space⟩
  entry : ListedFirst rows r.site r.entry

structure Returns (rows : Rows) (address : UInt64) (r : Resolved) (home x : UInt32) : Prop where
  first : ((Tables.ofRows rows).firstPage r.site.space).answer = .ok home
  back : ((Tables.ofRows rows).absoluteAddress r.site).answer = .ok x
  canonical : ((Tables.ofRows rows).canonical address).answer = .ok x
  same : x = r.absolute ↔
    ∃ position, Earliest Named.key rows.firstPages (·.name = r.site.space) position
      ⟨r.page, r.site.space⟩
  again : Aligned home → ∀ other : UInt64, other.toUInt32 = x →
    ((Tables.ofRows rows).classify other).answer = .ok { r with absolute := x }
  stable : Aligned home → ∀ other : UInt64, other.toUInt32 = x →
    ((Tables.ofRows rows).canonical other).answer = .ok x

variable {rows : Rows} {address : UInt64} {r : Resolved} {miss : Miss}

theorem splitResolved (answered : ((Tables.ofRows rows).classify address).answer = .ok r) :
    splitAddress address = (r.page, r.site.offset) := by
  obtain ⟨_, low, whole, _⟩ := Tables.classifyOk.mp answered
  refine pageOfSum ?_ low.symm
  rw [Resolved.page, UInt32.sub_add_cancel, whole]

theorem entryListed {site : Site} {entry : Entry}
    (found : ((Tables.ofRows rows).entryAt site).answer = .ok entry) :
    ListedFirst rows site entry := by
  cases entry with
  | map m => exact Tables.mapAtOk.mp (Tables.entryMap.mp found)
  | object name =>
    obtain ⟨missed, object⟩ := Tables.entryObject.mp found
    exact ⟨Tables.mapAtError.mp missed, Tables.objectAtOk.mp object⟩

theorem resolvedSound (answered : ((Tables.ofRows rows).classify address).answer = .ok r) :
    Sound rows address r := by
  have split := splitResolved answered
  obtain ⟨known, _, whole, found⟩ := Tables.classifyOk.mp answered
  have parts := splitExact.mp split
  have low := splitOffset address
  have absolute : r.absolute.toNat = address.toNat % 2 ^ 32 := by
    rw [whole, UInt64.toNat_toUInt32]
  rw [split] at known low
  refine ⟨absolute, ?_, parts.1, Tables.pageSpaceOk.mp known, entryListed found⟩
  rw [absolute]
  exact low.trans (by omega)

theorem canonicalOf {t : Tables} (answered : (t.classify address).answer = .ok r) :
    (t.canonical address).answer = (t.absoluteAddress r.site).answer := by
  unfold Tables.canonical
  rw [Lookup.answerBind, answered]
  rfl

theorem firstPageOfListed {space : String} {page : UInt32}
    (known : ((Tables.ofRows rows).pageSpace page).answer = .ok space) :
    ∃ first, ((Tables.ofRows rows).firstPage space).answer = .ok first := by
  obtain ⟨position, accepted⟩ := Tables.pageSpaceOk.mp known
  obtain ⟨place, _, first, earliest⟩ := Naming.earliestNamed accepted
  exact ⟨first, Tables.firstPageOk.mpr ⟨place, earliest⟩⟩

theorem sumAbsolute {home : UInt32} :
    home + r.site.offset = r.absolute ↔ home = r.page := by
  unfold Resolved.page
  refine ⟨fun same => ?_, fun same => ?_⟩
  · rw [← same, UInt32.add_sub_cancel]
  · rw [same, UInt32.sub_add_cancel]

theorem resolvedReturns (answered : ((Tables.ofRows rows).classify address).answer = .ok r) :
    ∃ home x, Returns rows address r home x := by
  obtain ⟨known, low, _, found⟩ := Tables.classifyOk.mp answered
  obtain ⟨home, first⟩ := firstPageOfListed known
  have back := Tables.absoluteOk.mpr ⟨home, first, rfl⟩
  have inside : InPage r.site.offset := low ▸ splitInPage address
  have again (aligned : Aligned home) (other : UInt64)
      (sum : other.toUInt32 = home + r.site.offset) :
      ((Tables.ofRows rows).classify other).answer =
        .ok { r with absolute := home + r.site.offset } := by
    have split := splitOfSum aligned inside sum
    rw [Tables.classifyAt split (Tables.pageSpaceOfFirst first), found, sum]
    rfl
  refine ⟨home, home + r.site.offset, first, back, (canonicalOf answered).trans back, ?_, again, ?_⟩
  · refine sumAbsolute.trans ⟨fun same => ?_, fun earliest => ?_⟩
    · exact same ▸ Tables.firstPageOk.mp first
    · have other := Tables.firstPageOk.mpr earliest
      exact Except.ok.inj (first.symm.trans other)
  · intro aligned other sum
    exact (canonicalOf (again aligned other sum)).trans back

structure Fails (rows : Rows) (address : UInt64) (miss : Miss) : Prop where
  unknown : ∀ missed,
    ((Tables.ofRows rows).pageSpace (splitAddress address).1).answer = .error missed →
    miss = missed
  absent : ∀ space,
    ((Tables.ofRows rows).pageSpace (splitAddress address).1).answer = .ok space →
    ((Tables.ofRows rows).objectAt ⟨space, (splitAddress address).2⟩).answer = .error miss
  table : miss.table = .firstPages ∨ miss.table = .knownObjects

theorem classifyFails (missed : ((Tables.ofRows rows).classify address).answer = .error miss) :
    Fails rows address miss := by
  rcases Tables.classifyError.mp missed with unknown | ⟨space, known, absent⟩
  · refine ⟨fun other same => ?_, fun space known => ?_, ?_⟩
    · exact Except.error.inj (unknown.symm.trans same)
    · rw [unknown] at known
      contradiction
    · cases (Lookup.answerFoundError.mp unknown).2
      exact Or.inl rfl
  · have object := (Tables.entryError.mp absent).2
    refine ⟨fun other same => ?_, fun named same => ?_, ?_⟩
    · rw [known] at same
      contradiction
    · cases known.symm.trans same
      exact object
    · cases (Lookup.answerFoundError.mp object).2
      exact Or.inr rfl

theorem classificationSound (rows : Rows) (address : UInt64) :
    (∀ r, ((Tables.ofRows rows).classify address).answer = .ok r →
      Sound rows address r ∧ ∃ home x, Returns rows address r home x) ∧
    ∀ miss, ((Tables.ofRows rows).classify address).answer = .error miss →
      Fails rows address miss :=
  ⟨fun _ answered => ⟨resolvedSound answered, resolvedReturns answered⟩,
    fun _ missed => classifyFails missed⟩

def twoPages : Rows where
  knownMaps := [⟨⟨"old", 0x10⟩, ⟨7, "FirstMap"⟩⟩, ⟨⟨"old", 0x10⟩, ⟨8, "LaterMap"⟩⟩]
  firstPages := [⟨0x80000, "old"⟩, ⟨0x40000, "old"⟩, ⟨0x80000, "new"⟩]

theorem secondPageMoves :
    let t := Tables.ofRows twoPages
    (t.classify 0x40010).answer = .ok ⟨⟨"old", 0x10⟩, 0x40010, .map ⟨7, "FirstMap"⟩⟩ ∧
    (t.canonical 0x40010).answer = .ok 0x80010 ∧
    (t.classify 0x80010).answer = .ok ⟨⟨"old", 0x10⟩, 0x80010, .map ⟨7, "FirstMap"⟩⟩ ∧
    (t.canonical 0x80010).answer = .ok 0x80010 := by
  have known : ((Tables.ofRows twoPages).pageSpace 0x40000).answer = .ok "old" :=
    Tables.pageSpaceOk.mpr ⟨1, by decide⟩
  have found : ((Tables.ofRows twoPages).mapAt ⟨"old", 0x10⟩).answer = .ok ⟨7, "FirstMap"⟩ :=
    Tables.mapAtOk.mpr ⟨0, by decide⟩
  have first : ((Tables.ofRows twoPages).firstPage "old").answer = .ok 0x80000 :=
    Tables.firstPageOk.mpr ⟨0, by decide⟩
  have answered : ((Tables.ofRows twoPages).classify 0x40010).answer =
      .ok ⟨⟨"old", 0x10⟩, 0x40010, .map ⟨7, "FirstMap"⟩⟩ :=
    Tables.classifyOk.mpr ⟨known, rfl, rfl, Tables.entryMap.mpr found⟩
  obtain ⟨_, home, x, returns⟩ := (classificationSound twoPages 0x40010).1 _ answered
  have back : ((Tables.ofRows twoPages).absoluteAddress ⟨"old", 0x10⟩).answer = .ok 0x80010 :=
    Tables.absoluteOk.mpr ⟨0x80000, first, rfl⟩
  cases Except.ok.inj (returns.first.symm.trans first)
  cases Except.ok.inj (returns.back.symm.trans back)
  have aligned : Aligned 0x80000 := rfl
  exact ⟨answered, returns.canonical, returns.again aligned 0x80010 rfl,
    returns.stable aligned 0x80010 rfl⟩

end HeapTables
