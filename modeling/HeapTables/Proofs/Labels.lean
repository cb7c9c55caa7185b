import HeapTables.Proofs.Classify
import HeapTables.Proofs.Displays
import HeapTables.Proofs.Inverse

/-! Labels tell addresses apart. The label of an address that stands for nothing has no plus;
any other starts with its site, which ends at the first plus and the first colon after it
whatever the names behind say. Where each space owns one aligned page the site is the address,
and addresses have one label only if their lower 32 bits are the same. -/
namespace HeapTables

theorem labelSite (t : Tables) (r : Resolved) : ∃ rest, t.label r = r.site.label ++ rest := by
  unfold Tables.label
  split
  · simp only [String.append_assoc]
    exact ⟨_, rfl⟩
  · exact ⟨_, rfl⟩

theorem plusOfLabel (t : Tables) (r : Resolved) : '+' ∈ (t.label r).toList := by
  obtain ⟨rest, same⟩ := labelSite t r
  rw [same, labelParts]
  simp

theorem unknownPlain (address : UInt64) : '+' ∉ (Tables.unknownLabel address).toList := by
  have digits (n : Nat) : '+' ∉ (Text.hexPadded 8 n).toList :=
    (Text.paddedHex (by decide) n).free (by decide)
  simp [Tables.unknownLabel, pageText, unknownMap, digits]

theorem unknownInj {a b : UInt64} (same : Tables.unknownLabel a = Tables.unknownLabel b) :
    a.toUInt32 = b.toUInt32 := by
  simp only [Tables.unknownLabel, String.append_left_inj] at same
  exact pageTextInj same

structure Rows.Legible (rows : Rows) : Prop where
  plain : ∀ row ∈ rows.firstPages, Aligned row.key → '+' ∉ row.name.toList
  apart : ∀ row ∈ keptRows Named.key rows.firstPages, ∀ other ∈ keptRows Named.key rows.firstPages,
    Aligned row.key → Aligned other.key → row.name = other.name → row = other

section
variable {rows : Rows} {a b : UInt64} {page other : UInt32} {space : String}

theorem plainSpace (legible : rows.Legible) (aligned : Aligned page)
    (known : ((Tables.ofRows rows).pageSpace page).answer = .ok space) : '+' ∉ space.toList := by
  obtain ⟨position, accepted⟩ := Tables.pageSpaceOk.mp known
  exact legible.plain _ (List.mem_of_getElem? accepted.here) aligned

theorem onePage (legible : rows.Legible) (aligned : Aligned page) (alignedOther : Aligned other)
    (known : ((Tables.ofRows rows).pageSpace page).answer = .ok space)
    (knownOther : ((Tables.ofRows rows).pageSpace other).answer = .ok space) : page = other := by
  have kept := keptAccepted.mpr (Tables.pageSpaceOk.mp known)
  have keptOther := keptAccepted.mpr (Tables.pageSpaceOk.mp knownOther)
  exact congrArg Named.key (legible.apart _ kept _ keptOther aligned alignedOther rfl)

theorem lowOfSplit (same : splitAddress a = splitAddress b) : a.toUInt32 = b.toUInt32 := by
  rw [← splitJoin a, same, splitJoin]

theorem lowOfSite (legible : rows.Legible) {r s : Resolved} (site : r.site = s.site)
    (left : ((Tables.ofRows rows).classify a).answer = .ok r)
    (right : ((Tables.ofRows rows).classify b).answer = .ok s) : a.toUInt32 = b.toUInt32 := by
  obtain ⟨known, low, _⟩ := Tables.classifyOk.mp left
  obtain ⟨knownOther, lowOther, _⟩ := Tables.classifyOk.mp right
  rw [site] at known low
  have page := onePage legible (splitAligned a) (splitAligned b) known knownOther
  exact lowOfSplit (Prod.ext page (low.symm.trans lowOther))

theorem lowOfLabel (legible : rows.Legible)
    (same : ((Tables.ofRows rows).describe a).value = ((Tables.ofRows rows).describe b).value) :
    a.toUInt32 = b.toUInt32 := by
  cases left : ((Tables.ofRows rows).classify a).answer with
  | error missed =>
    rw [Tables.describeError left] at same
    cases right : ((Tables.ofRows rows).classify b).answer with
    | error _ =>
      rw [Tables.describeError right] at same
      exact unknownInj same
    | ok s =>
      rw [Tables.describeOk right] at same
      exact absurd (same ▸ plusOfLabel _ s) (unknownPlain a)
  | ok r =>
    rw [Tables.describeOk left] at same
    cases right : ((Tables.ofRows rows).classify b).answer with
    | error _ =>
      rw [Tables.describeError right] at same
      exact absurd (same ▸ plusOfLabel _ r) (unknownPlain b)
    | ok s =>
      rw [Tables.describeOk right] at same
      obtain ⟨rest, front⟩ := labelSite (Tables.ofRows rows) r
      obtain ⟨more, back⟩ := labelSite (Tables.ofRows rows) s
      have plain := plainSpace legible (splitAligned a) (Tables.classifyOk.mp left).1
      have plainOther := plainSpace legible (splitAligned b) (Tables.classifyOk.mp right).1
      rw [front, back] at same
      exact lowOfSite legible (siteOfLabel plain plainOther same).1 left right

theorem describeLow (t : Tables) (same : a.toUInt32 = b.toUInt32) : t.describe a = t.describe b := by
  have split : splitAddress a = splitAddress b := by
    unfold splitAddress
    rw [same]
  unfold Tables.describe Tables.classify Tables.unknownLabel
  rw [split, same]

end

theorem lowBits {a b : UInt64} : a.toUInt32 = b.toUInt32 ↔ a.toNat % 2 ^ 32 = b.toNat % 2 ^ 32 := by
  rw [← UInt32.toNat_inj, UInt64.toNat_toUInt32, UInt64.toNat_toUInt32]

theorem shippedLegible : Shipped.rows.Legible where
  plain := by decide
  apart := by
    intro row kept other keptOther _ _ same
    exact apartRows.mp (apartOfNames shippedTidy.spaces) row kept other keptOther same

theorem sameLabel {rows : Rows} (legible : rows.Legible) (a b : UInt64) :
    ((Tables.ofRows rows).describe a).value = ((Tables.ofRows rows).describe b).value ↔
      a.toNat % 2 ^ 32 = b.toNat % 2 ^ 32 := by
  constructor
  · intro same
    exact lowBits.mp (lowOfLabel legible same)
  · intro low
    rw [describeLow _ (lowBits.mpr low)]

theorem labelsUnambiguous :
    (∀ rows : Rows, rows.Legible → ∀ a b : UInt64,
      ((Tables.ofRows rows).describe a).value = ((Tables.ofRows rows).describe b).value ↔
        a.toNat % 2 ^ 32 = b.toNat % 2 ^ 32) ∧
    Shipped.rows.Legible ∧
    ∀ a b : UInt64, (Shipped.tables.describe a).value = (Shipped.tables.describe b).value ↔
      a.toNat % 2 ^ 32 = b.toNat % 2 ^ 32 := by
  refine ⟨?_, shippedLegible, ?_⟩
  · intro rows legible a b
    exact sameLabel legible a b
  · intro a b
    exact sameLabel shippedLegible a b

def lookalikes : Rows where
  knownMaps := [⟨⟨"0x00040010", 0x10⟩, ⟨9, "UNKNOWN_MAP"⟩⟩, ⟨⟨"old", 0x10⟩, ⟨9, "old+0x11: A"⟩⟩]
  knownObjects := [⟨⟨"old", 0x11⟩, "A (9 UNKNOWN_TYPE)"⟩, ⟨⟨"old", 0x1⟩, "1: A (9 UNKNOWN_TYPE)"⟩]
  firstPages := [⟨0x40000, "0x00040010"⟩, ⟨0x80000, "old"⟩, ⟨0x80001, "old+0x10"⟩]

theorem lookalikesTold :
    lookalikes.Legible ∧
    ((Tables.ofRows lookalikes).classify 0x80010).answer =
      .ok ⟨⟨"old", 0x10⟩, 0x80010, .map ⟨9, "old+0x11: A"⟩⟩ ∧
    ((Tables.ofRows lookalikes).describe 0x80010).value ≠
      ((Tables.ofRows lookalikes).describe 0x80011).value ∧
    ((Tables.ofRows lookalikes).describe 0x40010).value ≠
      ((Tables.ofRows lookalikes).describe 0x40011).value ∧
    ((Tables.ofRows lookalikes).describe 0x80010).value =
      ((Tables.ofRows lookalikes).describe 0x700080010).value := by
  have legible : lookalikes.Legible := ⟨by decide, by decide⟩
  have law := labelsUnambiguous.1 lookalikes legible
  have known : ((Tables.ofRows lookalikes).pageSpace 0x80000).answer = .ok "old" :=
    Tables.pageSpaceOk.mpr ⟨1, by decide⟩
  have found : ((Tables.ofRows lookalikes).mapAt ⟨"old", 0x10⟩).answer =
      .ok ⟨9, "old+0x11: A"⟩ := Tables.mapAtOk.mpr ⟨1, by decide⟩
  refine ⟨legible, Tables.classifyOk.mpr ⟨known, rfl, rfl, Tables.entryMap.mpr found⟩,
    (law _ _).not.mpr (by decide), (law _ _).not.mpr (by decide), (law _ _).mpr rfl⟩

end HeapTables
