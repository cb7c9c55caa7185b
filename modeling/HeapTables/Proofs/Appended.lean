import Mathlib.Data.Finset.Card
import HeapTables.Proofs.BuildLog
import HeapTables.Proofs.Classify
import HeapTables.Proofs.Positions
import HeapTables.Proofs.Scan

/-! Rows added at the end. What was answered stays answered, in both directions; a new
answer is owed to a row that was added; and the counts grow by the keys that are new.
Addresses keep their entries too, except that a map may come to lie over an object. -/
namespace HeapTables

def Rows.append (rows extra : Rows) : Rows where
  instanceTypes := rows.instanceTypes ++ extra.instanceTypes
  knownMaps := rows.knownMaps ++ extra.knownMaps
  knownObjects := rows.knownObjects ++ extra.knownObjects
  firstPages := rows.firstPages ++ extra.firstPages
  frameMarkers := rows.frameMarkers ++ extra.frameMarkers

structure Keeps {κ β : Type} (before after : κ → Lookup β) (carried : κ → Prop) : Prop where
  kept : ∀ key answer, (before key).answer = .ok answer → (after key).answer = .ok answer
  gained : ∀ key miss answer, (before key).answer = .error miss →
    (after key).answer = .ok answer → carried key

theorem keepsFound {κ β : Type} {old new later : κ → Option β} {shown shownLater : κ → Miss}
    {carried : κ → Prop} (split : ∀ key, later key = (old key).or (new key))
    (source : ∀ key answer, new key = some answer → carried key) :
    Keeps (fun key => .found (old key) (shown key))
      (fun key => .found (later key) (shownLater key)) carried where
  kept := by
    intro key answer hit
    rw [Lookup.answerFoundOk] at hit ⊢
    rw [split, hit, Option.some_or]
  gained := by
    intro key miss answer missed hit
    rw [Lookup.answerFoundError] at missed
    rw [Lookup.answerFoundOk, split, missed.1, Option.none_or] at hit
    exact source key answer hit

theorem firstsNamed {κ : Type} [DecidableEq κ] {seen : List κ} {rows : List (Named κ)} {key : κ}
    {name : String}
    (found : ((firsts Named.key seen rows).find? (·.name == name)).map (·.key) = some key) :
    ∃ row ∈ rows, row.name = name := by
  obtain ⟨row, found, _⟩ := Option.map_eq_some_iff.mp found
  refine ⟨row, (firstsFresh (List.mem_of_find?_eq_some found)).1, ?_⟩
  simpa using List.find?_some found

section
variable {κ : Type} [DecidableEq κ] [Hashable κ]

theorem Naming.nameAppend (rows extra : List (Named κ)) (key : κ) :
    (ofRows (rows ++ extra)).name? key =
      ((ofRows rows).name? key).or ((ofRows extra).name? key) := by
  rw [nameOfRows, nameOfRows, nameOfRows, List.find?_append, Option.map_or]

theorem Naming.nameCarried {rows : List (Named κ)} {key : κ} {name : String}
    (found : (ofRows rows).name? key = some name) : ∃ row ∈ rows, row.key = key := by
  obtain ⟨position, accepted⟩ := nameAccepted.mp found
  exact ⟨_, List.mem_of_getElem? accepted.here, rfl⟩

theorem Naming.keyAppend (rows extra : List (Named κ)) (name : String) :
    (ofRows (rows ++ extra)).key? name = ((ofRows rows).key? name).or
      (((firsts Named.key (rows.map Named.key) extra).find? (·.name == name)).map (·.key)) := by
  rw [keyOfRows, keyOfRows, firstsAppend, List.append_nil, List.find?_append, Option.map_or]

end

theorem Placement.itemAppend {α : Type} (rows extra : List (Placed α)) (site : Site) :
    (ofRows (rows ++ extra)).item? site =
      ((ofRows rows).item? site).or ((ofRows extra).item? site) := by
  rw [itemOfRows, itemOfRows, itemOfRows, List.find?_append, Option.map_or]

theorem Placement.itemCarried {α : Type} {rows : List (Placed α)} {site : Site} {item : α}
    (found : (ofRows rows).item? site = some item) : ∃ row ∈ rows, row.site = site := by
  obtain ⟨position, accepted⟩ := itemAccepted.mp found
  exact ⟨_, List.mem_of_getElem? accepted.here, rfl⟩

namespace FrameMarkers
variable {names extra : List String} {ordinal : Int} {name : String}

theorem nameAppend (found : (ofNames names).name? ordinal = some name) :
    (ofNames (names ++ extra)).name? ordinal = some name := by
  obtain ⟨position, same, found⟩ := nameAt.mp found
  have bound := (List.getElem?_eq_some_iff.mp found).1
  exact nameAt.mpr ⟨position, same, (List.getElem?_append_left bound).trans found⟩

theorem nameGained (absent : (ofNames names).name? ordinal = none)
    (found : (ofNames (names ++ extra)).name? ordinal = some name) :
    names.length ≤ ordinal ∧ ordinal < (names ++ extra).length := by
  have outside := nameOutside.mp absent
  have inside := nameInside.mp ⟨name, found⟩
  omega

theorem ordinalAppend (names extra : List String) (name : String) :
    (ofNames (names ++ extra)).ordinal? name = ((ofNames names).ordinal? name).or
      ((extra.findIdx? (· == name)).map (· + names.length)) := by
  rw [ordinalOfNames, ordinalOfNames, List.findIdx?_append]

theorem ordinalCarried {position : Nat} {count : Nat}
    (found : (names.findIdx? (· == name)).map (· + count) = some position) : name ∈ names := by
  obtain ⟨index, found, _⟩ := Option.map_eq_some_iff.mp found
  obtain ⟨bound, same, _⟩ := List.findIdx?_eq_some_iff_getElem.mp found
  exact beq_iff_eq.mp same ▸ List.getElem_mem bound

end FrameMarkers

def newKeys {α κ : Type} [DecidableEq κ] (key : α → κ) (rows extra : List α) : Finset κ :=
  (extra.map key).toFinset \ (rows.map key).toFinset

section
variable {α κ : Type} [DecidableEq κ] {key : α → κ} {seen : List κ}

theorem firstsKeys {rows : List α} {k : κ} :
    k ∈ (firsts key seen rows).map key ↔ k ∈ rows.map key ∧ k ∉ seen := by
  refine ⟨fun mem => ?_, fun ⟨mem, fresh⟩ => ?_⟩
  · obtain ⟨row, first, rfl⟩ := List.mem_map.mp mem
    obtain ⟨inside, fresh⟩ := firstsFresh first
    exact ⟨List.mem_map_of_mem inside, fresh⟩
  · obtain ⟨row, mem, same⟩ := List.mem_map.mp mem
    have found : (rows.find? (key · == k)).isSome :=
      List.find?_isSome.mpr ⟨row, mem, beq_iff_eq.mpr same⟩
    rw [← findFirsts fresh] at found
    obtain ⟨first, found⟩ := Option.isSome_iff_exists.mp found
    have same : key first = k := by simpa using List.find?_some found
    exact same ▸ List.mem_map_of_mem (List.mem_of_find?_eq_some found)

theorem keptAppend (key : α → κ) (rows extra : List α) : (keptRows key (rows ++ extra)).length =
    (keptRows key rows).length + (newKeys key rows extra).card := by
  have fresh : newKeys key rows extra = ((firsts key (rows.map key) extra).map key).toFinset := by
    ext k
    rw [newKeys, Finset.mem_sdiff, List.mem_toFinset, List.mem_toFinset, List.mem_toFinset,
      firstsKeys]
  rw [fresh, List.toFinset_card_of_nodup (firstsNodup _ _ _), List.length_map, ← firstsKept,
    ← firstsKept, firstsAppend, List.append_nil, List.length_append]

end

def Entry.under (extra : List (Placed KnownMap)) (site : Site) : Entry → Entry
  | .map m => .map m
  | .object name =>
      match extra.find? (·.site == site) with
      | some row => .map row.item
      | none => .object name

namespace Tables
variable (rows extra : Rows)

theorem mapKeeps : Keeps (ofRows rows).mapAt (ofRows (rows.append extra)).mapAt
    (fun site => ∃ row ∈ extra.knownMaps, row.site = site) :=
  keepsFound (Placement.itemAppend _ _) (fun _ _ => Placement.itemCarried)

theorem objectKeeps : Keeps (ofRows rows).objectAt (ofRows (rows.append extra)).objectAt
    (fun site => ∃ row ∈ extra.knownObjects, row.site = site) :=
  keepsFound (Placement.itemAppend _ _) (fun _ _ => Placement.itemCarried)

theorem pageKeeps : Keeps (ofRows rows).pageSpace (ofRows (rows.append extra)).pageSpace
    (fun page => ∃ row ∈ extra.firstPages, row.key = page) :=
  keepsFound (Naming.nameAppend _ _) (fun _ _ => Naming.nameCarried)

theorem spaceKeeps : Keeps (ofRows rows).firstPage (ofRows (rows.append extra)).firstPage
    (fun space => ∃ row ∈ extra.firstPages, row.name = space) :=
  keepsFound (Naming.keyAppend _ _) (fun _ _ => firstsNamed)

theorem markerKeeps : Keeps (ofRows rows).markerName (ofRows (rows.append extra)).markerName
    (fun ordinal => rows.frameMarkers.length ≤ ordinal ∧
      ordinal < (rows.append extra).frameMarkers.length) where
  kept := by
    intro ordinal name hit
    exact Lookup.answerFoundOk.mpr (FrameMarkers.nameAppend (Lookup.answerFoundOk.mp hit))
  gained := by
    intro ordinal miss name missed hit
    exact FrameMarkers.nameGained (Lookup.answerFoundError.mp missed).1
      (Lookup.answerFoundOk.mp hit)

theorem absoluteKeeps :
    Keeps (ofRows rows).absoluteAddress (ofRows (rows.append extra)).absoluteAddress
      (fun site => ∃ row ∈ extra.firstPages, row.name = site.space) where
  kept := by
    intro site x hit
    obtain ⟨page, first, sum⟩ := absoluteOk.mp hit
    exact absoluteOk.mpr ⟨page, (spaceKeeps rows extra).kept _ _ first, sum⟩
  gained := by
    intro site miss x missed hit
    obtain ⟨page, later, _⟩ := absoluteOk.mp hit
    cases first : ((ofRows rows).firstPage site.space).answer with
    | ok page =>
      rw [absoluteOk.mpr ⟨page, first, rfl⟩] at missed
      contradiction
    | error unknown => exact (spaceKeeps rows extra).gained _ _ _ first later

theorem entryAppend {site : Site} {entry : Entry}
    (found : ((ofRows rows).entryAt site).answer = .ok entry) :
    ((ofRows (rows.append extra)).entryAt site).answer =
      .ok (entry.under extra.knownMaps site) := by
  cases entry with
  | map m => exact entryMap.mpr ((mapKeeps rows extra).kept _ _ (entryMap.mp found))
  | object name =>
    obtain ⟨⟨hidden, missed⟩, object⟩ := entryObject.mp found
    have absent : (Placement.ofRows rows.knownMaps).item? site = none :=
      (Lookup.answerFoundError.mp missed).1
    have maps : (Placement.ofRows (rows.append extra).knownMaps).item? site =
        (extra.knownMaps.find? (·.site == site)).map (·.item) := by
      rw [Rows.append, Placement.itemAppend, absent, Option.none_or, Placement.itemOfRows]
    unfold Entry.under
    cases cover : extra.knownMaps.find? (·.site == site) with
    | some row =>
      rw [cover] at maps
      exact entryMap.mpr (Lookup.answerFoundOk.mpr maps)
    | none =>
      rw [cover] at maps
      have object := (objectKeeps rows extra).kept _ _ object
      exact entryObject.mpr ⟨⟨_, Lookup.answerFoundError.mpr ⟨maps, rfl⟩⟩, object⟩

theorem classifyAppend {address : UInt64} {r : Resolved}
    (answered : ((ofRows rows).classify address).answer = .ok r) :
    ((ofRows (rows.append extra)).classify address).answer =
      .ok { r with entry := r.entry.under extra.knownMaps r.site } := by
  obtain ⟨known, low, whole, found⟩ := classifyOk.mp answered
  exact classifyOk.mpr ⟨(pageKeeps rows extra).kept _ _ known, low, whole,
    entryAppend rows extra found⟩

end Tables

structure Grown (rows extra : Rows) (t u : Tables) : Prop where
  typeName : Keeps t.typeName u.typeName (fun code => ∃ row ∈ extra.instanceTypes, row.key = code)
  typeCode : Keeps t.typeCode u.typeCode (fun name => ∃ row ∈ extra.instanceTypes, row.name = name)
  mapAt : Keeps t.mapAt u.mapAt (fun site => ∃ row ∈ extra.knownMaps, row.site = site)
  objectAt : Keeps t.objectAt u.objectAt (fun site => ∃ row ∈ extra.knownObjects, row.site = site)
  pageSpace : Keeps t.pageSpace u.pageSpace (fun page => ∃ row ∈ extra.firstPages, row.key = page)
  firstPage : Keeps t.firstPage u.firstPage
    (fun space => ∃ row ∈ extra.firstPages, row.name = space)
  absoluteAddress : Keeps t.absoluteAddress u.absoluteAddress
    (fun site => ∃ row ∈ extra.firstPages, row.name = site.space)
  markerName : Keeps t.markerName u.markerName (fun ordinal =>
    rows.frameMarkers.length ≤ ordinal ∧ ordinal < (rows.append extra).frameMarkers.length)
  markerOrdinal : Keeps t.markerOrdinal u.markerOrdinal (fun name => name ∈ extra.frameMarkers)
  stats : u.stats =
    { instanceTypes := t.stats.instanceTypes +
        (newKeys Named.key rows.instanceTypes extra.instanceTypes).card
      knownMaps := t.stats.knownMaps + (newKeys Placed.site rows.knownMaps extra.knownMaps).card
      knownObjects := t.stats.knownObjects +
        (newKeys Placed.site rows.knownObjects extra.knownObjects).card
      firstPages := t.stats.firstPages +
        (newKeys Named.key rows.firstPages extra.firstPages).card
      frameMarkers := t.stats.frameMarkers + extra.frameMarkers.length }
  classify : ∀ address r, (t.classify address).answer = .ok r →
    (u.classify address).answer = .ok { r with entry := r.entry.under extra.knownMaps r.site }

theorem appendedGrows (rows extra : Rows) :
    Grown rows extra (.ofRows rows) (.ofRows (rows.append extra)) where
  typeName := keepsFound (Naming.nameAppend _ _) (fun _ _ => Naming.nameCarried)
  typeCode := keepsFound (Naming.keyAppend _ _) (fun _ _ => firstsNamed)
  mapAt := Tables.mapKeeps rows extra
  objectAt := Tables.objectKeeps rows extra
  pageSpace := Tables.pageKeeps rows extra
  firstPage := Tables.spaceKeeps rows extra
  absoluteAddress := Tables.absoluteKeeps rows extra
  markerName := Tables.markerKeeps rows extra
  markerOrdinal :=
    keepsFound (FrameMarkers.ordinalAppend _ _) (fun _ _ => FrameMarkers.ordinalCarried)
  stats := by simp only [statsOfRows, Rows.append, keptAppend, List.length_append]
  classify _ _ := Tables.classifyAppend rows extra

/- An object without a map, and rows that put two maps over it. The added names are
taken crosswise: code 1 comes again with a new name, and "A" with a new code. -/
def sparse : Rows where
  instanceTypes := [⟨1, "A"⟩]
  knownObjects := [⟨⟨"old", 0x10⟩, "Beneath"⟩]
  firstPages := [⟨0x40000, "old"⟩]
  frameMarkers := ["X"]

def addedRows : Rows where
  instanceTypes := [⟨1, "B"⟩, ⟨2, "A"⟩, ⟨2, "C"⟩]
  knownMaps := [⟨⟨"old", 0x10⟩, ⟨2, "Above"⟩⟩, ⟨⟨"old", 0x10⟩, ⟨1, "Later"⟩⟩]
  firstPages := [⟨0x80000, "old"⟩]
  frameMarkers := ["X", "Y"]

theorem mapOverObject :
    let t := Tables.ofRows sparse
    let u := Tables.ofRows (sparse.append addedRows)
    (t.typeCode "A").answer = .ok 1 ∧ (u.typeCode "A").answer = .ok 1 ∧
    (t.markerName 2).answer = .error (.outOfRange 2 1) ∧ (u.markerName 2).answer = .ok "Y" ∧
    sparse.frameMarkers.length ≤ (2 : Int) ∧
    2 < ((sparse.append addedRows).frameMarkers.length : Int) ∧
    u.stats.instanceTypes = t.stats.instanceTypes + 1 ∧
    (t.classify 0x40010).answer = .ok ⟨⟨"old", 0x10⟩, 0x40010, .object "Beneath"⟩ ∧
    (u.classify 0x40010).answer = .ok ⟨⟨"old", 0x10⟩, 0x40010, .map ⟨2, "Above"⟩⟩ := by
  have grown := appendedGrows sparse addedRows
  have code : ((Tables.ofRows sparse).typeCode "A").answer = .ok 1 :=
    Tables.typeCodeOk.mpr ⟨0, by decide⟩
  have missed : ((Tables.ofRows sparse).markerName 2).answer = .error (.outOfRange 2 1) := rfl
  have hit : ((Tables.ofRows (sparse.append addedRows)).markerName 2).answer = .ok "Y" := rfl
  have range := grown.markerName.gained 2 _ _ missed hit
  have known : ((Tables.ofRows sparse).pageSpace 0x40000).answer = .ok "old" :=
    Tables.pageSpaceOk.mpr ⟨0, by decide⟩
  have object : ((Tables.ofRows sparse).objectAt ⟨"old", 0x10⟩).answer = .ok "Beneath" :=
    Tables.objectAtOk.mpr ⟨0, by decide⟩
  have noMap : ∃ hidden, ((Tables.ofRows sparse).mapAt ⟨"old", 0x10⟩).answer = .error hidden :=
    Tables.mapAtError.mpr (by decide)
  have answered : ((Tables.ofRows sparse).classify 0x40010).answer =
      .ok ⟨⟨"old", 0x10⟩, 0x40010, .object "Beneath"⟩ :=
    Tables.classifyOk.mpr ⟨known, rfl, rfl, Tables.entryObject.mpr ⟨noMap, object⟩⟩
  exact ⟨code, grown.typeCode.kept _ _ code, missed, hit, range.1, range.2,
    congrArg Stats.instanceTypes grown.stats, answered, grown.classify _ _ answered⟩

end HeapTables
