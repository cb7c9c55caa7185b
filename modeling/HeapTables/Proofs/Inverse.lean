import HeapTables.Proofs.Appended
import HeapTables.Proofs.Reordered
import HeapTables.Proofs.ShippedRows

/-! Where going forward and going back undo each other. Back from a name leads to one key,
so two kept rows of one name cannot both be led back to; rows that were set aside may share
their names as they like. For positions every repeat counts, since no position is set aside. -/
namespace HeapTables

def Inverse {κ : Type} (forward : κ → Lookup String) (backward : String → Lookup κ) : Prop :=
  ∀ key name, (forward key).answer = .ok name ↔ (backward name).answer = .ok key

/- Ordinals are signed words of 64 bits, positions are numbers; they agree as integers. -/
def Tables.MarkersInverse (t : Tables) : Prop :=
  ∀ (ordinal : Int64) (name : String), (t.markerName ordinal.toInt).answer = .ok name ↔
    ∃ position : Nat, (t.markerOrdinal name).answer = .ok position ∧ (position : Int) = ordinal.toInt

section
variable {κ : Type} [DecidableEq κ] {rows : List (Named κ)}

theorem apartRows : NamesApart rows ↔ ∀ row ∈ keptRows Named.key rows,
    ∀ other ∈ keptRows Named.key rows, row.name = other.name → row = other :=
  List.nodup_map_iff_inj_on (keptNodup Named.key rows)

theorem apartOfNames (names : (rows.map Named.name).Nodup) : NamesApart rows :=
  names.sublist ((keptSublist Named.key rows).map Named.name)

variable [Hashable κ]

theorem Naming.keyOfName (apart : NamesApart rows) {key : κ} {name : String}
    (found : (ofRows rows).name? key = some name) : (ofRows rows).key? name = some key := by
  obtain ⟨position, accepted⟩ := nameAccepted.mp found
  obtain ⟨place, _, other, earliest⟩ := earliestNamed accepted
  have kept := keptAccepted.mpr ⟨position, accepted⟩
  have first := keptAccepted.mpr ⟨place, earliest.accepted⟩
  cases apartRows.mp apart _ kept _ first rfl
  exact keyEarliest.mpr ⟨place, earliest⟩

theorem Naming.nameOfKey {key : κ} {name : String} (found : (ofRows rows).key? name = some key) :
    (ofRows rows).name? key = some name := by
  obtain ⟨position, earliest⟩ := keyEarliest.mp found
  exact nameAccepted.mpr ⟨position, earliest.accepted⟩

theorem Naming.apartOfInverse
    (back : ∀ key name, (ofRows rows).name? key = some name → (ofRows rows).key? name = some key) :
    NamesApart rows := by
  apply apartRows.mpr
  intro ⟨key, name⟩ kept ⟨other, shared⟩ keptOther same
  cases same
  have here := back key name (nameAccepted.mpr (keptAccepted.mp kept))
  have there := back other name (nameAccepted.mpr (keptAccepted.mp keptOther))
  cases here.symm.trans there
  rfl

theorem Naming.inverse (shown : κ → Miss) (absent : String → Miss) :
    Inverse (fun key => .found ((ofRows rows).name? key) (shown key))
      (fun name => .found ((ofRows rows).key? name) (absent name)) ↔ NamesApart rows := by
  simp only [Inverse, Lookup.answerFoundOk]
  constructor
  · intro inverse
    exact apartOfInverse (fun key name => (inverse key name).mp)
  · intro apart key name
    exact ⟨keyOfName apart, nameOfKey⟩

end

namespace FrameMarkers
variable {names : List String} {name : String} {position : Nat}

theorem ordinalOfName (distinct : names.Nodup) (found : names[position]? = some name) :
    (ofNames names).ordinal? name = some position := by
  refine ordinalAt.mpr ⟨found, fun earlier sooner same => ?_⟩
  have inside := (List.getElem?_eq_some_iff.mp found).1
  have bound := Nat.lt_trans sooner inside
  have one := (List.getElem?_inj bound distinct).mp (same.trans found.symm)
  omega

theorem nodupOfBack (back : ∀ position < names.length, ∀ name, names[position]? = some name →
    (ofNames names).ordinal? name = some position) : names.Nodup := by
  apply List.nodup_iff_getElem?_ne_getElem?.mpr
  intro i j before inside same
  have there := List.getElem?_eq_getElem inside
  have first := back i (Nat.lt_trans before inside) _ (same.trans there)
  have second := back j inside _ there
  have one := Option.some.inj (first.symm.trans second)
  omega

end FrameMarkers

namespace Tables
variable {rows : Rows}

theorem typesInverse : Inverse (ofRows rows).typeName (ofRows rows).typeCode ↔
    NamesApart rows.instanceTypes :=
  Naming.inverse _ _

theorem pagesInverse : Inverse (ofRows rows).pageSpace (ofRows rows).firstPage ↔
    NamesApart rows.firstPages :=
  Naming.inverse _ _

theorem markersInverse (short : rows.frameMarkers.length < 2 ^ 63) :
    (ofRows rows).MarkersInverse ↔ rows.frameMarkers.Nodup := by
  unfold MarkersInverse markerName markerOrdinal
  simp only [Lookup.answerFoundOk]
  constructor
  · intro inverse
    apply FrameMarkers.nodupOfBack
    intro position inside name here
    have signed : (Int64.ofNat position).toInt = position :=
      Int64.toInt_ofNat_of_lt (Nat.lt_trans inside short)
    have found := FrameMarkers.nameAt.mpr ⟨position, signed, here⟩
    obtain ⟨place, back, whole⟩ := (inverse _ _).mp found
    rw [signed] at whole
    cases Int.ofNat.inj whole
    exact back
  · intro distinct ordinal name
    constructor
    · intro found
      obtain ⟨position, whole, here⟩ := FrameMarkers.nameAt.mp found
      exact ⟨position, FrameMarkers.ordinalOfName distinct here, whole.symm⟩
    · rintro ⟨position, back, whole⟩
      exact FrameMarkers.nameAt.mpr ⟨position, whole.symm, (FrameMarkers.ordinalAt.mp back).1⟩

end Tables

theorem inverseExactly :
    (∀ rows : Rows, let t := Tables.ofRows rows
      (Inverse t.typeName t.typeCode ↔ NamesApart rows.instanceTypes) ∧
      (Inverse t.pageSpace t.firstPage ↔ NamesApart rows.firstPages) ∧
      (rows.frameMarkers.length < 2 ^ 63 → (t.MarkersInverse ↔ rows.frameMarkers.Nodup))) ∧
    (NamesApart Shipped.rows.instanceTypes ∧ NamesApart Shipped.rows.firstPages ∧
      Shipped.rows.frameMarkers.Nodup) ∧
    Inverse Shipped.tables.typeName Shipped.tables.typeCode ∧
    Inverse Shipped.tables.pageSpace Shipped.tables.firstPage ∧ Shipped.tables.MarkersInverse := by
  have types : NamesApart Shipped.rows.instanceTypes :=
    apartOfNames (List.nodup_cons.mp shippedTidy.typeNames).2
  have pages : NamesApart Shipped.rows.firstPages := apartOfNames shippedTidy.spaces
  have markers : Shipped.rows.frameMarkers.Nodup := shippedTidy.markers
  have short : Shipped.rows.frameMarkers.length < 2 ^ 63 := by decide +kernel
  exact ⟨fun rows => ⟨Tables.typesInverse, Tables.pagesInverse, Tables.markersInverse⟩,
    ⟨types, pages, markers⟩, Tables.typesInverse.mpr types, Tables.pagesInverse.mpr pages,
    (Tables.markersInverse short).mpr markers⟩

def sharedNames : Rows where
  instanceTypes := [⟨1, "A"⟩, ⟨2, "B"⟩, ⟨2, "A"⟩]
  firstPages := [⟨0x40000, "old"⟩, ⟨0x80000, "old"⟩]
  frameMarkers := ["X", "Y", "X"]

theorem sharedNamesInverse :
    let t := Tables.ofRows sharedNames
    Inverse t.typeName t.typeCode ∧ ¬Inverse t.pageSpace t.firstPage ∧
    sharedNames.frameMarkers.length < 2 ^ 63 ∧ ¬t.MarkersInverse := by
  have short : sharedNames.frameMarkers.length < 2 ^ 63 := by decide
  obtain ⟨types, pages, markers⟩ := inverseExactly.1 sharedNames
  exact ⟨types.mpr (by decide), pages.not.mpr (by decide), short, (markers short).not.mpr (by decide)⟩

end HeapTables
