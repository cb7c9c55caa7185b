import Mathlib.Algebra.Group.Nat.Defs
import HeapTables.Lookups

/-! Ordinals of frame markers against positions in their sequence. An ordinal is a signed word,
as a stack slot holds it; it names a marker exactly where it is a position. A name leads back to
its first position, so an ordinal sent through its name comes out no later, and stays there. -/
namespace HeapTables

namespace FrameMarkers
variable {names : List String} {ordinal : Int} {name : String} {position : Nat}

theorem nameAt : (ofNames names).name? ordinal = some name ↔
    ∃ position : Nat, ordinal = position ∧ names[position]? = some name := by
  cases ordinal with
  | ofNat n =>
    refine ⟨fun found => ⟨n, rfl, found⟩, fun ⟨position, same, found⟩ => ?_⟩
    cases Int.ofNat.inj same
    exact found
  | negSucc n =>
    refine ⟨(nomatch ·), fun ⟨position, same, _⟩ => ?_⟩
    omega

theorem nameInside : (∃ name, (ofNames names).name? ordinal = some name) ↔
    0 ≤ ordinal ∧ ordinal < names.length := by
  constructor
  · rintro ⟨name, found⟩
    obtain ⟨position, rfl, here⟩ := nameAt.mp found
    have bound := (List.getElem?_eq_some_iff.mp here).1
    omega
  · rintro ⟨least, below⟩
    have inside : ordinal.toNat < names.length := by omega
    have whole : ordinal = ordinal.toNat := (Int.toNat_of_nonneg least).symm
    exact ⟨_, nameAt.mpr ⟨_, whole, List.getElem?_eq_getElem inside⟩⟩

theorem nameOutside : (ofNames names).name? ordinal = none ↔
    ¬(0 ≤ ordinal ∧ ordinal < names.length) := by
  rw [← nameInside, ← Option.isSome_iff_exists, Option.not_isSome_iff_eq_none]

theorem ordinalAt : (ofNames names).ordinal? name = some position ↔
    names[position]? = some name ∧ ∀ earlier < position, names[earlier]? ≠ some name := by
  rw [ordinalOfNames, List.findIdx?_eq_some_iff_getElem]
  constructor
  · intro ⟨inside, here, before⟩
    rw [List.getElem?_eq_getElem inside, beq_iff_eq.mp here]
    refine ⟨rfl, fun earlier sooner found => ?_⟩
    obtain ⟨bound, same⟩ := List.getElem?_eq_some_iff.mp found
    exact before earlier sooner (beq_iff_eq.mpr same)
  · intro ⟨found, before⟩
    obtain ⟨inside, here⟩ := List.getElem?_eq_some_iff.mp found
    refine ⟨inside, beq_iff_eq.mpr here, fun earlier sooner same => ?_⟩
    have bound := Nat.lt_trans sooner inside
    apply before earlier sooner
    rw [List.getElem?_eq_getElem bound, beq_iff_eq.mp same]

theorem ordinalNone : (ofNames names).ordinal? name = none ↔ name ∉ names := by
  rw [ordinalOfNames, List.findIdx?_eq_none_iff]
  constructor
  · intro apart mem
    simpa using apart name mem
  · intro absent other mem
    exact beq_eq_false_iff_ne.mpr (fun same => absent (same ▸ mem))

theorem ordinalBefore (here : names[position]? = some name) :
    ∃ first ≤ position, (ofNames names).ordinal? name = some first := by
  cases found : (ofNames names).ordinal? name with
  | none => exact absurd (List.mem_of_getElem? here) (ordinalNone.mp found)
  | some first =>
    refine ⟨first, Nat.le_of_not_lt (fun sooner => ?_), rfl⟩
    exact (ordinalAt.mp found).2 position sooner here

end FrameMarkers

def Tables.firstOrdinal (t : Tables) (ordinal : Int64) : Lookup Int64 := do
  let name ← t.markerName ordinal.toInt
  let position ← t.markerOrdinal name
  return Int64.ofNat position

def IsPosition (names : List String) (ordinal : Int64) : Prop :=
  0 ≤ ordinal.toInt ∧ ordinal.toInt < names.length

instance {names : List String} {ordinal : Int64} : Decidable (IsPosition names ordinal) :=
  inferInstanceAs (Decidable (0 ≤ ordinal.toInt ∧ ordinal.toInt < names.length))

structure Positioned (names : List String) (t : Tables) : Prop where
  named : ∀ (ordinal : Int64) (name : String), (t.markerName ordinal.toInt).answer = .ok name ↔
    IsPosition names ordinal ∧ names[ordinal.toInt.toNat]? = some name
  answered : ∀ ordinal : Int64, IsPosition names ordinal →
    ∃ name, (t.markerName ordinal.toInt).answer = .ok name
  outside : ∀ (ordinal : Int64) (miss : Miss), (t.markerName ordinal.toInt).answer = .error miss ↔
    ¬IsPosition names ordinal ∧ miss = .outOfRange ordinal.toInt names.length
  fallback : ∀ ordinal : Int64, ¬IsPosition names ordinal →
    (t.markerNameOrUnknown ordinal.toInt).value = "UNKNOWN_FRAME"
  ordinal : ∀ (name : String) (position : Nat), (t.markerOrdinal name).answer = .ok position ↔
    names[position]? = some name ∧ ∀ earlier < position, names[earlier]? ≠ some name
  absent : ∀ (name : String) (miss : Miss), (t.markerOrdinal name).answer = .error miss ↔
    name ∉ names ∧ miss = .notFound .frameMarkers name
  back : ∀ (name : String) (position : Nat), (t.markerOrdinal name).answer = .ok position →
    (Int64.ofNat position).toInt = position ∧
      (t.markerName (Int64.ofNat position).toInt).answer = .ok name
  notAfter : ∀ (ordinal : Int64) (name : String), (t.markerName ordinal.toInt).answer = .ok name →
    ∃ position : Nat, (t.markerOrdinal name).answer = .ok position ∧ position ≤ ordinal.toInt
  first : ∀ ordinal : Int64, IsPosition names ordinal →
    ∃ place, (t.firstOrdinal ordinal).answer = .ok place
  lowered : ∀ ordinal place : Int64, (t.firstOrdinal ordinal).answer = .ok place →
    place ≤ ordinal ∧ (t.firstOrdinal place).answer = .ok place

namespace Tables
variable {rows : Rows} {ordinal place : Int64} {name : String} {position : Nat} {miss : Miss}

theorem markerNameOk : ((ofRows rows).markerName ordinal.toInt).answer = .ok name ↔
    IsPosition rows.frameMarkers ordinal ∧
      rows.frameMarkers[ordinal.toInt.toNat]? = some name := by
  refine Lookup.answerFoundOk.trans ⟨fun found => ?_, fun ⟨⟨least, _⟩, here⟩ => ?_⟩
  · refine ⟨FrameMarkers.nameInside.mp ⟨name, found⟩, ?_⟩
    obtain ⟨position, whole, here⟩ := FrameMarkers.nameAt.mp found
    rw [whole]
    exact here
  · exact FrameMarkers.nameAt.mpr ⟨_, (Int.toNat_of_nonneg least).symm, here⟩

theorem markerAnswered (inside : IsPosition rows.frameMarkers ordinal) :
    ∃ name, ((ofRows rows).markerName ordinal.toInt).answer = .ok name := by
  obtain ⟨name, found⟩ := FrameMarkers.nameInside.mpr inside
  exact ⟨name, Lookup.answerFoundOk.mpr found⟩

theorem markerNameError : ((ofRows rows).markerName ordinal.toInt).answer = .error miss ↔
    ¬IsPosition rows.frameMarkers ordinal ∧
      miss = .outOfRange ordinal.toInt rows.frameMarkers.length :=
  Lookup.answerFoundError.trans (and_congr_left' FrameMarkers.nameOutside)

theorem markerOrdinalOk : ((ofRows rows).markerOrdinal name).answer = .ok position ↔
    rows.frameMarkers[position]? = some name ∧
      ∀ earlier < position, rows.frameMarkers[earlier]? ≠ some name :=
  Lookup.answerFoundOk.trans FrameMarkers.ordinalAt

theorem firstOrdinalOk {t : Tables} : (t.firstOrdinal ordinal).answer = .ok place ↔
    ∃ name position, (t.markerName ordinal.toInt).answer = .ok name ∧
      (t.markerOrdinal name).answer = .ok position ∧ place = Int64.ofNat position := by
  unfold firstOrdinal
  rw [Lookup.answerBind]
  cases (t.markerName ordinal.toInt).answer with
  | error missed => simp [Except.bind]
  | ok name =>
    cases found : (t.markerOrdinal name).answer <;> simp [Except.bind, found, eq_comm]

theorem markerBack (short : rows.frameMarkers.length < 2 ^ 63)
    (found : ((ofRows rows).markerOrdinal name).answer = .ok position) :
    (Int64.ofNat position).toInt = position ∧
      ((ofRows rows).markerName (Int64.ofNat position).toInt).answer = .ok name := by
  have here := (markerOrdinalOk.mp found).1
  have inside := (List.getElem?_eq_some_iff.mp here).1
  have whole : (Int64.ofNat position).toInt = position :=
    Int64.toInt_ofNat_of_lt (Nat.lt_trans inside short)
  refine ⟨whole, ?_⟩
  rw [whole]
  exact Lookup.answerFoundOk.mpr (FrameMarkers.nameAt.mpr ⟨position, rfl, here⟩)

theorem markerNotAfter
    (named : ((ofRows rows).markerName ordinal.toInt).answer = .ok name) :
    ∃ position : Nat, ((ofRows rows).markerOrdinal name).answer = .ok position ∧
      position ≤ ordinal.toInt := by
  obtain ⟨⟨least, _⟩, here⟩ := markerNameOk.mp named
  obtain ⟨first, le, found⟩ := FrameMarkers.ordinalBefore here
  exact ⟨first, Lookup.answerFoundOk.mpr found, by omega⟩

theorem firstLowered (short : rows.frameMarkers.length < 2 ^ 63)
    (first : ((ofRows rows).firstOrdinal ordinal).answer = .ok place) :
    place ≤ ordinal ∧ ((ofRows rows).firstOrdinal place).answer = .ok place := by
  obtain ⟨name, position, named, found, rfl⟩ := firstOrdinalOk.mp first
  obtain ⟨whole, back⟩ := markerBack short found
  obtain ⟨other, again, le⟩ := markerNotAfter named
  cases Except.ok.inj (found.symm.trans again)
  refine ⟨Int64.le_iff_toInt_le.mpr (whole ▸ le), ?_⟩
  exact firstOrdinalOk.mpr ⟨name, position, back, found, rfl⟩

end Tables

theorem markerPositions (rows : Rows) (short : rows.frameMarkers.length < 2 ^ 63) :
    Positioned rows.frameMarkers (.ofRows rows) where
  named := by
    intro ordinal name
    exact Tables.markerNameOk
  answered := by
    intro ordinal inside
    exact Tables.markerAnswered inside
  outside := by
    intro ordinal miss
    exact Tables.markerNameError
  fallback := by
    intro ordinal outside
    have missed := Tables.markerNameError.mpr ⟨outside, rfl⟩
    rw [Tables.markerNameOrUnknown, Lookup.valueGetD, missed]
    rfl
  ordinal := by
    intro name position
    exact Tables.markerOrdinalOk
  absent := by
    intro name miss
    exact Lookup.answerFoundError.trans (and_congr_left' FrameMarkers.ordinalNone)
  back := by
    intro name position found
    exact Tables.markerBack short found
  notAfter := by
    intro ordinal name named
    exact Tables.markerNotAfter named
  first := by
    intro ordinal inside
    obtain ⟨name, named⟩ := Tables.markerAnswered inside
    obtain ⟨position, placed, _⟩ := Tables.markerNotAfter named
    exact ⟨_, Tables.firstOrdinalOk.mpr ⟨name, position, named, placed, rfl⟩⟩
  lowered := by
    intro ordinal place first
    exact Tables.firstLowered short first

def repeatedMarkers : Rows where
  frameMarkers := ["A", "B", "A"]

theorem repeatedMarkersFirst :
    let t := Tables.ofRows repeatedMarkers
    repeatedMarkers.frameMarkers.length < 2 ^ 63 ∧
    (t.markerName 2).answer = .ok "A" ∧ (t.markerOrdinal "A").answer = .ok 0 ∧
    (t.firstOrdinal 2).answer = .ok 0 ∧ (t.firstOrdinal 0).answer = .ok 0 ∧
    ¬IsPosition repeatedMarkers.frameMarkers Int64.minValue ∧
    (t.markerName Int64.minValue.toInt).answer = .error (.outOfRange (-9223372036854775808) 3) ∧
    (t.markerNameOrUnknown Int64.minValue.toInt).value = "UNKNOWN_FRAME" := by
  have short : repeatedMarkers.frameMarkers.length < 2 ^ 63 := by decide
  have laws := markerPositions repeatedMarkers short
  have named : ((Tables.ofRows repeatedMarkers).markerName 2).answer = .ok "A" :=
    (laws.named 2 "A").mpr ⟨by decide, rfl⟩
  have placed : ((Tables.ofRows repeatedMarkers).markerOrdinal "A").answer = .ok 0 :=
    (laws.ordinal "A" 0).mpr ⟨rfl, by decide⟩
  have first : ((Tables.ofRows repeatedMarkers).firstOrdinal 2).answer = .ok 0 :=
    Tables.firstOrdinalOk.mpr ⟨"A", 0, named, placed, rfl⟩
  have outside : ¬IsPosition repeatedMarkers.frameMarkers Int64.minValue := by decide
  exact ⟨short, named, placed, first, (laws.lowered 2 0 first).2, outside,
    (laws.outside _ _).mpr ⟨outside, rfl⟩, laws.fallback _ outside⟩

end HeapTables
