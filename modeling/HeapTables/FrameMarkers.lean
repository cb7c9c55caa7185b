import Std.Data.HashMap

/-! The frame marker sequence. A marker is its position, so names may repeat;
a name stands for the first position that holds it. -/
namespace HeapTables

structure FrameMarkers where
  names : List String
  ordinals : Std.HashMap String Nat

namespace FrameMarkers

def index (ordinals : Std.HashMap String Nat) (position : Nat) :
    List String → Std.HashMap String Nat
  | [] => ordinals
  | name :: rest => index (ordinals.insertIfNew name position) (position + 1) rest

def ofNames (names : List String) : FrameMarkers := ⟨names, index ∅ 0 names⟩

/-- Ordinals are signed, since a stack slot is read raw; none below zero is a position. -/
def name? (markers : FrameMarkers) : Int → Option String
  | .ofNat position => markers.names[position]?
  | .negSucc _ => none

def ordinal? (markers : FrameMarkers) (name : String) : Option Nat := markers.ordinals[name]?

def size (markers : FrameMarkers) : Nat := markers.names.length

theorem indexAt (ordinals : Std.HashMap String Nat) (position : Nat) (names : List String)
    (name : String) :
    (index ordinals position names)[name]? =
      ordinals[name]?.or ((names.findIdx? (· == name)).map (· + position)) := by
  induction names generalizing ordinals position with
  | nil => simp [index]
  | cons head rest ih =>
    rw [index, ih, Std.HashMap.getElem?_insertIfNew, List.findIdx?_cons]
    by_cases same : head = name
    · subst same
      by_cases known : head ∈ ordinals <;> simp [known]
    · simp [same, Option.map_map, Function.comp_def, Nat.add_assoc, Nat.add_comm 1]

theorem ordinalOfNames (names : List String) (name : String) :
    (ofNames names).ordinal? name = names.findIdx? (· == name) := by
  rw [ordinal?, ofNames, indexAt]
  simp

end FrameMarkers
end HeapTables
