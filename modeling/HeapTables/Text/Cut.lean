import Std.Data.String.ToInt
import HeapTables.Text.Hex

/-! Texts cut at a separator. Read from the front a separator is known by its first letter, read
from the back by its last, as long as that letter is nowhere in what was read before it. The side
that is not read yet may hold anything, the separator again included. Numerals can be read over
for every letter that is none of their digits. -/
namespace HeapTables.Text

section
variable {mark : Char} {front other rest more : List Char}

theorem cutFirst (free : mark ∉ front) (freeOther : mark ∉ other)
    (same : front ++ mark :: rest = other ++ mark :: more) : front = other ∧ rest = more := by
  induction front generalizing other with
  | nil =>
    cases other with
    | nil => exact ⟨rfl, (List.cons.inj same).2⟩
    | cons first tail =>
      cases (List.cons.inj same).1
      exact absurd List.mem_cons_self freeOther
  | cons first tail ih =>
    cases other with
    | nil =>
      cases (List.cons.inj same).1
      exact absurd List.mem_cons_self free
    | cons head left =>
      have parts := List.cons.inj same
      have later := ih (fun mem => free (List.mem_cons_of_mem _ mem))
        (fun mem => freeOther (List.mem_cons_of_mem _ mem)) parts.2
      exact ⟨List.cons_eq_cons.mpr ⟨parts.1, later.1⟩, later.2⟩

theorem cutLast (free : mark ∉ rest) (freeOther : mark ∉ more)
    (same : front ++ mark :: rest = other ++ mark :: more) : front = other ∧ rest = more := by
  have turned : rest.reverse ++ mark :: front.reverse = more.reverse ++ mark :: other.reverse := by
    simpa using congrArg List.reverse same
  obtain ⟨rests, fronts⟩ :=
    cutFirst (mt List.mem_reverse.mp free) (mt List.mem_reverse.mp freeOther) turned
  exact ⟨List.reverse_inj.mp fronts, List.reverse_inj.mp rests⟩

end

section
variable {mark : Char} {separator front other rest more : String}

theorem cutFront (starts : separator.toList.head? = some mark) (free : mark ∉ front.toList)
    (freeOther : mark ∉ other.toList)
    (same : front ++ separator ++ rest = other ++ separator ++ more) :
    front = other ∧ rest = more := by
  obtain ⟨left, whole⟩ := List.head?_eq_some_iff.mp starts
  have letters := congrArg String.toList same
  simp only [String.toList_append, whole, List.append_assoc, List.cons_append] at letters
  obtain ⟨fronts, behind⟩ := cutFirst free freeOther letters
  exact ⟨String.toList_inj.mp fronts, String.toList_inj.mp (List.append_cancel_left behind)⟩

theorem cutBack (ends : separator.toList.getLast? = some mark) (free : mark ∉ rest.toList)
    (freeOther : mark ∉ more.toList)
    (same : front ++ separator ++ rest = other ++ separator ++ more) :
    front = other ∧ rest = more := by
  obtain ⟨left, whole⟩ := List.getLast?_eq_some_iff.mp ends
  have letters := congrArg String.toList same
  simp only [String.toList_append, whole, List.append_assoc, List.singleton_append] at letters
  rw [← List.append_assoc, ← List.append_assoc] at letters
  obtain ⟨before, rests⟩ := cutLast free freeOther letters
  exact ⟨String.toList_inj.mp (List.append_cancel_right before), String.toList_inj.mp rests⟩

end

theorem decimalFree {mark : Char} (other : mark.isDigit = false) (n : Nat) :
    mark ∉ (toString n).toList := by
  intro mem
  rw [Nat.toString_eq_ofList_toDigits, String.toList_ofList] at mem
  have digit := Nat.isDigit_of_mem_toDigits (by decide) (by decide) mem
  rw [other] at digit
  cases digit

theorem lastLetter {mark : Char} {closing : String} (ends : closing.toList.getLast? = some mark)
    (front : String) : (front ++ closing).toList.getLast? = some mark := by
  rw [String.toList_append, List.getLast?_append, ends]
  rfl

end HeapTables.Text
