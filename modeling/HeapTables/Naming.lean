import Std.Data.HashMap
import HeapTables.Rows
import HeapTables.Repeats

/-! Names for keys, indexed both ways. The first row of a key is kept and a later
one is set aside. The way back holds kept rows only, and the first kept row of a
name answers there: a row that was set aside leaves no trace in either index. -/
namespace HeapTables

structure Naming (κ : Type) [DecidableEq κ] [Hashable κ] where
  names : Std.HashMap κ String
  keys : Std.HashMap String κ
  repeats : Array (Named κ)

namespace Naming
variable {κ : Type} [DecidableEq κ] [Hashable κ]

def empty : Naming κ := ⟨∅, ∅, #[]⟩

def name? (t : Naming κ) (key : κ) : Option String := t.names[key]?

def key? (t : Naming κ) (name : String) : Option κ := t.keys[name]?

def size (t : Naming κ) : Nat := t.names.size

def insert (t : Naming κ) (row : Named κ) : Naming κ :=
  if (t.name? row.key).isSome then { t with repeats := t.repeats.push row }
  else { t with
    names := t.names.insert row.key row.name
    keys := t.keys.insertIfNew row.name row.key }

def insertAll (t : Naming κ) (rows : List (Named κ)) : Naming κ := rows.foldl insert t

def ofRows (rows : List (Named κ)) : Naming κ := empty.insertAll rows

def Holds (t : Naming κ) (seen : List κ) : Prop := ∀ key, key ∈ seen ↔ (t.name? key).isSome

variable {t : Naming κ} {row : Named κ} {seen : List κ}

theorem insertTaken (held : t.Holds seen) (taken : row.key ∈ seen) :
    t.insert row = { t with repeats := t.repeats.push row } :=
  if_pos ((held row.key).mp taken)

theorem insertFree (held : t.Holds seen) (free : row.key ∉ seen) :
    t.insert row = { t with
      names := t.names.insert row.key row.name
      keys := t.keys.insertIfNew row.name row.key } :=
  if_neg (fun taken => free ((held row.key).mpr taken))

theorem holdsEmpty : (empty : Naming κ).Holds [] := by
  intro key
  simp [empty, name?]

theorem holdsInsertTaken (held : t.Holds seen) (taken : row.key ∈ seen) :
    (t.insert row).Holds seen := by
  rw [insertTaken held taken]
  exact held

theorem holdsInsertFree (held : t.Holds seen) (free : row.key ∉ seen) :
    (t.insert row).Holds (row.key :: seen) := by
  intro key
  rw [insertFree held free]
  have h := held key
  by_cases same : row.key = key
  · simp [name?, same]
  · simpa [name?, Std.HashMap.getElem?_insert, same, Ne.symm same] using h

theorem insertAllCons (t : Naming κ) (row : Named κ) (rows : List (Named κ)) :
    t.insertAll (row :: rows) = (t.insert row).insertAll rows := rfl

theorem nameInsertAll (held : t.Holds seen) (rows : List (Named κ)) (key : κ) :
    (t.insertAll rows).name? key =
      (t.name? key).or ((rows.find? (·.key == key)).map (·.name)) := by
  induction rows generalizing t seen with
  | nil => simp [insertAll]
  | cons row rest ih =>
    rw [insertAllCons]
    by_cases taken : row.key ∈ seen
    · rw [ih (holdsInsertTaken held taken), insertTaken held taken]
      by_cases same : row.key = key
      · have here := (held row.key).mp taken
        rw [same] at here
        obtain ⟨name, found⟩ := Option.isSome_iff_exists.mp here
        simp only [name?] at found ⊢
        simp [found]
      · simp [name?, same]
    · rw [ih (holdsInsertFree held taken), insertFree held taken]
      by_cases same : row.key = key
      · have absent : t.names[key]? = none := by
          have h := mt (held row.key).mpr taken
          simpa [name?, same] using h
        simp [name?, same, absent]
      · simp [name?, Std.HashMap.getElem?_insert, same]

theorem keyInsertAll (held : t.Holds seen) (rows : List (Named κ)) (name : String) :
    (t.insertAll rows).key? name =
      (t.key? name).or (((firsts Named.key seen rows).find? (·.name == name)).map (·.key)) := by
  induction rows generalizing t seen with
  | nil => simp [insertAll, firsts]
  | cons row rest ih =>
    rw [insertAllCons]
    by_cases taken : row.key ∈ seen
    · rw [ih (holdsInsertTaken held taken), insertTaken held taken, firsts, if_pos taken]
      rfl
    · rw [ih (holdsInsertFree held taken), insertFree held taken, firsts, if_neg taken]
      simp only [key?, Std.HashMap.getElem?_insertIfNew, List.find?_cons]
      by_cases same : row.name = name
      · subst same
        by_cases known : row.name ∈ t.keys
        · simp [known]
        · simp [known]
      · have other : (row.name == name) = false := by simp [same]
        simp [other]

theorem repeatsInsertAll (held : t.Holds seen) (rows : List (Named κ)) :
    (t.insertAll rows).repeats.toList =
      t.repeats.toList ++ HeapTables.repeats Named.key seen rows := by
  induction rows generalizing t seen with
  | nil => simp [insertAll, HeapTables.repeats]
  | cons row rest ih =>
    rw [insertAllCons]
    by_cases taken : row.key ∈ seen
    · rw [ih (holdsInsertTaken held taken), insertTaken held taken]
      simp [HeapTables.repeats, taken]
    · rw [ih (holdsInsertFree held taken), insertFree held taken]
      simp [HeapTables.repeats, taken]

theorem sizeInsertAll (held : t.Holds seen) (rows : List (Named κ)) :
    (t.insertAll rows).size = t.size + (firsts Named.key seen rows).length := by
  induction rows generalizing t seen with
  | nil => simp [insertAll, firsts]
  | cons row rest ih =>
    rw [insertAllCons]
    by_cases taken : row.key ∈ seen
    · rw [ih (holdsInsertTaken held taken), insertTaken held taken]
      simp [firsts, taken, size]
    · rw [ih (holdsInsertFree held taken), insertFree held taken]
      have new : ¬ row.key ∈ t.names := by
        have h := mt (held row.key).mpr taken
        simpa [name?] using h
      simp [firsts, taken, size, Std.HashMap.size_insert, new]
      omega

theorem nameOfRows (rows : List (Named κ)) (key : κ) :
    (ofRows rows).name? key = (rows.find? (·.key == key)).map (·.name) := by
  rw [ofRows, nameInsertAll holdsEmpty]
  simp [empty, name?]

theorem keyOfRows (rows : List (Named κ)) (name : String) :
    (ofRows rows).key? name =
      ((firsts Named.key [] rows).find? (·.name == name)).map (·.key) := by
  rw [ofRows, keyInsertAll holdsEmpty]
  simp [empty, key?]

theorem repeatsOfRows (rows : List (Named κ)) :
    (ofRows rows).repeats.toList = HeapTables.repeats Named.key [] rows := by
  rw [ofRows, repeatsInsertAll holdsEmpty]
  simp [empty]

theorem sizeOfRows (rows : List (Named κ)) :
    (ofRows rows).size = (firsts Named.key [] rows).length := by
  rw [ofRows, sizeInsertAll holdsEmpty]
  simp [empty, size]

end Naming
end HeapTables
