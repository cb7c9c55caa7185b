import Std.Data.HashMap
import HeapTables.Rows
import HeapTables.Repeats

/-! What is recorded at the sites of heap spaces, indexed by space and then by
offset. Equal offsets in two spaces are two sites. The first row of a site is
kept and a later one is set aside. -/
namespace HeapTables

structure Placement (α : Type) where
  spaces : Std.HashMap String (Std.HashMap UInt32 α)
  repeats : Array (Placed α)

namespace Placement
variable {α : Type}

def empty : Placement α := ⟨∅, #[]⟩

def item? (t : Placement α) (site : Site) : Option α :=
  t.spaces[site.space]?.bind (·[site.offset]?)

def total {β : Type} (amount : β → Nat) : List (String × β) → Nat
  | [] => 0
  | entry :: rest => amount entry.2 + total amount rest

def size (t : Placement α) : Nat := total Std.HashMap.size t.spaces.toList

def insert (t : Placement α) (row : Placed α) : Placement α :=
  if (t.item? row.site).isSome then { t with repeats := t.repeats.push row }
  else
    let offsets := t.spaces.getD row.site.space ∅
    { t with spaces := t.spaces.insert row.site.space (offsets.insert row.site.offset row.item) }

def insertAll (t : Placement α) (rows : List (Placed α)) : Placement α := rows.foldl insert t

def ofRows (rows : List (Placed α)) : Placement α := empty.insertAll rows

def Holds (t : Placement α) (seen : List Site) : Prop :=
  ∀ site, site ∈ seen ↔ (t.item? site).isSome

variable {t : Placement α} {row : Placed α} {seen : List Site}

theorem insertTaken (held : t.Holds seen) (taken : row.site ∈ seen) :
    t.insert row = { t with repeats := t.repeats.push row } :=
  if_pos ((held row.site).mp taken)

theorem insertFree (held : t.Holds seen) (free : row.site ∉ seen) :
    t.insert row = { t with
      spaces := t.spaces.insert row.site.space
        ((t.spaces.getD row.site.space ∅).insert row.site.offset row.item) } :=
  if_neg (fun taken => free ((held row.site).mpr taken))

theorem itemInsertFree (held : t.Holds seen) (free : row.site ∉ seen) (site : Site) :
    (t.insert row).item? site = if row.site = site then some row.item else t.item? site := by
  rw [insertFree held free]
  obtain ⟨⟨space, offset⟩, item⟩ := row
  obtain ⟨space', offset'⟩ := site
  simp only [item?, Std.HashMap.getElem?_insert, Site.mk.injEq, Std.HashMap.getD_eq_getD_getElem?]
  by_cases sameSpace : space = space'
  · subst sameSpace
    by_cases sameOffset : offset = offset'
    · simp [sameOffset]
    · cases t.spaces[space]? <;> simp [sameOffset, Std.HashMap.getElem?_insert]
  · simp [sameSpace]

theorem holdsEmpty : (empty : Placement α).Holds [] := by
  intro site
  simp [empty, item?]

theorem holdsInsertTaken (held : t.Holds seen) (taken : row.site ∈ seen) :
    (t.insert row).Holds seen := by
  rw [insertTaken held taken]
  exact held

theorem holdsInsertFree (held : t.Holds seen) (free : row.site ∉ seen) :
    (t.insert row).Holds (row.site :: seen) := by
  intro site
  rw [itemInsertFree held free]
  have h := held site
  by_cases same : row.site = site
  · simp [same]
  · simpa [same, Ne.symm same] using h

theorem insertAllCons (t : Placement α) (row : Placed α) (rows : List (Placed α)) :
    t.insertAll (row :: rows) = (t.insert row).insertAll rows := rfl

theorem itemInsertAll (held : t.Holds seen) (rows : List (Placed α)) (site : Site) :
    (t.insertAll rows).item? site =
      (t.item? site).or ((rows.find? (·.site == site)).map (·.item)) := by
  induction rows generalizing t seen with
  | nil => simp [insertAll]
  | cons row rest ih =>
    rw [insertAllCons]
    by_cases taken : row.site ∈ seen
    · rw [ih (holdsInsertTaken held taken), insertTaken held taken]
      by_cases same : row.site = site
      · have here := (held row.site).mp taken
        rw [same] at here
        obtain ⟨item, found⟩ := Option.isSome_iff_exists.mp here
        simp only [item?] at found ⊢
        simp [found]
      · simp [item?, same]
    · rw [ih (holdsInsertFree held taken), itemInsertFree held taken]
      by_cases same : row.site = site
      · have absent : t.item? site = none := by
          have h := mt (held row.site).mpr taken
          simpa [same] using h
        simp [same, absent]
      · simp [same]

theorem repeatsInsertAll (held : t.Holds seen) (rows : List (Placed α)) :
    (t.insertAll rows).repeats.toList =
      t.repeats.toList ++ HeapTables.repeats Placed.site seen rows := by
  induction rows generalizing t seen with
  | nil => simp [insertAll, HeapTables.repeats]
  | cons row rest ih =>
    rw [insertAllCons]
    by_cases taken : row.site ∈ seen
    · rw [ih (holdsInsertTaken held taken), insertTaken held taken]
      simp [HeapTables.repeats, taken]
    · rw [ih (holdsInsertFree held taken), insertFree held taken]
      simp [HeapTables.repeats, taken]

theorem totalPerm {β : Type} (amount : β → Nat) {left right : List (String × β)}
    (perm : left.Perm right) : total amount left = total amount right := by
  induction perm with
  | nil => rfl
  | cons entry _ ih => exact congrArg (amount entry.2 + ·) ih
  | swap a b rest => exact Nat.add_left_comm (amount b.2) (amount a.2) (total amount rest)
  | trans _ _ first second => exact first.trans second

theorem totalApart {β : Type} (amount : β → Nat) {entries : List (String × β)}
    (distinct : entries.Pairwise (fun a b => (a.1 == b.1) = false)) (key : String) :
    total amount entries = total amount (entries.filter (¬key == ·.1)) +
      (entries.find? (·.1 == key)).elim 0 (fun e => amount e.2) := by
  induction entries with
  | nil => rfl
  | cons entry rest ih =>
    obtain ⟨apart, distinct⟩ := List.pairwise_cons.mp distinct
    by_cases same : entry.1 = key
    · have others : rest.filter (fun e => !decide (key = e.1)) = rest := by
        rw [List.filter_eq_self]
        intro e mem
        have h := apart e mem
        rw [same] at h
        simpa using h
      simp [total, same, others, Nat.add_comm]
    · have h := ih distinct
      simp [total, same, Ne.symm same] at h ⊢
      omega

theorem sizeInsertFree (held : t.Holds seen) (free : row.site ∉ seen) :
    (t.insert row).size = t.size + 1 := by
  have absent := mt (held row.site).mpr free
  rw [insertFree held free]
  have shape := Std.HashMap.toList_insert_perm (m := t.spaces) (k := row.site.space)
    (v := (t.spaces.getD row.site.space ∅).insert row.site.offset row.item)
  have apart := totalApart Std.HashMap.size (Std.HashMap.distinct_keys_toList (m := t.spaces))
    row.site.space
  simp only [size]
  rw [totalPerm _ shape, total, apart]
  cases here : t.spaces.toList.find? (·.1 == row.site.space) with
  | none =>
    have outside : row.site.space ∉ t.spaces :=
      Std.HashMap.find?_toList_eq_none_iff_not_mem.mp here
    simp [Std.HashMap.getD_eq_getD_getElem?, Std.HashMap.size_insert, outside, Nat.add_comm]
  | some entry =>
    have inside :=
      (Std.HashMap.find?_toList_eq_some_iff_getKey?_eq_some_and_getElem?_eq_some.mp here).2
    have new : row.site.offset ∉ entry.2 := by
      simpa [item?, inside] using absent
    simp [Std.HashMap.getD_eq_getD_getElem?, Std.HashMap.size_insert, inside, new]
    omega

theorem sizeInsertAll (held : t.Holds seen) (rows : List (Placed α)) :
    (t.insertAll rows).size = t.size + (firsts Placed.site seen rows).length := by
  induction rows generalizing t seen with
  | nil => simp [insertAll, firsts]
  | cons row rest ih =>
    rw [insertAllCons]
    by_cases taken : row.site ∈ seen
    · rw [ih (holdsInsertTaken held taken), insertTaken held taken, firsts, if_pos taken]
      rfl
    · rw [ih (holdsInsertFree held taken), sizeInsertFree held taken, firsts, if_neg taken]
      simp only [List.length_cons]
      omega

theorem itemOfRows (rows : List (Placed α)) (site : Site) :
    (ofRows rows).item? site = (rows.find? (·.site == site)).map (·.item) := by
  rw [ofRows, itemInsertAll holdsEmpty]
  simp [empty, item?]

theorem repeatsOfRows (rows : List (Placed α)) :
    (ofRows rows).repeats.toList = HeapTables.repeats Placed.site [] rows := by
  rw [ofRows, repeatsInsertAll holdsEmpty]
  simp [empty]

theorem sizeOfRows (rows : List (Placed α)) :
    (ofRows rows).size = (firsts Placed.site [] rows).length := by
  rw [ofRows, sizeInsertAll holdsEmpty]
  simp [empty, size, total]

end Placement
end HeapTables
