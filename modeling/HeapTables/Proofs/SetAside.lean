import Mathlib.Data.List.Nodup
import HeapTables.Proofs.Accepted

/-! Kept and repeated rows by position. A row is repeated where its key belongs to a
row before it, and kept elsewhere; no state is carried from row to row. The scans
`firsts` and `repeats` find the same rows in the same order. -/
namespace HeapTables
variable {α κ : Type} [DecidableEq κ] {key : α → κ} {seen : List κ} {rows : List α} {row : α}

/-- Whether a row, taken with its position, has its key from a row before it. -/
def occursBefore (key : α → κ) (rows : List α) (place : α × Nat) : Bool :=
  (rows.take place.2).any (key · == key place.1)

def repeatedRows (key : α → κ) (rows : List α) : List α :=
  (rows.zipIdx.filter (occursBefore key rows)).map (·.1)

def keptRows (key : α → κ) (rows : List α) : List α :=
  (rows.zipIdx.filter (!occursBefore key rows ·)).map (·.1)

theorem occursNext (before rest : List α) (row : α) :
    occursBefore key (before ++ row :: rest) (row, before.length) =
      decide (key row ∈ before.map key) := by
  rw [Bool.eq_iff_iff]
  simp [occursBefore]

/- On the rows that follow `before`; `seen` holds the keys of `before` in any order
and number, as a scan that skips repeats collects them. -/
theorem scansAfter (before : List α) (known : ∀ k, k ∈ seen ↔ k ∈ before.map key)
    (rest : List α) :
    firsts key seen rest = ((rest.zipIdx before.length).filter
      (!occursBefore key (before ++ rest) ·)).map (·.1) ∧
    repeats key seen rest = ((rest.zipIdx before.length).filter
      (occursBefore key (before ++ rest))).map (·.1) := by
  induction rest generalizing before seen with
  | nil => exact ⟨rfl, rfl⟩
  | cons row rest ih =>
    have whole : before ++ row :: rest = (before ++ [row]) ++ rest := by simp
    have next : before.length + 1 = (before ++ [row]).length := by simp
    have here : occursBefore key (before ++ row :: rest) (row, before.length) =
        decide (key row ∈ seen) :=
      (occursNext before rest row).trans (decide_eq_decide.mpr (known (key row)).symm)
    unfold firsts repeats
    simp only [List.zipIdx_cons, List.filter_cons, here]
    rw [whole, next]
    by_cases taken : key row ∈ seen
    · have still : ∀ k, k ∈ seen ↔ k ∈ (before ++ [row]).map key := by
        intro k
        rw [List.map_append, List.mem_append, ← known]
        refine ⟨Or.inl, fun either => either.elim id (fun last => ?_)⟩
        rwa [List.mem_singleton.mp last]
      simp [taken, ih _ still]
    · have more : ∀ k, k ∈ key row :: seen ↔ k ∈ (before ++ [row]).map key := by
        intro k
        simp [known, or_comm]
      simp [taken, ih _ more]

theorem firstsKept (key : α → κ) (rows : List α) : firsts key [] rows = keptRows key rows :=
  (scansAfter [] (by simp) rows).1

theorem repeatsRepeated (key : α → κ) (rows : List α) :
    repeats key [] rows = repeatedRows key rows :=
  (scansAfter [] (by simp) rows).2

theorem keptAndRepeated (key : α → κ) (rows : List α) :
    (keptRows key rows).length + (repeatedRows key rows).length = rows.length := by
  rw [← firstsKept, ← repeatsRepeated, firstsLength]

theorem memKept : row ∈ keptRows key rows ↔ rows.find? (key · == key row) = some row := by
  rw [← firstsKept, memFirsts, findAccepted]
  simp

theorem keptAccepted : row ∈ keptRows key rows ↔ ∃ position, Accepted key rows position row := by
  rw [← firstsKept, memFirsts]

theorem keptKeys (key : α → κ) (rows : List α) : ((keptRows key rows).map key).Nodup :=
  firstsKept key rows ▸ firstsNodup key [] rows

theorem keptNodup (key : α → κ) (rows : List α) : (keptRows key rows).Nodup :=
  (keptKeys key rows).of_map key

theorem keptSublist (key : α → κ) (rows : List α) : (keptRows key rows).Sublist rows := by
  have all : rows.zipIdx.map (·.1) = rows := List.zipIdx_map_fst 0 rows
  have kept := (List.filter_sublist (p := (!occursBefore key rows ·)) (l := rows.zipIdx)).map (·.1)
  rw [all] at kept
  exact kept

theorem sharedOut (key : α → κ) (seen : List κ) (rows : List α) :
    (firsts key seen rows ++ repeats key seen rows).Perm rows := by
  induction rows generalizing seen with
  | nil => exact .nil
  | cons row rest ih =>
    unfold firsts repeats
    split
    · exact List.perm_middle.trans ((ih seen).cons row)
    · exact (ih (key row :: seen)).cons row

theorem firstsDistinct (distinct : (rows.map key).Nodup) (fresh : ∀ row ∈ rows, key row ∉ seen) :
    firsts key seen rows = rows := by
  induction rows generalizing seen with
  | nil => rfl
  | cons row rest ih =>
    obtain ⟨alone, distinct⟩ := List.nodup_cons.mp distinct
    have later : ∀ other ∈ rest, key other ∉ key row :: seen := by
      intro other mem old
      rcases List.mem_cons.mp old with same | old
      · exact alone (same ▸ List.mem_map_of_mem mem)
      · exact fresh other (List.mem_cons_of_mem _ mem) old
    rw [firsts, if_neg (fresh row List.mem_cons_self), ih distinct later]

theorem keptDistinct (distinct : (rows.map key).Nodup) : keptRows key rows = rows := by
  rw [← firstsKept, firstsDistinct distinct (by simp)]

theorem foundDistinct {k : κ} (distinct : (rows.map key).Nodup) :
    rows.find? (key · == k) = some row ↔ row ∈ rows ∧ key row = k := by
  constructor
  · intro found
    exact ⟨List.mem_of_find?_eq_some found, by simpa using List.find?_some found⟩
  · rintro ⟨mem, rfl⟩
    rw [← keptDistinct distinct] at mem
    exact memKept.mp mem

theorem keptKept (key : α → κ) (rows : List α) :
    keptRows key (keptRows key rows) = keptRows key rows :=
  keptDistinct (keptKeys key rows)

theorem repeatedKept (key : α → κ) (rows : List α) : repeatedRows key (keptRows key rows) = [] := by
  have total := keptAndRepeated key (keptRows key rows)
  rw [keptKept] at total
  exact List.eq_nil_of_length_eq_zero (by omega)

end HeapTables
