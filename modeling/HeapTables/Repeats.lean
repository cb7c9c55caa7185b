/-! Rows told apart by whether their key was there before. `firsts` and `repeats`
share out a row list between them: nothing is lost, and order is kept. -/
namespace HeapTables
variable {α κ : Type} [DecidableEq κ]

def firsts (key : α → κ) (seen : List κ) : List α → List α
  | [] => []
  | row :: rest =>
      if key row ∈ seen then firsts key seen rest
      else row :: firsts key (key row :: seen) rest

def repeats (key : α → κ) (seen : List κ) : List α → List α
  | [] => []
  | row :: rest =>
      if key row ∈ seen then row :: repeats key seen rest
      else repeats key (key row :: seen) rest

theorem firstsLength (key : α → κ) (seen : List κ) (rows : List α) :
    (firsts key seen rows).length + (repeats key seen rows).length = rows.length := by
  induction rows generalizing seen with
  | nil => rfl
  | cons row rest ih =>
    by_cases taken : key row ∈ seen
    · have h := ih seen
      simp only [firsts, repeats, if_pos taken, List.length_cons]
      omega
    · have h := ih (key row :: seen)
      simp only [firsts, repeats, if_neg taken, List.length_cons]
      omega

theorem firstsFresh {key : α → κ} {seen : List κ} {rows : List α} {row : α}
    (mem : row ∈ firsts key seen rows) : row ∈ rows ∧ key row ∉ seen := by
  induction rows generalizing seen with
  | nil => simp [firsts] at mem
  | cons head rest ih =>
    by_cases taken : key head ∈ seen
    · rw [firsts, if_pos taken] at mem
      exact ⟨List.mem_cons_of_mem _ (ih mem).1, (ih mem).2⟩
    · rw [firsts, if_neg taken] at mem
      rcases List.mem_cons.mp mem with rfl | later
      · exact ⟨List.mem_cons_self, taken⟩
      · have h := ih later
        exact ⟨List.mem_cons_of_mem _ h.1, fun old => h.2 (List.mem_cons_of_mem _ old)⟩

theorem firstsNodup (key : α → κ) (seen : List κ) (rows : List α) :
    ((firsts key seen rows).map key).Nodup := by
  induction rows generalizing seen with
  | nil => simp [firsts]
  | cons row rest ih =>
    by_cases taken : key row ∈ seen
    · rw [firsts, if_pos taken]
      exact ih seen
    · rw [firsts, if_neg taken, List.map_cons, List.nodup_cons]
      refine ⟨fun mem => ?_, ih _⟩
      obtain ⟨later, mem, same⟩ := List.mem_map.mp mem
      exact (firstsFresh mem).2 (same ▸ List.mem_cons_self)

theorem firstsSeen {key : α → κ} {seen known : List κ} (same : ∀ k, k ∈ seen ↔ k ∈ known)
    (rows : List α) : firsts key seen rows = firsts key known rows := by
  induction rows generalizing seen known with
  | nil => rfl
  | cons row rest ih =>
    by_cases taken : key row ∈ seen
    · rw [firsts, firsts, if_pos taken, if_pos ((same _).mp taken)]
      exact ih same
    · rw [firsts, firsts, if_neg taken, if_neg (mt (same _).mpr taken)]
      exact congrArg (row :: ·) (ih (fun k => by simp [same k]))

theorem firstsAppend (key : α → κ) (seen : List κ) (before after : List α) :
    firsts key seen (before ++ after) =
      firsts key seen before ++ firsts key (before.map key ++ seen) after := by
  induction before generalizing seen with
  | nil => rfl
  | cons row rest ih =>
    by_cases taken : key row ∈ seen
    · have known : ∀ k, k ∈ rest.map key ++ seen ↔ k ∈ key row :: rest.map key ++ seen := by
        intro k
        constructor
        · exact List.mem_cons_of_mem _
        · intro mem
          rcases List.mem_cons.mp mem with rfl | later
          · exact List.mem_append_right _ taken
          · exact later
      simp only [List.cons_append, List.map_cons, firsts, if_pos taken, ih]
      rw [firstsSeen known]
      rfl
    · have known : ∀ k, k ∈ rest.map key ++ key row :: seen ↔
          k ∈ key row :: rest.map key ++ seen := by
        intro k
        simp [or_left_comm]
      simp only [List.cons_append, List.map_cons, firsts, if_neg taken, ih]
      rw [firstsSeen known]
      rfl

theorem findFirsts {key : α → κ} {seen : List κ} {k : κ} (fresh : k ∉ seen) (rows : List α) :
    (firsts key seen rows).find? (key · == k) = rows.find? (key · == k) := by
  induction rows generalizing seen with
  | nil => rfl
  | cons row rest ih =>
    by_cases taken : key row ∈ seen
    · have other : key row ≠ k := fun same => fresh (same ▸ taken)
      rw [firsts, if_pos taken, ih fresh]
      simp [other]
    · rw [firsts, if_neg taken]
      by_cases same : key row = k
      · simp [same]
      · have still : k ∉ key row :: seen := by simp [fresh, Ne.symm same]
        simp [same, ih still]

end HeapTables
