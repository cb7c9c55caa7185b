import Mathlib.Data.List.Induction
import HeapTables.Repeats

/-! Rows by position. A row is accepted where no row before it has its key, and a
condition is met earliest at one accepted position. Both are said of the row list
alone, with no table; the scan `firsts` is shown to find the same rows. -/
namespace HeapTables
variable {α κ : Type} {key : α → κ} {rows : List α} {position : Nat} {row : α}

structure Accepted (key : α → κ) (rows : List α) (position : Nat) (row : α) : Prop where
  here : rows[position]? = some row
  fresh : ∀ earlier < position, ∀ other, rows[earlier]? = some other → key other ≠ key row

structure Earliest (key : α → κ) (rows : List α) (wanted : α → Prop) (position : Nat)
    (row : α) : Prop where
  accepted : Accepted key rows position row
  met : wanted row
  least : ∀ earlier < position, ∀ other, Accepted key rows earlier other → ¬wanted other

instance [DecidableEq α] [DecidableEq κ] : Decidable (Accepted key rows position row) :=
  decidable_of_iff (rows[position]? = some row ∧
    ∀ earlier < position, ∀ other ∈ rows[earlier]?, key other ≠ key row)
    ⟨fun h => ⟨h.1, h.2⟩, fun h => ⟨h.here, h.fresh⟩⟩

instance [DecidableEq α] [DecidableEq κ] {wanted : α → Prop} [DecidablePred wanted] :
    Decidable (Earliest key rows wanted position row) :=
  decidable_of_iff (Accepted key rows position row ∧ wanted row ∧
    ∀ earlier < position, ∀ other ∈ rows[earlier]?,
      Accepted key rows earlier other → ¬wanted other)
    ⟨fun h => ⟨h.1, h.2.1, fun earlier before other taken =>
        h.2.2 earlier before other taken.here taken⟩,
      fun h => ⟨h.accepted, h.met, fun earlier before other _ => h.least earlier before other⟩⟩

theorem earliestBefore (wanted : α → Prop) (accepted : Accepted key rows position row)
    (met : wanted row) :
    ∃ place ≤ position, ∃ other, Earliest key rows wanted place other := by
  induction position using Nat.strongRecOn generalizing row with
  | ind position ih =>
    by_cases sooner : ∃ place < position, ∃ other, Accepted key rows place other ∧ wanted other
    · obtain ⟨place, before, other, accepted, met⟩ := sooner
      obtain ⟨first, le, found⟩ := ih place before accepted met
      exact ⟨first, Nat.le_trans le (Nat.le_of_lt before), found⟩
    · refine ⟨position, Nat.le_refl _, row, accepted, met, ?_⟩
      intro earlier before other taken met
      exact sooner ⟨earlier, before, other, taken, met⟩

theorem insideTake {count : Nat} (here : (rows.take count)[position]? = some row) :
    position < count := by
  have bound := (List.getElem?_eq_some_iff.mp here).1
  rw [List.length_take] at bound
  omega

theorem acceptedTake {count : Nat} :
    Accepted key (rows.take count) position row ↔
      position < count ∧ Accepted key rows position row := by
  have same {place : Nat} (inside : place < count) : (rows.take count)[place]? = rows[place]? :=
    List.getElem?_take_of_lt inside
  refine ⟨fun accepted => ?_, fun ⟨inside, accepted⟩ => ?_⟩
  · have inside := insideTake accepted.here
    refine ⟨inside, (same inside).symm.trans accepted.here, fun earlier before other found => ?_⟩
    have within := Nat.lt_trans before inside
    exact accepted.fresh earlier before other ((same within).trans found)
  · refine ⟨(same inside).trans accepted.here, fun earlier before other found => ?_⟩
    have within := Nat.lt_trans before inside
    exact accepted.fresh earlier before other ((same within).symm.trans found)

theorem Accepted.outside (accepted : Accepted key rows position row) :
    key row ∉ (rows.take position).map key := by
  intro mem
  obtain ⟨other, before, same⟩ := List.mem_map.mp mem
  obtain ⟨earlier, found⟩ := List.mem_iff_getElem?.mp before
  have bound := insideTake found
  exact accepted.fresh earlier bound other ((List.getElem?_take_of_lt bound).symm.trans found) same

variable [DecidableEq κ]

theorem firstsSplit (accepted : Accepted key rows position row) :
    ∃ after, firsts key [] rows = firsts key [] (rows.take position) ++ row :: after := by
  obtain ⟨inside, same⟩ := List.getElem?_eq_some_iff.mp accepted.here
  have split : rows = rows.take position ++ row :: rows.drop (position + 1) := by
    rw [← same, ← List.drop_eq_getElem_cons inside, List.take_append_drop]
  have outside : key row ∉ (rows.take position).map key ++ [] := by
    rw [List.append_nil]
    exact accepted.outside
  have scan := firstsAppend key [] (rows.take position) (row :: rows.drop (position + 1))
  rw [← split, firsts, if_neg outside] at scan
  exact ⟨_, scan⟩

theorem memFirsts : row ∈ firsts key [] rows ↔ ∃ position, Accepted key rows position row := by
  refine ⟨fun mem => ?_, fun ⟨position, accepted⟩ => ?_⟩
  · -- On the last row: what the scan kept before it stays accepted where it was.
    induction rows using List.reverseRecOn with
    | nil => cases mem
    | append_singleton before last ih =>
      rw [firstsAppend] at mem
      rcases List.mem_append.mp mem with old | new
      · obtain ⟨position, accepted⟩ := ih old
        have start : (before ++ [last]).take before.length = before := by simp
        rw [← start] at accepted
        exact ⟨position, (acceptedTake.mp accepted).2⟩
      · obtain ⟨mem, fresh⟩ := firstsFresh new
        cases List.mem_singleton.mp mem
        refine ⟨before.length, by simp, ?_⟩
        intro earlier bound other found same
        rw [List.getElem?_append_left bound] at found
        exact fresh (by simpa using ⟨other, List.mem_of_getElem? found, same⟩)
  · obtain ⟨after, split⟩ := firstsSplit accepted
    rw [split]
    exact List.mem_append_right _ List.mem_cons_self

theorem findAccepted {k : κ} : rows.find? (key · == k) = some row ↔
    key row = k ∧ ∃ position, Accepted key rows position row := by
  refine ⟨fun found => ?_, fun ⟨same, position, accepted⟩ => ?_⟩
  · obtain ⟨same, position, inside, here, before⟩ := List.find?_eq_some_iff_getElem.mp found
    have same : key row = k := by simpa using same
    refine ⟨same, position, by rw [List.getElem?_eq_getElem inside, here], ?_⟩
    intro earlier bound other found clash
    have h := before earlier bound
    rw [(List.getElem?_eq_some_iff.mp found).2] at h
    simp [clash, same] at h
  · obtain ⟨inside, here⟩ := List.getElem?_eq_some_iff.mp accepted.here
    refine List.find?_eq_some_iff_getElem.mpr ⟨by simpa using same, position, inside, here, ?_⟩
    intro earlier bound
    have apart := accepted.fresh earlier bound _ (List.getElem?_eq_getElem (by omega))
    simpa [same] using apart

theorem findValue {β : Type} {value : α → β} {k : κ} {v : β} :
    (rows.find? (key · == k)).map value = some v ↔
      ∃ position row, Accepted key rows position row ∧ key row = k ∧ value row = v := by
  rw [Option.map_eq_some_iff]
  refine ⟨fun ⟨row, found, same⟩ => ?_, fun ⟨position, row, accepted, whole, same⟩ => ?_⟩
  · obtain ⟨whole, position, accepted⟩ := findAccepted.mp found
    exact ⟨position, row, accepted, whole, same⟩
  · exact ⟨row, findAccepted.mpr ⟨whole, position, accepted⟩, same⟩

theorem earliestFound {wanted : α → Bool}
    (earliest : Earliest key rows (wanted · = true) position row) :
    (firsts key [] rows).find? wanted = some row := by
  obtain ⟨after, split⟩ := firstsSplit earliest.accepted
  have none : (firsts key [] (rows.take position)).find? wanted = none := by
    refine List.find?_eq_none.mpr (fun other mem => ?_)
    obtain ⟨place, accepted⟩ := memFirsts.mp mem
    obtain ⟨before, accepted⟩ := acceptedTake.mp accepted
    exact earliest.least place before other accepted
  rw [split, List.find?_append, none, Option.none_or, List.find?_cons_of_pos earliest.met]

theorem foundEarliest {wanted : α → Bool} (found : (firsts key [] rows).find? wanted = some row) :
    ∃ position, Earliest key rows (wanted · = true) position row := by
  have met : wanted row = true := List.find?_some found
  obtain ⟨position, accepted⟩ := memFirsts.mp (List.mem_of_find?_eq_some found)
  obtain ⟨place, _, other, earliest⟩ := earliestBefore (wanted · = true) accepted met
  cases Option.some.inj (found.symm.trans (earliestFound earliest))
  exact ⟨place, earliest⟩

end HeapTables
