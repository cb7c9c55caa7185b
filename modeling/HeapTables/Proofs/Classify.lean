import HeapTables.Proofs.Pages

/-! Classification taken apart. The page of an address names the space, its offset
completes the site, and the entry there is a map or, where no map is, an object. -/
namespace HeapTables.Tables
variable {t : Tables} {site : Site} {address : UInt64} {page offset : UInt32} {space : String}
  {miss : Miss}

theorem entryAnswer (t : Tables) (site : Site) : (t.entryAt site).answer =
    match (t.mapAt site).answer with
    | .ok m => .ok (.map m)
    | .error _ => (t.objectAt site).answer.map .object := by
  unfold entryAt
  rw [Lookup.answerOrElse, Lookup.answerMap, Lookup.answerMap]
  cases (t.mapAt site).answer <;> rfl

theorem entryMap {m : KnownMap} :
    (t.entryAt site).answer = .ok (.map m) ↔ (t.mapAt site).answer = .ok m := by
  rw [entryAnswer]
  cases (t.mapAt site).answer <;> cases (t.objectAt site).answer <;> simp [Except.map]

theorem entryObject {name : String} : (t.entryAt site).answer = .ok (.object name) ↔
    (∃ hidden, (t.mapAt site).answer = .error hidden) ∧ (t.objectAt site).answer = .ok name := by
  rw [entryAnswer]
  cases (t.mapAt site).answer <;> cases (t.objectAt site).answer <;> simp [Except.map]

theorem entryError : (t.entryAt site).answer = .error miss ↔
    (∃ hidden, (t.mapAt site).answer = .error hidden) ∧ (t.objectAt site).answer = .error miss := by
  rw [entryAnswer]
  cases (t.mapAt site).answer <;> cases (t.objectAt site).answer <;> simp [Except.map]

theorem classifyAnswer (t : Tables) (address : UInt64) : (t.classify address).answer =
    (t.pageSpace (splitAddress address).1).answer.bind (fun space =>
      (t.entryAt ⟨space, (splitAddress address).2⟩).answer.map
        (⟨⟨space, (splitAddress address).2⟩, address.toUInt32, ·⟩)) := by
  unfold classify
  rw [Lookup.answerBind]
  refine congrArg _ (funext fun space => ?_)
  rw [Lookup.answerBind, splitJoin]
  cases (t.entryAt ⟨space, (splitAddress address).2⟩).answer <;> rfl

theorem classifyAt (split : splitAddress address = (page, offset))
    (known : (t.pageSpace page).answer = .ok space) : (t.classify address).answer =
      (t.entryAt ⟨space, offset⟩).answer.map (⟨⟨space, offset⟩, address.toUInt32, ·⟩) := by
  rw [classifyAnswer, split, known]
  rfl

theorem classifyOk {r : Resolved} : (t.classify address).answer = .ok r ↔
    (t.pageSpace (splitAddress address).1).answer = .ok r.site.space ∧
      r.site.offset = (splitAddress address).2 ∧ r.absolute = address.toUInt32 ∧
      (t.entryAt r.site).answer = .ok r.entry := by
  obtain ⟨⟨space, offset⟩, absolute, entry⟩ := r
  rw [classifyAnswer]
  cases known : (t.pageSpace (splitAddress address).1).answer with
  | error unknown => simp [Except.bind]
  | ok named =>
    refine ⟨fun answered => ?_, fun ⟨same, low, whole, found⟩ => ?_⟩
    · cases found : (t.entryAt ⟨named, (splitAddress address).2⟩).answer with
      | error missed => simp [Except.bind, Except.map, found] at answered
      | ok listed =>
        simp only [Except.bind, Except.map, found, Except.ok.injEq, Resolved.mk.injEq] at answered
        obtain ⟨here, whole, same⟩ := answered
        cases here
        exact ⟨rfl, rfl, whole.symm, by rw [found, same]⟩
    · cases same
      change offset = _ at low
      change absolute = _ at whole
      subst low whole
      simp only [Except.bind, Except.map, found]

theorem classifyError : (t.classify address).answer = .error miss ↔
    (t.pageSpace (splitAddress address).1).answer = .error miss ∨
      ∃ space, (t.pageSpace (splitAddress address).1).answer = .ok space ∧
        (t.entryAt ⟨space, (splitAddress address).2⟩).answer = .error miss := by
  rw [classifyAnswer]
  cases (t.pageSpace (splitAddress address).1).answer with
  | error unknown => simp [Except.bind]
  | ok named =>
    cases missed : (t.entryAt ⟨named, (splitAddress address).2⟩).answer <;>
      simp [Except.bind, Except.map, missed]

theorem absoluteOk {x : UInt32} : (t.absoluteAddress site).answer = .ok x ↔
    ∃ first, (t.firstPage site.space).answer = .ok first ∧ x = first + site.offset := by
  unfold absoluteAddress
  rw [Lookup.answerBind]
  cases (t.firstPage site.space).answer <;> simp [Except.bind, eq_comm]

theorem describeOk {r : Resolved} (answered : (t.classify address).answer = .ok r) :
    (t.describe address).value = t.label r := by
  rw [describe, Lookup.valueGetD, Lookup.answerMap, answered]
  rfl

theorem describeError (missed : (t.classify address).answer = .error miss) :
    (t.describe address).value = unknownLabel address := by
  rw [describe, Lookup.valueGetD, Lookup.answerMap, missed]
  rfl

end HeapTables.Tables
