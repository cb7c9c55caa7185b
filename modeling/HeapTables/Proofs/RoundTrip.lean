import HeapTables.Proofs.Scan
import HeapTables.Proofs.Classify

/-! From a site to its address and back. An aligned page and an offset inside it add
up without a carry, and every address with that sum in its lower bits is read back as
the page's space and the offset. A first page that is not aligned, or an offset past
the page, never leads back to the site it came from. -/
namespace HeapTables

structure AnswersAt (t : Tables) (site : Site) (absolute : UInt32) (address : UInt64) : Prop where
  map : ∀ m, (t.mapAt site).answer = .ok m →
    (t.classify address).answer = .ok ⟨site, absolute, .map m⟩
  object : ∀ hidden name, (t.mapAt site).answer = .error hidden →
    (t.objectAt site).answer = .ok name →
    (t.classify address).answer = .ok ⟨site, absolute, .object name⟩
  neither : ∀ hidden miss, (t.mapAt site).answer = .error hidden →
    (t.objectAt site).answer = .error miss → (t.classify address).answer = .error miss

variable {t : Tables} {space : String} {offset page : UInt32} {address : UInt64}

theorem answersAt (split : splitAddress address = (page, offset))
    (known : (t.pageSpace page).answer = .ok space) :
    AnswersAt t ⟨space, offset⟩ address.toUInt32 address where
  map := by
    intro m found
    rw [Tables.classifyAt split known, Tables.entryMap.mpr found]
    rfl
  object := by
    intro hidden name missed found
    rw [Tables.classifyAt split known, Tables.entryObject.mpr ⟨⟨hidden, missed⟩, found⟩]
    rfl
  neither := by
    intro hidden miss missed absent
    rw [Tables.classifyAt split known, Tables.entryError.mpr ⟨⟨hidden, missed⟩, absent⟩]
    rfl

theorem pageOfSum (sum : address.toUInt32 = page + offset) (low : (splitAddress address).2 = offset) :
    splitAddress address = (page, offset) := by
  have join := splitSum address
  have whole := congrArg UInt32.toNat sum
  rw [UInt64.toNat_toUInt32, UInt32.toNat_add] at whole
  have bound := page.toNat_lt
  have first := (splitAddress address).1.toNat_lt
  refine Prod.ext (UInt32.toNat_inj.mp ?_) low
  rw [low] at join
  show (splitAddress address).1.toNat = page.toNat
  have inside := offset.toNat_lt
  omega

theorem splitOfSum (aligned : Aligned page) (inside : InPage offset)
    (sum : address.toUInt32 = page + offset) : splitAddress address = (page, offset) := by
  have whole := congrArg UInt32.toNat sum
  rw [UInt64.toNat_toUInt32, (addInPage aligned inside).2] at whole
  exact splitExact.mpr ⟨aligned, inside, whole⟩

theorem readBack (known : (t.pageSpace page).answer = .ok space)
    (sum : address.toUInt32 = page + offset) :
    ((t.pageSpace (splitAddress address).1).answer = .ok space ∧
      (splitAddress address).2 = offset) ↔ Aligned page ∧ InPage offset := by
  refine ⟨fun ⟨_, low⟩ => ?_, fun ⟨aligned, inside⟩ => ?_⟩
  · have parts := splitExact.mp (pageOfSum sum low)
    exact ⟨parts.1, parts.2.1⟩
  · rw [splitOfSum aligned inside sum]
    exact ⟨known, rfl⟩

theorem resolvedBack (known : (t.pageSpace page).answer = .ok space)
    (sum : address.toUInt32 = page + offset) :
    (∃ r, (t.classify address).answer = .ok r ∧ r.site = ⟨space, offset⟩) ↔
      Aligned page ∧ InPage offset ∧ ∃ entry, (t.entryAt ⟨space, offset⟩).answer = .ok entry := by
  refine ⟨fun ⟨r, answered, same⟩ => ?_, fun ⟨aligned, inside, entry, found⟩ => ?_⟩
  · obtain ⟨named, low, _, found⟩ := Tables.classifyOk.mp answered
    rw [same] at named low found
    have parts := (readBack known sum).mp ⟨named, low.symm⟩
    exact ⟨parts.1, parts.2, r.entry, found⟩
  · refine ⟨⟨⟨space, offset⟩, address.toUInt32, entry⟩, ?_, rfl⟩
    rw [Tables.classifyAt (splitOfSum aligned inside sum) known, found]
    rfl

theorem addressRoundTrip (rows : Rows) (space : String) (offset page : UInt32) :
    let t := Tables.ofRows rows
    ((t.pageSpace page).answer = .ok space → Aligned page → InPage offset →
      page.toNat + offset.toNat < 2 ^ 32 ∧
      ∀ address : UInt64, address.toNat % 2 ^ 32 = page.toNat + offset.toNat →
        splitAddress address = (page, offset) ∧
        AnswersAt t ⟨space, offset⟩ (page + offset) address) ∧
    ((t.firstPage space).answer = .ok page →
      (t.absoluteAddress ⟨space, offset⟩).answer = .ok (page + offset) ∧
      (Aligned page → InPage offset → (page + offset).toNat = page.toNat + offset.toNat ∧
        ∀ address : UInt64, address.toUInt32 = page + offset →
          AnswersAt t ⟨space, offset⟩ (page + offset) address) ∧
      ∀ address : UInt64, address.toUInt32 = page + offset →
        (((t.pageSpace (splitAddress address).1).answer = .ok space ∧
          (splitAddress address).2 = offset) ↔ Aligned page ∧ InPage offset) ∧
        ((∃ r, (t.classify address).answer = .ok r ∧ r.site = ⟨space, offset⟩) ↔
          Aligned page ∧ InPage offset ∧
            ∃ entry, (t.entryAt ⟨space, offset⟩).answer = .ok entry)) := by
  intro t
  refine ⟨fun known aligned inside => ?_, fun first => ?_⟩
  · obtain ⟨fits, sum⟩ := addInPage aligned inside
    refine ⟨fits, fun address low => ?_⟩
    have split := splitExact.mpr ⟨aligned, inside, low⟩
    have whole : address.toUInt32 = page + offset := by
      apply UInt32.toNat_inj.mp
      rw [UInt64.toNat_toUInt32, low, sum]
    exact ⟨split, whole ▸ answersAt split known⟩
  · have known := Tables.pageSpaceOfFirst first
    refine ⟨Tables.absoluteOk.mpr ⟨page, first, rfl⟩, fun aligned inside => ?_, ?_⟩
    · refine ⟨(addInPage aligned inside).2, fun address sum => ?_⟩
      exact sum ▸ answersAt (splitOfSum aligned inside sum) known
    · intro address sum
      exact ⟨readBack known sum, resolvedBack known sum⟩

def topPage : Rows where
  knownMaps := [⟨⟨"old", 0x3ffff⟩, ⟨7, "FirstMap"⟩⟩, ⟨⟨"old", 0x3ffff⟩, ⟨8, "LaterMap"⟩⟩]
  knownObjects := [⟨⟨"old", 0x3ffff⟩, "Beneath"⟩]
  firstPages := [⟨0xfffc0000, "old"⟩, ⟨0xfffc0000, "new"⟩, ⟨0x40001, "odd"⟩]

theorem topPageRoundTrip :
    let t := Tables.ofRows topPage
    (t.pageSpace 0xfffc0000).answer = .ok "old" ∧ Aligned 0xfffc0000 ∧ InPage 0x3ffff ∧
    (t.classify 0x12345678ffffffff).answer =
      .ok ⟨⟨"old", 0x3ffff⟩, 0xffffffff, .map ⟨7, "FirstMap"⟩⟩ ∧
    (t.firstPage "odd").answer = .ok 0x40001 ∧
    ¬∃ r, (t.classify 0x40011).answer = .ok r ∧ r.site = ⟨"odd", 0x10⟩ := by
  have known : ((Tables.ofRows topPage).pageSpace 0xfffc0000).answer = .ok "old" :=
    Tables.pageSpaceOk.mpr ⟨0, by decide⟩
  have odd : ((Tables.ofRows topPage).firstPage "odd").answer = .ok 0x40001 :=
    Tables.firstPageOk.mpr ⟨2, by decide⟩
  have aligned : Aligned 0xfffc0000 := rfl
  have inside : InPage 0x3ffff := by decide
  have back := ((addressRoundTrip topPage "old" 0x3ffff 0xfffc0000).1 known aligned inside).2
  have apart := ((addressRoundTrip topPage "odd" 0x10 0x40001).2 odd).2.2 0x40011 rfl
  refine ⟨known, aligned, inside, ?_, odd, fun resolved => ?_⟩
  · exact (back 0x12345678ffffffff rfl).2.map _ (Tables.mapAtOk.mpr ⟨0, by decide⟩)
  · exact absurd (apart.2.mp resolved).1 (by decide)

end HeapTables
