import HeapTables.Address

/-! Displays read back. A map is displayed with its type last, so the type is read from the back,
and the name in front of it may end like a display itself. An address is displayed with its site
first, which is read from the front: its space ends at the first plus, its offset at the colon.
What follows displays the entry. Only the kind of the entry is not written down. -/
namespace HeapTables

theorem KnownMap.displayInj {m other : KnownMap} (same : m.display = other.display) :
    m = other := by
  have free (code : UInt16) : '(' ∉ (codeText code).toList := Text.decimalFree rfl _
  have unclosed := (String.append_left_inj _).mp same
  obtain ⟨names, numerals⟩ := Text.cutBack rfl (free _) (free _) unclosed
  have codes := codeTextInj numerals
  cases m
  cases other
  cases names
  cases codes
  rfl

theorem labelParts (site : Site) (rest : String) : site.label ++ rest =
    site.space ++ "+0x" ++ (Text.hex site.offset.toNat ++ ": " ++ rest) := by
  simp only [Site.label, String.append_assoc]

theorem siteOfLabel {site other : Site} {rest more : String} (plain : '+' ∉ site.space.toList)
    (plainOther : '+' ∉ other.space.toList) (same : site.label ++ rest = other.label ++ more) :
    site = other ∧ rest = more := by
  have colon (n : Nat) : ':' ∉ (Text.hex n).toList := (Text.shortestHex n).free (by decide)
  rw [labelParts, labelParts] at same
  obtain ⟨spaces, behind⟩ := Text.cutFront rfl plain plainOther same
  obtain ⟨digits, left⟩ := Text.cutFront rfl (colon _) (colon _) behind
  have offsets := UInt32.toNat_inj.mp (Text.hexInj digits)
  cases site
  cases other
  cases spaces
  cases offsets
  exact ⟨rfl, left⟩

def Entry.SameKind : Entry → Entry → Prop
  | .map _, .map _ | .object _, .object _ => True
  | _, _ => False

theorem Entry.displayInj {e f : Entry} (kind : e.SameKind f) (same : e.display = f.display) :
    e = f := by
  cases e with
  | map m =>
    cases f with
    | map other => exact congrArg Entry.map (KnownMap.displayInj same)
    | object name => exact kind.elim
  | object name =>
    cases f with
    | map other => exact kind.elim
    | object other => exact congrArg Entry.object same

theorem displayParts {r s : Resolved} (plain : '+' ∉ r.site.space.toList)
    (plainOther : '+' ∉ s.site.space.toList) :
    r.display = s.display ↔ r.site = s.site ∧ r.entry.display = s.entry.display := by
  constructor
  · intro same
    exact siteOfLabel plain plainOther same
  · intro ⟨site, entry⟩
    rw [Resolved.display, Resolved.display, site, entry]

theorem displaysReadBack :
    (∀ (c d : UInt16) (m n : String),
      KnownMap.display ⟨c, m⟩ = KnownMap.display ⟨d, n⟩ ↔ c = d ∧ m = n) ∧
    ∀ r s : Resolved, '+' ∉ r.site.space.toList → '+' ∉ s.site.space.toList →
      r.entry.SameKind s.entry →
      (r.display = s.display ↔ r.site = s.site ∧ r.entry = s.entry) := by
  constructor
  · intro c d m n
    constructor
    · intro same
      cases KnownMap.displayInj same
      exact ⟨rfl, rfl⟩
    · rintro ⟨rfl, rfl⟩
      rfl
  · intro r s plain plainOther kind
    rw [displayParts plain plainOther]
    constructor
    · intro ⟨site, entry⟩
      exact ⟨site, Entry.displayInj kind entry⟩
    · intro ⟨site, entry⟩
      exact ⟨site, congrArg Entry.display entry⟩

theorem nestedDisplaysTold :
    let r : Resolved := ⟨⟨"old", 0x10⟩, 0x40010, .map ⟨7, "A (7)"⟩⟩
    let moved : Resolved := ⟨⟨"old", 0x10⟩, 0x80010, .map ⟨7, "A (7)"⟩⟩
    let nearer : Resolved := ⟨⟨"old", 0x1⟩, 0x40001, .map ⟨7, "0: A (7)"⟩⟩
    '+' ∉ r.site.space.toList ∧ r.entry.SameKind moved.entry ∧ r.entry.SameKind nearer.entry ∧
    r.display = moved.display ∧ r.display ≠ nearer.display ∧
    KnownMap.display ⟨7, "A (7)"⟩ ≠ KnownMap.display ⟨77, "A (7"⟩ := by
  intro r moved nearer
  have plain : '+' ∉ r.site.space.toList := by decide
  obtain ⟨maps, resolved⟩ := displaysReadBack
  exact ⟨plain, trivial, trivial, (resolved r moved plain plain trivial).mpr ⟨rfl, rfl⟩,
    mt (resolved r nearer plain plain trivial).mp (by decide), mt (maps _ _ _ _).mp (by decide)⟩

theorem mixedDisplays {site other : Site} (plain : '+' ∉ site.space.toList)
    (plainOther : '+' ∉ other.space.toList) (a b : UInt32) (m : KnownMap) (name : String) :
    Resolved.display ⟨site, a, .map m⟩ = Resolved.display ⟨other, b, .object name⟩ ↔
      site = other ∧ name = m.display :=
  (displayParts plain plainOther).trans (and_congr_right' eq_comm)

/- A space with a plus in it can take the place of a site and of the start of a name. -/
theorem plusMisread (site inner : Site) (a b : UInt32) (name : String) :
    Resolved.display ⟨site, a, .object (inner.label ++ name)⟩ =
      Resolved.display ⟨⟨site.label ++ inner.space, inner.offset⟩, b, .object name⟩ := by
  simp only [Resolved.display, Entry.display, Site.label, String.append_assoc]

end HeapTables
