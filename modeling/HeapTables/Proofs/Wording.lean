import HeapTables.Lookups

/-! The wording of a miss against the miss. A message ends in the table that was asked, and no title
ends another one, so a message is read from the back and its key may hold any text, another message
included. Asked by one lookup, two keys that miss are worded alike only if they are one key. Two
lookups of one table can be worded alike: a name may be spelled like a code, a space like a page. -/
namespace HeapTables

theorem Table.titleApart {table other : Table}
    (inside : table.title.toList <:+ other.title.toList) : table = other := by
  revert inside
  cases table <;> cases other <;> decide

theorem keyOfMessage {table other : Table} {key text : String}
    (same : (Miss.notFound table key).message = (Miss.notFound other text).message) :
    table = other ∧ key = text := by
  have whole : key ++ " not found in " ++ table.title ++ " table" =
    text ++ " not found in " ++ other.title ++ " table" := same
  have titled := (String.append_left_inj _).mp whole
  have letters : (key ++ " not found in ").toList ++ table.title.toList =
      (text ++ " not found in ").toList ++ other.title.toList := by
    simpa only [String.toList_append] using congrArg String.toList titled
  -- Of two titles that end one text, the shorter one ends the longer one.
  have tables : table = other := by
    rcases List.suffix_or_suffix_of_suffix ⟨_, letters⟩ (List.suffix_append _ _) with inside | inside
    · exact Table.titleApart inside
    · exact (Table.titleApart inside).symm
  cases tables
  have keyed := (String.append_left_inj _).mp titled
  exact ⟨rfl, (String.append_left_inj _).mp keyed⟩

theorem ordinalOfMessage {ordinal other : Int} {length size : Nat}
    (same : (Miss.outOfRange ordinal length).message = (Miss.outOfRange other size).message) :
    ordinal = other ∧ length = size := by
  have whole : "frame marker ordinal " ++ toString ordinal ++ " out of range (0.." ++
      toString length ++ ")" = "frame marker ordinal " ++ toString other ++
      " out of range (0.." ++ toString size ++ ")" := same
  have free (n : Nat) : '.' ∉ (toString n).toList := Text.decimalFree rfl n
  have unclosed := (String.append_left_inj _).mp whole
  obtain ⟨fronts, lengths⟩ := Text.cutBack rfl (free _) (free _) unclosed
  have ordinals := (String.append_right_inj _).mp fronts
  exact ⟨Int.repr_injective ordinals, Nat.repr_injective lengths⟩

theorem keyNoOrdinal (table : Table) (key : String) (ordinal : Int) (length : Nat) :
    (Miss.notFound table key).message ≠ (Miss.outOfRange ordinal length).message := by
  intro same
  have word : (Miss.notFound table key).message.toList.getLast? = some 'e' := Text.lastLetter rfl _
  have bracket : (Miss.outOfRange ordinal length).message.toList.getLast? = some ')' :=
    Text.lastLetter rfl _
  rw [same, bracket] at word
  cases word

theorem messageInj {e f : Miss} (same : e.message = f.message) : e = f := by
  cases e with
  | notFound table key =>
    cases f with
    | notFound other text =>
      obtain ⟨tables, keys⟩ := keyOfMessage same
      rw [tables, keys]
    | outOfRange ordinal length => exact absurd same (keyNoOrdinal _ _ _ _)
  | outOfRange ordinal length =>
    cases f with
    | notFound table key => exact absurd same.symm (keyNoOrdinal _ _ _ _)
    | outOfRange other size =>
      obtain ⟨ordinals, lengths⟩ := ordinalOfMessage same
      rw [ordinals, lengths]

def WordsApart {κ α : Type} (lookup : κ → Lookup α) : Prop :=
  ∀ asked again missed other, (lookup asked).answer = .error missed →
    (lookup again).answer = .error other → (missed.message = other.message ↔ asked = again)

structure WordsMisses (t : Tables) : Prop where
  typeName : WordsApart t.typeName
  typeCode : WordsApart t.typeCode
  mapAt : WordsApart t.mapAt
  objectAt : WordsApart t.objectAt
  pageSpace : WordsApart t.pageSpace
  firstPage : WordsApart t.firstPage
  markerOrdinal : WordsApart t.markerOrdinal
  markerName : WordsApart t.markerName
  mapShown : ∀ site missed, (t.mapAt site).answer = .error missed →
    ∃ digits, Text.Padded 5 site.offset.toNat digits ∧ missed.message =
      "(" ++ site.space ++ ", 0x" ++ digits ++ ")" ++ " not found in known maps table"
  objectShown : ∀ site missed, (t.objectAt site).answer = .error missed →
    ∃ digits, Text.Padded 5 site.offset.toNat digits ∧ missed.message =
      "(" ++ site.space ++ ", 0x" ++ digits ++ ")" ++ " not found in known objects table"
  pageShown : ∀ page missed, (t.pageSpace page).answer = .error missed →
    ∃ digits, Text.Padded 8 page.toNat digits ∧ digits.length = 8 ∧ missed.message =
      "0x" ++ digits ++ " not found in heap first pages table"

theorem wordsApart {κ α : Type} {index : κ → Option α} {miss : κ → Miss}
    (told : ∀ asked again, miss asked = miss again → asked = again) :
    WordsApart (fun k => Lookup.found (index k) (miss k)) := by
  intro asked again missed other first second
  obtain ⟨_, rfl⟩ := Lookup.answerFoundError.mp first
  obtain ⟨_, rfl⟩ := Lookup.answerFoundError.mp second
  constructor
  · intro same
    exact told asked again (messageInj same)
  · rintro rfl
    rfl

theorem keysApart {κ α : Type} {index : κ → Option α} {table : Table} {key : κ → String}
    (told : ∀ asked again, key asked = key again → asked = again) :
    WordsApart (fun k => Lookup.found (index k) (.notFound table (key k))) :=
  wordsApart fun asked again same => told asked again (Miss.notFound.inj same).2

theorem messageKey {table : Table} {closing : String}
    (worded : " not found in " ++ table.title ++ " table" = closing) (key : String) :
    (Miss.notFound table key).message = key ++ closing := by
  have whole : (Miss.notFound table key).message =
    key ++ " not found in " ++ table.title ++ " table" := rfl
  rw [whole, ← worded, String.append_assoc, String.append_assoc, String.append_assoc]

theorem siteShown {α : Type} {value? : Option α} {table : Table} {site : Site} {missed : Miss}
    {closing : String} (worded : " not found in " ++ table.title ++ " table" = closing)
    (absent : (Lookup.found value? (.notFound table site.text)).answer = .error missed) :
    ∃ digits, Text.Padded 5 site.offset.toNat digits ∧
      missed.message = "(" ++ site.space ++ ", 0x" ++ digits ++ ")" ++ closing := by
  obtain ⟨_, rfl⟩ := Lookup.answerFoundError.mp absent
  obtain ⟨digits, padded, text⟩ := siteText site
  exact ⟨digits, padded, by rw [messageKey worded, text]⟩

theorem messagesTell :
    (∀ e f : Miss, e.message = f.message ↔ e = f) ∧ ∀ t : Tables, WordsMisses t := by
  refine ⟨fun e f => ⟨messageInj, congrArg Miss.message⟩, fun t => ?_⟩
  exact {
    typeName := keysApart fun _ _ => codeTextInj
    typeCode := keysApart fun _ _ same => same
    mapAt := keysApart fun _ _ => siteTextInj
    objectAt := keysApart fun _ _ => siteTextInj
    pageSpace := keysApart fun _ _ => pageTextInj
    firstPage := keysApart fun _ _ same => same
    markerOrdinal := keysApart fun _ _ same => same
    markerName := wordsApart fun _ _ same => (Miss.outOfRange.inj same).1
    mapShown := fun _ _ => siteShown rfl
    objectShown := fun _ _ => siteShown rfl
    pageShown := by
      intro page missed absent
      obtain ⟨_, rfl⟩ := Lookup.answerFoundError.mp absent
      exact ⟨_, Text.paddedHex (by decide) _, pageEight page, messageKey rfl _⟩ }

theorem nestedKeysWorded :
    let t := Tables.ofRows {}
    let long : Miss := .notFound .knownMaps "(a, 0x100000)"
    let nested : Miss := .notFound .knownMaps "(a, 0x10000), (a, 0x00000)"
    (t.mapAt ⟨"a", 0x100000⟩).answer = .error long ∧
    (t.mapAt ⟨"a, 0x10000), (a", 0⟩).answer = .error nested ∧ long.message ≠ nested.message ∧
    (t.typeName 7).answer = .error (.notFound .instanceTypes "7") ∧
    (t.typeCode "7").answer = .error (.notFound .instanceTypes "7") ∧
    Miss.message (.notFound .frameMarkers "frame marker ordinal -1 out of range (0..0)") ≠
      Miss.message (.outOfRange (-1) 0) := by
  intro t long nested
  have laws := messagesTell
  have first : (t.mapAt ⟨"a", 0x100000⟩).answer = .error long :=
    Lookup.answerFoundError.mpr ⟨Placement.itemOfRows [] _, rfl⟩
  have second : (t.mapAt ⟨"a, 0x10000), (a", 0⟩).answer = .error nested :=
    Lookup.answerFoundError.mpr ⟨Placement.itemOfRows [] _, rfl⟩
  have coded : (t.typeName 7).answer = .error (.notFound .instanceTypes "7") :=
    Lookup.answerFoundError.mpr ⟨Naming.nameOfRows [] _, rfl⟩
  have named : (t.typeCode "7").answer = .error (.notFound .instanceTypes "7") :=
    Lookup.answerFoundError.mpr ⟨Naming.keyOfRows [] _, rfl⟩
  exact ⟨first, second, mt ((laws.2 t).mapAt _ _ _ _ first second).mp (by decide), coded, named,
    mt (laws.1 _ _).mp (by decide)⟩

end HeapTables
