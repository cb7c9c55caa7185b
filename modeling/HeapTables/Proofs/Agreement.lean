import HeapTables.Address

/-! Tables that cannot be told apart. Every answer goes through the indexes alone, so
where two tables index alike, each operation returns the same result and reports the
same events, whatever rows stand behind them. -/
namespace HeapTables.Tables
variable {t u : Tables}

structure SameByKey (t u : Tables) : Prop where
  types : ∀ code, t.types.name? code = u.types.name? code
  maps : ∀ site, t.maps.item? site = u.maps.item? site
  objects : ∀ site, t.objects.item? site = u.objects.item? site
  pages : ∀ page, t.pages.name? page = u.pages.name? page
  markers : t.markers = u.markers

structure SameByName (t u : Tables) : Prop where
  types : ∀ name, t.types.key? name = u.types.key? name
  pages : ∀ space, t.pages.key? space = u.pages.key? space

structure AnswersByKey (t u : Tables) : Prop where
  typeName : ∀ code, t.typeName code = u.typeName code
  typeNameOrUnknown : ∀ code, t.typeNameOrUnknown code = u.typeNameOrUnknown code
  mapAt : ∀ site, t.mapAt site = u.mapAt site
  objectAt : ∀ site, t.objectAt site = u.objectAt site
  pageSpace : ∀ page, t.pageSpace page = u.pageSpace page
  markerName : ∀ ordinal, t.markerName ordinal = u.markerName ordinal
  markerOrdinal : ∀ name, t.markerOrdinal name = u.markerOrdinal name
  classify : ∀ address, t.classify address = u.classify address
  describe : ∀ address, t.describe address = u.describe address

structure AnswersByName (t u : Tables) : Prop where
  typeCode : ∀ name, t.typeCode name = u.typeCode name
  firstPage : ∀ space, t.firstPage space = u.firstPage space
  absoluteAddress : ∀ site, t.absoluteAddress site = u.absoluteAddress site

theorem classifyOf (pages : ∀ page, t.pageSpace page = u.pageSpace page)
    (entries : ∀ site, t.entryAt site = u.entryAt site) (address : UInt64) :
    t.classify address = u.classify address := by
  unfold classify
  simp only [pages, entries]

theorem labelOf (names : ∀ code, t.typeNameOrUnknown code = u.typeNameOrUnknown code)
    (r : Resolved) : t.label r = u.label r := by
  unfold label
  simp only [names]

theorem describeOf (labels : ∀ r, t.label r = u.label r)
    (classes : ∀ address, t.classify address = u.classify address) (address : UInt64) :
    t.describe address = u.describe address := by
  have same : t.label = u.label := funext labels
  unfold describe
  rw [same, classes]

theorem answersByKey (same : SameByKey t u) : AnswersByKey t u := by
  have names (code : UInt16) : t.typeNameOrUnknown code = u.typeNameOrUnknown code := by
    unfold typeNameOrUnknown
    rw [same.types]
  have maps (site : Site) : t.mapAt site = u.mapAt site := by
    unfold mapAt
    rw [same.maps]
  have objects (site : Site) : t.objectAt site = u.objectAt site := by
    unfold objectAt
    rw [same.objects]
  have pages (page : UInt32) : t.pageSpace page = u.pageSpace page := by
    unfold pageSpace
    rw [same.pages]
  have entries (site : Site) : t.entryAt site = u.entryAt site := by
    unfold entryAt
    rw [maps, objects]
  have classes := classifyOf pages entries
  refine ⟨?_, names, maps, objects, pages, ?_, ?_, classes, describeOf (labelOf names) classes⟩
  · intro code
    unfold typeName
    rw [same.types]
  · intro ordinal
    unfold markerName
    rw [same.markers]
  · intro name
    unfold markerOrdinal
    rw [same.markers]

theorem answersByName (same : SameByName t u) : AnswersByName t u := by
  have pages (space : String) : t.firstPage space = u.firstPage space := by
    unfold firstPage
    rw [same.pages]
  refine ⟨?_, pages, ?_⟩
  · intro name
    unfold typeCode
    rw [same.types]
  · intro site
    unfold absoluteAddress
    rw [pages]

end HeapTables.Tables
