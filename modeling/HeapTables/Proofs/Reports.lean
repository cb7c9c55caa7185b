import HeapTables.Proofs.BuildLog
import HeapTables.Proofs.RoundTrip

/-! Reports of misses against what was answered. A question that finds its answer reports nothing,
and one that misses reports that miss once. A recovered miss stays reported: behind an object lies
the miss of a map, behind a fallback label the misses that led to it. Only the fallback for types
keeps silent, and whatever is reported is for tracing. -/
namespace HeapTables

inductive Question : Type → Type where
  | typeName (code : UInt16) : Question String
  | typeCode (name : String) : Question UInt16
  | mapAt (site : Site) : Question KnownMap
  | objectAt (site : Site) : Question String
  | pageSpace (page : UInt32) : Question String
  | firstPage (space : String) : Question UInt32
  | markerName (ordinal : Int) : Question String
  | markerOrdinal (name : String) : Question Nat
  | absoluteAddress (site : Site) : Question UInt32

inductive Reading : Type → Type 1 where
  | question {α : Type} (q : Question α) : Reading (Except Miss α)
  | classify (address : UInt64) : Reading (Except Miss Resolved)
  | describe (address : UInt64) : Reading String
  | markerNameOrUnknown (ordinal : Int) : Reading String
  | typeNameOrUnknown (code : UInt16) : Reading String
  | isStringType (code : UInt16) : Reading Bool
  | stats : Reading Stats
  | instanceTypes : Reading (List (Named UInt16))
  | knownMaps : Reading (List (Placed KnownMap))
  | knownObjects : Reading (List (Placed String))
  | firstPages : Reading (List (Named UInt32))
  | frameMarkers : Reading (List String)
  | danglingMaps : Reading (List (Placed KnownMap))

namespace Tables

def ask (t : Tables) : {α : Type} → Question α → Lookup α
  | _, .typeName code => t.typeName code
  | _, .typeCode name => t.typeCode name
  | _, .mapAt site => t.mapAt site
  | _, .objectAt site => t.objectAt site
  | _, .pageSpace page => t.pageSpace page
  | _, .firstPage space => t.firstPage space
  | _, .markerName ordinal => t.markerName ordinal
  | _, .markerOrdinal name => t.markerOrdinal name
  | _, .absoluteAddress site => t.absoluteAddress site

def read (t : Tables) : {α : Type} → Reading α → Logged α
  | _, .question q => (t.ask q).run
  | _, .classify address => (t.classify address).run
  | _, .describe address => t.describe address
  | _, .markerNameOrUnknown ordinal => t.markerNameOrUnknown ordinal
  | _, .typeNameOrUnknown code => pure (t.typeNameOrUnknown code)
  | _, .isStringType code => pure (HeapTables.isStringType code)
  | _, .stats => pure t.stats
  | _, .instanceTypes => pure t.rows.instanceTypes
  | _, .knownMaps => pure t.rows.knownMaps
  | _, .knownObjects => pure t.rows.knownObjects
  | _, .firstPages => pure t.rows.firstPages
  | _, .frameMarkers => pure t.markers.names
  | _, .danglingMaps => pure t.danglingMaps

end Tables

def Reading.Plain {α : Type} : Reading α → Prop
  | .question _ | .classify _ | .describe _ | .markerNameOrUnknown _ => False
  | _ => True

structure ReportsOnce {α : Type} (x : Lookup α) : Prop where
  hit : ∀ answer, x.answer = .ok answer → x.events = []
  missed : ∀ miss, x.answer = .error miss → x.events.map Event.line = [(.trace, miss.message)]

structure ReportsAt (t : Tables) (site : Site) (address : UInt64) : Prop where
  map : ∀ m, (t.mapAt site).answer = .ok m →
    (t.classify address).answer = .ok ⟨site, address.toUInt32, .map m⟩ ∧
      (t.classify address).events = []
  object : ∀ hidden name, (t.mapAt site).answer = .error hidden →
    (t.objectAt site).answer = .ok name →
    (t.classify address).answer = .ok ⟨site, address.toUInt32, .object name⟩ ∧
      (t.classify address).events.map Event.line = [(.trace, hidden.message)]
  neither : ∀ hidden miss, (t.mapAt site).answer = .error hidden →
    (t.objectAt site).answer = .error miss →
    (t.classify address).answer = .error miss ∧
      (t.classify address).events.map Event.line =
        [(.trace, hidden.message), (.trace, miss.message)]

structure ReportsMisses (t : Tables) : Prop where
  traces : ∀ {α : Type} (reading : Reading α), ∀ e ∈ (t.read reading).events, e.level = .trace
  questions : ∀ {α : Type} (q : Question α), ReportsOnce (t.ask q)
  markerFallback : ∀ ordinal, (t.markerNameOrUnknown ordinal).events = (t.markerName ordinal).events
  plain : ∀ {α : Type} (reading : Reading α), reading.Plain → (t.read reading).events = []
  unknownPage : ∀ address miss, (t.pageSpace (splitAddress address).1).answer = .error miss →
    (t.classify address).answer = .error miss ∧
      (t.classify address).events.map Event.line = [(.trace, miss.message)]
  knownPage : ∀ address space, (t.pageSpace (splitAddress address).1).answer = .ok space →
    ReportsAt t ⟨space, (splitAddress address).2⟩ address
  last : ∀ address miss, (t.classify address).answer = .error miss →
    ((t.classify address).events.map Event.line).getLast? = some (.trace, miss.message)
  hidden : ∀ address r name, (t.classify address).answer = .ok r → r.entry = .object name →
    ∃ miss, (t.mapAt r.site).answer = .error miss ∧
      (t.classify address).events.map Event.line = [(.trace, miss.message)]
  describe : ∀ address, (t.describe address).events = (t.classify address).events

theorem reportsFound {α : Type} (value? : Option α) (m : Miss) :
    ReportsOnce (Lookup.found value? m) := by
  cases value? with
  | none =>
    refine ⟨fun answer hit => ?_, fun miss missed => ?_⟩
    · cases hit
    · cases missed
      rfl
  | some value => exact ⟨fun _ _ => rfl, fun _ missed => nomatch missed⟩

theorem reportsThen {α β : Type} {x : Lookup α} (once : ReportsOnce x) (f : α → β) :
    ReportsOnce (x >>= fun a => pure (f a)) := by
  constructor
  · intro answer hit
    rw [Lookup.answerBind] at hit
    cases found : x.answer with
    | error miss =>
      rw [found] at hit
      cases hit
    | ok a => rw [Lookup.eventsBindOk found, once.hit a found, Lookup.eventsPure, List.nil_append]
  · intro miss missed
    rw [Lookup.answerBind] at missed
    cases found : x.answer with
    | error given =>
      rw [found] at missed
      cases missed
      rw [Lookup.eventsBindError found, once.missed miss found]
    | ok a =>
      rw [found] at missed
      cases missed

theorem traceOfLines {events : List Event} {lines : List (Level × String)}
    (same : events.map Event.line = lines) (traces : ∀ l ∈ lines, l.1 = .trace) :
    ∀ e ∈ events, e.level = .trace := by
  intro e mem
  exact traces e.line (same ▸ List.mem_map_of_mem mem)

theorem traceOnce {α : Type} {x : Lookup α} (once : ReportsOnce x) :
    ∀ e ∈ x.events, e.level = .trace := by
  cases found : x.answer with
  | ok answer =>
    rw [once.hit answer found]
    simp
  | error miss => exact traceOfLines (once.missed miss found) (by simp)

namespace Tables
variable {t : Tables} {site : Site} {address : UInt64} {space : String}

theorem asksOnce {α : Type} (t : Tables) (q : Question α) : ReportsOnce (t.ask q) := by
  cases q with
  | typeName code => exact reportsFound _ _
  | typeCode name => exact reportsFound _ _
  | mapAt site => exact reportsFound _ _
  | objectAt site => exact reportsFound _ _
  | pageSpace page => exact reportsFound _ _
  | firstPage space => exact reportsFound _ _
  | markerName ordinal => exact reportsFound _ _
  | markerOrdinal name => exact reportsFound _ _
  | absoluteAddress site => exact reportsThen (reportsFound _ _) (· + site.offset)

theorem entryEvents (t : Tables) (site : Site) : (t.entryAt site).events =
    match (t.mapAt site).answer with
    | .ok _ => (t.mapAt site).events
    | .error _ => (t.mapAt site).events ++ (t.objectAt site).events := by
  unfold entryAt
  rw [Lookup.eventsOrElse, Lookup.answerMap, Lookup.eventsMap, Lookup.eventsMap]
  cases (t.mapAt site).answer <;> rfl

theorem classifyEvents (known : (t.pageSpace (splitAddress address).1).answer = .ok space) :
    (t.classify address).events =
      (t.entryAt ⟨space, (splitAddress address).2⟩).events := by
  have quiet : (t.pageSpace (splitAddress address).1).events = [] :=
    (t.asksOnce (.pageSpace (splitAddress address).1)).hit space known
  unfold classify
  rw [Lookup.eventsBindOk known, quiet, List.nil_append]
  cases found : (t.entryAt ⟨space, (splitAddress address).2⟩).answer with
  | error miss => rw [Lookup.eventsBindError found]
  | ok entry => rw [Lookup.eventsBindOk found, Lookup.eventsPure, List.append_nil]

theorem describeEvents (t : Tables) (address : UInt64) :
    (t.describe address).events = (t.classify address).events := by
  rw [describe, Lookup.eventsGetD, Lookup.eventsMap]

theorem reportsUnknown {miss : Miss}
    (unknown : (t.pageSpace (splitAddress address).1).answer = .error miss) :
    (t.classify address).answer = .error miss ∧
      (t.classify address).events.map Event.line = [(.trace, miss.message)] := by
  have once : ReportsOnce (t.pageSpace (splitAddress address).1) :=
    t.asksOnce (.pageSpace (splitAddress address).1)
  refine ⟨classifyError.mpr (.inl unknown), ?_⟩
  unfold classify
  rw [Lookup.eventsBindError unknown, once.missed miss unknown]

theorem reportsAt (known : (t.pageSpace (splitAddress address).1).answer = .ok space) :
    ReportsAt t ⟨space, (splitAddress address).2⟩ address := by
  generalize low : (splitAddress address).2 = offset
  have answers : AnswersAt t ⟨space, offset⟩ address.toUInt32 address :=
    answersAt (Prod.ext rfl low) known
  have maps : ReportsOnce (t.mapAt ⟨space, offset⟩) := t.asksOnce (.mapAt ⟨space, offset⟩)
  have objects : ReportsOnce (t.objectAt ⟨space, offset⟩) := t.asksOnce (.objectAt ⟨space, offset⟩)
  have reported := low ▸ (classifyEvents known).trans (t.entryEvents _)
  constructor
  · intro m found
    rw [found] at reported
    exact ⟨answers.map m found, reported.trans (maps.hit m found)⟩
  · intro hidden name missed found
    rw [missed] at reported
    refine ⟨answers.object hidden name missed found, ?_⟩
    rw [reported, List.map_append, maps.missed hidden missed, objects.hit name found]
    rfl
  · intro hidden miss missed absent
    rw [missed] at reported
    refine ⟨answers.neither hidden miss missed absent, ?_⟩
    rw [reported, List.map_append, maps.missed hidden missed, objects.missed miss absent]
    rfl

/- Only misses are reported, and the one that is returned comes last. -/
theorem classifyReports (t : Tables) (address : UInt64) : ∃ recovered : List Miss,
    (t.classify address).events.map Event.line =
      (recovered ++ match (t.classify address).answer with
        | .ok _ => []
        | .error miss => [miss]).map (fun m => (.trace, m.message)) := by
  cases known : (t.pageSpace (splitAddress address).1).answer with
  | error miss =>
    obtain ⟨answered, lines⟩ := reportsUnknown known
    exact ⟨[], by rw [answered, lines]; rfl⟩
  | ok space =>
    have here := reportsAt known
    cases mapped : (t.mapAt ⟨space, (splitAddress address).2⟩).answer with
    | ok m =>
      obtain ⟨answered, silent⟩ := here.map m mapped
      exact ⟨[], by rw [answered, silent]; rfl⟩
    | error hidden =>
      cases named : (t.objectAt ⟨space, (splitAddress address).2⟩).answer with
      | ok name =>
        obtain ⟨answered, lines⟩ := here.object hidden name mapped named
        exact ⟨[hidden], by rw [answered, lines]; rfl⟩
      | error miss =>
        obtain ⟨answered, lines⟩ := here.neither hidden miss mapped named
        exact ⟨[hidden], by rw [answered, lines]; rfl⟩

theorem classifyTraces (t : Tables) (address : UInt64) :
    ∀ e ∈ (t.classify address).events, e.level = .trace := by
  obtain ⟨recovered, lines⟩ := t.classifyReports address
  refine traceOfLines lines fun l mem => ?_
  obtain ⟨miss, _, rfl⟩ := List.mem_map.mp mem
  rfl

theorem lastReported {miss : Miss} (answered : (t.classify address).answer = .error miss) :
    ((t.classify address).events.map Event.line).getLast? = some (.trace, miss.message) := by
  obtain ⟨recovered, lines⟩ := t.classifyReports address
  rw [lines, answered, List.map_append]
  exact List.getLast?_concat

theorem hiddenMap {r : Resolved} {name : String} (answered : (t.classify address).answer = .ok r)
    (object : r.entry = .object name) : ∃ miss, (t.mapAt r.site).answer = .error miss ∧
      (t.classify address).events.map Event.line = [(.trace, miss.message)] := by
  obtain ⟨known, low, _, found⟩ := classifyOk.mp answered
  rw [object] at found
  obtain ⟨⟨miss, missed⟩, named⟩ := entryObject.mp found
  have here := reportsAt known
  rw [← low] at here
  exact ⟨miss, missed, (here.object miss name missed named).2⟩

end Tables

theorem missesReported (t : Tables) : ReportsMisses t where
  traces := by
    intro α reading
    cases reading with
    | question q => exact traceOnce (t.asksOnce q)
    | classify address => exact t.classifyTraces address
    | describe address =>
      change ∀ e ∈ (t.describe address).events, e.level = .trace
      rw [t.describeEvents]
      exact t.classifyTraces address
    | markerNameOrUnknown ordinal =>
      change ∀ e ∈ (t.markerNameOrUnknown ordinal).events, e.level = .trace
      rw [Tables.markerNameOrUnknown, Lookup.eventsGetD]
      exact traceOnce (t.asksOnce (.markerName ordinal))
    | _ => simp [Tables.read]
  questions := t.asksOnce
  markerFallback := fun _ => Lookup.eventsGetD _ _
  plain := by
    intro α reading plain
    cases reading with
    | question | classify | describe | markerNameOrUnknown => exact plain.elim
    | _ => rfl
  unknownPage := fun _ _ => Tables.reportsUnknown
  knownPage := fun _ _ => Tables.reportsAt
  last := fun _ _ => Tables.lastReported
  hidden := fun _ _ _ => Tables.hiddenMap
  describe := t.describeEvents

def uncovered : Rows where
  instanceTypes := [⟨1, "A"⟩]
  knownObjects := [⟨⟨"old", 0x10⟩, "Beneath"⟩]
  firstPages := [⟨0x40000, "old"⟩]

theorem uncoveredReported :
    let t := Tables.ofRows uncovered
    (t.classify 0x40010).answer = .ok ⟨⟨"old", 0x10⟩, 0x40010, .object "Beneath"⟩ ∧
    (t.classify 0x40010).events.map Event.line =
      [(.trace, "(old, 0x00010) not found in known maps table")] ∧
    (t.describe 0x40011).events.map Event.line =
      [(.trace, "(old, 0x00011) not found in known maps table"),
        (.trace, "(old, 0x00011) not found in known objects table")] ∧
    (t.classify 0x80000).events.map Event.line =
      [(.trace, "0x00080000 not found in heap first pages table")] ∧
    (t.typeName 1).events = [] ∧ (t.read (.typeNameOrUnknown 2)).events = [] := by
  intro t
  have laws : ReportsMisses t := missesReported t
  have known : (t.pageSpace 0x40000).answer = .ok "old" := Tables.pageSpaceOk.mpr ⟨0, by decide⟩
  have unmapped (offset : UInt32) : (t.mapAt ⟨"old", offset⟩).answer =
      .error (.notFound .knownMaps (Site.text ⟨"old", offset⟩)) :=
    Lookup.answerFoundError.mpr ⟨Placement.itemNone.mpr (by simp [uncovered]), rfl⟩
  have named : (t.objectAt ⟨"old", 0x10⟩).answer = .ok "Beneath" :=
    Tables.objectAtOk.mpr ⟨0, by decide⟩
  have absent : (t.objectAt ⟨"old", 0x11⟩).answer =
      .error (.notFound .knownObjects (Site.text ⟨"old", 0x11⟩)) :=
    Lookup.answerFoundError.mpr ⟨Placement.itemNone.mpr (by decide), rfl⟩
  have unknown : (t.pageSpace 0x80000).answer =
      .error (.notFound .firstPages (pageText 0x80000)) :=
    Lookup.answerFoundError.mpr ⟨Naming.nameNone.mpr (by decide), rfl⟩
  have listed : (t.typeName 1).answer = .ok "A" :=
    Tables.typeNameOk.mpr ⟨0, by decide⟩
  obtain ⟨answered, found⟩ := (laws.knownPage 0x40010 "old" known).object _ _ (unmapped 0x10) named
  have neither := ((laws.knownPage 0x40011 "old" known).neither _ _ (unmapped 0x11) absent).2
  refine ⟨answered, found, ?_, (laws.unknownPage 0x80000 _ unknown).2,
    (laws.questions (.typeName 1)).hit "A" listed, laws.plain (.typeNameOrUnknown 2) trivial⟩
  rw [laws.describe]
  exact neither

end HeapTables
