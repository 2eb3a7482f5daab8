import Civitas.Observability.SpanStores

/-!
# The two span stores answer alike

Every exported span is in the file of its window, and the windows of the files
that a query attaches cover its range.  So the rows of the attached files that
are in the range are the spans of the in-memory store that are in the range,
and the groups of groups are the groups of these.  SQLite attaches no more
than ten files, it leaves the order of equal start times open, so that a limit
may cut between them, and it refuses what is no integer of 64 bits.
-/

namespace Civitas.Observability

open Civitas.Aggregation
open Civitas.FirstRows

/-! ## Histories -/

/-- Exported batches, each with the time of the clock. -/
abbrev History := List (List SpanData × ℚ)

/-- The spans of a history, in order. -/
def History.spans (history : History) : List SpanData :=
  history.flatMap Prod.fst

/-- The batches of a history are exported to the files. -/
def SQLiteSpanStore.exportAll
    (env : Environment) (store : SQLiteSpanStore) (history : History) :
    Option SQLiteSpanStore :=
  history.foldlM (fun store entry => store.exportSpans env entry.1 entry.2)
    store

/-- The batches of a history are exported to the list. -/
def InMemorySpanStore.exportAll
    (store : InMemorySpanStore) (history : History) : InMemorySpanStore :=
  history.foldl (fun store entry => store.exportSpans entry.1) store

/-- No span is older than the retention when the files are swept. -/
def Retained
    (windowDays retentionWindows : Int) (history : History) : Prop :=
  ∀ before entry later, history = before ++ entry :: later →
    entry.1 ≠ [] → ∀ span ∈ History.spans before ++ entry.1,
      windowIndex entry.2 windowDays - retentionWindows ≤
        windowIndex span.startTime windowDays

/--
The store can write the span: SQLite takes its row, and its window can be
computed and begins before the year 10000.
-/
def Exportable (windowDays : Int) (span : SpanData) : Prop :=
  span.insertable = true ∧ divides (windowDays * 86400) = true ∧
    windowIndex span.startTime windowDays * windowDays ≤ lastDay

instance (windowDays : Int) (span : SpanData) :
    Decidable (Exportable windowDays span) :=
  inferInstanceAs (Decidable (_ ∧ _))

/-- The windows of the exported spans. -/
def History.windows (windowDays : Int) (history : History) : List Int :=
  (history.spans.map fun span => windowIndex span.startTime windowDays).dedup

/-- The windows of the exported spans that meet the range. -/
def windowsInRange
    (windowDays : Int) (since upto : Moment) (history : History) : List Int :=
  match since.time?, upto.time? with
  | some first, some last =>
      (history.windows windowDays).filter fun index =>
        windowIndex first windowDays ≤ index ∧
          index ≤ windowIndex last windowDays
  | _, _ => []

/-- The rows of the exported spans that are in the range. -/
def rowsInRange
    (since upto : Moment) (history : History) : List SpanRecord :=
  (history.spans.map SpanData.record).filter (within since upto)

/-! ## What is expected -/

/-- The same buckets, both in the order of their starts. -/
def SameBuckets {β : Type} (start : β → Int) (left right : List β) : Prop :=
  left.Perm right ∧
    (left.Pairwise fun first second => start first ≤ start second) ∧
    right.Pairwise fun first second => start first ≤ start second

/-- Equal dictionaries: the same entries, each key once. -/
def SameEntries (left right : List (Option String × ℚ)) : Prop :=
  left.Perm right ∧ (right.map Prod.fst).Nodup

/-- The same spans, both in the order of a key. -/
def SameSpans
    (order : SpanRecord → ℚ) (left right : List SpanRecord) : Prop :=
  left.Perm right ∧
    (left.Pairwise fun first second => order first ≤ order second) ∧
    right.Pairwise fun first second => order first ≤ order second

/-- Both stores answer each query, and their answers are the same. -/
structure AnswersAlike
    (env : Environment) (sorting : Sorting) (sqlite : SQLiteSpanStore)
    (memory : InMemorySpanStore) (since upto : Moment) (bucketSeconds : Int)
    (limit : Nat) (traceId : String) : Prop where
  costOverTime : ∃ answer expected,
    sqlite.costOverTime env sorting since upto bucketSeconds = some answer ∧
      memory.costOverTime since upto bucketSeconds = some expected ∧
      SameBuckets CostBucket.bucketStart answer expected
  messageRateOverTime : ∃ answer expected,
    sqlite.messageRateOverTime env sorting since upto bucketSeconds =
        some answer ∧
      memory.messageRateOverTime since upto bucketSeconds = some expected ∧
      SameBuckets MessageRateBucket.bucketStart answer expected
  costByAgent : ∃ answer,
    sqlite.costByAgent env since upto = some answer ∧
      SameEntries answer (memory.costByAgent since upto)
  costByModel : ∃ answer,
    sqlite.costByModel env since upto = some answer ∧
      SameEntries answer (memory.costByModel since upto)
  recentSpans : ∃ answer,
    sqlite.recentSpans env sorting since upto limit = some answer ∧
      SameSpans (fun row => -row.startTime) answer
        (memory.recentSpans since upto limit)
  spansInTrace : ∃ answer,
    sqlite.spansInTrace env sorting traceId since upto = some answer ∧
      SameSpans SpanRecord.startTime answer
        (memory.spansInTrace traceId since upto)

/-- The histories and questions that both stores answer alike. -/
structure Answerable
    (windowDays : Int) (present : Bool) (since upto : Moment)
    (bucketSeconds : Int) (limit : Nat) (history : History) : Prop where
  exportable : ∀ span ∈ history.spans, Exportable windowDays span
  /-- The windows of the range can be computed, or there is no directory. -/
  ranged : (present = false ∧ history.spans = []) ∨
    divides (windowDays * 86400) = true ∧
      since.time?.isSome = true ∧ upto.time?.isSome = true
  few : (windowsInRange windowDays since upto history).length ≤ maxAttached
  /-- A time can be divided by the bucket size, or no bucket is asked for. -/
  bucketed : writable bucketSeconds = true ∧
    (divides bucketSeconds = true ∨
      ∀ row ∈ rowsInRange since upto history,
        row.llmCostUsd = none ∧ row.name ≠ "civitas.agent.handle")
  limited : writable limit = true ∧
    (fitsInt64 limit = true ∨
      windowsInRange windowDays since upto history = [])
  /-- The limit does not choose between different spans of one time. -/
  uncut : ¬CutsTies (fun row => -row.startTime) limit
    (rowsInRange since upto history)

/-! ## Windows -/

section Windows

variable {windowDays : Int}

theorem windowIndex_mono
    (positive : 0 < windowDays) {first second : ℚ} (ordered : first ≤ second) :
    windowIndex first windowDays ≤ windowIndex second windowDays := by
  apply Int.floor_le_floor
  apply div_le_div_of_nonneg_right ordered
  exact_mod_cast (by omega : 0 ≤ windowDays * 86400)

theorem windowIndex_nonneg
    (positive : 0 < windowDays) {time : ℚ} (nonneg : 0 ≤ time) :
    0 ≤ windowIndex time windowDays := by
  apply Int.floor_nonneg.mpr
  apply div_nonneg nonneg
  exact_mod_cast (by omega : 0 ≤ windowDays * 86400)

/-- The first second of a window is in the window. -/
theorem windowIndex_start (positive : 0 < windowDays) (index : Int) :
    windowIndex (index * windowDays * 86400 : Int) windowDays = index := by
  have seconds : ((windowDays * 86400 : Int) : ℚ) ≠ 0 := by
    exact_mod_cast (by omega : windowDays * 86400 ≠ 0)
  have quotient :
      ((index * windowDays * 86400 : Int) : ℚ) / (windowDays * 86400 : Int) =
        (index : ℚ) := by
    rw [mul_assoc, Int.cast_mul, mul_div_assoc, div_self seconds, mul_one]
  unfold windowIndex
  rw [quotient, Int.floor_intCast]

variable {env : Environment} {store : SQLiteSpanStore}

theorem indexFromFilename_windowFilename
    (positive : 0 < store.windowDays) {index : Int} {date : String}
    (named : env.strftime (index * store.windowDays) = some date) :
    store.indexFromFilename env date = some index := by
  have parsed := env.strptime_strftime _ date named
  unfold SQLiteSpanStore.indexFromFilename
  rw [parsed, Option.map_some, windowIndex_start positive]

end Windows

/-! ## Files -/

section Files

variable {env : Environment} {store : SQLiteSpanStore}

/-- The files hold the rows, each in the file of its window. -/
structure Filed
    (env : Environment) (windowDays : Int)
    (files : List (String × List SpanRecord)) (rows : List SpanRecord) :
    Prop where
  whole : (files.flatMap Prod.snd).Perm rows
  distinct : (files.map Prod.fst).Nodup
  placed : ∀ entry ∈ files, entry.2 ≠ [] ∧
    ∃ index, env.strftime (index * windowDays) = some entry.1 ∧
      ∀ row ∈ entry.2, windowIndex row.startTime windowDays = index

theorem filed_nil (windowDays : Int) : Filed env windowDays [] [] :=
  ⟨.nil, List.nodup_nil, by simp⟩

/-- Every span of a batch is in the group of its window. -/
theorem byWindow_spec (store : SQLiteSpanStore) (batch : List SpanData) :
    ((store.byWindow batch).flatMap Prod.snd).Perm batch ∧
      ∀ group ∈ store.byWindow batch, group.2 ≠ [] ∧
        ∀ span ∈ group.2,
          windowIndex span.startTime store.windowDays = group.1 := by
  induction batch using List.reverseRecOn with
  | nil => exact ⟨.nil, by rintro _ ⟨⟩⟩
  | append_singleton batch span ih =>
      have next : store.byWindow (batch ++ [span]) =
          file (windowIndex span.startTime store.windowDays) [span]
            (store.byWindow batch) := by
        simp [SQLiteSpanStore.byWindow]
      rw [next]
      constructor
      · exact (file_perm _ _ _).trans (ih.1.append_right [span])
      · rintro ⟨index, group⟩ within
        rcases of_mem_file within with old | ⟨rfl, filed, rfl, known⟩
        · exact ih.2 _ old
        · refine ⟨by simp, ?_⟩
          intro other member
          rcases List.mem_append.mp member with before | last
          · rcases known with rfl | old
            · cases before
            · exact (ih.2 _ old).2 other before
          · rw [List.mem_singleton.mp last]

/-- One window is written to its file. -/
theorem Filed.write
    {files : List (String × List SpanRecord)} {rows : List SpanRecord}
    {group : Int × List SpanData} {written : List (String × List SpanRecord)}
    (filed : Filed env store.windowDays files rows)
    (positive : 0 < store.windowDays)
    (nonempty : group.2 ≠ [])
    (placed : ∀ span ∈ group.2,
      windowIndex span.startTime store.windowDays = group.1)
    (wrote : store.writeWindow env files group = some written) :
    Filed env store.windowDays written
      (rows ++ group.2.map SpanData.record) := by
  rcases group with ⟨index, spans⟩
  rcases Option.bind_eq_some_iff.mp wrote with ⟨date, named, rest⟩
  split_ifs at rest
  cases rest
  refine ⟨?_, upsert_keys_nodup filed.distinct, ?_⟩
  · exact (file_perm _ _ _).trans (filed.whole.append_right _)
  · rintro ⟨own, kept⟩ member
    rcases of_mem_file member with old | ⟨rfl, old, rfl, known⟩
    · exact filed.placed _ old
    · refine ⟨by simpa using fun _ => nonempty, index, named, ?_⟩
      intro row inside
      rcases List.mem_append.mp inside with before | new
      · rcases known with rfl | entry
        · cases before
        · rcases filed.placed _ entry with ⟨_, other, same, all⟩
          have first := indexFromFilename_windowFilename positive same
          have second := indexFromFilename_windowFilename positive named
          rw [first] at second
          rw [all row before]
          exact Option.some.inj second
      · rcases List.mem_map.mp new with ⟨span, within, rfl⟩
        exact placed span within

theorem Filed.writeAll
    {files : List (String × List SpanRecord)} {rows : List SpanRecord}
    {groups : List (Int × List SpanData)}
    {written : List (String × List SpanRecord)}
    (filed : Filed env store.windowDays files rows)
    (positive : 0 < store.windowDays)
    (placed : ∀ group ∈ groups, group.2 ≠ [] ∧ ∀ span ∈ group.2,
      windowIndex span.startTime store.windowDays = group.1)
    (wrote : groups.foldlM (store.writeWindow env) files = some written) :
    Filed env store.windowDays written
      (rows ++ (groups.flatMap Prod.snd).map SpanData.record) := by
  induction groups generalizing files rows with
  | nil =>
      cases wrote
      simpa using filed
  | cons group rest ih =>
      rw [List.foldlM_cons] at wrote
      rcases Option.bind_eq_some_iff.mp wrote with ⟨next, first, later⟩
      have own := placed group (List.mem_cons_self ..)
      have step := filed.write positive own.1 own.2 first
      have all :=
        ih step
          (fun other member => placed other (List.mem_cons_of_mem _ member))
          later
      simpa [List.append_assoc] using all

/-- Nothing is swept that is inside the retention. -/
theorem Filed.sweep
    {files : List (String × List SpanRecord)} {rows : List SpanRecord}
    {now : ℚ} (filed : Filed env store.windowDays files rows)
    (positive : 0 < store.windowDays)
    (inside : ∀ row ∈ rows,
      store.cutoff now ≤ windowIndex row.startTime store.windowDays) :
    store.sweep env now files = files := by
  apply List.filter_eq_self.mpr
  intro entry member
  rcases filed.placed entry member with ⟨nonempty, index, named, all⟩
  rw [indexFromFilename_windowFilename positive named]
  rcases List.exists_mem_of_ne_nil _ nonempty with ⟨row, within⟩
  have known : row ∈ rows :=
    filed.whole.mem_iff.mp (List.mem_flatMap.mpr ⟨entry, member, within⟩)
  have young := inside row known
  rw [all row within] at young
  exact decide_eq_true young

theorem writeWindow_isSome
    (files : List (String × List SpanRecord)) {group : Int × List SpanData}
    (positive : 0 < store.windowDays) (windowed : store.windowed = true)
    (nonempty : group.2 ≠ [])
    (placed : ∀ span ∈ group.2, 0 ≤ span.startTime ∧
      windowIndex span.startTime store.windowDays = group.1) :
    (store.writeWindow env files group).isSome = true ↔
      ∀ span ∈ group.2, Exportable store.windowDays span := by
  rcases group with ⟨index, spans⟩
  rcases List.exists_mem_of_ne_nil _ nonempty with ⟨some_span, within⟩
  have early : 0 ≤ index := by
    rcases placed some_span within with ⟨nonneg, same⟩
    have low := windowIndex_nonneg positive nonneg
    rw [same] at low
    exact low
  have dated :=
    env.strftime_isSome (index * store.windowDays)
      (Int.mul_nonneg early positive.le)
  have days : ∀ span ∈ spans,
      windowIndex span.startTime store.windowDays * store.windowDays =
        index * store.windowDays := by
    intro span member
    rw [(placed span member).2]
  unfold SQLiteSpanStore.writeWindow SQLiteSpanStore.windowFilename
  cases found : env.strftime (index * store.windowDays) with
  | none =>
      rw [found] at dated
      have late : ¬index * store.windowDays ≤ lastDay := fun soon => by
        cases dated.mpr soon
      simp only [Option.bind_eq_bind, Option.bind_none, Option.isSome_none,
        Bool.false_eq_true, false_iff]
      intro all
      have soon := (all some_span within).2.2
      rw [days some_span within] at soon
      exact late soon
  | some date =>
      rw [found] at dated
      have soon : index * store.windowDays ≤ lastDay := dated.mp rfl
      have whole : (spans.all SpanData.insertable = true) ↔
          ∀ span ∈ spans, Exportable store.windowDays span := by
        rw [List.all_eq_true]
        constructor
        · intro all span member
          exact
            ⟨all span member, windowed, (days span member).le.trans soon⟩
        · intro all span member
          exact (all span member).1
      simp only [Option.bind_eq_bind, Option.bind_some]
      rw [← whole]
      cases spans.all SpanData.insertable <;> simp

theorem writeAll_isSome
    {files : List (String × List SpanRecord)}
    {groups : List (Int × List SpanData)} (positive : 0 < store.windowDays)
    (windowed : store.windowed = true)
    (placed : ∀ group ∈ groups, group.2 ≠ [] ∧ ∀ span ∈ group.2,
      0 ≤ span.startTime ∧
        windowIndex span.startTime store.windowDays = group.1) :
    (groups.foldlM (store.writeWindow env) files).isSome = true ↔
      ∀ span ∈ groups.flatMap Prod.snd,
        Exportable store.windowDays span := by
  induction groups generalizing files with
  | nil => simp
  | cons group rest ih =>
      have own := placed group (List.mem_cons_self ..)
      have here :
          (store.writeWindow env files group).isSome = true ↔
            ∀ span ∈ group.2, Exportable store.windowDays span :=
        writeWindow_isSome files positive windowed own.1 own.2
      have others := fun other member =>
        placed other (List.mem_cons_of_mem _ member)
      rw [List.foldlM_cons, List.flatMap_cons, List.forall_mem_append, ← here]
      cases wrote : store.writeWindow env files group with
      | none => simp
      | some next => simpa using ih others

/-- A batch is exported. -/
theorem exportSpans_spec
    (store : SQLiteSpanStore) (batch : List SpanData) (now : ℚ)
    {rows : List SpanRecord}
    (positive : 0 < store.windowDays)
    (filed : Filed env store.windowDays store.files rows)
    (nonneg : ∀ span ∈ batch, 0 ≤ span.startTime)
    (inside : batch ≠ [] → ∀ row ∈ rows ++ batch.map SpanData.record,
      store.cutoff now ≤ windowIndex row.startTime store.windowDays) :
    ((store.exportSpans env batch now).isSome = true ↔
        ∀ span ∈ batch, Exportable store.windowDays span) ∧
      ∀ after, store.exportSpans env batch now = some after →
        ∃ files,
          after =
            { store with
              present := store.present || !batch.isEmpty, files := files } ∧
          Filed env store.windowDays files
            (rows ++ batch.map SpanData.record) := by
  unfold SQLiteSpanStore.exportSpans
  by_cases empty : batch = []
  · subst empty
    simp only [if_true, Option.isSome_some, true_iff]
    refine ⟨by simp, ?_⟩
    intro after same
    cases same
    exact ⟨store.files, by simp, by simpa using filed⟩
  cases windowed : store.windowed with
  | false =>
      have stopped : ¬∀ span ∈ batch, Exportable store.windowDays span := by
        rcases List.exists_mem_of_ne_nil _ empty with ⟨span, member⟩
        intro all
        exact Bool.false_ne_true (windowed.symm.trans (all span member).2.1)
      simp [empty, stopped]
  | true =>
    rcases byWindow_spec store batch with ⟨whole, placed⟩
    rw [if_neg empty, if_neg (by simp)]
    constructor
    · rw [Option.isSome_map, writeAll_isSome positive windowed]
      · constructor
        · intro all span member
          exact all span (whole.mem_iff.mpr member)
        · intro all span member
          exact all span (whole.mem_iff.mp member)
      · intro group member
        refine ⟨(placed group member).1, ?_⟩
        intro span within
        have known : span ∈ batch :=
          whole.mem_iff.mp (List.mem_flatMap.mpr ⟨group, member, within⟩)
        exact ⟨nonneg span known, (placed group member).2 span within⟩
    · intro after exported
      rcases Option.map_eq_some_iff.mp exported with ⟨files, wrote, rfl⟩
      have all := filed.writeAll positive placed wrote
      have rowsPerm := (whole.map SpanData.record).append_left rows
      have filedAll : Filed env store.windowDays files
          (rows ++ batch.map SpanData.record) :=
        ⟨all.whole.trans rowsPerm, all.distinct, all.placed⟩
      refine ⟨files, ?_, filedAll⟩
      rw [filedAll.sweep positive (inside empty)]
      simp [empty]

end Files

/-! ## Exported histories -/

section Histories

variable {env : Environment} {store : SQLiteSpanStore}

theorem History.spans_append (history : History) (entry : List SpanData × ℚ) :
    History.spans (history ++ [entry]) = history.spans ++ entry.1 := by
  simp [History.spans]

theorem Retained.front
    {windowDays retentionWindows : Int} {history : History}
    {entry : List SpanData × ℚ}
    (retained : Retained windowDays retentionWindows (history ++ [entry])) :
    Retained windowDays retentionWindows history := by
  intro before current later split nonempty span member
  apply retained before current (later ++ [entry]) _ nonempty span member
  rw [split]
  simp

theorem exportAll_spec
    (env : Environment) (store : SQLiteSpanStore)
    (positive : 0 < store.windowDays) (empty : store.files = [])
    {history : History}
    (nonneg : ∀ span ∈ history.spans, 0 ≤ span.startTime)
    (retained : Retained store.windowDays store.retentionWindows history) :
    ((store.exportAll env history).isSome = true ↔
        ∀ span ∈ history.spans, Exportable store.windowDays span) ∧
      ∀ after, store.exportAll env history = some after →
        ∃ files,
          after =
            { store with
              present := store.present || !history.spans.isEmpty
              files := files } ∧
          Filed env store.windowDays files
            (history.spans.map SpanData.record) := by
  induction history using List.reverseRecOn with
  | nil =>
      refine ⟨by simp [SQLiteSpanStore.exportAll, History.spans], ?_⟩
      intro after same
      cases same
      exact ⟨[], by simp [← empty, History.spans], filed_nil _⟩
  | append_singleton history entry ih =>
      have next : store.exportAll env (history ++ [entry]) =
          (store.exportAll env history).bind fun before =>
            before.exportSpans env entry.1 entry.2 := by
        simp [SQLiteSpanStore.exportAll, List.foldlM_append]
      rw [History.spans_append] at nonneg
      have before := ih
        (fun span member => nonneg span (List.mem_append_left _ member))
        retained.front
      rw [History.spans_append, List.map_append, List.forall_mem_append, next]
      cases exported : store.exportAll env history with
      | none =>
          rw [exported] at before
          have stopped := before.1.not.mp (by simp)
          simp [stopped]
      | some middle =>
          rw [exported] at before
          rcases before.2 middle rfl with ⟨files, rfl, filed⟩
          have spec := exportSpans_spec
            { store with
              present := store.present || !(History.spans history).isEmpty
              files := files }
            entry.1 entry.2 positive filed
            (fun span member => nonneg span (List.mem_append_right _ member))
            (by
              intro nonempty row member
              rw [← List.map_append] at member
              rcases List.mem_map.mp member with ⟨span, within, rfl⟩
              exact retained history entry [] rfl nonempty span within)
          have earlier := before.1.mp rfl
          rw [Option.bind_some]
          refine ⟨?_, ?_⟩
          · rw [spec.1]
            exact ⟨fun all => ⟨earlier, all⟩, fun all => all.2⟩
          · intro after done
            rcases spec.2 after done with ⟨new, rfl, newFiled⟩
            refine ⟨new, ?_, newFiled⟩
            have empties : (History.spans history ++ entry.1).isEmpty =
                ((History.spans history).isEmpty && entry.1.isEmpty) := by
              cases History.spans history <;> rfl
            rw [empties, Bool.not_and, Bool.or_assoc]

/-- The in-memory store keeps every span. -/
theorem memory_spans
    (maxsize : Nat) (history : History)
    (fits : history.spans.length ≤ maxsize) :
    (InMemorySpanStore.exportAll { maxsize := maxsize } history).spans =
        history.spans.map SpanData.record ∧
      (InMemorySpanStore.exportAll { maxsize := maxsize } history).maxsize =
        maxsize := by
  induction history using List.reverseRecOn with
  | nil => exact ⟨rfl, rfl⟩
  | append_singleton history entry ih =>
      rw [History.spans_append, List.length_append] at fits
      rcases ih (by omega) with ⟨spans, same⟩
      have next :
          InMemorySpanStore.exportAll { maxsize := maxsize }
              (history ++ [entry]) =
            (InMemorySpanStore.exportAll { maxsize := maxsize }
              history).exportSpans entry.1 := by
        simp [InMemorySpanStore.exportAll]
      rw [next, History.spans_append]
      unfold InMemorySpanStore.exportSpans
      simp only [spans, same, ← List.map_append, List.length_map,
        List.length_append]
      rw [if_neg (by omega)]
      exact ⟨rfl, trivial⟩

end Histories

/-! ## Files between two windows -/

section Between

variable {env : Environment} {store : SQLiteSpanStore}
  {rows : List SpanRecord} {first last : Int}

/-- What a query reads of one file. -/
def SQLiteSpanStore.selectFile
    (env : Environment) (store : SQLiteSpanStore) (first last : Int)
    (entry : String × List SpanRecord) : Option (Int × List SpanRecord) :=
  (store.indexFromFilename env entry.1).bind fun index =>
    if first ≤ index ∧ index ≤ last then some (index, entry.2) else none

theorem filesBetween_perm :
    (store.filesBetween env first last).Perm
      (store.files.filterMap (store.selectFile env first last)) :=
  List.mergeSort_perm _ _

/-- A file that is not selected has no row between the windows. -/
theorem selectFile_rows
    {entry : String × List SpanRecord} {index : Int}
    {select : SpanRecord → Bool} (positive : 0 < store.windowDays)
    (named : env.strftime (index * store.windowDays) = some entry.1)
    (all : ∀ row ∈ entry.2,
      windowIndex row.startTime store.windowDays = index)
    (ranged : ∀ row, select row = true →
      first ≤ windowIndex row.startTime store.windowDays ∧
        windowIndex row.startTime store.windowDays ≤ last) :
    ((store.selectFile env first last entry).toList.flatMap fun file =>
      file.2.filter select) = entry.2.filter select := by
  unfold SQLiteSpanStore.selectFile
  rw [indexFromFilename_windowFilename positive named, Option.bind_some]
  split_ifs with inside
  · simp
  · symm
    simp only [Option.toList_none, List.flatMap_nil]
    rw [List.filter_eq_nil_iff]
    intro row member selected
    have bounds := ranged row selected
    rw [all row member] at bounds
    exact inside bounds

theorem flatMap_filterMap_eq
    {files : List (String × List SpanRecord)}
    {choose : String × List SpanRecord → Option (Int × List SpanRecord)}
    {select : SpanRecord → Bool}
    (same : ∀ entry ∈ files,
      ((choose entry).toList.flatMap fun file => file.2.filter select) =
        entry.2.filter select) :
    ((files.filterMap choose).flatMap fun file => file.2.filter select) =
      (files.flatMap Prod.snd).filter select := by
  induction files with
  | nil => rfl
  | cons entry rest ih =>
      have here := same entry (List.mem_cons_self ..)
      have later := ih fun other member =>
        same other (List.mem_cons_of_mem _ member)
      rw [List.filterMap_cons, List.flatMap_cons, List.filter_append, ← later,
        ← here]
      cases choose entry <;> simp

/-- The selected files hold the rows between the windows. -/
theorem Filed.selected
    {select : SpanRecord → Bool}
    (filed : Filed env store.windowDays store.files rows)
    (positive : 0 < store.windowDays)
    (ranged : ∀ row, select row = true →
      first ≤ windowIndex row.startTime store.windowDays ∧
        windowIndex row.startTime store.windowDays ≤ last) :
    (((store.filesBetween env first last).map Prod.snd).map
        (List.filter select)).flatten.Perm (rows.filter select) := by
  rw [List.map_map, ← List.flatMap_def]
  refine (filesBetween_perm.flatMap_right _).trans ?_
  show ((store.files.filterMap (store.selectFile env first last)).flatMap
    fun file => file.2.filter select).Perm _
  rw [flatMap_filterMap_eq]
  · exact filed.whole.filter _
  · intro entry member
    rcases filed.placed entry member with ⟨_, index, named, all⟩
    exact selectFile_rows positive named all ranged

/-- The indices of the selected files. -/
theorem mem_selected_indices
    {index : Int} (filed : Filed env store.windowDays store.files rows)
    (positive : 0 < store.windowDays) :
    index ∈ (store.files.filterMap
        (store.selectFile env first last)).map Prod.fst ↔
      index ∈ rows.map (fun row =>
        windowIndex row.startTime store.windowDays) ∧
        first ≤ index ∧ index ≤ last := by
  rw [List.mem_map, List.mem_map]
  constructor
  · rintro ⟨⟨own, kept⟩, chosen, rfl⟩
    rcases List.mem_filterMap.mp chosen with ⟨entry, member, selected⟩
    rcases filed.placed entry member with ⟨nonempty, place, named, all⟩
    unfold SQLiteSpanStore.selectFile at selected
    rw [indexFromFilename_windowFilename positive named, Option.bind_some]
      at selected
    split_ifs at selected with inside
    cases selected
    rcases List.exists_mem_of_ne_nil _ nonempty with ⟨row, within⟩
    refine ⟨⟨row, ?_, all row within⟩, inside⟩
    exact filed.whole.mem_iff.mp (List.mem_flatMap.mpr ⟨entry, member, within⟩)
  · rintro ⟨⟨row, known, rfl⟩, inside⟩
    rcases List.mem_flatMap.mp (filed.whole.mem_iff.mpr known) with
      ⟨entry, member, within⟩
    rcases filed.placed entry member with ⟨_, place, named, all⟩
    refine ⟨(place, entry.2), List.mem_filterMap.mpr ⟨entry, member, ?_⟩, ?_⟩
    · unfold SQLiteSpanStore.selectFile
      rw [indexFromFilename_windowFilename positive named, Option.bind_some]
      rw [all row within] at inside
      exact if_pos inside
    · exact (all row within).symm

/-- No two selected files are of one window. -/
theorem selected_indices_nodup
    {files : List (String × List SpanRecord)}
    (distinct : (files.map Prod.fst).Nodup)
    (positive : 0 < store.windowDays)
    (placed : ∀ entry ∈ files, ∃ index,
      env.strftime (index * store.windowDays) = some entry.1) :
    ((files.filterMap (store.selectFile env first last)).map
      Prod.fst).Nodup := by
  induction files with
  | nil => exact List.nodup_nil
  | cons entry rest ih =>
      rw [List.map_cons, List.nodup_cons] at distinct
      have later := ih distinct.2 fun other member =>
        placed other (List.mem_cons_of_mem _ member)
      rcases placed entry (List.mem_cons_self ..) with ⟨index, named⟩
      rw [List.filterMap_cons]
      cases selected : store.selectFile env first last entry with
      | none => exact later
      | some chosen =>
          have own : chosen.1 = index := by
            unfold SQLiteSpanStore.selectFile at selected
            rw [indexFromFilename_windowFilename positive named,
              Option.bind_some] at selected
            split_ifs at selected
            cases selected
            rfl
          rw [List.map_cons, List.nodup_cons, own]
          refine ⟨?_, later⟩
          intro repeated
          rcases List.mem_map.mp repeated with ⟨⟨first, kept⟩, other, same⟩
          rcases List.mem_filterMap.mp other with ⟨twin, member, picked⟩
          rcases placed twin (List.mem_cons_of_mem _ member) with
            ⟨place, titled⟩
          unfold SQLiteSpanStore.selectFile at picked
          rw [indexFromFilename_windowFilename positive titled,
            Option.bind_some] at picked
          split_ifs at picked
          cases picked
          cases same
          rw [named] at titled
          exact distinct.1
            (List.mem_map.mpr ⟨twin, member, (Option.some.inj titled).symm⟩)

theorem Filed.between_length
    (filed : Filed env store.windowDays store.files rows)
    (positive : 0 < store.windowDays) :
    (store.filesBetween env first last).length =
      (((rows.map fun row =>
          windowIndex row.startTime store.windowDays).dedup).filter
        fun index => first ≤ index ∧ index ≤ last).length := by
  rw [filesBetween_perm.length_eq, ← List.length_map Prod.fst]
  apply List.Perm.length_eq
  rw [List.perm_ext_iff_of_nodup]
  · intro index
    rw [mem_selected_indices filed positive, List.mem_filter, List.mem_dedup,
      decide_eq_true_eq]
  · apply selected_indices_nodup filed.distinct positive
    intro entry member
    rcases filed.placed entry member with ⟨_, index, named, _⟩
    exact ⟨index, named⟩
  · exact (List.nodup_dedup _).filter _

end Between

/-! ## Answers -/

section Answers

theorem sqlSum_getD
    {N : Type} [AddCommMonoid N] (values : List (Option N)) :
    (sqlSum values).getD 0 = (values.map fun value => value.getD 0).sum := by
  have total : values.reduceOption.sum =
      (values.map fun value => value.getD 0).sum := by
    induction values with
    | nil => rfl
    | cons value rest ih =>
        cases value with
        | none => simpa using ih
        | some number => simp [ih]
  unfold sqlSum
  split_ifs with empty
  · rw [← total, empty]
    rfl
  · exact total

theorem sum_triple
    {α A B C : Type} [AddCommMonoid A] [AddCommMonoid B] [AddCommMonoid C]
    (first : α → A) (second : α → B) (third : α → C) (rows : List α) :
    (rows.map fun row => (first row, second row, third row)).sum =
      ((rows.map first).sum, (rows.map second).sum, (rows.map third).sum) := by
  induction rows with
  | nil => rfl
  | cons row rest ih => simp [ih]

theorem costColumns_sum (group : List SpanRecord) :
    SQLiteSpanStore.orZero (SQLiteSpanStore.costColumns group) =
      (group.map costOf).sum := by
  have columns : (group.map costOf).sum =
      ((group.map fun row => row.llmCostUsd.getD 0).sum,
        (group.map fun row => row.llmTokensIn.getD 0).sum,
        (group.map fun row => row.llmTokensOut.getD 0).sum) :=
    sum_triple _ _ _ group
  rw [columns]
  simp only [SQLiteSpanStore.orZero, SQLiteSpanStore.costColumns, sqlSum_getD,
    List.map_map]
  rfl

theorem costTotals_sum
    (groups : List (Option ℚ × Option Int × Option Int)) :
    SQLiteSpanStore.orZero (SQLiteSpanStore.costTotals groups) =
      (groups.map SQLiteSpanStore.orZero).sum := by
  have columns : (groups.map SQLiteSpanStore.orZero).sum =
      ((groups.map fun group => group.1.getD 0).sum,
        (groups.map fun group => group.2.1.getD 0).sum,
        (groups.map fun group => group.2.2.getD 0).sum) :=
    sum_triple _ _ _ groups
  rw [columns]
  simp only [SQLiteSpanStore.orZero, SQLiteSpanStore.costTotals, sqlSum_getD,
    List.map_map]
  rfl

/-- Both stores keep the same rows, and without a directory there are none. -/
structure Agreed
    (env : Environment) (sqlite : SQLiteSpanStore)
    (memory : InMemorySpanStore) : Prop where
  positive : 0 < sqlite.windowDays
  filed : Filed env sqlite.windowDays sqlite.files memory.spans
  absent : sqlite.present = false → memory.spans = []

variable {env : Environment} {sorting : Sorting} {sqlite : SQLiteSpanStore}
  {memory : InMemorySpanStore} {since upto : Moment}
  {files : List (Int × List SpanRecord)}

/-- A row of the range is between its windows. -/
theorem within_windows
    {row : SpanRecord} {first last : Int} (positive : 0 < sqlite.windowDays)
    (starts : sqlite.windowOf since = some first)
    (ends : sqlite.windowOf upto = some last)
    (inside : within since upto row = true) :
    first ≤ windowIndex row.startTime sqlite.windowDays ∧
      windowIndex row.startTime sqlite.windowDays ≤ last := by
  rw [within, Bool.and_eq_true] at inside
  unfold SQLiteSpanStore.windowOf at starts ends
  split_ifs at starts ends
  constructor
  · cases since <;> cases starts
    exact windowIndex_mono positive (of_decide_eq_true inside.1)
  · cases upto <;> cases ends
    exact windowIndex_mono positive (of_decide_eq_true inside.2)

/-- The files that are found hold the rows of the range. -/
theorem Agreed.selected
    {select : SpanRecord → Bool} (agreed : Agreed env sqlite memory)
    (found : sqlite.filesInRange env since upto = some files)
    (ranged : ∀ row, select row = true → within since upto row = true) :
    ((files.map Prod.snd).map (List.filter select)).flatten.Perm
      (memory.spans.filter select) := by
  unfold SQLiteSpanStore.filesInRange at found
  split_ifs at found with absent
  · cases found
    rw [agreed.absent absent]
    exact .nil
  · rcases Option.bind_eq_some_iff.mp found with ⟨first, starts, rest⟩
    rcases Option.bind_eq_some_iff.mp rest with ⟨last, ends, same⟩
    cases same
    exact agreed.filed.selected agreed.positive fun row selected =>
      within_windows agreed.positive starts ends (ranged row selected)

/-- The groups of groups are the groups of the in-memory store. -/
theorem Agreed.regroup
    {κ M β γ : Type} [DecidableEq κ] [AddCommMonoid M]
    {value : SpanRecord → M} {aggregate : List SpanRecord → β}
    {number : β → M} (agreed : Agreed env sqlite memory)
    (found : sqlite.filesInRange env since upto = some files)
    (key : SpanRecord → κ) (select : SpanRecord → Bool)
    (again : List β → γ) (result : γ → M)
    (inner : ∀ group, number (aggregate group) = (group.map value).sum)
    (outer : ∀ numbers, result (again numbers) = (numbers.map number).sum)
    (ranged : ∀ row, select row = true → within since upto row = true) :
    ((Aggregation.regroup key aggregate again
        ((files.map Prod.snd).map (List.filter select))).map fun group =>
        (group.1, result group.2)).Perm
      (accumulate key value (memory.spans.filter select)) := by
  refine (regroup_perm inner outer _).trans ?_
  refine (groupSums_perm key value (agreed.selected found ranged)).trans ?_
  exact (accumulate_perm key value _).symm

theorem sameBuckets_of_perm
    {β : Type} (sorting : Sorting) (start : β → Int) {left right : List β}
    (same : left.Perm right) :
    SameBuckets start (sorting.buckets start left)
      (right.mergeSort fun first second => start first ≤ start second) := by
  have found := sorting.buckets_arranged start left
  have expected := mergeSort_arranged start right
  exact
    ⟨found.perm.trans (same.trans expected.perm.symm), found.sorted,
      expected.sorted⟩

/-- What is read of two arrangements when the limit cuts no ties. -/
theorem sameSpans_of_perm
    (sorting : Sorting) (order : SpanRecord → ℚ) {limit : Nat}
    {left right : List SpanRecord} (same : left.Perm right)
    (uncut : ¬CutsTies order limit right) :
    SameSpans order ((sorting.spans order left).take limit)
      ((right.mergeSort fun first second =>
        order first ≤ order second).take limit) := by
  have found := (sorting.spans_arranged order left).of_perm same
  have expected := mergeSort_arranged order right
  exact
    ⟨take_perm uncut found expected,
      found.sorted.sublist (List.take_sublist ..),
      expected.sorted.sublist (List.take_sublist ..)⟩

theorem attached_eq
    (found : sqlite.filesInRange env since upto = some files)
    (few : files.length ≤ maxAttached) :
    sqlite.attached env since upto = some (files.map Prod.snd) := by
  unfold SQLiteSpanStore.attached
  rw [found]
  exact if_pos few

theorem costRow_within (row : SpanRecord)
    (selected : costRow since upto row = true) :
    within since upto row = true := by
  rw [costRow, Bool.and_eq_true] at selected
  exact selected.2

theorem handleRow_within (row : SpanRecord)
    (selected : handleRow since upto row = true) :
    within since upto row = true := by
  rw [handleRow, Bool.and_eq_true] at selected
  exact selected.2

theorem Agreed.costBy
    (column : SpanRecord → Option String) (agreed : Agreed env sqlite memory)
    (found : sqlite.filesInRange env since upto = some files)
    (few : files.length ≤ maxAttached) :
    ∃ answer, sqlite.costBy env column since upto = some answer ∧
      SameEntries answer (memory.costBy column since upto) := by
  unfold SQLiteSpanStore.costBy InMemorySpanStore.costBy
  rw [attached_eq found few]
  have inner (group : List SpanRecord) :
      (sqlSum (group.map SpanRecord.llmCostUsd)).getD 0 =
        (group.map fun row => row.llmCostUsd.getD 0).sum := by
    rw [sqlSum_getD, List.map_map]
    rfl
  refine ⟨_, rfl, ?_, (accumulate_spec _ _ _).1⟩
  refine agreed.regroup found column _ sqlSum (fun sum => sum.getD 0) inner
    sqlSum_getD ?_
  intro row selected
  simp only [Bool.and_eq_true] at selected
  exact selected.2

/-- A bucket size that both stores can use for the rows of a query. -/
def Bucketed
    (bucketSeconds : Int) (select : SpanRecord → Bool)
    (rows : List SpanRecord) : Prop :=
  writable bucketSeconds = true ∧
    (divides bucketSeconds = true ∨ rows.filter select = [])

theorem Agreed.costOverTime
    {bucketSeconds : Int} (agreed : Agreed env sqlite memory)
    (found : sqlite.filesInRange env since upto = some files)
    (few : files.length ≤ maxAttached)
    (bucketed :
      Bucketed bucketSeconds (costRow since upto) memory.spans) :
    ∃ answer expected,
      sqlite.costOverTime env sorting since upto bucketSeconds =
          some answer ∧
        memory.costOverTime since upto bucketSeconds = some expected ∧
        SameBuckets CostBucket.bucketStart answer expected := by
  unfold SQLiteSpanStore.costOverTime InMemorySpanStore.costOverTime
  rw [attached_eq found few, if_neg (by simp [bucketed.1]), if_neg (by
    rintro ⟨some_row, refused⟩
    rcases bucketed.2 with divided | empty
    · cases refused.symm.trans divided
    · exact some_row empty)]
  refine ⟨_, _, rfl, rfl, ?_⟩
  apply sameBuckets_of_perm sorting CostBucket.bucketStart
  have groups :=
    (agreed.regroup found (costKey bucketSeconds) (costRow since upto)
      SQLiteSpanStore.costTotals SQLiteSpanStore.orZero costColumns_sum
      costTotals_sum costRow_within).map costBucket
  rw [List.map_map] at groups
  exact groups

theorem Agreed.messageRateOverTime
    {bucketSeconds : Int} (agreed : Agreed env sqlite memory)
    (found : sqlite.filesInRange env since upto = some files)
    (few : files.length ≤ maxAttached)
    (bucketed :
      Bucketed bucketSeconds (handleRow since upto) memory.spans) :
    ∃ answer expected,
      sqlite.messageRateOverTime env sorting since upto bucketSeconds =
          some answer ∧
        memory.messageRateOverTime since upto bucketSeconds =
          some expected ∧
        SameBuckets MessageRateBucket.bucketStart answer expected := by
  unfold SQLiteSpanStore.messageRateOverTime
    InMemorySpanStore.messageRateOverTime
  rw [attached_eq found few, if_neg (by simp [bucketed.1]), if_neg (by
    rintro ⟨some_row, refused⟩
    rcases bucketed.2 with divided | empty
    · cases refused.symm.trans divided
    · exact some_row empty)]
  refine ⟨_, _, rfl, rfl, ?_⟩
  apply sameBuckets_of_perm sorting MessageRateBucket.bucketStart
  have counts (group : List SpanRecord) :
      id group.length = (group.map fun _ => 1).sum := by
    simp
  have totals (numbers : List Nat) :
      (sqlSum (numbers.map some)).getD 0 = (numbers.map id).sum := by
    rw [sqlSum_getD, List.map_map]
    rfl
  have groups :=
    (agreed.regroup found (handleKey bucketSeconds) (handleRow since upto)
      (fun numbers => sqlSum (numbers.map some)) (fun sum => sum.getD 0)
      counts totals handleRow_within).map rateBucket
  rw [List.map_map] at groups
  exact groups

theorem Agreed.answersAlike
    {bucketSeconds : Int} {limit : Nat}
    (agreed : Agreed env sqlite memory)
    (found : sqlite.filesInRange env since upto = some files)
    (few : files.length ≤ maxAttached)
    (costs : Bucketed bucketSeconds (costRow since upto) memory.spans)
    (handled : Bucketed bucketSeconds (handleRow since upto) memory.spans)
    (limited : writable limit = true ∧ (fitsInt64 limit = true ∨ files = []))
    (uncut : ¬CutsTies (fun row => -row.startTime) limit
      (memory.spans.filter (within since upto))) (traceId : String) :
    AnswersAlike env sorting sqlite memory since upto bucketSeconds limit
      traceId where
  costOverTime := agreed.costOverTime found few costs
  messageRateOverTime := agreed.messageRateOverTime found few handled
  costByAgent := agreed.costBy SpanRecord.agentName found few
  costByModel := agreed.costBy SpanRecord.llmModel found few
  recentSpans := by
    unfold SQLiteSpanStore.recentSpans InMemorySpanStore.recentSpans
    rw [attached_eq found few, if_neg (by simp [limited.1])]
    have taken : ¬(files.map Prod.snd ≠ [] ∧ fitsInt64 limit = false) := by
      rintro ⟨some_file, refused⟩
      rcases limited.2 with fits | none_found
      · cases refused.symm.trans fits
      · exact some_file (by rw [none_found, List.map_nil])
    refine ⟨_, if_neg taken, ?_⟩
    have rows := agreed.selected found
      fun row (selected : within since upto row = true) => selected
    rw [← List.flatMap_def] at rows
    exact sameSpans_of_perm sorting _ rows uncut
  spansInTrace := by
    unfold SQLiteSpanStore.spansInTrace InMemorySpanStore.spansInTrace
    rw [attached_eq found few]
    refine ⟨_, rfl, ?_⟩
    have ranged (row : SpanRecord)
        (selected : (decide (row.traceId = traceId) &&
          within since upto row) = true) :
        within since upto row = true := by
      simp only [Bool.and_eq_true] at selected
      exact selected.2
    have rows := agreed.selected found ranged
    rw [← List.flatMap_def] at rows
    have arranged :=
      (sorting.spans_arranged SpanRecord.startTime _).of_perm rows
    have expected := mergeSort_arranged SpanRecord.startTime
      (memory.spans.filter fun row =>
        decide (row.traceId = traceId) && within since upto row)
    exact
      ⟨arranged.perm.trans expected.perm.symm, arranged.sorted,
        expected.sorted⟩

end Answers

/-! ## When the stores answer alike -/

theorem bucketed_iff
    {since upto : Moment} {bucketSeconds : Int} {rows : List SpanRecord} :
    Bucketed bucketSeconds (costRow since upto) rows ∧
        Bucketed bucketSeconds (handleRow since upto) rows ↔
      writable bucketSeconds = true ∧
        (divides bucketSeconds = true ∨
          ∀ row ∈ rows.filter (within since upto),
            row.llmCostUsd = none ∧ row.name ≠ "civitas.agent.handle") := by
  unfold Bucketed
  rw [← and_and_left, ← or_and_left]
  refine and_congr_right' (or_congr_right ?_)
  simp only [List.filter_eq_nil_iff, List.mem_filter, costRow, handleRow,
    Bool.and_eq_true, decide_eq_true_eq, Option.isSome_iff_ne_none]
  constructor
  · rintro ⟨costs, handled⟩ row ⟨member, inside⟩
    exact
      ⟨by_contra fun cost => costs row member ⟨cost, inside⟩,
        fun named => handled row member ⟨named, inside⟩⟩
  · intro none_asked
    exact
      ⟨fun row member asked => asked.1 (none_asked row ⟨member, asked.2⟩).1,
        fun row member asked =>
          (none_asked row ⟨member, asked.2⟩).2 asked.1⟩

section Exported

variable {env : Environment} {windowDays retentionWindows : Int}
  {present : Bool} {maxsize : Nat} {history : History}
  {sqlite : SQLiteSpanStore} {since upto : Moment}

/-- The stores after a history. -/
theorem agreed_of_exported
    (positive : 0 < windowDays)
    (nonneg : ∀ span ∈ history.spans, 0 ≤ span.startTime)
    (retained : Retained windowDays retentionWindows history)
    (fits : history.spans.length ≤ maxsize)
    (exported :
      SQLiteSpanStore.exportAll env
        { windowDays := windowDays, retentionWindows := retentionWindows
          present := present } history = some sqlite) :
    Agreed env sqlite
        (InMemorySpanStore.exportAll { maxsize := maxsize } history) ∧
      sqlite.windowDays = windowDays ∧
      sqlite.present = (present || !history.spans.isEmpty) := by
  have spec :=
    exportAll_spec env
      { windowDays := windowDays, retentionWindows := retentionWindows
        present := present } positive rfl nonneg retained
  rcases spec.2 sqlite exported with ⟨files, rfl, filed⟩
  have kept := (memory_spans maxsize history fits).1
  refine ⟨⟨positive, kept ▸ filed, fun absent => ?_⟩, rfl, rfl⟩
  rw [kept]
  cases known : history.spans with
  | nil => rfl
  | cons span rest => simp [known] at absent

/-- The files of a range are those of its windows. -/
theorem found_length
    {memory : InMemorySpanStore} {files : List (Int × List SpanRecord)}
    (agreed : Agreed env sqlite memory)
    (kept : memory.spans = history.spans.map SpanData.record)
    (found : sqlite.filesInRange env since upto = some files) :
    files.length =
      (windowsInRange sqlite.windowDays since upto history).length := by
  unfold SQLiteSpanStore.filesInRange at found
  split_ifs at found with absent
  · cases found
    have none_kept := agreed.absent absent
    rw [kept, List.map_eq_nil_iff] at none_kept
    unfold windowsInRange History.windows
    rw [none_kept]
    cases since.time? <;> cases upto.time? <;> rfl
  · rcases Option.bind_eq_some_iff.mp found with ⟨first, starts, rest⟩
    rcases Option.bind_eq_some_iff.mp rest with ⟨last, ends, same⟩
    cases same
    rw [agreed.filed.between_length agreed.positive, kept, List.map_map]
    unfold SQLiteSpanStore.windowOf at starts ends
    split_ifs at starts ends
    rcases Option.map_eq_some_iff.mp starts with ⟨start, known, rfl⟩
    rcases Option.map_eq_some_iff.mp ends with ⟨finish, limit, rfl⟩
    unfold windowsInRange
    rw [known, limit]
    rfl

theorem filesInRange_isSome :
    (sqlite.filesInRange env since upto).isSome = true ↔
      sqlite.present = false ∨
        sqlite.windowed = true ∧
          since.time?.isSome = true ∧ upto.time?.isSome = true := by
  unfold SQLiteSpanStore.filesInRange SQLiteSpanStore.windowOf
  cases sqlite.present with
  | false => simp
  | true =>
      cases sqlite.windowed with
      | false => simp
      | true => cases since.time? <;> cases upto.time? <;> simp

end Exported

/-- Equal keys in the order of the rows. -/
def stableSorting : Sorting where
  buckets key rows :=
    rows.mergeSort fun first second => key first ≤ key second
  spans key rows :=
    rows.mergeSort fun first second => key first ≤ key second
  buckets_arranged := mergeSort_arranged
  spans_arranged := mergeSort_arranged

/-- The copies of one row in a chosen place among the rows of its key. -/
def sortingBy
    (chosen : SpanRecord) (choose : List SpanRecord → List SpanRecord)
    (perm : ∀ ties, (choose ties).Perm ties) : Sorting :=
  { stableSorting with
    spans := fun key rows => arrange key (key chosen) choose rows
    spans_arranged := fun key rows =>
      arrange_arranged key (key chosen) perm rows }

section Converse

variable {env : Environment} {sqlite : SQLiteSpanStore}
  {memory : InMemorySpanStore} {since upto : Moment} {bucketSeconds : Int}
  {limit : Nat} {traceId : String}

/-- What an answered query has found. -/
theorem attached_of_answered
    {sorting : Sorting}
    (alike :
      AnswersAlike env sorting sqlite memory since upto bucketSeconds limit
        traceId) :
    ∃ files, sqlite.filesInRange env since upto = some files ∧
      files.length ≤ maxAttached := by
  rcases alike.costByAgent with ⟨answer, answered, _⟩
  rcases Option.map_eq_some_iff.mp answered with ⟨parts, attached, _⟩
  rcases Option.bind_eq_some_iff.mp attached with ⟨files, found, rest⟩
  split_ifs at rest with few
  exact ⟨files, found, few⟩

theorem bucketed_of_answered
    {sorting : Sorting}
    (alike :
      AnswersAlike env sorting sqlite memory since upto bucketSeconds limit
        traceId) :
    Bucketed bucketSeconds (costRow since upto) memory.spans ∧
      Bucketed bucketSeconds (handleRow since upto) memory.spans := by
  rcases alike.costOverTime with ⟨_, _, written, costs, _⟩
  rcases alike.messageRateOverTime with ⟨_, _, _, handled, _⟩
  unfold SQLiteSpanStore.costOverTime at written
  unfold InMemorySpanStore.costOverTime at costs
  unfold InMemorySpanStore.messageRateOverTime at handled
  split_ifs at written with refused
  rw [Bool.not_eq_false] at refused
  have asked {select : SpanRecord → Bool}
      (answered : ¬(memory.spans.filter select ≠ [] ∧
        divides bucketSeconds = false)) :
      divides bucketSeconds = true ∨ memory.spans.filter select = [] := by
    rw [not_and_or, not_not, Bool.not_eq_false] at answered
    exact answered.symm
  exact
    ⟨⟨refused, asked fun none_answered => by
        rw [if_pos none_answered] at costs
        cases costs⟩,
      refused, asked fun none_answered => by
        rw [if_pos none_answered] at handled
        cases handled⟩

/-- What the limit of an answered query meets. -/
theorem recent_of_answered
    {sorting : Sorting} {files : List (Int × List SpanRecord)}
    (alike :
      AnswersAlike env sorting sqlite memory since upto bucketSeconds limit
        traceId)
    (found : sqlite.filesInRange env since upto = some files)
    (few : files.length ≤ maxAttached) :
    writable limit = true ∧ (fitsInt64 limit = true ∨ files = []) ∧
      ((sorting.spans (fun row => -row.startTime)
          ((files.map Prod.snd).flatMap
            (List.filter (within since upto)))).take limit).Perm
        (memory.recentSpans since upto limit) := by
  rcases alike.recentSpans with ⟨answer, answered, same⟩
  unfold SQLiteSpanStore.recentSpans at answered
  rw [attached_eq found few] at answered
  split_ifs at answered with refused
  rw [Option.bind_eq_bind, Option.bind_some] at answered
  split_ifs at answered with taken
  cases answered
  rw [not_and_or, not_not, List.map_eq_nil_iff, Bool.not_eq_false] at taken
  rw [Bool.not_eq_false] at refused
  exact ⟨refused, taken.symm, same.1⟩

/-- A limit that cuts ties gives an answer that SQLite may give otherwise. -/
theorem uncut_of_answered
    {files : List (Int × List SpanRecord)} (agreed : Agreed env sqlite memory)
    (alike : ∀ sorting,
      AnswersAlike env sorting sqlite memory since upto bucketSeconds limit
        traceId)
    (found : sqlite.filesInRange env since upto = some files)
    (few : files.length ≤ maxAttached) :
    ¬CutsTies (fun row => -row.startTime) limit
      (memory.spans.filter (within since upto)) := by
  intro cut
  have rows := agreed.selected found
    fun row (selected : within since upto row = true) => selected
  rw [← List.flatMap_def] at rows
  rcases exists_take_not_perm (cut.of_perm rows.symm) with ⟨chosen, differ⟩
  have first := recent_of_answered
    (alike (sortingBy chosen (favour chosen) (favour_perm chosen))) found few
  have second := recent_of_answered
    (alike (sortingBy chosen (disfavour chosen) (disfavour_perm chosen)))
    found few
  exact differ (first.2.2.trans second.2.2.symm)

end Converse

/-- Two dates as they are written, and a short text for every other day. -/
def dateOf (day : Int) : Option String :=
  if day < 0 ∨ lastDay < day then none
  else if day = 0 then some "1970-01-01"
  else if day = 30 then some "1970-01-31"
  else
    some (String.ofList
      [Char.ofNat (day.toNat / 1000), Char.ofNat (day.toNat % 1000)])

/-- The day that `dateOf` writes so. -/
def dayOf (date : String) : Option Int :=
  if date = "1970-01-01" then some 0
  else if date = "1970-01-31" then some 30
  else
    match date.toList with
    | [thousands, rest] => some (thousands.toNat * 1000 + rest.toNat : Nat)
    | _ => none

theorem toNat_ofNat_of_small {number : Nat} (small : number < 3000) :
    (Char.ofNat number).toNat = number := by
  have valid : number.isValidChar := .inl (by omega)
  rw [Char.ofNat, dif_pos valid]
  rfl

theorem dayOf_dateOf {day : Int} {date : String}
    (dated : dateOf day = some date) : dayOf date = some day := by
  unfold dateOf at dated
  split_ifs at dated with outside first thirtieth
  · cases dated
    rw [first]
    rfl
  · cases dated
    rw [thirtieth]
    rfl
  · cases dated
    have bounds : 0 ≤ day ∧ day ≤ 2932896 := by
      unfold lastDay at outside
      omega
    have front : (Char.ofNat (day.toNat / 1000)).toNat =
        day.toNat / 1000 :=
      toNat_ofNat_of_small (by omega)
    have back : (Char.ofNat (day.toNat % 1000)).toNat =
        day.toNat % 1000 :=
      toNat_ofNat_of_small (by omega)
    have short (text : String) (long : text.toList.length = 10) :
        String.ofList
          [Char.ofNat (day.toNat / 1000), Char.ofNat (day.toNat % 1000)] ≠
          text := by
      intro same
      rw [← same] at long
      simp at long
    unfold dayOf
    rw [if_neg (short _ rfl), if_neg (short _ rfl)]
    simp only [String.toList_ofList, front, back, Option.some.injEq]
    omega

/-- An environment that reads back the dates it writes. -/
def stableEnvironment : Environment where
  strftime := dateOf
  strptime := dayOf
  strftime_isSome := by
    intro day early
    unfold dateOf
    split_ifs <;> simp <;> omega
  strptime_strftime := fun _ _ => dayOf_dateOf

/-- A call of a model, and what it has cost. -/
def chat (agent : String) (cost startTime : ℚ) : SpanData where
  name := "civitas.llm.chat"
  traceId := "t"
  spanId := "s"
  startTime := startTime
  endTime := startTime
  attributes :=
    { text := fun key =>
        if key = "civitas.agent.name" then some agent else none
      amount := fun key =>
        if key = "civitas.llm.cost_usd" then some cost else none }

theorem retained_single
    {windowDays retentionWindows : Int} {batch : List SpanData} {now : ℚ}
    (inside : ∀ span ∈ batch,
      windowIndex now windowDays - retentionWindows ≤
        windowIndex span.startTime windowDays) :
    Retained windowDays retentionWindows [(batch, now)] := by
  intro before entry later split _ span member
  cases before with
  | nil =>
      cases split
      exact inside span (by simpa [History.spans] using member)
  | cons first rest =>
      have lengths := congrArg List.length split
      simp at lengths

/-- Two calls at either side of the first window boundary, in one bucket. -/
def straddling : History :=
  [([chat "a" 1 2591999, chat "a" 2 2592000], 2592000)]

/-- One call on each of eleven days. -/
def elevenDays : History :=
  [((List.range 11).map fun day => chat "a" 1 (day * 86400), 864000)]

end Civitas.Observability
