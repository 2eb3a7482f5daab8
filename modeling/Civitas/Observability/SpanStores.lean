import Civitas.Aggregation
import Civitas.FirstRows
import Civitas.PyText
import Mathlib.Algebra.Group.Prod
import Mathlib.Algebra.Order.Floor.Ring
import Mathlib.Data.List.ReduceOption
import Mathlib.Data.List.Sort
import Mathlib.Data.Rat.Floor

/-!
# Two span stores

`SQLiteSpanStore` of `observability/sqlite_backend.py` keeps the spans of each
time window in a file of its own.  A query attaches the files whose windows
meet the range, groups the rows of each file and groups the groups once more.
`InMemorySpanStore` of `observability/span_store.py` keeps one list and fills
a dictionary.  Times and costs are exact numbers; SQLite evaluates SQL as it
is documented, with at most ten attached files, and refuses integers that do
not fit into 64 bits.

A window file is known by the date in its name.  The clock of each export is
part of the history.  The ends of a range are floats of Python, also those
that are no numbers.
-/

namespace Civitas.Observability

open Civitas.Aggregation
open Civitas.FirstRows
open Civitas.PyText

/-! ## Spans -/

/-- The attributes of a span, by the types in which they are promoted. -/
structure Attributes where
  text : String → Option String := fun _ => none
  count : String → Option Int := fun _ => none
  amount : String → Option ℚ := fun _ => none

/-- A span as it is exported. -/
structure SpanData where
  name : String
  traceId : String
  spanId : String
  parentSpanId : Option String := none
  startTime : ℚ
  endTime : ℚ
  attributes : Attributes := {}
  /-- `json.dumps(attributes)` returns. -/
  serializable : Bool := true
  status : String := "ok"
  errorMessage : Option String := none

/-- A row: the promoted columns, without the other attributes. -/
structure SpanRecord where
  name : String
  traceId : String
  spanId : String
  parentSpanId : Option String
  startTime : ℚ
  endTime : ℚ
  status : String
  errorMessage : Option String
  agentName : Option String
  llmModel : Option String
  llmTokensIn : Option Int
  llmTokensOut : Option Int
  llmCostUsd : Option ℚ
deriving DecidableEq

/-- The columns that `normalize_span` promotes. -/
structure Promoted where
  agentName : Option String := none
  llmModel : Option String := none
  llmTokensIn : Option Int := none
  llmTokensOut : Option Int := none
  llmCostUsd : Option ℚ := none

/-- `normalize_span`. -/
def normalizeSpan (span : SpanData) : Promoted :=
  let attrs := span.attributes
  if startsWith span.name "civitas.agent." then
    { agentName := attrs.text "civitas.agent.name" }
  else if span.name = "civitas.llm.chat" then
    { agentName := attrs.text "civitas.agent.name"
      llmModel := attrs.text "civitas.llm.model"
      llmTokensIn := attrs.count "civitas.llm.tokens_in"
      llmTokensOut := attrs.count "civitas.llm.tokens_out"
      llmCostUsd := attrs.amount "civitas.llm.cost_usd" }
  else if startsWith span.name "llm.chat " then
    { llmModel := attrs.text "llm.model"
      llmTokensIn := attrs.count "llm.tokens_in"
      llmTokensOut := attrs.count "llm.tokens_out"
      llmCostUsd := attrs.amount "llm.cost_usd" }
  else if startsWith span.name "send " || startsWith span.name "recv " then
    { agentName := attrs.text "civitas.sender" }
  else if startsWith span.name "tool.execute" then
    { agentName := attrs.text "civitas.sender" }
  else if span.name = "supervisor.restart" then
    { agentName := attrs.text "civitas.child" }
  else {}

/-- The row of a span, which both stores keep. -/
def SpanData.record (span : SpanData) : SpanRecord :=
  let columns := normalizeSpan span
  { name := span.name
    traceId := span.traceId
    spanId := span.spanId
    parentSpanId := span.parentSpanId
    startTime := span.startTime
    endTime := span.endTime
    status := span.status
    errorMessage := span.errorMessage
    agentName := columns.agentName
    llmModel := columns.llmModel
    llmTokensIn := columns.llmTokensIn
    llmTokensOut := columns.llmTokensOut
    llmCostUsd := columns.llmCostUsd }

/-- The integers of SQLite. -/
def fitsInt64 (number : Int) : Bool :=
  -(2 ^ 63) ≤ number && number < 2 ^ 63

/-- SQLite takes the integers of the row. -/
def SpanRecord.bindable (row : SpanRecord) : Bool :=
  row.llmTokensIn.all fitsInt64 && row.llmTokensOut.all fitsInt64

/-- The row can be inserted. -/
def SpanData.insertable (span : SpanData) : Bool :=
  span.serializable && span.record.bindable

/-! ## Ranges -/

/-- The end of a range, a float. -/
inductive Moment where
  | finite (time : ℚ)
  | infinity
  | negInfinity
  | nan
deriving DecidableEq

/-- The number that it is; `int` raises for the others. -/
def Moment.time? : Moment → Option ℚ
  | .finite time => some time
  | _ => none

/-- `since <= start_time`. -/
def Moment.atMost (time : ℚ) : Moment → Bool
  | .finite since => since ≤ time
  | .negInfinity => true
  | _ => false

/-- `start_time <= until`. -/
def Moment.atLeast (time : ℚ) : Moment → Bool
  | .finite upto => time ≤ upto
  | .infinity => true
  | _ => false

/-- `since <= start_time <= until`. -/
def within (since upto : Moment) (row : SpanRecord) : Bool :=
  since.atMost row.startTime && upto.atLeast row.startTime

/-! ## Answers -/

/-- The costs of one agent with one model in one stretch of time. -/
structure CostBucket where
  bucketStart : Int
  agentName : Option String
  model : Option String
  totalCostUsd : ℚ
  totalTokensIn : Int
  totalTokensOut : Int
deriving DecidableEq

/-- The messages of one agent in one stretch of time. -/
structure MessageRateBucket where
  bucketStart : Int
  agentName : Option String
  messageCount : Nat
deriving DecidableEq

/-- `int()`, and `CAST(... AS INTEGER)`: the fraction is cut off. -/
def truncate (number : ℚ) : Int :=
  if 0 ≤ number then ⌊number⌋ else ⌈number⌉

/-- The least integer that is too large for a float. -/
def floatLimit : Int := 2 ^ 1024 - 2 ^ 970

/-- A float can be divided by the integer. -/
def divides (number : Int) : Bool :=
  number ≠ 0 && |number| < floatLimit

/-- `str` writes the integer: it has no more than 4300 digits. -/
def writable (number : Int) : Bool :=
  |number| < 10 ^ 4300

/-- `_bucket_start`, where it does not raise. -/
def bucketStartOf (time : ℚ) (bucketSeconds : Int) : Int :=
  truncate (time / bucketSeconds) * bucketSeconds

/-- The rows of `cost_over_time`. -/
def costRow (since upto : Moment) (row : SpanRecord) : Bool :=
  row.llmCostUsd.isSome && within since upto row

/-- The rows of `message_rate_over_time`. -/
def handleRow (since upto : Moment) (row : SpanRecord) : Bool :=
  row.name = "civitas.agent.handle" && within since upto row

/-- The key of a cost bucket. -/
def costKey (bucketSeconds : Int) (row : SpanRecord) :
    Int × Option String × Option String :=
  (bucketStartOf row.startTime bucketSeconds, row.agentName, row.llmModel)

/-- The key of a bucket of messages. -/
def handleKey (bucketSeconds : Int) (row : SpanRecord) :
    Int × Option String :=
  (bucketStartOf row.startTime bucketSeconds, row.agentName)

/-- What a row adds to its cost bucket. -/
def costOf (row : SpanRecord) : ℚ × Int × Int :=
  (row.llmCostUsd.getD 0, row.llmTokensIn.getD 0, row.llmTokensOut.getD 0)

/-- The bucket of a group of costs. -/
def costBucket
    (group : (Int × Option String × Option String) × (ℚ × Int × Int)) :
    CostBucket where
  bucketStart := group.1.1
  agentName := group.1.2.1
  model := group.1.2.2
  totalCostUsd := group.2.1
  totalTokensIn := group.2.2.1
  totalTokensOut := group.2.2.2

/-- The bucket of a group of messages. -/
def rateBucket (group : (Int × Option String) × Nat) : MessageRateBucket where
  bucketStart := group.1.1
  agentName := group.1.2
  messageCount := group.2

/-! ## The in-memory store -/

/-- The rows, the oldest first. -/
structure InMemorySpanStore where
  maxsize : Nat
  spans : List SpanRecord := []

namespace InMemorySpanStore

variable (store : InMemorySpanStore)

/--
`export`: the oldest spans are dropped when there are too many.  The slice
`[-0:]` is the whole list.
-/
def exportSpans (batch : List SpanData) : InMemorySpanStore :=
  let spans := store.spans ++ batch.map SpanData.record
  { store with
    spans :=
      if 0 < store.maxsize ∧ store.maxsize < spans.length
      then spans.drop (spans.length - store.maxsize)
      else spans }

/-- `cost_over_time`; the first row decides if `_bucket_start` raises. -/
def costOverTime (since upto : Moment) (bucketSeconds : Int) :
    Option (List CostBucket) :=
  let rows := store.spans.filter (costRow since upto)
  if rows ≠ [] ∧ divides bucketSeconds = false then none
  else
    some (((accumulate (costKey bucketSeconds) costOf rows).map
      costBucket).mergeSort
        fun left right => left.bucketStart ≤ right.bucketStart)

/-- `message_rate_over_time`. -/
def messageRateOverTime (since upto : Moment) (bucketSeconds : Int) :
    Option (List MessageRateBucket) :=
  let rows := store.spans.filter (handleRow since upto)
  if rows ≠ [] ∧ divides bucketSeconds = false then none
  else
    some (((accumulate (handleKey bucketSeconds) (fun _ => 1) rows).map
      rateBucket).mergeSort
        fun left right => left.bucketStart ≤ right.bucketStart)

/-- `cost_by_agent` and `cost_by_model`: the entries of the dictionary. -/
def costBy
    (column : SpanRecord → Option String) (since upto : Moment) :
    List (Option String × ℚ) :=
  accumulate column (fun row => row.llmCostUsd.getD 0)
    (store.spans.filter fun row =>
      row.llmCostUsd.isSome && (column row).isSome && within since upto row)

/-- `cost_by_agent`. -/
def costByAgent (since upto : Moment) : List (Option String × ℚ) :=
  store.costBy SpanRecord.agentName since upto

/-- `cost_by_model`. -/
def costByModel (since upto : Moment) : List (Option String × ℚ) :=
  store.costBy SpanRecord.llmModel since upto

/-- `recent_spans`: sorting in reverse keeps the order of equal times. -/
def recentSpans (since upto : Moment) (limit : Nat) : List SpanRecord :=
  ((store.spans.filter (within since upto)).mergeSort
    fun left right => -left.startTime ≤ -right.startTime).take limit

/-- `spans_in_trace`. -/
def spansInTrace (traceId : String) (since upto : Moment) :
    List SpanRecord :=
  (store.spans.filter fun row =>
    row.traceId = traceId && within since upto row).mergeSort
      fun left right => left.startTime ≤ right.startTime

end InMemorySpanStore

/-! ## The SQLite store -/

/-- The last day that `datetime` knows, counted from the epoch. -/
def lastDay : Int := 2932896

/-- What the store uses of `datetime`. -/
structure Environment where
  /-- The date of a day after the epoch; `none` when it raises. -/
  strftime : Int → Option String
  /-- The day of a date; `none` is a `ValueError`. -/
  strptime : String → Option Int
  strftime_isSome : ∀ day, 0 ≤ day →
    ((strftime day).isSome = true ↔ day ≤ lastDay)
  strptime_strftime : ∀ day date, strftime day = some date →
    strptime date = some day

/-- `ORDER BY`: equal keys come in an order that SQLite leaves open. -/
structure Sorting where
  buckets : {β : Type} → (β → Int) → List β → List β
  spans : (SpanRecord → ℚ) → List SpanRecord → List SpanRecord
  buckets_arranged : ∀ {β : Type} (key : β → Int) (rows : List β),
    Arranged key rows (buckets key rows)
  spans_arranged : ∀ (key : SpanRecord → ℚ) (rows : List SpanRecord),
    Arranged key rows (spans key rows)

/-- `window_index`. -/
def windowIndex (timestamp : ℚ) (windowDays : Int) : Int :=
  ⌊timestamp / (windowDays * 86400 : Int)⌋

/-- `SUM`: `NULL` is passed over, and is the sum of nothing else. -/
def sqlSum {N : Type} [AddCommMonoid N] (values : List (Option N)) :
    Option N :=
  if values.reduceOption = [] then none else some values.reduceOption.sum

/-- The window files, by the dates in their names. -/
structure SQLiteSpanStore where
  windowDays : Int
  retentionWindows : Int
  /-- The directory exists. -/
  present : Bool
  files : List (String × List SpanRecord) := []

/-- The largest number of attached files. -/
def maxAttached : Nat := 10

namespace SQLiteSpanStore

variable (env : Environment) (sorting : Sorting) (store : SQLiteSpanStore)

/-- A time can be divided by the seconds of a window. -/
def windowed : Bool :=
  divides (store.windowDays * 86400)

/-- `window_filename`. -/
def windowFilename (index : Int) : Option String :=
  env.strftime (index * store.windowDays)

/-- `index_from_filename`. -/
def indexFromFilename (date : String) : Option Int :=
  (env.strptime date).map fun day =>
    windowIndex (day * 86400 : Int) store.windowDays

/-- The dictionary `by_window`. -/
def byWindow (batch : List SpanData) : List (Int × List SpanData) :=
  batch.foldl
    (fun windows span =>
      file (windowIndex span.startTime store.windowDays) [span] windows)
    []

/-- The rows of one window are written; `none` when that raises. -/
def writeWindow
    (files : List (String × List SpanRecord)) (group : Int × List SpanData) :
    Option (List (String × List SpanRecord)) := do
  let date ← store.windowFilename env group.1
  if group.2.all SpanData.insertable
  then some (file date (group.2.map SpanData.record) files)
  else none

/-- The cutoff of `_sweep_retention`. -/
def cutoff (now : ℚ) : Int :=
  windowIndex now store.windowDays - store.retentionWindows

/-- `_sweep_retention`. -/
def sweep (now : ℚ) (files : List (String × List SpanRecord)) :
    List (String × List SpanRecord) :=
  files.filter fun entry =>
    match store.indexFromFilename env entry.1 with
    | some index => store.cutoff now ≤ index
    | none => true

/-- `export`; `none` when it raises. -/
def exportSpans (batch : List SpanData) (now : ℚ) : Option SQLiteSpanStore :=
  if batch = [] then some store
  else if store.windowed = false then none
  else
    ((store.byWindow batch).foldlM (store.writeWindow env) store.files).map
      fun files =>
        { store with present := true, files := store.sweep env now files }

/-- `window_index` of the end of a range; `none` when it raises. -/
def windowOf (moment : Moment) : Option Int :=
  if store.windowed
  then moment.time?.map fun time => windowIndex time store.windowDays
  else none

/-- The files between two windows, with their contents. -/
def filesBetween (first last : Int) : List (Int × List SpanRecord) :=
  (store.files.filterMap fun entry =>
    (store.indexFromFilename env entry.1).bind fun index =>
      if first ≤ index ∧ index ≤ last
      then some (index, entry.2) else none).mergeSort
    fun left right => left.1 ≤ right.1

/-- `_files_in_range`; `none` when it raises. -/
def filesInRange (since upto : Moment) :
    Option (List (Int × List SpanRecord)) :=
  if store.present = false then some []
  else do
    let first ← store.windowOf since
    let last ← store.windowOf upto
    some (store.filesBetween env first last)

/-- The attached files; `none` when there are too many. -/
def attached (since upto : Moment) : Option (List (List SpanRecord)) := do
  let files ← store.filesInRange env since upto
  if files.length ≤ maxAttached then some (files.map Prod.snd) else none

/-- The columns of a group of costs. -/
def costColumns (group : List SpanRecord) :
    Option ℚ × Option Int × Option Int :=
  (sqlSum (group.map SpanRecord.llmCostUsd),
    sqlSum (group.map SpanRecord.llmTokensIn),
    sqlSum (group.map SpanRecord.llmTokensOut))

/-- The same columns, summed over the groups of all files. -/
def costTotals (groups : List (Option ℚ × Option Int × Option Int)) :
    Option ℚ × Option Int × Option Int :=
  (sqlSum (groups.map fun group => group.1),
    sqlSum (groups.map fun group => group.2.1),
    sqlSum (groups.map fun group => group.2.2))

/-- `total or 0`. -/
def orZero (totals : Option ℚ × Option Int × Option Int) : ℚ × Int × Int :=
  (totals.1.getD 0, totals.2.1.getD 0, totals.2.2.getD 0)

/-- `cost_over_time`, for a bucket size other than zero. -/
def costOverTime (since upto : Moment) (bucketSeconds : Int) :
    Option (List CostBucket) :=
  if writable bucketSeconds = false then none
  else
    (store.attached env since upto).map fun files =>
      sorting.buckets CostBucket.bucketStart
        ((regroup (costKey bucketSeconds) costColumns costTotals
            (files.map (List.filter (costRow since upto)))).map fun group =>
          costBucket (group.1, orZero group.2))

/-- `message_rate_over_time`, for a bucket size other than zero. -/
def messageRateOverTime (since upto : Moment) (bucketSeconds : Int) :
    Option (List MessageRateBucket) :=
  if writable bucketSeconds = false then none
  else
    (store.attached env since upto).map fun files =>
      sorting.buckets MessageRateBucket.bucketStart
        ((regroup (handleKey bucketSeconds) List.length
            (fun counts => sqlSum (counts.map some))
            (files.map (List.filter (handleRow since upto)))).map fun group =>
          rateBucket (group.1, group.2.getD 0))

/-- `cost_by_agent` and `cost_by_model`: the entries of the dictionary. -/
def costBy
    (column : SpanRecord → Option String) (since upto : Moment) :
    Option (List (Option String × ℚ)) :=
  (store.attached env since upto).map fun files =>
    (regroup column
        (fun group => sqlSum (group.map SpanRecord.llmCostUsd)) sqlSum
        (files.map (List.filter fun row =>
          row.llmCostUsd.isSome && (column row).isSome &&
            within since upto row))).map fun group =>
      (group.1, group.2.getD 0)

/-- `cost_by_agent`. -/
def costByAgent (since upto : Moment) : Option (List (Option String × ℚ)) :=
  store.costBy env SpanRecord.agentName since upto

/-- `cost_by_model`. -/
def costByModel (since upto : Moment) : Option (List (Option String × ℚ)) :=
  store.costBy env SpanRecord.llmModel since upto

/--
`recent_spans`.  A limit that is no integer of SQLite is a number with a
fraction, which `LIMIT` refuses; without files there is no query.
-/
def recentSpans (since upto : Moment) (limit : Nat) :
    Option (List SpanRecord) :=
  if writable limit = false then none
  else do
    let files ← store.attached env since upto
    if files ≠ [] ∧ fitsInt64 limit = false then none
    else
      some ((sorting.spans (fun row => -row.startTime)
        (files.flatMap (List.filter (within since upto)))).take limit)

/-- `spans_in_trace`. -/
def spansInTrace (traceId : String) (since upto : Moment) :
    Option (List SpanRecord) :=
  (store.attached env since upto).map fun files =>
    sorting.spans SpanRecord.startTime
      (files.flatMap (List.filter fun row =>
        row.traceId = traceId && within since upto row))

end SQLiteSpanStore

end Civitas.Observability
