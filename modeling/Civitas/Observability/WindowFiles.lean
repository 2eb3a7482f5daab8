import Civitas.Calendar
import Civitas.Observability.Agreement
import Civitas.Wire.Objects

/-!
# The window files of the span store

`window_filename` and `index_from_filename` of `observability/sqlite_backend.py`
with the calendar in between, and the directory of a `SQLiteSpanStore` over
runs: exports that open a file and then fail, clocks that jump, sweeps whose
`unlink` fails, restarts, and files in the directory that are none of the
store's.  Times are exact numbers.

The name of a window gives its index back.  In every run a file that holds a
span is found by every range around the span, and a sweep removes it exactly
when all its spans started before the cutoff.  A file without spans, which a
failed export leaves behind, goes by its window.
-/

namespace Civitas.Observability.WindowFiles

open Civitas.Calendar (Date Digits)
open Civitas.Wire (Text)

/-! ## Names -/

/-- The ordinal of 1970-01-01. -/
def epoch : Int := 719163

/-- `datetime.fromtimestamp` at the start of a day; `none` when it raises. -/
def dateOfDay (day : Int) : Option Date :=
  if 1 ≤ day + epoch ∧ day + epoch ≤ Calendar.maxOrdinal
  then some (Calendar.ofOrdinal (day + epoch).toNat)
  else none

/-- The prefix of the names of window files. -/
def namePrefix : Text :=
  Text.ofString "civitas_spans_"

/-- The suffix of the names of window files. -/
def nameSuffix : Text :=
  Text.ofString ".db"

/-- `window_filename`. -/
def windowFilename (index windowDays : Int) : Option Text :=
  (dateOfDay (index * windowDays)).map fun start =>
    namePrefix ++ Calendar.format start ++ nameSuffix

/-- `str.removeprefix` -/
def removePrefix (front text : Text) : Text :=
  if front.isPrefixOf text then text.drop front.length else text

/-- `str.removesuffix` -/
def removeSuffix (back text : Text) : Text :=
  if back.isSuffixOf text then text.take (text.length - back.length) else text

/-- `index_from_filename`. -/
def indexFromFilename
    (digits : Digits) (filename : Text) (windowDays : Int) : Option Int :=
  (Calendar.parse digits
      (removeSuffix nameSuffix (removePrefix namePrefix filename))).map
    fun date =>
      windowIndex (((Calendar.ordinal date : Int) - epoch) * 86400 : Int)
        windowDays

/-- The digits of ASCII only. -/
def asciiDigits : Digits where
  value letter :=
    if Decimal.isDigit letter then some (letter.val - 48) else none
  value_digit number := by
    rw [Decimal.isDigit_digit, if_pos rfl]
    exact congrArg some (Nat.add_sub_cancel_left 48 (number % 10))

/-! ## The store -/

/-- `window_days` and `retention_windows`, as the constructor accepts them. -/
structure Settings where
  windowDays : Int := 30
  retentionWindows : Int := 6
  positive : 1 ≤ windowDays := by decide

/-- A window file and the spans in it. -/
structure WindowFile where
  name : Text
  spans : List SpanData := []

/-- The files of the directory, and the windows with an open connection. -/
structure SpanStore where
  files : List WindowFile := []
  connections : List Int := []

section Store

variable (digits : Digits) (settings : Settings) (store : SpanStore)

/-- The pattern `civitas_spans_*.db`. -/
def globbed (name : Text) : Bool :=
  namePrefix.isPrefixOf name && nameSuffix.isSuffixOf name &&
    namePrefix.length + nameSuffix.length ≤ name.length

/-- The index of a file that the pattern finds. -/
def WindowFile.index? (file : WindowFile) : Option Int :=
  if globbed file.name
  then indexFromFilename digits file.name settings.windowDays else none

/-- `_files_in_range`: the names, sorted by index and name. -/
def filesInRange (since upto : ℚ) : List Text :=
  ((store.files.filterMap fun file =>
    (file.index? digits settings).bind fun index =>
      if windowIndex since settings.windowDays ≤ index ∧
          index ≤ windowIndex upto settings.windowDays
      then some (index, file.name) else none).mergeSort
    fun left right =>
      left.1 < right.1 || (left.1 = right.1 && !(right.2 < left.2))).map
    Prod.snd

/-- SQLite creates a file that is missing. -/
def missing (name : Text) : List WindowFile :=
  if name ∈ store.files.map WindowFile.name then [] else [{ name := name }]

/-- `_connection_for`; `none` when it raises. -/
def connectionFor (index : Int) : Option SpanStore :=
  if index ∈ store.connections then some store
  else
    (windowFilename index settings.windowDays).map fun name =>
      { files := store.files ++ missing store name
        connections := store.connections ++ [index] }

/-- The rows are inserted and committed. -/
def insertRows (group : Int × List SpanData) : SpanStore :=
  { store with
    files := store.files.map fun file =>
      if windowFilename group.1 settings.windowDays = some file.name
      then { file with spans := file.spans ++ group.2 } else file }

/-- What an export did: the spans that were committed, and if it went on. -/
structure Outcome where
  store : SpanStore
  committed : List SpanData := []
  completed : Bool := true

/-- One turn of the loop of `export`.  A file is opened before the rows. -/
def writeWindow (group : Int × List SpanData) : Outcome :=
  match connectionFor settings store group.1 with
  | none => { store := store, completed := false }
  | some opened =>
      if group.2.all SpanData.insertable
      then
        { store := insertRows settings opened group
          committed := group.2 }
      else { store := opened, completed := false }

/-- The loop of `export`. -/
def writeWindows : SpanStore → List (Int × List SpanData) → Outcome
  | store, [] => { store := store }
  | store, group :: groups =>
      let first := writeWindow settings store group
      if first.completed then
        let rest := writeWindows first.store groups
        { rest with committed := first.committed ++ rest.committed }
      else first

/-- The cutoff of `_sweep_retention`. -/
def cutoffAt (now : ℚ) : Int :=
  windowIndex now settings.windowDays - settings.retentionWindows

/-- `file_idx is not None and file_idx < cutoff_idx` -/
def WindowFile.expired (file : WindowFile) (now : ℚ) : Bool :=
  (file.index? digits settings).any (· < cutoffAt settings now)

/--
`_sweep_retention`.  The connection is closed before `unlink`, which fails for
locked files.
-/
def sweep (now : ℚ) (locked : Text → Bool) : SpanStore where
  files := store.files.filter fun file =>
    !(file.expired digits settings now && !locked file.name)
  connections := store.connections.filter fun index =>
    !(store.files.any fun file =>
      file.expired digits settings now &&
        file.index? digits settings = some index)

/-- `by_window` of a batch. -/
def byWindow (batch : List SpanData) : List (Int × List SpanData) :=
  SQLiteSpanStore.byWindow
    { windowDays := settings.windowDays
      retentionWindows := settings.retentionWindows
      present := true } batch

/-- `export`. -/
def exportSpans
    (batch : List SpanData) (now : ℚ) (locked : Text → Bool) : Outcome :=
  if batch = [] then { store := store }
  else
    let written := writeWindows settings store (byWindow settings batch)
    if written.completed
    then
      { written with
        store := sweep digits settings written.store now locked }
    else written

end Store

/-! ## Runs -/

/-- What happens to a store. -/
inductive Operation where
  | exportSpans (batch : List SpanData) (now : ℚ) (locked : Text → Bool)
  /-- `shutdown`, or a new process with the same directory. -/
  | restart

/-- A store with all spans it committed and the cutoffs of its sweeps. -/
structure Ledger where
  store : SpanStore
  written : List SpanData := []
  cutoffs : List Int := []

/-- A directory with files that are none of the store's. -/
structure Directory (settings : Settings) where
  names : List Text := []
  distinct : names.Nodup := by decide
  foreign : ∀ name ∈ names, ∀ index,
    windowFilename index settings.windowDays ≠ some name := by simp

/-- A store that finds the files of a directory. -/
def start {settings : Settings} (directory : Directory settings) : Ledger where
  store := { files := directory.names.map fun name => { name := name } }

section Runs

variable (digits : Digits) (settings : Settings)

/-- One operation of the store. -/
def step (ledger : Ledger) : Operation → Ledger
  | .exportSpans batch now locked =>
      let outcome := exportSpans digits settings ledger.store batch now locked
      { store := outcome.store
        written := ledger.written ++ outcome.committed
        cutoffs :=
          if batch ≠ [] && outcome.completed
          then ledger.cutoffs ++ [cutoffAt settings now]
          else ledger.cutoffs }
  | .restart =>
      { ledger with store := { files := ledger.store.files } }

/-- The operations of a store, in order. -/
def run (ledger : Ledger) (operations : List Operation) : Ledger :=
  operations.foldl (step digits settings) ledger

end Runs

/-! ## Names and indices -/

section Names

theorem removePrefix_append (front text : Text) :
    removePrefix front (front ++ text) = text := by
  have found : front.isPrefixOf (front ++ text) = true :=
    List.isPrefixOf_iff_prefix.mpr (List.prefix_append front text)
  rw [removePrefix, if_pos found, List.drop_left]

theorem removeSuffix_append (text back : Text) :
    removeSuffix back (text ++ back) = text := by
  have found : back.isSuffixOf (text ++ back) = true :=
    List.isSuffixOf_iff_suffix.mpr (List.suffix_append text back)
  rw [removeSuffix, if_pos found, List.length_append, Nat.add_sub_cancel,
    List.take_left]

theorem dateOfDay_isSome_iff (day : Int) :
    (dateOfDay day).isSome = true ↔
      1 ≤ day + epoch ∧ day + epoch ≤ Calendar.maxOrdinal := by
  unfold dateOfDay
  split
  · rename_i known
    exact iff_of_true rfl known
  · rename_i unknown
    exact iff_of_false Bool.false_ne_true unknown

/-- A date is read back as the day it is of. -/
theorem parse_format_of_dateOfDay
    {digits : Digits} {day : Int} {date : Date}
    (dated : dateOfDay day = some date) :
    ∃ read, Calendar.parse digits (Calendar.format date) = some read ∧
      (Calendar.ordinal read : Int) - epoch = day := by
  have bounds := (dateOfDay_isSome_iff day).mp (dated ▸ rfl)
  rw [dateOfDay, if_pos bounds] at dated
  cases dated
  have counted : ((day + epoch).toNat : Int) = day + epoch :=
    Int.toNat_of_nonneg (by omega)
  have parsed :=
    @Calendar.ordinal_of_parse_format digits (day + epoch).toNat
      (by omega) (by omega)
  rcases Option.map_eq_some_iff.mp parsed with ⟨read, known, same⟩
  exact ⟨read, known, by omega⟩

theorem windowFilename_isSome_iff (index windowDays : Int) :
    (windowFilename index windowDays).isSome = true ↔
      1 ≤ index * windowDays + epoch ∧
        index * windowDays + epoch ≤ Calendar.maxOrdinal := by
  rw [windowFilename, Option.isSome_map, dateOfDay_isSome_iff]

variable {digits : Digits}

/-- The index of a window is recovered from its file name. -/
theorem indexFromFilename_of_windowFilename
    {index windowDays : Int} {name : Text} (positive : 1 ≤ windowDays)
    (named : windowFilename index windowDays = some name) :
    indexFromFilename digits name windowDays = some index := by
  rcases Option.map_eq_some_iff.mp named with ⟨start, dated, rfl⟩
  rcases @parse_format_of_dateOfDay digits _ _ dated with ⟨read, known, same⟩
  rw [indexFromFilename, List.append_assoc, removePrefix_append,
    removeSuffix_append, known, Option.map_some, same,
    windowIndex_start (by omega)]

theorem windowFilename_injective
    {first second windowDays : Int} {name : Text} (positive : 1 ≤ windowDays)
    (one : windowFilename first windowDays = some name)
    (two : windowFilename second windowDays = some name) :
    first = second := by
  have index :=
    @indexFromFilename_of_windowFilename asciiDigits _ _ _ positive one
  rw [indexFromFilename_of_windowFilename positive two] at index
  exact (Option.some.inj index).symm

/-- The store finds its own files. -/
theorem globbed_of_windowFilename
    {index windowDays : Int} {name : Text}
    (named : windowFilename index windowDays = some name) :
    globbed name = true := by
  rcases Option.map_eq_some_iff.mp named with ⟨start, -, rfl⟩
  have front : namePrefix.isPrefixOf
      (namePrefix ++ (Calendar.format start ++
        nameSuffix)) = true :=
    List.isPrefixOf_iff_prefix.mpr (List.prefix_append _ _)
  have back : nameSuffix.isSuffixOf
      (namePrefix ++ Calendar.format start ++
        nameSuffix) = true :=
    List.isSuffixOf_iff_suffix.mpr (List.suffix_append _ _)
  have room :
      namePrefix.length + nameSuffix.length ≤
        (namePrefix ++ Calendar.format start ++
          nameSuffix).length := by
    rw [List.length_append, List.length_append]
    omega
  rw [globbed, back, List.append_assoc, front, ← List.append_assoc,
    decide_eq_true room]
  rfl

/-- A file with the name of a window has the index of the window. -/
theorem index?_of_windowFilename
    {settings : Settings} {file : WindowFile} {index : Int}
    (named : windowFilename index settings.windowDays = some file.name) :
    file.index? digits settings = some index := by
  rw [WindowFile.index?, if_pos (globbed_of_windowFilename named),
    indexFromFilename_of_windowFilename settings.positive named]

end Names

/-! ## Invariants of the directory -/

/-- Some file of the store holds the span. -/
def Held (store : SpanStore) (span : SpanData) : Prop :=
  ∃ file ∈ store.files, span ∈ file.spans

/-- Every span is in the file of its window, and connections have files. -/
structure Sound (settings : Settings) (store : SpanStore) : Prop where
  distinct : (store.files.map WindowFile.name).Nodup
  placed : ∀ file ∈ store.files, ∀ span ∈ file.spans,
    windowFilename (windowIndex span.startTime settings.windowDays)
      settings.windowDays = some file.name
  connected : ∀ index ∈ store.connections, ∃ file ∈ store.files,
    windowFilename index settings.windowDays = some file.name

/-- What an export leaves of a store before its sweep. -/
structure Outcome.Extends
    (settings : Settings) (store : SpanStore) (outcome : Outcome) : Prop where
  sound : Sound settings outcome.store
  keeps : ∀ span, Held store span → Held outcome.store span
  holds : ∀ span ∈ outcome.committed, Held outcome.store span

section Writing

variable {settings : Settings} {store opened : SpanStore} {index : Int}

theorem of_mem_missing
    {name : Text} {file : WindowFile} (member : file ∈ missing store name) :
    name ∉ store.files.map WindowFile.name ∧ file = { name := name } := by
  unfold missing at member
  split at member
  · cases member
  · rename_i absent
    exact ⟨absent, List.mem_singleton.mp member⟩

/-- After opening there is a file of the name. -/
theorem exists_file_of_missing (name : Text) :
    ∃ file ∈ store.files ++ missing store name, file.name = name := by
  by_cases present : name ∈ store.files.map WindowFile.name
  · rcases List.mem_map.mp present with ⟨file, inside, same⟩
    exact ⟨file, List.mem_append_left _ inside, same⟩
  · rw [missing, if_neg present]
    exact ⟨_, List.mem_append_right _ List.mem_cons_self, rfl⟩

theorem names_nodup_of_missing
    (distinct : (store.files.map WindowFile.name).Nodup) (name : Text) :
    ((store.files ++ missing store name).map WindowFile.name).Nodup := by
  unfold missing
  split
  · rw [List.append_nil]
    exact distinct
  · rename_i absent
    rw [List.map_append, List.nodup_append]
    refine ⟨distinct, List.nodup_singleton _, ?_⟩
    rintro own inside new last rfl
    rw [List.mem_singleton.mp last] at inside
    exact absent inside

/-- Opening a window keeps all files, and the window has one then. -/
theorem connectionFor_spec
    (sound : Sound settings store)
    (known : connectionFor settings store index = some opened) :
    Sound settings opened ∧ (∀ span, Held store span → Held opened span) ∧
      index ∈ opened.connections := by
  unfold connectionFor at known
  split at known
  · rename_i connected
    cases known
    exact ⟨sound, fun _ held => held, connected⟩
  · rcases Option.map_eq_some_iff.mp known with ⟨name, named, rfl⟩
    refine ⟨⟨names_nodup_of_missing sound.distinct name, ?_, ?_⟩, ?_,
      List.mem_append_right _ List.mem_cons_self⟩
    · intro file member span inside
      rcases List.mem_append.mp member with old | new
      · exact sound.placed file old span inside
      · rw [(of_mem_missing new).2] at inside
        cases inside
    · intro other member
      rcases List.mem_append.mp member with old | new
      · rcases sound.connected other old with ⟨file, inside, same⟩
        exact ⟨file, List.mem_append_left _ inside, same⟩
      · rcases @exists_file_of_missing store name with ⟨file, inside, same⟩
        rw [List.mem_singleton.mp new]
        exact ⟨file, inside, named.trans (congrArg some same.symm)⟩
    · rintro span ⟨file, inside, member⟩
      exact ⟨file, List.mem_append_left _ inside, member⟩

/-- The rows of a window are added to its file, and nothing else changes. -/
theorem insertRows_spec
    {group : Int × List SpanData} (sound : Sound settings opened)
    (connected : group.1 ∈ opened.connections)
    (placed : ∀ span ∈ group.2,
      windowIndex span.startTime settings.windowDays = group.1) :
    Sound settings (insertRows settings opened group) ∧
      (∀ span, Held opened span →
        Held (insertRows settings opened group) span) ∧
      ∀ span ∈ group.2, Held (insertRows settings opened group) span := by
  have kept : ∀ file : WindowFile,
      (if windowFilename group.1 settings.windowDays = some file.name
        then { file with spans := file.spans ++ group.2 } else file).name =
        file.name := by
    intro file
    split
    · rfl
    · rfl
  refine ⟨⟨?_, ?_, ?_⟩, ?_, ?_⟩
  · have names :
        (insertRows settings opened group).files.map WindowFile.name =
          opened.files.map WindowFile.name := by
      rw [insertRows, List.map_map]
      exact List.map_congr_left fun file _ => kept file
    rw [names]
    exact sound.distinct
  · intro file member span inside
    rcases List.mem_map.mp member with ⟨old, known, rfl⟩
    rw [kept old]
    split at inside
    · rename_i named
      rcases List.mem_append.mp inside with before | new
      · exact sound.placed old known span before
      · rw [placed span new]
        exact named
    · exact sound.placed old known span inside
  · intro index member
    rcases sound.connected index member with ⟨file, known, named⟩
    refine ⟨_, List.mem_map_of_mem known, ?_⟩
    rw [kept file]
    exact named
  · rintro span ⟨file, known, inside⟩
    refine ⟨_, List.mem_map_of_mem known, ?_⟩
    split
    · exact List.mem_append_left _ inside
    · exact inside
  · intro span member
    rcases sound.connected group.1 connected with ⟨file, known, named⟩
    refine ⟨_, List.mem_map_of_mem known, ?_⟩
    rw [if_pos named]
    exact List.mem_append_right _ member

/-- A failed turn leaves at most a file without rows. -/
theorem writeWindow_extends
    {group : Int × List SpanData} (sound : Sound settings store)
    (placed : ∀ span ∈ group.2,
      windowIndex span.startTime settings.windowDays = group.1) :
    (writeWindow settings store group).Extends settings store := by
  unfold writeWindow
  split
  · exact ⟨sound, fun _ held => held, by simp⟩
  · rename_i opened known
    rcases connectionFor_spec sound known with ⟨fine, keeps, connected⟩
    split
    · rcases insertRows_spec fine connected placed with ⟨all, old, new⟩
      exact ⟨all, fun span held => old span (keeps span held), new⟩
    · exact ⟨fine, keeps, by simp⟩

theorem writeWindows_extends
    (groups : List (Int × List SpanData)) (sound : Sound settings store)
    (placed : ∀ group ∈ groups, ∀ span ∈ group.2,
      windowIndex span.startTime settings.windowDays = group.1) :
    (writeWindows settings store groups).Extends settings store := by
  induction groups generalizing store with
  | nil => exact ⟨sound, fun _ held => held, by rintro _ ⟨⟩⟩
  | cons group groups ih =>
      have first := writeWindow_extends sound
        (placed group List.mem_cons_self)
      have rest := ih first.sound fun other member =>
        placed other (List.mem_cons_of_mem _ member)
      rw [writeWindows]
      dsimp only
      split
      · refine ⟨rest.sound, ?_, ?_⟩
        · exact fun span held => rest.keeps span (first.keeps span held)
        · intro span member
          rcases List.mem_append.mp member with early | late
          · exact rest.keeps span (first.holds span early)
          · exact rest.holds span late
      · exact first

end Writing

/-! ## The sweep -/

section Sweeping

variable {digits : Digits} {settings : Settings} {store : SpanStore}

theorem mem_sweep
    {now : ℚ} {locked : Text → Bool} {file : WindowFile} :
    file ∈ (sweep digits settings store now locked).files ↔
      file ∈ store.files ∧
        ¬ (locked file.name = false ∧
          file.expired digits settings now = true) := by
  simp only [sweep, List.mem_filter]
  refine and_congr_right fun _ => ?_
  cases locked file.name with
  | true => simp
  | false => simp

/-- A file with the name of a window is expired when the window is. -/
theorem expired_iff_of_windowFilename
    {file : WindowFile} {index : Int} {now : ℚ}
    (named : windowFilename index settings.windowDays = some file.name) :
    file.expired digits settings now = true ↔
      index < cutoffAt settings now := by
  rw [WindowFile.expired, index?_of_windowFilename named, Option.any_some,
    decide_eq_true_eq]

theorem sound_sweep
    (sound : Sound settings store) (now : ℚ) (locked : Text → Bool) :
    Sound settings (sweep digits settings store now locked) := by
  refine ⟨?_, ?_, ?_⟩
  · exact (List.filter_sublist.map WindowFile.name).nodup sound.distinct
  · intro file member
    exact sound.placed file (mem_sweep.mp member).1
  · intro index member
    rcases List.mem_filter.mp member with ⟨before, unpopped⟩
    rcases sound.connected index before with ⟨file, known, named⟩
    refine ⟨file, mem_sweep.mpr ⟨known, ?_⟩, named⟩
    rintro ⟨-, expired⟩
    have popped :
        (store.files.any fun file =>
          file.expired digits settings now &&
            file.index? digits settings = some index) = true := by
      refine List.any_eq_true.mpr ⟨file, known, ?_⟩
      rw [expired, index?_of_windowFilename named, decide_eq_true rfl]
      rfl
    rw [popped] at unpopped
    cases unpopped

/-- A sweep takes no span whose window is not before its cutoff. -/
theorem held_sweep
    (sound : Sound settings store) {now : ℚ} {locked : Text → Bool}
    {span : SpanData} (held : Held store span)
    (recent : cutoffAt settings now ≤
      windowIndex span.startTime settings.windowDays) :
    Held (sweep digits settings store now locked) span := by
  rcases held with ⟨file, known, inside⟩
  refine ⟨file, mem_sweep.mpr ⟨known, ?_⟩, inside⟩
  rintro ⟨-, expired⟩
  have named := sound.placed file known span inside
  have early := (expired_iff_of_windowFilename named).mp expired
  omega

/-- A span is before a window when it started before its first second. -/
theorem windowIndex_lt_iff
    {windowDays : Int} (positive : 1 ≤ windowDays) (time : ℚ) (index : Int) :
    windowIndex time windowDays < index ↔
      time < (index * windowDays * 86400 : Int) := by
  have seconds : (0 : ℚ) < (windowDays * 86400 : Int) := by
    exact_mod_cast (by omega : 0 < windowDays * 86400)
  rw [windowIndex, Int.floor_lt, div_lt_iff₀ seconds, ← Int.cast_mul,
    Int.mul_assoc]

/-- A file with spans is expired when all of them are before the cutoff. -/
theorem expired_iff
    (sound : Sound settings store) {file : WindowFile} (now : ℚ)
    (known : file ∈ store.files) (given : file.spans ≠ []) :
    file.expired digits settings now = true ↔
      ∀ span ∈ file.spans, span.startTime <
        (cutoffAt settings now * settings.windowDays * 86400 : Int) := by
  have each : ∀ span ∈ file.spans,
      file.expired digits settings now = true ↔
        span.startTime <
          (cutoffAt settings now * settings.windowDays * 86400 : Int) := by
    intro span inside
    rw [expired_iff_of_windowFilename (sound.placed file known span inside),
      windowIndex_lt_iff settings.positive]
  constructor
  · exact fun expired span inside => (each span inside).mp expired
  · intro early
    rcases List.exists_mem_of_ne_nil file.spans given with ⟨span, inside⟩
    exact (each span inside).mpr (early span inside)

end Sweeping

/-! ## Ranges -/

/-- A file is found by every range that meets its window. -/
theorem mem_filesInRange
    {digits : Digits} {settings : Settings} {store : SpanStore}
    (sound : Sound settings store) {file : WindowFile} {span : SpanData}
    {since upto : ℚ} (known : file ∈ store.files)
    (inside : span ∈ file.spans) (after : since ≤ span.startTime)
    (before : span.startTime ≤ upto) :
    file.name ∈ filesInRange digits settings store since upto := by
  have named := sound.placed file known span inside
  have positive : 0 < settings.windowDays := settings.positive
  have low := windowIndex_mono positive after
  have high := windowIndex_mono positive before
  have found :
      ((file.index? digits settings).bind fun index =>
        if windowIndex since settings.windowDays ≤ index ∧
            index ≤ windowIndex upto settings.windowDays
        then some (index, file.name) else none) =
      some (windowIndex span.startTime settings.windowDays, file.name) := by
    rw [index?_of_windowFilename named, Option.bind_some,
      if_pos ⟨low, high⟩]
  rw [filesInRange, List.mem_map]
  refine ⟨(windowIndex span.startTime settings.windowDays, file.name), ?_, rfl⟩
  rw [List.mem_mergeSort]
  exact List.mem_filterMap.mpr ⟨file, known, found⟩

/-! ## Runs keep the invariants -/

section Runs

variable {digits : Digits} {settings : Settings}

/-- What was written is held until a sweep whose cutoff is after it. -/
structure Kept (settings : Settings) (ledger : Ledger) : Prop where
  sound : Sound settings ledger.store
  accounted : ∀ span ∈ ledger.written, Held ledger.store span ∨
    ∃ cutoff ∈ ledger.cutoffs,
      windowIndex span.startTime settings.windowDays < cutoff

theorem kept_start (directory : Directory settings) :
    Kept settings (start directory) := by
  refine ⟨⟨?_, ?_, by rintro _ ⟨⟩⟩, by rintro _ ⟨⟩⟩
  · have names :
        (start directory).store.files.map WindowFile.name =
          directory.names := by
      rw [start, List.map_map]
      exact List.map_id _
    rw [names]
    exact directory.distinct
  · intro file member span inside
    rcases List.mem_map.mp member with ⟨name, -, rfl⟩
    cases inside

theorem byWindow_placed (batch : List SpanData) :
    ∀ group ∈ byWindow settings batch, ∀ span ∈ group.2,
      windowIndex span.startTime settings.windowDays = group.1 :=
  fun group member => ((byWindow_spec _ batch).2 group member).2

theorem kept_step
    {ledger : Ledger} (kept : Kept settings ledger) (operation : Operation) :
    Kept settings (step digits settings ledger operation) := by
  cases operation with
  | restart =>
      exact
        ⟨⟨kept.sound.distinct, kept.sound.placed, by rintro _ ⟨⟩⟩,
          kept.accounted⟩
  | exportSpans batch now locked =>
      by_cases empty : batch = []
      · have same : step digits settings ledger
            (.exportSpans batch now locked) = ledger := by
          simp [step, exportSpans, empty]
        rw [same]
        exact kept
      · have writes := writeWindows_extends (byWindow settings batch)
          kept.sound (byWindow_placed batch)
        have accounted : ∀ span ∈ ledger.written ++
            (writeWindows settings ledger.store
              (byWindow settings batch)).committed,
            Held (writeWindows settings ledger.store
              (byWindow settings batch)).store span ∨
            ∃ cutoff ∈ ledger.cutoffs,
              windowIndex span.startTime settings.windowDays < cutoff := by
          intro span member
          rcases List.mem_append.mp member with old | new
          · exact (kept.accounted span old).imp_left (writes.keeps span)
          · exact .inl (writes.holds span new)
        simp only [step, exportSpans, if_neg empty]
        split
        · rename_i completed
          refine ⟨sound_sweep writes.sound now locked, fun span member => ?_⟩
          rw [if_pos (by simp [empty, completed])]
          rcases accounted span member with held | ⟨cutoff, known, early⟩
          · by_cases recent : cutoffAt settings now ≤
                windowIndex span.startTime settings.windowDays
            · exact .inl (held_sweep writes.sound held recent)
            · exact .inr ⟨cutoffAt settings now,
                List.mem_append_right _ List.mem_cons_self,
                not_le.mp recent⟩
          · exact .inr ⟨cutoff, List.mem_append_left _ known, early⟩
        · rename_i failed
          refine ⟨writes.sound, fun span member => ?_⟩
          rw [if_neg (by simp [failed])]
          exact accounted span member

theorem kept_run
    {ledger : Ledger} (kept : Kept settings ledger)
    (operations : List Operation) :
    Kept settings (run digits settings ledger operations) := by
  induction operations generalizing ledger with
  | nil => exact kept
  | cons operation operations ih => exact ih (kept_step kept operation)

end Runs

/-! ## The window files -/

/--
Every window with a representable start has a name of its own, from which its
index is recovered.  In every run, what was written is held until its window
is before the cutoff of a sweep; a file that holds a span is found by every
range around it; and a sweep removes a file, unless it cannot be unlinked,
when it is expired, which for a file with spans means that all of them started
before the window of the cutoff.
-/
theorem window_files_exact (digits : Digits) (settings : Settings) :
    (∀ index, 0 ≤ index → index * settings.windowDays ≤ lastDay →
      ∃ name, windowFilename index settings.windowDays = some name ∧
        indexFromFilename digits name settings.windowDays = some index) ∧
    (∀ first second name,
      windowFilename first settings.windowDays = some name →
      windowFilename second settings.windowDays = some name →
      first = second) ∧
    ∀ (directory : Directory settings) (operations : List Operation),
      let ledger := run digits settings (start directory) operations
      (∀ span ∈ ledger.written, Held ledger.store span ∨
        ∃ cutoff ∈ ledger.cutoffs,
          windowIndex span.startTime settings.windowDays < cutoff) ∧
      ∀ file ∈ ledger.store.files,
        (∀ span ∈ file.spans,
          windowFilename (windowIndex span.startTime settings.windowDays)
              settings.windowDays = some file.name ∧
            ∀ since upto, since ≤ span.startTime → span.startTime ≤ upto →
              file.name ∈
                filesInRange digits settings ledger.store since upto) ∧
        ∀ now locked,
          (file ∉ (sweep digits settings ledger.store now locked).files ↔
            locked file.name = false ∧
              file.expired digits settings now = true) ∧
          (file.spans ≠ [] →
            (file.expired digits settings now = true ↔
              ∀ span ∈ file.spans, span.startTime <
                (cutoffAt settings now * settings.windowDays * 86400 :
                  Int))) := by
  refine ⟨?_, ?_, ?_⟩
  · intro index nonneg early
    have days : 0 ≤ index * settings.windowDays :=
      Int.mul_nonneg nonneg (by have := settings.positive; omega)
    have named :
        (windowFilename index settings.windowDays).isSome = true := by
      rw [windowFilename_isSome_iff]
      unfold lastDay at early
      unfold epoch Calendar.maxOrdinal
      omega
    rcases Option.isSome_iff_exists.mp named with ⟨name, named⟩
    exact ⟨name, named,
      indexFromFilename_of_windowFilename settings.positive named⟩
  · exact fun _ _ _ one two =>
      windowFilename_injective settings.positive one two
  · intro directory operations
    have kept := @kept_run digits settings _ (kept_start directory) operations
    refine ⟨kept.accounted, fun file known => ⟨?_, ?_⟩⟩
    · exact fun span inside =>
        ⟨kept.sound.placed file known span inside,
          fun since upto after before =>
            mem_filesInRange kept.sound known inside after before⟩
    · intro now locked
      refine ⟨?_, expired_iff kept.sound now known⟩
      rw [mem_sweep, not_and, Decidable.not_not]
      exact ⟨fun removed => removed known, fun gone _ => gone⟩

/-- The default settings, in an empty directory. -/
def emptyDirectory : Directory {} where
  names := []

theorem windowIndex_zero : windowIndex 0 30 = 0 := by
  simp [windowIndex]

/-- A span at the beginning of the first window. -/
def earlySpan : SpanData where
  name := "recv x"
  traceId := "t"
  spanId := "s"
  startTime := 0
  endTime := 1

/-- It is exported while its window is the current one. -/
def exportedRun : Ledger :=
  run asciiDigits {} (start emptyDirectory)
    [.exportSpans [earlySpan] 0 fun _ => false]

theorem exportedRun_files :
    ∃ name, windowFilename 0 30 = some name ∧
      exportedRun.store.files = [{ name := name, spans := [earlySpan] }] := by
  have named : (windowFilename 0 30).isSome = true := by
    rw [windowFilename_isSome_iff]
    decide
  rcases Option.isSome_iff_exists.mp named with ⟨name, named⟩
  have groups : byWindow {} [earlySpan] = [(0, [earlySpan])] := by
    have index : windowIndex earlySpan.startTime 30 = 0 := windowIndex_zero
    simp [byWindow, SQLiteSpanStore.byWindow, index, Aggregation.file,
      Aggregation.upsert]
  have turn :
      writeWindow {} (start emptyDirectory).store (0, [earlySpan]) =
        { store :=
            { files := [{ name := name, spans := [earlySpan] }]
              connections := [0] }
          committed := [earlySpan] } := by
    have insertable : earlySpan.insertable = true := by decide
    simp [writeWindow, connectionFor, named, start, emptyDirectory, missing,
      insertRows, insertable]
  have young :
      ({ name := name, spans := [earlySpan] } : WindowFile).expired
        asciiDigits {} 0 = false := by
    rw [Bool.eq_false_iff, Ne, expired_iff_of_windowFilename named, cutoffAt,
      windowIndex_zero]
    decide
  refine ⟨name, named, ?_⟩
  simp [exportedRun, run, step, exportSpans, groups, writeWindows, turn, sweep,
    young]

/--
The name of the first window gives its index back; the file of the exported
span is found by a range around it, and is swept seven windows later.
-/
theorem exported_window_found_and_swept :
    (∃ name, windowFilename 0 30 = some name ∧
      indexFromFilename asciiDigits name 30 = some 0) ∧
    ∃ file ∈ exportedRun.store.files, earlySpan ∈ file.spans ∧
      file.name ∈ filesInRange asciiDigits {} exportedRun.store 0 86400 ∧
      file ∉ (sweep asciiDigits {} exportedRun.store 18144000
        fun _ => false).files := by
  rcases exportedRun_files with ⟨name, _, files⟩
  rcases window_files_exact asciiDigits {} with ⟨recovered, _, runs⟩
  have known : ({ name := name, spans := [earlySpan] } : WindowFile) ∈
      exportedRun.store.files := by
    rw [files]
    exact List.mem_cons_self
  rcases (runs emptyDirectory
      [.exportSpans [earlySpan] 0 fun _ => false]).2 _ known with
    ⟨placed, swept⟩
  have removed := swept 18144000 fun _ => false
  refine ⟨recovered 0 (by decide) (by decide), _, known, List.mem_cons_self,
    ?_, removed.1.mpr ⟨rfl, (removed.2 (by simp)).mpr fun span inside => ?_⟩⟩
  · exact (placed earlySpan List.mem_cons_self).2 0 86400 le_rfl (by decide)
  · have seventh : windowIndex 18144000 30 = 7 := by
      simpa using @windowIndex_start 30 (by decide) 7
    have cutoff : cutoffAt {} 18144000 = 1 := by
      rw [cutoffAt, seventh]
      decide
    rw [List.mem_singleton.mp inside, cutoff]
    decide

/-! ## The calendar of the stores -/

section Environment

/-- A text of digits and hyphens as a string. -/
def dateString (date : Date) : String :=
  String.ofList ((Calendar.format date).map fun letter =>
    Char.ofNat letter.val)

theorem ofString_dateString (date : Date) :
    Text.ofString (dateString date) = Calendar.format date := by
  have small : ∀ letter ∈ Calendar.format date, letter.val < 0xd800 := by
    have digit : ∀ width value, ∀ letter ∈ Decimal.padded width value,
        letter.val < 0xd800 := by
      intro width value letter member
      have numeral :=
        List.all_eq_true.mp (Decimal.all_isDigit_padded width value) letter
          member
      rw [Decimal.isDigit, Bool.and_eq_true, decide_eq_true_eq,
        decide_eq_true_eq] at numeral
      omega
    have sign : (Calendar.hyphen : Fin 0x110000).val < 0xd800 := by decide
    simp only [Calendar.format, List.forall_mem_append, List.forall_mem_cons]
    exact ⟨digit 4 _, sign, digit 2 _, sign, digit 2 _⟩
  rw [dateString, Text.ofString_ofList, List.map_map]
  refine (List.map_congr_left fun letter member => ?_).trans (List.map_id _)
  have valid : letter.val.isValidChar := .inl (small letter member)
  apply Fin.ext
  change (Char.ofNat letter.val).toNat = letter.val
  rw [Char.ofNat, dif_pos valid]
  rfl

/-- The calendar answers as the two span stores expect it of `datetime`. -/
def calendarEnvironment (digits : Digits) : Environment where
  strftime day := (dateOfDay day).map dateString
  strptime text :=
    (Calendar.parse digits (Text.ofString text)).map fun date =>
      (Calendar.ordinal date : Int) - epoch
  strftime_isSome day nonneg := by
    rw [Option.isSome_map, dateOfDay_isSome_iff]
    unfold epoch Calendar.maxOrdinal lastDay
    omega
  strptime_strftime day text dated := by
    rcases Option.map_eq_some_iff.mp dated with ⟨date, known, rfl⟩
    rcases @parse_format_of_dateOfDay digits _ _ known with ⟨read, parsed, same⟩
    rw [ofString_dateString, parsed, Option.map_some, same]

/-- The names of the files are the dates that the span stores know them by. -/
theorem windowFilename_eq
    (digits : Digits) (store : SQLiteSpanStore) (index : Int) :
    windowFilename index store.windowDays =
      (store.windowFilename (calendarEnvironment digits) index).map fun date =>
        namePrefix ++ Text.ofString date ++ nameSuffix := by
  rw [SQLiteSpanStore.windowFilename, calendarEnvironment, Option.map_map,
    windowFilename]
  refine congrFun (congrArg Option.map (funext fun date => ?_)) _
  rw [Function.comp_apply, ofString_dateString]

end Environment

/-! ## A file without spans -/

/-- A span that `json.dumps` refuses. -/
def refusedSpan : SpanData where
  name := "send x"
  traceId := "t"
  spanId := "s"
  startTime := 0
  endTime := 0
  serializable := false

/-- The store after the export of a span that is refused. -/
def refusedStore : SpanStore :=
  (run asciiDigits {} (start emptyDirectory)
    [.exportSpans [refusedSpan] 0 fun _ => false]).store

/-- The failed export leaves an empty file for the window of the span. -/
theorem refusedStore_files :
    ∃ name, windowFilename 0 30 = some name ∧
      refusedStore.files = [{ name := name }] := by
  have named : (windowFilename 0 30).isSome = true := by
    rw [windowFilename_isSome_iff]
    decide
  rcases Option.isSome_iff_exists.mp named with ⟨name, named⟩
  have groups : byWindow {} [refusedSpan] = [(0, [refusedSpan])] := by
    have index : windowIndex refusedSpan.startTime 30 = 0 := windowIndex_zero
    simp [byWindow, SQLiteSpanStore.byWindow, index, Aggregation.file,
      Aggregation.upsert]
  have turn :
      writeWindow {} (start emptyDirectory).store (0, [refusedSpan]) =
        { store := { files := [{ name := name }], connections := [0] }
          completed := false } := by
    have refused : refusedSpan.insertable = false := by decide
    simp [writeWindow, connectionFor, named, start, emptyDirectory, missing,
      refused]
  refine ⟨name, named, ?_⟩
  simp [refusedStore, run, step, exportSpans, groups, writeWindows, turn]

/-- The next sweep keeps the empty file, which has no span after the cutoff. -/
theorem empty_file_is_kept :
    ¬ ∀ file ∈ refusedStore.files,
      file ∉ (sweep asciiDigits {} refusedStore 0 fun _ => false).files ↔
        ∀ span ∈ file.spans, span.startTime <
          (cutoffAt {} 0 * 30 * 86400 : Int) := by
  rcases refusedStore_files with ⟨name, named, files⟩
  intro removes
  have known : ({ name := name } : WindowFile) ∈ refusedStore.files := by
    rw [files]
    exact List.mem_cons_self
  have removed := (removes _ known).mpr (by rintro _ ⟨⟩)
  rw [mem_sweep, not_and, Decidable.not_not] at removed
  have early :=
    (@expired_iff_of_windowFilename asciiDigits {} _ _ 0 named).mp
      (removed known).2
  have current : cutoffAt {} 0 = -6 := by
    rw [cutoffAt, windowIndex_zero]
    rfl
  rw [current] at early
  exact absurd early (by decide)

end Civitas.Observability.WindowFiles
