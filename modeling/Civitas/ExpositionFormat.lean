import Civitas.Decimal
import Mathlib.Data.List.Basic
import Mathlib.Data.List.ReduceOption
import Mathlib.Data.List.TakeWhile

/-!
# The text exposition format

The line-oriented text format, version 0.0.4, in which metrics are scraped: a
parser for texts as lists of code points, and the text of a line.  Lines are
separated by line feeds, the last one ends with a line feed, and empty lines
are ignored; tokens are separated by blanks and tabs.  Numbers are written and
read by functions that are given.

The main result is the round trip of well-formed lines: the parser reads back
the lines whose texts it is given, with the original label values.
-/

namespace Civitas.ExpositionFormat

/-- A Unicode code point. -/
abbrev Letter := Fin 0x110000

/-- A text by its code points. -/
abbrev Text := List Letter

variable {N : Type}

/-! ## Letters -/

/-- The line feed. -/
def newline : Letter := 10

/-- The tab. -/
def tab : Letter := 9

/-- The blank. -/
def space : Letter := 32

/-- `"` -/
def quote : Letter := 34

/-- `#` -/
def hash : Letter := 35

/-- `,` -/
def comma : Letter := 44

/-- `=` -/
def equals : Letter := 61

/-- The backslash. -/
def backslash : Letter := 92

/-- `n`, which stands for a line feed after a backslash. -/
def letterN : Letter := 110

/-- The opening brace. -/
def openBrace : Letter := 123

/-- The closing brace. -/
def closeBrace : Letter := 125

/-- Tokens are separated by blanks and tabs. -/
def isBlank (letter : Letter) : Bool :=
  letter = space || letter = tab

/-- `[a-zA-Z_]` -/
def isNameStart (letter : Letter) : Bool :=
  (65 ≤ letter.val && letter.val ≤ 90) ||
    (97 ≤ letter.val && letter.val ≤ 122) || letter.val = 95

/-- `[a-zA-Z0-9_]` -/
def isNameLetter (letter : Letter) : Bool :=
  isNameStart letter || (48 ≤ letter.val && letter.val ≤ 57)

/-- `:`, which the names of metrics may hold. -/
def colon : Letter := 58

/-- `[a-zA-Z_:]` -/
def isMetricStart (letter : Letter) : Bool :=
  isNameStart letter || letter = colon

/-- `[a-zA-Z0-9_:]` -/
def isMetricLetter (letter : Letter) : Bool :=
  isNameLetter letter || letter = colon

/-- `[a-zA-Z_:][a-zA-Z0-9_:]*` -/
def isMetricName : Text → Bool
  | [] => false
  | first :: rest => isMetricStart first && rest.all isMetricLetter

/-- `[a-zA-Z_][a-zA-Z0-9_]*` -/
def isLabelName : Text → Bool
  | [] => false
  | first :: rest => isNameStart first && rest.all isNameLetter

/-! ## Lines -/

/-- What a line says; a sample may carry a timestamp. -/
inductive Line (N : Type) where
  | help (name text : Text)
  | type (name kind : Text)
  | sample
      (name : Text) (labels : List (Text × Text)) (value : N)
      (timestamp : Option Text)
deriving DecidableEq

/-- `HELP` -/
def helpWord : Text := [72, 69, 76, 80]

/-- `TYPE` -/
def typeWord : Text := [84, 89, 80, 69]

/-- `counter`, `gauge`, `histogram`, `summary` and `untyped` -/
def kinds : List Text :=
  [[99, 111, 117, 110, 116, 101, 114], [103, 97, 117, 103, 101],
    [104, 105, 115, 116, 111, 103, 114, 97, 109],
    [115, 117, 109, 109, 97, 114, 121], [117, 110, 116, 121, 112, 101, 100]]

/-! ## The parser -/

/-- The lines of a text; `none` when the last one is not ended. -/
def linesFrom : Text → Text → Option (List Text)
  | [], [] => some []
  | _ :: _, [] => none
  | line, letter :: rest =>
      if letter = newline then (linesFrom [] rest).map (line :: ·)
      else linesFrom (line ++ [letter]) rest

/-- The text from its first letter on that is no blank. -/
def skipBlanks (text : Text) : Text :=
  text.dropWhile isBlank

/-- The next token, and what follows it. -/
def token (text : Text) : Text × Text :=
  (text.takeWhile fun letter => !isBlank letter,
    text.dropWhile fun letter => !isBlank letter)

/-- A documentation text, with its escapes. -/
def readHelp : Text → Option Text
  | [] => some []
  | letter :: rest =>
      if letter = backslash then
        match rest with
        | escaped :: rest =>
            if escaped = backslash then (readHelp rest).map (backslash :: ·)
            else if escaped = letterN then (readHelp rest).map (newline :: ·)
            else none
        | [] => none
      else (readHelp rest).map (letter :: ·)

/-- A label value up to its closing quote, and what follows. -/
def readValue : Text → Option (Text × Text)
  | [] => none
  | letter :: rest =>
      if letter = quote then some ([], rest)
      else if letter = backslash then
        match rest with
        | escaped :: rest =>
            if escaped = backslash then
              (readValue rest).map fun read => (backslash :: read.1, read.2)
            else if escaped = quote then
              (readValue rest).map fun read => (quote :: read.1, read.2)
            else if escaped = letterN then
              (readValue rest).map fun read => (newline :: read.1, read.2)
            else none
        | [] => none
      else (readValue rest).map fun read => (letter :: read.1, read.2)

/-- A label, and what follows it. -/
def readLabel (text : Text) : Option ((Text × Text) × Text) :=
  let name := text.takeWhile isNameLetter
  match skipBlanks (text.dropWhile isNameLetter) with
  | sign :: rest =>
      if isLabelName name && sign = equals then
        match skipBlanks rest with
        | opening :: rest =>
            if opening = quote then
              (readValue rest).map fun read => ((name, read.1), read.2)
            else none
        | [] => none
      else none
  | [] => none

/-- The labels up to the closing brace, and what follows. -/
def readLabels : Nat → Text → Option (List (Text × Text) × Text)
  | 0, _ => none
  | fuel + 1, text =>
      match skipBlanks text with
      | [] => none
      | first :: rest =>
          if first = closeBrace then some ([], rest)
          else
            (readLabel (first :: rest)).bind fun label =>
              match skipBlanks label.2 with
              | next :: rest =>
                  if next = comma then
                    (readLabels fuel rest).map fun read =>
                      (label.1 :: read.1, read.2)
                  else if next = closeBrace then some ([label.1], rest)
                  else none
              | [] => none

/-- A whole number, as a timestamp is written. -/
def isTimestamp : Text → Bool
  | [] => false
  | first :: rest =>
      let digits := if first.val = 45 then rest else first :: rest
      digits ≠ [] &&
        digits.all fun letter => 48 ≤ letter.val && letter.val ≤ 57

/-- The value of a sample and its timestamp. -/
def readMeasurement
    (readNumber : Text → Option N) (text : Text) :
    Option (N × Option Text) :=
  let value := token (skipBlanks text)
  (readNumber value.1).bind fun number =>
    let stamp := token (skipBlanks value.2)
    if stamp.1 = [] then some (number, none)
    else if isTimestamp stamp.1 && skipBlanks stamp.2 = [] then
      some (number, some stamp.1)
    else none

/-- A line that holds a sample. -/
def readSample
    (readNumber : Text → Option N) (text : Text) : Option (Line N) :=
  let name := text.takeWhile isMetricLetter
  if isMetricName name then
    match skipBlanks (text.dropWhile isMetricLetter) with
    | [] => none
    | first :: rest =>
        if first = openBrace then
          (readLabels (rest.length + 1) rest).bind fun labels =>
            (readMeasurement readNumber labels.2).map fun measured =>
              .sample name labels.1 measured.1 measured.2
        else
          (readMeasurement readNumber (first :: rest)).map fun measured =>
            .sample name [] measured.1 measured.2
  else none

/-- A line that begins with a hash; other comments are ignored. -/
def readComment (text : Text) : Option (Option (Line N)) :=
  let keyword := token (skipBlanks text)
  if keyword.1 = helpWord then
    let name := token (skipBlanks keyword.2)
    if isMetricName name.1 then
      (readHelp (skipBlanks name.2)).map fun text =>
        some (.help name.1 text)
    else none
  else if keyword.1 = typeWord then
    let name := token (skipBlanks keyword.2)
    let kind := token (skipBlanks name.2)
    if isMetricName name.1 && kind.1 ∈ kinds && skipBlanks kind.2 = [] then
      some (some (.type name.1 kind.1))
    else none
  else some none

/-- A line; `some none` for one that says nothing. -/
def readLine
    (readNumber : Text → Option N) (line : Text) :
    Option (Option (Line N)) :=
  match skipBlanks line with
  | [] => some none
  | first :: rest =>
      if first = hash then readComment rest
      else (readSample readNumber (first :: rest)).map some

/-- The lines of a text that are neither empty nor mere comments. -/
def parse
    (readNumber : Text → Option N) (text : Text) : Option (List (Line N)) :=
  (linesFrom [] text).bind fun lines =>
    (lines.mapM (readLine readNumber)).map List.reduceOption

/-! ## The text of a line -/

/-- The letters that stand for a letter of a label value. -/
def escaped (letter : Letter) : Text :=
  if letter = backslash then [backslash, backslash]
  else if letter = quote then [backslash, quote]
  else if letter = newline then [backslash, letterN]
  else [letter]

/-- A label value as it is written between the quotes. -/
def escape (value : Text) : Text :=
  value.flatMap escaped

/-- A label as it is written. -/
def labelText (label : Text × Text) : Text :=
  label.1 ++ [equals, quote] ++ escape label.2 ++ [quote]

/-- The labels in braces; nothing when there are none. -/
def labelsText (labels : List (Text × Text)) : Text :=
  if labels = [] then []
  else
    [openBrace] ++ List.intercalate [comma] (labels.map labelText) ++
      [closeBrace]

/-- A timestamp after its value. -/
def stampText : Option Text → Text
  | none => []
  | some stamp => space :: stamp

/-- A line as it is written, without the line feed. -/
def Line.text (writeNumber : N → Text) : Line N → Text
  | .help name text => [hash, space] ++ helpWord ++ [space] ++ name ++
      [space] ++ text
  | .type name kind => [hash, space] ++ typeWord ++ [space] ++ name ++
      [space] ++ kind
  | .sample name labels value timestamp =>
      name ++ labelsText labels ++ [space] ++ writeNumber value ++
        stampText timestamp

/-- The lines, each ended by a line feed. -/
def linesText (lines : List Text) : Text :=
  lines.flatMap fun line => line ++ [newline]

/-- The letters of a token. -/
def isToken (text : Text) : Bool :=
  text ≠ [] && text.all fun letter => !isBlank letter && letter ≠ newline

/-- A line that the format can hold. -/
def Line.WellFormed
    (writeNumber : N → Text) (readNumber : Text → Option N) :
    Line N → Prop
  | .help name text =>
      isMetricName name = true ∧ text.head?.all (!isBlank ·) = true ∧
        backslash ∉ text ∧ newline ∉ text
  | .type name kind => isMetricName name = true ∧ kind ∈ kinds
  | .sample name labels value timestamp =>
      isMetricName name = true ∧
        (∀ label ∈ labels, isLabelName label.1 = true) ∧
        isToken (writeNumber value) = true ∧
        (writeNumber value).head? ≠ some openBrace ∧
        readNumber (writeNumber value) = some value ∧
        ∀ stamp ∈ timestamp, isTimestamp stamp = true

/-! ## Reading a text back -/

section Tokens

variable {p : Letter → Bool} {front rest : Text} {next : Letter}

theorem takeWhile_of_stop
    (all : front.all p = true) (stop : p next = false) :
    (front ++ next :: rest).takeWhile p = front := by
  rw [List.takeWhile_append_of_pos (List.all_eq_true.mp all),
    List.takeWhile_cons_of_neg (by simp [stop]), List.append_nil]

theorem dropWhile_of_stop
    (all : front.all p = true) (stop : p next = false) :
    (front ++ next :: rest).dropWhile p = next :: rest := by
  rw [List.dropWhile_append_of_pos (List.all_eq_true.mp all),
    List.dropWhile_cons_of_neg (by simp [stop])]

end Tokens

theorem skipBlanks_of_head
    {text : Text} (head : text.head?.all (!isBlank ·) = true) :
    skipBlanks text = text := by
  cases text with
  | nil => rfl
  | cons first rest =>
      apply List.dropWhile_cons_of_neg
      simpa using head

@[simp]
theorem skipBlanks_space (text : Text) :
    skipBlanks (space :: text) = skipBlanks text :=
  rfl

/-- A token ends at the next blank. -/
theorem token_of_blank
    {text rest : Text} {next : Letter}
    (word : isToken text = true) (blank : isBlank next = true) :
    token (text ++ next :: rest) = (text, next :: rest) := by
  have letters : (text.all fun letter => !isBlank letter) = true := by
    rw [isToken, Bool.and_eq_true] at word
    apply List.all_eq_true.mpr
    intro letter member
    have plain := List.all_eq_true.mp word.2 letter member
    rw [Bool.and_eq_true] at plain
    exact plain.1
  have stop : (!isBlank next) = false := by rw [blank]; rfl
  rw [token, takeWhile_of_stop letters stop, dropWhile_of_stop letters stop]

/-- A token ends at the end of the line. -/
theorem token_of_end {text : Text} (word : isToken text = true) :
    token text = (text, []) := by
  have letters : ∀ letter ∈ text, (!isBlank letter) = true := by
    rw [isToken, Bool.and_eq_true] at word
    intro letter member
    have plain := List.all_eq_true.mp word.2 letter member
    rw [Bool.and_eq_true] at plain
    exact plain.1
  rw [token, List.takeWhile_eq_self_iff.mpr letters,
    List.dropWhile_eq_nil_iff.mpr letters]

/-- A token begins with no blank. -/
theorem skipBlanks_of_isToken
    {text : Text} (word : isToken text = true) (rest : Text) :
    skipBlanks (text ++ rest) = text ++ rest := by
  cases text with
  | nil => cases word
  | cons first text =>
      apply skipBlanks_of_head
      rw [isToken, Bool.and_eq_true, List.all_cons, Bool.and_eq_true,
        Bool.and_eq_true] at word
      exact word.2.1.1

/-- The letters of names are none that the format gives a meaning to. -/
theorem ne_of_isMetricLetter
    {letter sign : Letter} (metric : isMetricLetter letter = true)
    (other : isMetricLetter sign = false) :
    letter ≠ sign := by
  intro same
  rw [same, other] at metric
  cases metric

theorem isBlank_of_isMetricLetter
    {letter : Letter} (metric : isMetricLetter letter = true) :
    isBlank letter = false := by
  have noSpace : letter ≠ space := ne_of_isMetricLetter metric (by decide)
  have noTab : letter ≠ tab := ne_of_isMetricLetter metric (by decide)
  rw [isBlank, decide_eq_false noSpace, decide_eq_false noTab]
  rfl

theorem isMetricLetter_of_isNameStart
    {letter : Letter} (start : isNameStart letter = true) :
    isMetricLetter letter = true := by
  rw [isMetricLetter, isNameLetter, start]
  rfl

theorem all_isMetricLetter_of_isMetricName
    {name : Text} (metric : isMetricName name = true) :
    name.all isMetricLetter = true := by
  cases name with
  | nil => rfl
  | cons first rest =>
      rw [isMetricName, Bool.and_eq_true] at metric
      rw [List.all_cons, Bool.and_eq_true]
      refine ⟨?_, metric.2⟩
      have start := metric.1
      rw [isMetricStart, Bool.or_eq_true] at start
      rcases start with letter | sign
      · exact isMetricLetter_of_isNameStart letter
      · rw [isMetricLetter, sign, Bool.or_true]

theorem isToken_of_isMetricName
    {name : Text} (metric : isMetricName name = true) :
    isToken name = true := by
  have letters := List.all_eq_true.mp
    (all_isMetricLetter_of_isMetricName metric)
  rw [isToken, Bool.and_eq_true, decide_eq_true_eq]
  constructor
  · intro empty
    rw [empty] at metric
    cases metric
  · apply List.all_eq_true.mpr
    intro letter member
    have unblank := isBlank_of_isMetricLetter (letters letter member)
    have unended : letter ≠ newline :=
      ne_of_isMetricLetter (letters letter member) (by decide)
    simp [unblank, unended]

/-! ### Label values -/

@[simp]
theorem readValue_quote (rest : Text) :
    readValue (quote :: rest) = some ([], rest) := by
  rw [readValue.eq_def]
  exact if_pos rfl

theorem readValue_escaped
    (code letter : Letter) (rest : Text)
    (known :
      (code, letter) ∈
        [(backslash, backslash), (quote, quote), (letterN, newline)]) :
    readValue (backslash :: code :: rest) =
      (readValue rest).map fun read => (letter :: read.1, read.2) := by
  have apart : backslash ≠ quote := by decide
  rw [readValue.eq_def]
  simp only [if_neg apart, if_true]
  simp only [List.mem_cons, Prod.mk.injEq, List.not_mem_nil,
    or_false] at known
  rcases known with ⟨rfl, rfl⟩ | ⟨rfl, rfl⟩ | ⟨rfl, rfl⟩
  · rfl
  · rfl
  · rfl

theorem readValue_plain
    {letter : Letter} (rest : Text)
    (isQuote : letter ≠ quote) (isBackslash : letter ≠ backslash) :
    readValue (letter :: rest) =
      (readValue rest).map fun read => (letter :: read.1, read.2) := by
  rw [readValue.eq_def]
  simp only [if_neg isQuote, if_neg isBackslash]

/-- A label value is read back from its escapes. -/
theorem readValue_escape (value rest : Text) :
    readValue (escape value ++ quote :: rest) = some (value, rest) := by
  induction value with
  | nil => exact readValue_quote rest
  | cons letter value ih =>
      have front :
          escape (letter :: value) ++ quote :: rest =
            escaped letter ++ (escape value ++ quote :: rest) := by
        simp [escape]
      rw [front]
      unfold escaped
      split
      · rename_i same
        simp only [List.cons_append, List.nil_append]
        rw [readValue_escaped _ letter _ (by simp [same]), ih]
        rfl
      · split
        · rename_i same
          simp only [List.cons_append, List.nil_append]
          rw [readValue_escaped _ letter _ (by simp [same]), ih]
          rfl
        · rename_i isBackslash isQuote
          split
          · rename_i same
            simp only [List.cons_append, List.nil_append]
            rw [readValue_escaped _ letter _ (by simp [same]), ih]
            rfl
          · simp only [List.cons_append, List.nil_append]
            rw [readValue_plain _ isQuote isBackslash, ih]
            rfl

/-! ### Labels -/

theorem all_isNameLetter_of_isLabelName
    {name : Text} (label : isLabelName name = true) :
    name.all isNameLetter = true := by
  cases name with
  | nil => rfl
  | cons first rest =>
      rw [isLabelName, Bool.and_eq_true] at label
      rw [List.all_cons, Bool.and_eq_true]
      refine ⟨?_, label.2⟩
      rw [isNameLetter, Bool.or_eq_true]
      exact .inl label.1

/-- A label is read back, whatever follows it. -/
theorem readLabel_labelText
    {label : Text × Text} (named : isLabelName label.1 = true)
    (rest : Text) :
    readLabel (labelText label ++ rest) = some (label, rest) := by
  have letters := all_isNameLetter_of_isLabelName named
  have stop : isNameLetter equals = false := by decide
  have written :
      labelText label ++ rest =
        label.1 ++ equals :: quote :: (escape label.2 ++ quote :: rest) := by
    simp [labelText]
  have unblank : ∀ text : Text,
      skipBlanks (equals :: text) = equals :: text ∧
        skipBlanks (quote :: text) = quote :: text :=
    fun text => ⟨rfl, rfl⟩
  rw [written, readLabel, takeWhile_of_stop letters stop,
    dropWhile_of_stop letters stop, (unblank _).1]
  dsimp only
  rw [if_pos (by rw [named]; rfl), (unblank _).2]
  dsimp only
  rw [if_pos rfl, readValue_escape]
  rfl

/-- A label begins with a letter of its name. -/
theorem exists_head_of_labelText
    {label : Text × Text} (named : isLabelName label.1 = true)
    (rest : Text) :
    ∃ first text, labelText label ++ rest = first :: text ∧
      skipBlanks (first :: text) = first :: text ∧ first ≠ closeBrace := by
  rcases label with ⟨name, value⟩
  cases name with
  | nil => cases named
  | cons first name =>
      have start : isNameStart first = true := by
        rw [isLabelName, Bool.and_eq_true] at named
        exact named.1
      have metric := isMetricLetter_of_isNameStart start
      refine ⟨first, _, rfl, ?_, ne_of_isMetricLetter metric (by decide)⟩
      apply skipBlanks_of_head
      simp [isBlank_of_isMetricLetter metric]

/-- A label is read first, and then what the next letter asks for. -/
theorem readLabels_label
    {label : Text × Text} (named : isLabelName label.1 = true)
    (fuel : Nat) {next : Letter} (solid : isBlank next = false)
    (rest : Text) :
    readLabels (fuel + 1) (labelText label ++ next :: rest) =
      if next = comma then
        (readLabels fuel rest).map fun read => (label :: read.1, read.2)
      else if next = closeBrace then some ([label], rest)
      else none := by
  rcases exists_head_of_labelText named (next :: rest) with
    ⟨first, text, written, unblank, more⟩
  have read := readLabel_labelText named (next :: rest)
  have follows : skipBlanks (next :: rest) = next :: rest :=
    skipBlanks_of_head (by simp [solid])
  rw [written] at read ⊢
  rw [readLabels, unblank]
  dsimp only
  rw [if_neg more, read]
  simp only [Option.bind_some, follows]

/-- The labels are read back up to the closing brace. -/
theorem readLabels_intercalate
    (label : Text × Text) (labels : List (Text × Text))
    {fuel : Nat} (rest : Text)
    (enough : labels.length < fuel)
    (named : ∀ other ∈ label :: labels, isLabelName other.1 = true) :
    readLabels fuel
        (List.intercalate [comma] ((label :: labels).map labelText) ++
          closeBrace :: rest) =
      some (label :: labels, rest) := by
  obtain ⟨fuel, rfl⟩ : ∃ less, fuel = less + 1 :=
    Nat.exists_eq_succ_of_ne_zero (Nat.ne_zero_of_lt enough)
  induction labels generalizing fuel label with
  | nil =>
      have first := named label List.mem_cons_self
      rw [List.map_singleton, List.intercalate_singleton]
      rw [readLabels_label first fuel rfl]
      rfl
  | cons next labels ih =>
      have first := named label List.mem_cons_self
      have others : ∀ other ∈ next :: labels,
          isLabelName other.1 = true :=
        fun other member => named other (List.mem_cons_of_mem _ member)
      have less : labels.length < fuel := Nat.lt_of_succ_lt_succ enough
      obtain ⟨fuel, rfl⟩ : ∃ fewer, fuel = fewer + 1 :=
        Nat.exists_eq_succ_of_ne_zero (Nat.ne_zero_of_lt less)
      have joined :
          List.intercalate [comma]
              ((label :: next :: labels).map labelText) ++
              closeBrace :: rest =
            labelText label ++ comma ::
              (List.intercalate [comma] ((next :: labels).map labelText) ++
                closeBrace :: rest) := by
        rw [List.map_cons, List.map_cons, List.intercalate_cons_cons]
        simp
      rw [joined, readLabels_label first _ rfl, if_pos rfl,
        ih next others fuel less, Option.map_some]

/-- The joined labels have at least a letter each. -/
theorem length_le_length_intercalate (labels : List (Text × Text)) :
    labels.length ≤
      (List.intercalate [comma] (labels.map labelText)).length := by
  have lettered : ∀ label : Text × Text, 1 ≤ (labelText label).length := by
    intro label
    simp only [labelText, List.length_append, List.length_cons,
      List.length_nil]
    omega
  induction labels with
  | nil => exact Nat.zero_le _
  | cons label labels ih =>
      cases labels with
      | nil =>
          rw [List.map_singleton, List.intercalate_singleton]
          exact lettered label
      | cons next labels =>
          have first := lettered label
          rw [List.map_cons, List.map_cons, List.intercalate_cons_cons,
            ← List.map_cons, List.length_append, List.length_append,
            List.length_cons]
          omega

/-! ### Lines -/

variable {writeNumber : N → Text} {readNumber : Text → Option N}

/-- The letters of a timestamp are digits and a sign. -/
theorem isToken_of_isTimestamp
    {stamp : Text} (whole : isTimestamp stamp = true) :
    isToken stamp = true := by
  have plain : ∀ letter : Letter, 45 ≤ letter.val ∧ letter.val ≤ 57 →
      (!isBlank letter && letter ≠ newline) = true := by
    intro letter bounds
    have apart : ∀ sign : Letter, sign.val < 45 → letter ≠ sign := by
      rintro sign small rfl
      omega
    simp [isBlank, apart space (by decide), apart tab (by decide),
      apart newline (by decide)]
  cases stamp with
  | nil => cases whole
  | cons first rest =>
      simp only [isTimestamp, Bool.and_eq_true, List.all_eq_true,
        decide_eq_true_eq] at whole
      have digits := whole.2
      simp only [isToken, Bool.and_eq_true, List.all_eq_true]
      refine ⟨by simp, fun letter member => ?_⟩
      rw [← Bool.and_eq_true]
      apply plain
      split at digits
      · rename_i minus
        rcases List.mem_cons.mp member with rfl | inside
        · omega
        · have digit := digits letter inside
          omega
      · have digit := digits letter member
        omega

/-- A value and its timestamp are read back. -/
theorem readMeasurement_text
    {value : N} {timestamp : Option Text}
    (word : isToken (writeNumber value) = true)
    (read : readNumber (writeNumber value) = some value)
    (stamped : ∀ stamp ∈ timestamp, isTimestamp stamp = true) :
    readMeasurement readNumber
        (writeNumber value ++ stampText timestamp) =
      some (value, timestamp) := by
  unfold readMeasurement
  rw [skipBlanks_of_isToken word]
  cases timestamp with
  | none =>
      rw [stampText, List.append_nil, token_of_end word]
      simp only [read, Option.bind_some]
      rfl
  | some stamp =>
      have whole := stamped stamp rfl
      have digits := isToken_of_isTimestamp whole
      have unblank : skipBlanks (space :: stamp) = stamp := by
        have plain := skipBlanks_of_isToken digits []
        rw [List.append_nil] at plain
        rw [skipBlanks_space, plain]
      have given : stamp ≠ [] := by
        intro empty
        rw [empty] at whole
        cases whole
      rw [stampText, token_of_blank word rfl]
      simp only [read, Option.bind_some, unblank, token_of_end digits,
        if_neg given, whole]
      rfl

/-- A sample is read back. -/
theorem readSample_text
    {name : Text} {labels : List (Text × Text)} {value : N}
    {timestamp : Option Text}
    (formed :
      (Line.sample name labels value timestamp).WellFormed
        writeNumber readNumber) :
    readSample readNumber
        ((Line.sample name labels value timestamp).text writeNumber) =
      some (.sample name labels value timestamp) := by
  rcases formed with ⟨metric, named, word, unbraced, read, stamped⟩
  have letters := all_isMetricLetter_of_isMetricName metric
  have measured := readMeasurement_text word read stamped
  have unblank := skipBlanks_of_isToken word (stampText timestamp)
  unfold readSample
  cases labels with
  | nil =>
      have stop : isMetricLetter space = false := by decide
      have written :
          (Line.sample name [] value timestamp).text writeNumber =
            name ++ space :: (writeNumber value ++ stampText timestamp) := by
        simp [Line.text, labelsText]
      rw [written, takeWhile_of_stop letters stop,
        dropWhile_of_stop letters stop, if_pos metric, skipBlanks_space,
        unblank]
      cases text : writeNumber value with
      | nil =>
          rw [text] at word
          cases word
      | cons first rest =>
          have plain : first ≠ openBrace := by
            simpa [text] using unbraced
          rw [text] at measured
          rw [List.cons_append] at measured ⊢
          simp only [if_neg plain, measured, Option.map_some]
  | cons label labels =>
      have stop : isMetricLetter openBrace = false := by decide
      have written :
          (Line.sample name (label :: labels) value timestamp).text
              writeNumber =
            name ++ openBrace ::
              (List.intercalate [comma] ((label :: labels).map labelText) ++
                closeBrace :: space ::
                  (writeNumber value ++ stampText timestamp)) := by
        simp [Line.text, labelsText]
      have begun : ∀ text : Text,
          skipBlanks (openBrace :: text) = openBrace :: text :=
        fun _ => rfl
      have enough :
          labels.length <
            (List.intercalate [comma] ((label :: labels).map labelText) ++
              closeBrace :: space ::
                (writeNumber value ++ stampText timestamp)).length + 1 := by
        have lettered := length_le_length_intercalate (label :: labels)
        rw [List.length_cons] at lettered
        rw [List.length_append]
        omega
      rw [written, takeWhile_of_stop letters stop,
        dropWhile_of_stop letters stop, if_pos metric, begun]
      simp only [if_true]
      rw [readLabels_intercalate label labels _ enough named]
      have after :
          readMeasurement readNumber
              (space :: (writeNumber value ++ stampText timestamp)) =
            some (value, timestamp) :=
        measured
      simp only [Option.bind_some, after, Option.map_some]

/-- A documentation text without a backslash stands for itself. -/
theorem readHelp_of_plain
    {text : Text} (plain : backslash ∉ text) :
    readHelp text = some text := by
  induction text with
  | nil => rfl
  | cons letter text ih =>
      rw [List.mem_cons, not_or] at plain
      have other : letter ≠ backslash := Ne.symm plain.1
      rw [readHelp.eq_def]
      simp only [if_neg other, ih plain.2, Option.map_some]

/-- A token that is not the last one of its line. -/
theorem token_of_space
    {text : Text} (word : isToken text = true) (rest : Text) :
    token (skipBlanks (space :: (text ++ space :: rest))) =
      (text, space :: rest) := by
  rw [skipBlanks_space, skipBlanks_of_isToken word, token_of_blank word rfl]

/-- The documentation of a family is read back. -/
theorem readComment_help
    {name text : Text}
    (formed : (Line.help name text).WellFormed writeNumber readNumber) :
    readComment
        (space :: (helpWord ++ space :: (name ++ space :: text))) =
      some (some (.help name text : Line N)) := by
  rcases formed with ⟨metric, begun, plain, -⟩
  have keyword : isToken helpWord = true := by decide
  have unblank : skipBlanks (space :: text) = text := by
    rw [skipBlanks_space, skipBlanks_of_head begun]
  unfold readComment
  simp only [token_of_space keyword, if_true,
    token_of_space (isToken_of_isMetricName metric), metric, unblank,
    readHelp_of_plain plain, Option.map_some]

/-- The type of a family is read back. -/
theorem readComment_type
    {name kind : Text}
    (formed : (Line.type name kind).WellFormed writeNumber readNumber) :
    readComment
        (space :: (typeWord ++ space :: (name ++ space :: kind))) =
      some (some (.type name kind : Line N)) := by
  rcases formed with ⟨metric, known⟩
  have keyword : isToken typeWord = true := by decide
  have other : typeWord ≠ helpWord := by decide
  have word : isToken kind = true := by
    have all : ∀ kind ∈ kinds, isToken kind = true := by decide
    exact all kind known
  have unblank : skipBlanks (space :: kind) = kind := by
    have alone := skipBlanks_of_isToken word []
    rw [List.append_nil] at alone
    rw [skipBlanks_space, alone]
  have ended : skipBlanks [] = [] := rfl
  unfold readComment
  simp only [token_of_space keyword, if_neg other, if_true,
    token_of_space (isToken_of_isMetricName metric), metric, unblank,
    token_of_end word, known, ended, decide_true, Bool.and_true]

/-- A well-formed line is read back. -/
theorem readLine_text
    {line : Line N} (formed : line.WellFormed writeNumber readNumber) :
    readLine readNumber (line.text writeNumber) = some (some line) := by
  have hashed : ∀ text : Text, skipBlanks (hash :: text) = hash :: text :=
    fun _ => rfl
  cases line with
  | help name text =>
      have written :
          (Line.help name text).text writeNumber =
            hash :: space ::
              (helpWord ++ space :: (name ++ space :: text)) := by
        simp [Line.text]
      rw [written, readLine, hashed]
      simp only [if_true]
      exact readComment_help formed
  | type name kind =>
      have written :
          (Line.type name kind).text writeNumber =
            hash :: space ::
              (typeWord ++ space :: (name ++ space :: kind)) := by
        simp [Line.text]
      rw [written, readLine, hashed]
      simp only [if_true]
      exact readComment_type formed
  | sample name labels value timestamp =>
      have read := readSample_text formed
      have metric := formed.1
      have unblank := skipBlanks_of_isToken (isToken_of_isMetricName metric)
        (labelsText labels ++
          ([space] ++ (writeNumber value ++ stampText timestamp)))
      rw [Line.text, List.append_assoc, List.append_assoc,
        List.append_assoc] at read ⊢
      rw [readLine, unblank]
      cases name with
      | nil => cases metric
      | cons first name =>
          have letters := all_isMetricLetter_of_isMetricName metric
          rw [List.all_cons, Bool.and_eq_true] at letters
          have unhashed : first ≠ hash :=
            ne_of_isMetricLetter letters.1 (by decide)
          rw [List.cons_append] at read ⊢
          simp only [if_neg unhashed, read, Option.map_some]

/-! ### Texts -/

theorem newline_notMem_of_isToken
    {text : Text} (word : isToken text = true) :
    newline ∉ text := by
  intro member
  rw [isToken, Bool.and_eq_true] at word
  have letter := List.all_eq_true.mp word.2 newline member
  simp at letter

/-- The escapes leave no line feed in a label value. -/
theorem newline_notMem_escape (value : Text) : newline ∉ escape value := by
  intro member
  rcases List.mem_flatMap.mp member with ⟨letter, -, inside⟩
  unfold escaped at inside
  split at inside
  · revert inside
    decide
  · split at inside
    · revert inside
      decide
    · split at inside
      · revert inside
        decide
      · rename_i other
        exact other (List.mem_singleton.mp inside).symm

theorem newline_notMem_labelText
    {label : Text × Text} (named : isLabelName label.1 = true) :
    newline ∉ labelText label := by
  intro member
  rw [labelText, List.mem_append, List.mem_append, List.mem_append] at member
  rcases member with ((inName | sign) | inValue) | last
  · have letter := List.all_eq_true.mp
      (all_isNameLetter_of_isLabelName named) newline inName
    exact absurd letter (by decide)
  · revert sign
    decide
  · exact newline_notMem_escape label.2 inValue
  · revert last
    decide

theorem newline_notMem_intercalate
    {texts : List Text} (free : ∀ text ∈ texts, newline ∉ text) :
    newline ∉ List.intercalate [comma] texts := by
  induction texts with
  | nil => exact List.not_mem_nil
  | cons text texts ih =>
      have first := free text List.mem_cons_self
      have others := ih fun other member =>
        free other (List.mem_cons_of_mem _ member)
      cases texts with
      | nil =>
          rw [List.intercalate_singleton]
          exact first
      | cons next texts =>
          have apart : newline ∉ [comma] := by decide
          rw [List.intercalate_cons_cons, List.mem_append, List.mem_append]
          rintro ((inFirst | sign) | inOthers)
          · exact first inFirst
          · exact apart sign
          · exact others inOthers

theorem newline_notMem_labelsText
    {labels : List (Text × Text)}
    (named : ∀ label ∈ labels, isLabelName label.1 = true) :
    newline ∉ labelsText labels := by
  have free : ∀ text ∈ labels.map labelText, newline ∉ text := by
    intro text member
    rcases List.mem_map.mp member with ⟨label, inside, rfl⟩
    exact newline_notMem_labelText (named label inside)
  have joined := newline_notMem_intercalate free
  have opening : newline ∉ [openBrace] := by decide
  have closing : newline ∉ [closeBrace] := by decide
  unfold labelsText
  split
  · exact List.not_mem_nil
  · rw [List.mem_append, List.mem_append]
    rintro ((first | inLabels) | last)
    · exact opening first
    · exact joined inLabels
    · exact closing last

/-- The text of a well-formed line is a single line. -/
theorem newline_notMem_text
    {line : Line N} (formed : line.WellFormed writeNumber readNumber) :
    newline ∉ line.text writeNumber := by
  have spaced : newline ≠ space := by decide
  cases line with
  | help name text =>
      rcases formed with ⟨metric, -, -, free⟩
      have named := newline_notMem_of_isToken (isToken_of_isMetricName metric)
      have opened : newline ∉ [hash, space] ++ helpWord ++ [space] := by
        decide
      simp only [Line.text, List.mem_append, List.mem_singleton]
        at opened ⊢
      tauto
  | type name kind =>
      rcases formed with ⟨metric, known⟩
      have named := newline_notMem_of_isToken (isToken_of_isMetricName metric)
      have free : newline ∉ kind := by
        have all : ∀ kind ∈ kinds, newline ∉ kind := by decide
        exact all kind known
      have opened : newline ∉ [hash, space] ++ typeWord ++ [space] := by
        decide
      simp only [Line.text, List.mem_append, List.mem_singleton]
        at opened ⊢
      tauto
  | sample name labels value timestamp =>
      rcases formed with ⟨metric, labelled, word, -, -, stamped⟩
      have named := newline_notMem_of_isToken (isToken_of_isMetricName metric)
      have number := newline_notMem_of_isToken word
      have braced := newline_notMem_labelsText labelled
      have stamp : newline ∉ stampText timestamp := by
        cases timestamp with
        | none => exact List.not_mem_nil
        | some stamp =>
            have digits := isToken_of_isTimestamp (stamped stamp rfl)
            rw [stampText, List.mem_cons, not_or]
            exact ⟨spaced, newline_notMem_of_isToken digits⟩
      simp only [Line.text, List.mem_append, List.mem_singleton]
      tauto

theorem linesFrom_line
    {text : Text} (free : newline ∉ text) (line rest : Text) :
    linesFrom line (text ++ newline :: rest) =
      (linesFrom [] rest).map ((line ++ text) :: ·) := by
  induction text generalizing line with
  | nil =>
      rw [List.nil_append, List.append_nil, linesFrom.eq_def]
      simp only [if_true]
  | cons letter text ih =>
      rw [List.mem_cons, not_or] at free
      rw [List.cons_append, linesFrom.eq_def]
      simp only [if_neg (Ne.symm free.1)]
      rw [ih free.2, List.append_assoc, List.singleton_append]

/-- The lines of a text are the lines that were written. -/
theorem linesFrom_linesText
    {lines : List Text} (free : ∀ line ∈ lines, newline ∉ line) :
    linesFrom [] (linesText lines) = some lines := by
  induction lines with
  | nil => rfl
  | cons line lines ih =>
      have others := ih fun other member =>
        free other (List.mem_cons_of_mem _ member)
      have written :
          linesText (line :: lines) = line ++ newline :: linesText lines := by
        simp [linesText]
      rw [written, linesFrom_line (free line List.mem_cons_self), others,
        List.nil_append, Option.map_some]

/-- The lines that were written are read back. -/
theorem mapM_readLine_text
    {lines : List (Line N)}
    (formed : ∀ line ∈ lines, line.WellFormed writeNumber readNumber) :
    (lines.map (Line.text writeNumber)).mapM (readLine readNumber) =
      some (lines.map some) := by
  induction lines with
  | nil => rfl
  | cons line lines ih =>
      have others := ih fun other member =>
        formed other (List.mem_cons_of_mem _ member)
      rw [List.map_cons, List.mapM_cons, others,
        readLine_text (formed line List.mem_cons_self)]
      rfl

/--
The text of well-formed lines is parsed, and what comes out are these lines,
with the label values as they were.
-/
theorem parse_linesText
    {lines : List (Line N)}
    (formed : ∀ line ∈ lines, line.WellFormed writeNumber readNumber) :
    parse readNumber (linesText (lines.map (Line.text writeNumber))) =
      some lines := by
  have free :
      ∀ text ∈ lines.map (Line.text writeNumber), newline ∉ text := by
    intro text member
    rcases List.mem_map.mp member with ⟨line, inside, rfl⟩
    exact newline_notMem_text (formed line inside)
  rw [parse, linesFrom_linesText free, Option.bind_some,
    mapM_readLine_text formed, Option.map_some]
  rw [List.reduceOption, List.filterMap_map]
  exact congrArg some List.filterMap_some

end Civitas.ExpositionFormat
