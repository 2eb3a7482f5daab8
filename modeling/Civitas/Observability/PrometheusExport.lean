import Civitas.Decimal
import Civitas.ExpositionFormat
import Civitas.Wire.Json
import Mathlib.Data.List.Nodup

/-!
# Metrics for Prometheus

`render_prometheus_metrics` of `observability/prometheus_export.py` over the
snapshots of `dashboard/collector.py`.  A family without samples is left out,
and the families of the model calls hold the agents that made one.

The main result: what a scraper parses from the text is the families of the
snapshot, each led by its `HELP` and `TYPE` lines, with the labels and numbers
that the snapshot holds.  `str()` of an integer fails beyond the limit of the
interpreter, and only then is there no text.
-/

namespace Civitas.Observability.PrometheusExport

open Civitas.Decimal (isDigit minus readInteger)
open Civitas.ExpositionFormat (Line)
open Civitas.Wire (CodePoint Double Text)

/-! ## Numbers -/

/-- An `int`, or a `float`. -/
inductive Number where
  | int (value : Int)
  | float (value : Double)
deriving DecidableEq

/-- The sign bit is not set. -/
def positive (float : Double) : Bool :=
  float.bits.toNat < 2 ^ 63

/-- `bool(value)`: both zeros are false, and not-a-number is true. -/
def Number.truthy : Number → Bool
  | .int value => value ≠ 0
  | .float value => value.bits.toNat % 2 ^ 63 ≠ 0

/-- `inf`. -/
def infinity : Double where
  bits := 0x7ff0000000000000#64
  canonical := by decide

/-- `-inf`. -/
def negativeInfinity : Double where
  bits := 0xfff0000000000000#64
  canonical := by decide

/-- `nan`. -/
def notANumber : Double :=
  Double.ofBits Wire.quietNaN

/-- `0.0`. -/
def zero : Double where
  bits := 0x0000000000000000#64
  canonical := by decide

/-- `.` -/
def point : CodePoint := 46

/-- `e` -/
def letterE : CodePoint := 101

/-- The letters of the text of a finite float. -/
def isFloatLetter (letter : CodePoint) : Bool :=
  isDigit letter || letter = point || letter = letterE || letter = minus ||
    letter.val = 43

/-- How floats are written and read. -/
structure FloatText where
  /-- `float.__repr__`. -/
  repr : Double → Text
  /-- The double nearest to a numeral; `none` when it is no numeral. -/
  parseFloat : Text → Option Double
  parseFloat_repr : ∀ float, float.isFinite = true →
    parseFloat (repr float) = some float
  repr_letters : ∀ float, float.isFinite = true →
    (repr float).all isFloatLetter = true
  /-- The text of a float is not that of an integer. -/
  repr_mark : ∀ float, float.isFinite = true →
    point ∈ repr float ∨ letterE ∈ repr float

variable (python : FloatText)

/-- `_format_value`; `none` when `str(value)` raises `ValueError`. -/
def formatValue : Number → Option Text
  | .float value =>
      if Wire.isNaN value.bits then some (Text.ofString "NaN")
      else if !value.isFinite then
        some (Text.ofString (if positive value then "+Inf" else "-Inf"))
      else some (python.repr value)
  | .int value =>
      if Wire.hasDecimalText value
      then some (Text.ofString (toString value))
      else none

/-! ## Samples -/

/-- `value.replace(old, new)` for a single letter. -/
def replace (old : CodePoint) (new value : Text) : Text :=
  value.flatMap fun letter => if letter = old then new else [letter]

/-- `_escape_label_value`. -/
def escapeLabelValue (value : Text) : Text :=
  replace 10 [92, 110] (replace 34 [92, 34] (replace 92 [92, 92] value))

/-- A sample of a family. -/
structure Sample where
  name : String
  value : Number
  labels : List (String × Text) := []

/-- `_sample`. -/
def Sample.text (sample : Sample) : Option Text := do
  let number ← formatValue python sample.value
  if sample.labels ≠ [] then
    let labels := List.intercalate (Text.ofString ",")
      (sample.labels.map fun label =>
        Text.ofString label.1 ++ Text.ofString "=\"" ++
          escapeLabelValue label.2 ++ Text.ofString "\"")
    return Text.ofString sample.name ++ Text.ofString "\x7b" ++ labels ++
      Text.ofString "\x7d " ++ number
  else return Text.ofString sample.name ++ Text.ofString " " ++ number

/-! ## Families -/

/-- The samples of one metric, with its help text and type. -/
structure Family where
  name : String
  helpText : String
  metricType : String
  samples : List Sample

/-- `family`: the lines that are added. -/
def Family.render (family : Family) : Option (List Text) := do
  let samples ← family.samples.mapM (Sample.text python)
  if samples = [] then return []
  else
    return [
      Text.ofString "# HELP " ++ Text.ofString family.name ++
        Text.ofString " " ++ Text.ofString family.helpText,
      Text.ofString "# TYPE " ++ Text.ofString family.name ++
        Text.ofString " " ++ Text.ofString family.metricType] ++ samples

/-- `AgentMetrics`, as far as the families read it. -/
structure AgentMetrics where
  status : Text := Text.ofString "unknown"
  messagesHandled : Int := 0
  messagesSent : Int := 0
  totalLatencyMs : Number := .float zero
  restarts : Int := 0
  errors : Int := 0
  tokensIn : Int := 0
  tokensOut : Int := 0
  costUsd : Number := .float zero
  lastModel : Text := []

/-- The agents are the entries of a dictionary. -/
structure RuntimeSnapshot where
  agents : List (Text × AgentMetrics) := []
  distinct : (agents.map Prod.fst).Nodup := by decide
  /-- `uptime_seconds`; `none` when `started_at` is `None`. -/
  uptimeSeconds : Option Double := none

/-- The agents of `llm_agents`. -/
def AgentMetrics.calledModel (metrics : AgentMetrics) : Bool :=
  metrics.tokensIn ≠ 0 || metrics.tokensOut ≠ 0 || metrics.costUsd.truthy

/--
A family with a sample for each agent: its first label is the name of the
agent, and some have another one.
-/
def agentFamily
    (agents : List (Text × AgentMetrics))
    (name helpText metricType : String)
    (value : AgentMetrics → Number)
    (labels : AgentMetrics → List (String × Text) := fun _ => []) :
    Family where
  name := name
  helpText := helpText
  metricType := metricType
  samples := agents.map fun agent =>
    { name := name
      value := value agent.2
      labels := ("agent", agent.1) :: labels agent.2 }

/-- The families that `render_prometheus_metrics` asks for, in this order. -/
def families (snapshot : RuntimeSnapshot) : List Family :=
  let agents := snapshot.agents
  let llmAgents := agents.filter fun agent => agent.2.calledModel
  [ agentFamily agents "civitas_messages_handled_total"
      "Total messages handled by this agent." "counter"
      (fun metrics => .int metrics.messagesHandled),
    agentFamily agents "civitas_messages_sent_total"
      "Total messages sent by this agent." "counter"
      (fun metrics => .int metrics.messagesSent),
    agentFamily agents "civitas_message_latency_ms_sum"
      ("Sum of message handling latency in milliseconds (divide by " ++
        "civitas_message_latency_ms_count for the average over any time " ++
        "window).") "counter"
      AgentMetrics.totalLatencyMs,
    agentFamily agents "civitas_message_latency_ms_count"
      "Count of messages contributing to civitas_message_latency_ms_sum."
      "counter"
      (fun metrics => .int metrics.messagesHandled),
    agentFamily agents "civitas_agent_errors_total"
      "Total handle() errors for this agent." "counter"
      (fun metrics => .int metrics.errors),
    agentFamily agents "civitas_agent_restarts_total"
      "Total supervisor-initiated restarts for this agent." "counter"
      (fun metrics => .int metrics.restarts),
    agentFamily llmAgents "civitas_llm_tokens_in_total"
      "Total LLM input tokens consumed by this agent." "counter"
      (fun metrics => .int metrics.tokensIn)
      (fun metrics => [("model", metrics.lastModel)]),
    agentFamily llmAgents "civitas_llm_tokens_out_total"
      "Total LLM output tokens produced by this agent." "counter"
      (fun metrics => .int metrics.tokensOut)
      (fun metrics => [("model", metrics.lastModel)]),
    agentFamily llmAgents "civitas_llm_cost_usd_total"
      "Total LLM cost in USD attributed to this agent." "counter"
      AgentMetrics.costUsd (fun metrics => [("model", metrics.lastModel)]),
    agentFamily agents "civitas_agent_status"
      ("1 for the agent's current status (standard Prometheus enum " ++
        "pattern -- other status values for this agent are simply " ++
        "absent, not asserted as 0).") "gauge"
      (fun _ => .int 1) (fun metrics => [("status", metrics.status)]) ] ++
  match snapshot.uptimeSeconds with
  | none => []
  | some seconds =>
      [{ name := "civitas_runtime_uptime_seconds"
         helpText := "Seconds since this runtime started."
         metricType := "gauge"
         samples :=
          [{ name := "civitas_runtime_uptime_seconds"
             value := .float seconds }] }]

/-- `render_prometheus_metrics`; `none` when it raises. -/
def renderPrometheusMetrics (snapshot : RuntimeSnapshot) : Option Text := do
  let rendered ← (families snapshot).mapM (Family.render python)
  let lines := rendered.flatten
  if lines = [] then return []
  else
    return List.intercalate (Text.ofString "\n") lines ++ Text.ofString "\n"

/-! ## What a scraper reads -/

/-- The number of a numeral.  Whole numbers are kept as they are. -/
def readNumber (text : Text) : Option Number :=
  match readInteger text with
  | some value => some (.int value)
  | none =>
      if text = Text.ofString "NaN" then some (.float notANumber)
      else if text = Text.ofString "+Inf" then some (.float infinity)
      else if text = Text.ofString "-Inf" then some (.float negativeInfinity)
      else (python.parseFloat text).map .float

/-- The line that says a sample. -/
def Sample.line (sample : Sample) : Line Number :=
  .sample (Text.ofString sample.name)
    (sample.labels.map fun label => (Text.ofString label.1, label.2))
    sample.value none

/-- A family as a scraper sees it. -/
def Family.lines (family : Family) : List (Line Number) :=
  if family.samples = [] then []
  else
    [ .help (Text.ofString family.name) (Text.ofString family.helpText),
      .type (Text.ofString family.name) (Text.ofString family.metricType) ] ++
      family.samples.map Sample.line

/-- The families of a snapshot as a scraper sees them. -/
def exposition (snapshot : RuntimeSnapshot) : List (Line Number) :=
  (families snapshot).flatMap Family.lines

/-- `str()` of the number does not raise. -/
def Number.printable : Number → Bool
  | .int value => Wire.hasDecimalText value
  | .float _ => true

/-- Each value of the family can be written. -/
def Family.printable (family : Family) : Bool :=
  family.samples.all fun sample => sample.value.printable

/-- The name and the labels of a sample. -/
def identity : Line Number → Option (Text × List (Text × Text))
  | .sample name labels _ _ => some (name, labels)
  | _ => none

/-! ## Numerals are read back -/

/-- The text of a number that is printable. -/
def writeNumber (value : Number) : Text :=
  (formatValue python value).getD []

theorem formatValue_eq (value : Number) :
    formatValue python value =
      if value.printable then some (writeNumber python value) else none := by
  cases value with
  | int value =>
      simp only [writeNumber, formatValue, Number.printable]
      split
      · rfl
      · rfl
  | float value =>
      simp only [writeNumber, formatValue, Number.printable, if_true]
      split
      · rfl
      · split
        · rfl
        · rfl

theorem ofString_append (front back : String) :
    Text.ofString (front ++ back) =
      Text.ofString front ++ Text.ofString back := by
  rw [Text.ofString, String.toList_append, List.map_append]
  rfl

/-- `str()` of an integer is its shortest numeral. -/
theorem ofString_toString (value : Int) :
    Text.ofString (toString value) = Decimal.integer value := by
  have letters : ∀ text : String,
      Text.ofString text = Decimal.letters text.toList := by
    intro text
    rw [Text.ofString, Decimal.letters]
    refine List.map_congr_left fun letter _ => Fin.ext ?_
    exact (Nat.mod_eq_of_lt (CodePoint.ofChar letter).isLt).symm
  have natural : ∀ number : Nat,
      Text.ofString number.repr = Decimal.natural number := by
    intro number
    rw [letters, Nat.toList_repr, Decimal.natural]
  cases value with
  | ofNat number =>
      have positive : ¬ (Int.ofNat number < 0) :=
        Int.not_lt.mpr (Int.natCast_nonneg number)
      rw [Decimal.integer, if_neg positive]
      exact natural number
  | negSucc number =>
      have negative : Int.negSucc number < 0 := Int.negSucc_lt_zero number
      have written :
          toString (Int.negSucc number) = "-" ++ (number + 1).repr :=
        rfl
      rw [Decimal.integer, if_pos negative, written, ofString_append,
        natural]
      rfl

theorem readNumber_int (value : Int) :
    readNumber python (Text.ofString (toString value)) =
      some (.int value) := by
  rw [ofString_toString, readNumber, Decimal.readInteger_integer]

/-- The text of a finite float is none of an integer. -/
theorem readInteger_repr
    {float : Double} (finite : float.isFinite = true) :
    readInteger (python.repr float) = none := by
  have noPoint : isDigit point = false := by decide
  have noE : isDigit letterE = false := by decide
  have marked : ∃ letter ∈ python.repr float,
      isDigit letter = false ∧ letter ≠ minus := by
    rcases python.repr_mark float finite with member | member
    · exact ⟨point, member, by decide, by decide⟩
    · exact ⟨letterE, member, by decide, by decide⟩
  rcases marked with ⟨letter, member, other, unsigned⟩
  have someOther : ∀ digits : Text, letter ∈ digits →
      digits.all isDigit = false := by
    intro digits inside
    exact List.all_eq_false.mpr ⟨letter, inside, by simp [other]⟩
  cases text : python.repr float with
  | nil => rfl
  | cons first rest =>
      rw [text] at member
      rw [readInteger, someOther _ member]
      split
      · rename_i sign
        have inside : letter ∈ rest := by
          rcases List.mem_cons.mp member with same | inside
          · exact absurd (same.trans sign) unsigned
          · exact inside
        simp [someOther rest inside]
      · rfl

/-- The spellings of the numbers that are not finite. -/
def specialNames : List Text :=
  [Text.ofString "NaN", Text.ofString "+Inf", Text.ofString "-Inf"]

theorem specialNames_eq :
    specialNames = [[78, 97, 78], [43, 73, 110, 102], [45, 73, 110, 102]] := by
  rw [specialNames, Text.ofString_ofList, Text.ofString_ofList,
    Text.ofString_ofList]
  rfl

/-- No special name is made of the letters of a finite float. -/
theorem repr_notMem_specialNames
    {float : Double} (finite : float.isFinite = true) :
    python.repr float ∉ specialNames := by
  intro member
  have lettered : ∀ name ∈ specialNames,
      name.all isFloatLetter = false := by
    rw [specialNames_eq]
    decide
  have letters := python.repr_letters float finite
  rw [lettered _ member] at letters
  cases letters

theorem readNumber_repr
    {float : Double} (finite : float.isFinite = true) :
    readNumber python (python.repr float) = some (.float float) := by
  have other := repr_notMem_specialNames python finite
  simp only [specialNames, List.mem_cons, List.not_mem_nil, or_false,
    not_or] at other
  rw [readNumber, readInteger_repr python finite]
  simp only [if_neg other.1, if_neg other.2.1, if_neg other.2.2,
    python.parseFloat_repr float finite, Option.map_some]

theorem readNumber_special :
    readNumber python (Text.ofString "NaN") = some (.float notANumber) ∧
      readNumber python (Text.ofString "+Inf") = some (.float infinity) ∧
      readNumber python (Text.ofString "-Inf") =
        some (.float negativeInfinity) :=
  ⟨rfl, rfl, rfl⟩

theorem eq_notANumber {float : Double} (nan : Wire.isNaN float.bits = true) :
    float = notANumber := by
  rw [notANumber, ← float.canonical nan, Double.ofBits_bits]

/-- An infinity is known by its sign. -/
theorem eq_infinity
    {float : Double} (number : Wire.isNaN float.bits = false)
    (infinite : float.isFinite = false) :
    float = if positive float then infinity else negativeInfinity := by
  rcases float with ⟨bits, canonical⟩
  have bounded := bits.isLt
  simp only [Wire.isNaN, Double.isFinite, positive, Bool.and_eq_false_iff,
    decide_eq_false_iff_not, decide_eq_true_eq, Decidable.not_not]
    at number infinite ⊢
  have mantissa : bits.toNat % 2 ^ 52 = 0 := by
    rcases number with finite | whole
    · exact absurd infinite finite
    · exact whole
  split
  · rename_i below
    have value : bits.toNat = 0x7ff0000000000000 := by omega
    have same : bits = infinity.bits := BitVec.eq_of_toNat_eq value
    simp only [infinity, same]
  · rename_i above
    have value : bits.toNat = 0xfff0000000000000 := by omega
    have same : bits = negativeInfinity.bits := BitVec.eq_of_toNat_eq value
    simp only [negativeInfinity, same]

/-- What is written of a printable number is read back. -/
theorem readNumber_writeNumber
    {value : Number} (printable : value.printable = true) :
    readNumber python (writeNumber python value) = some value := by
  cases value with
  | int value =>
      have short : Wire.hasDecimalText value = true := printable
      rw [writeNumber, formatValue, if_pos short, Option.getD_some]
      exact readNumber_int python value
  | float value =>
      rw [writeNumber, formatValue]
      split
      · rename_i nan
        rw [eq_notANumber nan, Option.getD_some]
        exact (readNumber_special python).1
      · rename_i number
        split
        · rename_i infinite
          have sign :=
            eq_infinity (by simpa using number) (by simpa using infinite)
          rw [Option.getD_some]
          split at sign
          · rename_i above
            rw [if_pos above, sign]
            exact (readNumber_special python).2.1
          · rename_i below
            rw [if_neg below, sign]
            exact (readNumber_special python).2.2
        · rename_i finite
          rw [Option.getD_some]
          exact readNumber_repr python (by simpa using finite)

/-! ### The letters of a numeral -/

/-- The letters of numerals that are no digits: `.e+-NaInf`. -/
def numeralSigns : List CodePoint :=
  [point, letterE, 43, minus, 78, 97, 73, 110, 102]

/-- A letter that can stand in a numeral. -/
def plain (letter : CodePoint) : Bool :=
  !ExpositionFormat.isBlank letter && letter ≠ ExpositionFormat.newline &&
    letter ≠ ExpositionFormat.openBrace

theorem plain_of_isDigit
    {letter : CodePoint} (digit : isDigit letter = true) :
    plain letter = true := by
  have bounds : 48 ≤ letter.val ∧ letter.val ≤ 57 := by
    simpa [isDigit] using digit
  have apart : ∀ sign : CodePoint, sign.val < 48 ∨ 57 < sign.val →
      letter ≠ sign := by
    rintro sign outside rfl
    omega
  have space := apart ExpositionFormat.space (by decide)
  have tab := apart ExpositionFormat.tab (by decide)
  have newline := apart ExpositionFormat.newline (by decide)
  have brace := apart ExpositionFormat.openBrace (by decide)
  simp [plain, ExpositionFormat.isBlank, space, tab, newline, brace]

/-- A numeral of letters that the format gives no meaning to. -/
theorem isToken_of_letters
    {text : Text} (given : text ≠ [])
    (letters : ∀ letter ∈ text, isDigit letter = true ∨
      letter ∈ numeralSigns) :
    ExpositionFormat.isToken text = true ∧
      text.head? ≠ some ExpositionFormat.openBrace := by
  have signs : numeralSigns.all plain = true := by decide
  have known : ∀ letter ∈ text, plain letter = true := by
    intro letter member
    rcases letters letter member with digit | sign
    · exact plain_of_isDigit digit
    · exact List.all_eq_true.mp signs letter sign
  constructor
  · rw [ExpositionFormat.isToken, Bool.and_eq_true, decide_eq_true_eq]
    refine ⟨given, List.all_eq_true.mpr fun letter member => ?_⟩
    have split := known letter member
    rw [plain, Bool.and_eq_true] at split
    exact split.1
  · intro brace
    have reserved := known _ (List.mem_of_mem_head? brace)
    revert reserved
    decide

theorem isToken_specialName
    {name : Text} (special : name ∈ specialNames) :
    ExpositionFormat.isToken name = true ∧
      name.head? ≠ some ExpositionFormat.openBrace := by
  have letters : ∀ name ∈ specialNames,
      name ≠ [] ∧ (name.all fun letter => letter ∈ numeralSigns) = true := by
    rw [specialNames_eq]
    decide
  have known := letters name special
  exact isToken_of_letters known.1 fun letter member =>
    .inr (of_decide_eq_true (List.all_eq_true.mp known.2 letter member))

/-- A printable number is written as one token. -/
theorem isToken_writeNumber
    {value : Number} (printable : value.printable = true) :
    ExpositionFormat.isToken (writeNumber python value) = true ∧
      (writeNumber python value).head? ≠
        some ExpositionFormat.openBrace := by
  cases value with
  | int value =>
      have short : Wire.hasDecimalText value = true := printable
      rw [writeNumber, formatValue, if_pos short, Option.getD_some,
        ofString_toString]
      refine isToken_of_letters ?_ fun letter member => ?_
      · unfold Decimal.integer
        split
        · exact List.cons_ne_nil _ _
        · exact Decimal.natural_ne_nil _
      · rcases Decimal.mem_integer member with sign | digit
        · rw [sign]
          exact .inr (by decide)
        · exact .inl digit
  | float value =>
      rw [writeNumber, formatValue]
      split
      · exact isToken_specialName List.mem_cons_self
      · split
        · rw [Option.getD_some]
          split
          · exact isToken_specialName (by simp [specialNames])
          · exact isToken_specialName (by simp [specialNames])
        · rename_i infinite
          have finite : value.isFinite = true := by simpa using infinite
          have all := List.all_eq_true.mp (python.repr_letters value finite)
          rw [Option.getD_some]
          refine isToken_of_letters ?_ fun letter member => ?_
          · intro empty
            have marked := python.repr_mark value finite
            simp [empty] at marked
          · have known := all letter member
            simp only [isFloatLetter, Bool.or_eq_true, decide_eq_true_eq]
              at known
            rcases known with (((digit | rfl) | rfl) | rfl) | plus
            · exact .inl digit
            · exact .inr (by decide)
            · exact .inr (by decide)
            · exact .inr (by decide)
            · have same : letter = 43 := Fin.ext plus
              rw [same]
              exact .inr (by decide)

/-! ## Escapes -/

theorem replace_append (old : CodePoint) (new front back : Text) :
    replace old new (front ++ back) =
      replace old new front ++ replace old new back := by
  rw [replace, replace, replace, List.flatMap_append]

/-- The three replacements of one letter are its escape. -/
theorem escapeLabelValue_letter (letter : CodePoint) :
    escapeLabelValue [letter] = ExpositionFormat.escaped letter := by
  by_cases backslash : letter = 92
  · subst backslash
    decide
  · by_cases quote : letter = 34
    · subst quote
      decide
    · by_cases newline : letter = 10
      · subst newline
        decide
      · have other : ∀ sign new, letter ≠ sign →
            replace sign new [letter] = [letter] := by
          intro sign new apart
          simp [replace, apart]
        rw [escapeLabelValue, other 92 _ backslash, other 34 _ quote,
          other 10 _ newline]
        have plain : ExpositionFormat.escaped letter = [letter] :=
          (if_neg backslash).trans
            ((if_neg quote).trans (if_neg newline))
        exact plain.symm

/--
The replacements, one after the other, escape every letter once: a backslash
that a later replacement adds is not seen by the first.
-/
theorem escapeLabelValue_eq (value : Text) :
    escapeLabelValue value = ExpositionFormat.escape value := by
  induction value with
  | nil => rfl
  | cons letter value ih =>
      have parts :
          escapeLabelValue ([letter] ++ value) =
            escapeLabelValue [letter] ++ escapeLabelValue value := by
        simp only [escapeLabelValue, replace_append]
      rw [← List.singleton_append, parts, escapeLabelValue_letter, ih]
      rfl

/-! ## Samples and families as lines -/

theorem labelText_eq (label : String × Text) :
    Text.ofString label.1 ++ Text.ofString "=\"" ++
        escapeLabelValue label.2 ++ Text.ofString "\"" =
      ExpositionFormat.labelText (Text.ofString label.1, label.2) := by
  rw [escapeLabelValue_eq]
  rfl

/-- A sample is written as its line. -/
theorem Sample.text_eq (sample : Sample) :
    sample.text python =
      if sample.value.printable
      then some (sample.line.text (writeNumber python))
      else none := by
  rw [Sample.text, formatValue_eq]
  split
  · rename_i printable
    have comma : Text.ofString "," = [ExpositionFormat.comma] := rfl
    have opening :
        Text.ofString "\x7b" = [ExpositionFormat.openBrace] := rfl
    have closing :
        Text.ofString "\x7d " =
          [ExpositionFormat.closeBrace, ExpositionFormat.space] := rfl
    have blank : Text.ofString " " = [ExpositionFormat.space] := rfl
    have labels :
        (sample.labels.map fun label =>
          Text.ofString label.1 ++ Text.ofString "=\"" ++
            escapeLabelValue label.2 ++ Text.ofString "\"") =
          (sample.labels.map fun label =>
            (Text.ofString label.1, label.2)).map
              ExpositionFormat.labelText := by
      rw [List.map_map]
      exact List.map_congr_left fun label _ => labelText_eq label
    simp only [Option.bind_eq_bind, Option.bind_some, comma, opening,
      closing, blank, labels]
    by_cases none : sample.labels = []
    · simp [none, Sample.line, Line.text, ExpositionFormat.labelsText,
        ExpositionFormat.stampText]
    · simp [none, Sample.line, Line.text, ExpositionFormat.labelsText,
        ExpositionFormat.stampText]
  · rfl

/-- Partial functions that are defined on the same condition. -/
theorem mapM_eq_ite
    {A B : Type} {f : A → Option B} {g : A → B} {p : A → Bool}
    (each : ∀ item, f item = if p item then some (g item) else none)
    (items : List A) :
    items.mapM f = if items.all p then some (items.map g) else none := by
  induction items with
  | nil => rfl
  | cons item items ih =>
      rw [List.mapM_cons, each item, ih, List.all_cons, List.map_cons]
      cases p item with
      | false => rfl
      | true =>
          cases items.all p with
          | false => rfl
          | true => rfl

/-- A family is written as its lines. -/
theorem Family.render_eq (family : Family) :
    family.render python =
      if family.printable
      then some (family.lines.map (Line.text (writeNumber python)))
      else none := by
  rw [Family.render, mapM_eq_ite (Sample.text_eq python) family.samples]
  have written : ∀ first second third : Text,
      Text.ofString "# HELP " ++ first ++ Text.ofString " " ++ second =
          (Line.help first second).text (writeNumber python) ∧
        Text.ofString "# TYPE " ++ first ++ Text.ofString " " ++ third =
          (Line.type first third).text (writeNumber python) :=
    fun _ _ _ => ⟨rfl, rfl⟩
  change (if family.printable then _ else _) >>= _ = _
  split
  · cases samples : family.samples with
    | nil => simp [Family.lines, samples]
    | cons sample rest =>
        have given : family.samples ≠ [] := by simp [samples]
        rw [Family.lines, if_neg given, samples, List.map_append,
          List.map_map]
        simp only [Option.bind_eq_bind, Option.bind_some, List.map_cons,
          List.cons_ne_nil, if_false, (written _ _ []).1,
          (written _ [] _).2]
        rfl
  · rfl

/-- Lines joined by line feeds, with one at the end. -/
theorem intercalate_newline (line : Text) (lines : List Text) :
    List.intercalate (Text.ofString "\n") (line :: lines) ++
        Text.ofString "\n" =
      ExpositionFormat.linesText (line :: lines) := by
  have feed : Text.ofString "\n" = [ExpositionFormat.newline] := rfl
  rw [feed]
  induction lines generalizing line with
  | nil => simp [ExpositionFormat.linesText]
  | cons next lines ih =>
      have rest := ih next
      rw [List.intercalate_cons_cons, List.append_assoc, rest,
        List.append_assoc]
      simp [ExpositionFormat.linesText]

/-- The text of a snapshot is that of its lines. -/
theorem renderPrometheusMetrics_eq (snapshot : RuntimeSnapshot) :
    renderPrometheusMetrics python snapshot =
      if (families snapshot).all Family.printable then
        some (ExpositionFormat.linesText
          ((exposition snapshot).map (Line.text (writeNumber python))))
      else none := by
  have lines :
      (families snapshot).map (fun family =>
          family.lines.map (Line.text (writeNumber python))) =
        ((families snapshot).map Family.lines).map
          (List.map (Line.text (writeNumber python))) := by
    rw [List.map_map]
    rfl
  rw [renderPrometheusMetrics,
    mapM_eq_ite (Family.render_eq python) (families snapshot), lines,
    exposition, List.flatMap_def]
  split
  · simp only [Option.bind_eq_bind, Option.bind_some, List.map_flatten]
    cases texts : (((families snapshot).map Family.lines).map
        (List.map (Line.text (writeNumber python)))).flatten with
    | nil => rfl
    | cons line rest =>
        simp only [List.cons_ne_nil, if_false, intercalate_newline]
        rfl
  · rfl

/-! ## The lines are well formed -/

/-- A text that a documentation line can hold. -/
def isHelpText (text : Text) : Bool :=
  text.head?.all (!ExpositionFormat.isBlank ·) &&
    text.all fun letter =>
      letter ≠ ExpositionFormat.backslash &&
        letter ≠ ExpositionFormat.newline

/-- The texts of a family are those of the format. -/
structure Family.WellFormed (family : Family) : Prop where
  metric : ExpositionFormat.isMetricName (Text.ofString family.name) = true
  documented : isHelpText (Text.ofString family.helpText) = true
  known : Text.ofString family.metricType ∈ ExpositionFormat.kinds
  named : ∀ sample ∈ family.samples, sample.name = family.name
  labelled : ∀ sample ∈ family.samples, ∀ label ∈ sample.labels,
    ExpositionFormat.isLabelName (Text.ofString label.1) = true
  apart : (family.samples.map Sample.labels).Nodup

theorem isLabelName_agent :
    ExpositionFormat.isLabelName (Text.ofString "agent") = true := by
  rw [Text.ofString_ofList]
  rfl

theorem wellFormed_agentFamily
    {agents : List (Text × AgentMetrics)}
    (distinct : (agents.map Prod.fst).Nodup)
    {name helpText metricType : String}
    {value : AgentMetrics → Number}
    {labels : AgentMetrics → List (String × Text)}
    (metric : ExpositionFormat.isMetricName (Text.ofString name) = true)
    (documented : isHelpText (Text.ofString helpText) = true)
    (known : Text.ofString metricType ∈ ExpositionFormat.kinds)
    (labelled : ∀ metrics, ∀ label ∈ labels metrics,
      ExpositionFormat.isLabelName (Text.ofString label.1) = true) :
    (agentFamily agents name helpText metricType value labels).WellFormed where
  metric := metric
  documented := documented
  known := known
  named sample member := by
    rcases List.mem_map.mp member with ⟨agent, -, rfl⟩
    rfl
  labelled sample member label inside := by
    rcases List.mem_map.mp member with ⟨agent, -, rfl⟩
    rcases List.mem_cons.mp inside with rfl | other
    · exact isLabelName_agent
    · exact labelled agent.2 label other
  apart := by
    have first :
        ((agents.map fun agent =>
            ("agent", agent.1) :: labels agent.2).map
              fun labels => labels.head?.map Prod.snd) =
          (agents.map Prod.fst).map some := by
      simp
    rw [agentFamily, List.map_map]
    apply List.Nodup.of_map fun labels => labels.head?.map Prod.snd
    change ((agents.map fun agent =>
      ("agent", agent.1) :: labels agent.2).map _).Nodup
    rw [first]
    exact distinct.map fun _ _ same => Option.some.inj same

theorem counter_mem_kinds :
    Text.ofString "counter" ∈ ExpositionFormat.kinds := by
  rw [Text.ofString_ofList]
  decide

theorem gauge_mem_kinds :
    Text.ofString "gauge" ∈ ExpositionFormat.kinds := by
  rw [Text.ofString_ofList]
  decide

/-- Every family of a snapshot is well formed. -/
theorem wellFormed_of_mem_families (snapshot : RuntimeSnapshot) :
    ∀ family ∈ families snapshot, family.WellFormed := by
  have distinct := snapshot.distinct
  have llmDistinct :
      ((snapshot.agents.filter fun agent =>
        agent.2.calledModel).map Prod.fst).Nodup :=
    (List.filter_sublist.map Prod.fst).nodup distinct
  have alone : ∀ metrics : AgentMetrics,
      ∀ label ∈ (fun _ => [] : AgentMetrics → List (String × Text)) metrics,
        ExpositionFormat.isLabelName (Text.ofString label.1) = true :=
    fun _ _ inside => absurd inside List.not_mem_nil
  have model : ∀ metrics : AgentMetrics,
      ∀ label ∈ [("model", metrics.lastModel)],
        ExpositionFormat.isLabelName (Text.ofString label.1) = true := by
    intro metrics label inside
    rw [List.mem_singleton.mp inside, Text.ofString_ofList]
    rfl
  have status : ∀ metrics : AgentMetrics,
      ∀ label ∈ [("status", metrics.status)],
        ExpositionFormat.isLabelName (Text.ofString label.1) = true := by
    intro metrics label inside
    rw [List.mem_singleton.mp inside, Text.ofString_ofList]
    rfl
  rw [families, List.forall_mem_append]
  constructor
  · simp only [List.forall_mem_cons]
    refine ⟨
      wellFormed_agentFamily distinct ?_ ?_ counter_mem_kinds alone,
      wellFormed_agentFamily distinct ?_ ?_ counter_mem_kinds alone,
      wellFormed_agentFamily distinct ?_ ?_ counter_mem_kinds alone,
      wellFormed_agentFamily distinct ?_ ?_ counter_mem_kinds alone,
      wellFormed_agentFamily distinct ?_ ?_ counter_mem_kinds alone,
      wellFormed_agentFamily distinct ?_ ?_ counter_mem_kinds alone,
      wellFormed_agentFamily llmDistinct ?_ ?_ counter_mem_kinds model,
      wellFormed_agentFamily llmDistinct ?_ ?_ counter_mem_kinds model,
      wellFormed_agentFamily llmDistinct ?_ ?_ counter_mem_kinds model,
      wellFormed_agentFamily distinct ?_ ?_ gauge_mem_kinds status,
      fun _ inside => absurd inside List.not_mem_nil⟩
    all_goals
      first
        | rw [Text.ofString_ofList]
          rfl
        | rw [ofString_append, ofString_append, Text.ofString_ofList,
            Text.ofString_ofList, Text.ofString_ofList]
          rfl
  · cases snapshot.uptimeSeconds with
    | none => exact fun _ inside => absurd inside List.not_mem_nil
    | some seconds =>
        intro family inside
        rw [List.mem_singleton.mp inside]
        exact
          { metric := by rw [Text.ofString_ofList]; rfl
            documented := by rw [Text.ofString_ofList]; rfl
            known := gauge_mem_kinds
            named := fun sample member => by
              rw [List.mem_singleton.mp member]
            labelled := fun sample member => by
              rw [List.mem_singleton.mp member]
              exact fun _ inside => absurd inside List.not_mem_nil
            apart := List.nodup_singleton _ }

/-- The lines of a well-formed family can be read. -/
theorem Family.WellFormed.line
    {family : Family} (formed : family.WellFormed)
    (printable : family.printable = true) :
    ∀ line ∈ family.lines,
      line.WellFormed (writeNumber python) (readNumber python) := by
  have documented := formed.documented
  rw [isHelpText, Bool.and_eq_true, List.all_eq_true] at documented
  have absent : ∀ sign : CodePoint,
      (sign ≠ ExpositionFormat.backslash &&
        sign ≠ ExpositionFormat.newline) = false →
      sign ∉ Text.ofString family.helpText := by
    intro sign reserved inside
    rw [documented.2 sign inside] at reserved
    cases reserved
  unfold Family.lines
  split
  · exact fun _ inside => absurd inside List.not_mem_nil
  · simp only [List.forall_mem_append, List.forall_mem_cons]
    refine ⟨⟨?_, ?_, fun _ inside => absurd inside List.not_mem_nil⟩, ?_⟩
    · exact ⟨formed.metric, documented.1, absent _ (by decide),
        absent _ (by decide)⟩
    · exact ⟨formed.metric, formed.known⟩
    · intro line member
      rcases List.mem_map.mp member with ⟨sample, inside, rfl⟩
      have written : sample.value.printable = true :=
        List.all_eq_true.mp printable sample inside
      have token := isToken_writeNumber python written
      refine ⟨?_, ?_, token.1, token.2,
        readNumber_writeNumber python written,
        (by simp)⟩
      · rw [formed.named sample inside]
        exact formed.metric
      · intro label member
        rcases List.mem_map.mp member with ⟨entry, known, rfl⟩
        exact formed.labelled sample inside entry known

/-! ## No sample is repeated -/

/-- The samples of a family by name and labels. -/
theorem filterMap_identity_lines (family : Family) :
    family.lines.filterMap identity =
      family.samples.map fun sample =>
        (Text.ofString sample.name,
          sample.labels.map fun label =>
            (Text.ofString label.1, label.2)) := by
  unfold Family.lines
  split
  · rename_i none
    rw [none]
    rfl
  · rw [List.filterMap_append, List.filterMap_map]
    exact congrFun List.filterMap_eq_map family.samples

theorem Family.WellFormed.identities_nodup
    {family : Family} (formed : family.WellFormed) :
    (family.lines.filterMap identity).Nodup := by
  have injective :
      Function.Injective (List.map fun label : String × Text =>
        (Text.ofString label.1, label.2)) := by
    apply List.map_injective_iff.mpr
    rintro ⟨first, value⟩ ⟨second, other⟩ same
    rw [Prod.mk.injEq, Text.ofString_inj] at same
    exact Prod.ext same.1 same.2
  have labels := formed.apart.map injective
  rw [filterMap_identity_lines]
  apply List.Nodup.of_map Prod.snd
  rw [List.map_map] at labels ⊢
  exact labels

theorem names_nodup (snapshot : RuntimeSnapshot) :
    ((families snapshot).map Family.name).Nodup := by
  rw [families, List.map_append]
  cases snapshot.uptimeSeconds with
  | none => simp [agentFamily]
  | some seconds => simp [agentFamily]

/-- No two samples of a snapshot have the same name and labels. -/
theorem identities_nodup (snapshot : RuntimeSnapshot) :
    ((exposition snapshot).filterMap identity).Nodup := by
  have formed := wellFormed_of_mem_families snapshot
  have names := names_nodup snapshot
  rw [exposition, List.filterMap_flatMap, List.nodup_flatMap]
  constructor
  · exact fun family member => (formed family member).identities_nodup
  · rw [List.Nodup, List.pairwise_map] at names
    refine names.imp_of_mem fun {first second} inFirst inSecond apart => ?_
    intro key one two
    simp only [filterMap_identity_lines] at one two
    rcases List.mem_map.mp one with ⟨left, memberLeft, rfl⟩
    rcases List.mem_map.mp two with ⟨right, memberRight, same⟩
    have nameLeft := (formed first inFirst).named left memberLeft
    have nameRight := (formed second inSecond).named right memberRight
    have equal := (Prod.mk.injEq _ _ _ _ ▸ same).1
    rw [Text.ofString_inj, nameLeft, nameRight] at equal
    exact apart equal.symm

/-! ## What is reported -/

/-- A sample as a scraper reads it. -/
def reading
    (name : String) (labels : List (String × Text)) (value : Number) :
    Line Number :=
  .sample (Text.ofString name)
    (labels.map fun label => (Text.ofString label.1, label.2)) value none

/-- The agent has used tokens, or model calls of it have cost something. -/
def AgentMetrics.UsedModel (metrics : AgentMetrics) : Prop :=
  metrics.tokensIn ≠ 0 ∨ metrics.tokensOut ≠ 0 ∨
    metrics.costUsd.truthy = true

/--
The samples of a snapshot: what each metric says of an agent, of an agent that
has used a model, or of the runtime.
-/
inductive Reported (snapshot : RuntimeSnapshot) : Line Number → Prop where
  | messagesHandled {name : Text} {metrics : AgentMetrics} :
      (name, metrics) ∈ snapshot.agents →
        Reported snapshot
          (reading "civitas_messages_handled_total" [("agent", name)]
            (.int metrics.messagesHandled))
  | messagesSent {name : Text} {metrics : AgentMetrics} :
      (name, metrics) ∈ snapshot.agents →
        Reported snapshot
          (reading "civitas_messages_sent_total" [("agent", name)]
            (.int metrics.messagesSent))
  | latencySum {name : Text} {metrics : AgentMetrics} :
      (name, metrics) ∈ snapshot.agents →
        Reported snapshot
          (reading "civitas_message_latency_ms_sum" [("agent", name)]
            metrics.totalLatencyMs)
  | latencyCount {name : Text} {metrics : AgentMetrics} :
      (name, metrics) ∈ snapshot.agents →
        Reported snapshot
          (reading "civitas_message_latency_ms_count" [("agent", name)]
            (.int metrics.messagesHandled))
  | errors {name : Text} {metrics : AgentMetrics} :
      (name, metrics) ∈ snapshot.agents →
        Reported snapshot
          (reading "civitas_agent_errors_total" [("agent", name)]
            (.int metrics.errors))
  | restarts {name : Text} {metrics : AgentMetrics} :
      (name, metrics) ∈ snapshot.agents →
        Reported snapshot
          (reading "civitas_agent_restarts_total" [("agent", name)]
            (.int metrics.restarts))
  | tokensIn {name : Text} {metrics : AgentMetrics} :
      (name, metrics) ∈ snapshot.agents → metrics.UsedModel →
        Reported snapshot
          (reading "civitas_llm_tokens_in_total"
            [("agent", name), ("model", metrics.lastModel)]
            (.int metrics.tokensIn))
  | tokensOut {name : Text} {metrics : AgentMetrics} :
      (name, metrics) ∈ snapshot.agents → metrics.UsedModel →
        Reported snapshot
          (reading "civitas_llm_tokens_out_total"
            [("agent", name), ("model", metrics.lastModel)]
            (.int metrics.tokensOut))
  | cost {name : Text} {metrics : AgentMetrics} :
      (name, metrics) ∈ snapshot.agents → metrics.UsedModel →
        Reported snapshot
          (reading "civitas_llm_cost_usd_total"
            [("agent", name), ("model", metrics.lastModel)]
            metrics.costUsd)
  | status {name : Text} {metrics : AgentMetrics} :
      (name, metrics) ∈ snapshot.agents →
        Reported snapshot
          (reading "civitas_agent_status"
            [("agent", name), ("status", metrics.status)] (.int 1))
  | uptime {seconds : Double} :
      snapshot.uptimeSeconds = some seconds →
        Reported snapshot
          (reading "civitas_runtime_uptime_seconds" [] (.float seconds))

/-- The lines of one family: its documentation, its type and its samples. -/
structure Block where
  name : Text
  helpText : Text
  metricType : Text
  samples : List (Line Number)
  given : samples ≠ []
  named : ∀ line ∈ samples, ∃ labels value,
    line = .sample name labels value none

/-- The lines of a family. -/
def Block.lines (block : Block) : List (Line Number) :=
  .help block.name block.helpText :: .type block.name block.metricType ::
    block.samples

/-- The lines are an exposition of the snapshot. -/
structure Exposes
    (snapshot : RuntimeSnapshot) (lines : List (Line Number)) : Prop where
  /-- The samples are those of the snapshot. -/
  samples : ∀ name labels value stamp,
    .sample name labels value stamp ∈ lines ↔
      Reported snapshot (.sample name labels value stamp)
  /-- No two samples have the same name and labels. -/
  apart : (lines.filterMap identity).Nodup
  /-- The lines come family by family, and no family comes twice. -/
  grouped : ∃ blocks : List Block,
    lines = blocks.flatMap Block.lines ∧ (blocks.map Block.name).Nodup

theorem usedModel_iff (metrics : AgentMetrics) :
    metrics.UsedModel ↔ metrics.calledModel = true := by
  simp [AgentMetrics.UsedModel, AgentMetrics.calledModel, or_assoc]

theorem mem_agentFamily_samples
    {agents : List (Text × AgentMetrics)} {name helpText metricType : String}
    {value : AgentMetrics → Number}
    {labels : AgentMetrics → List (String × Text)} {sample : Sample} :
    sample ∈
        (agentFamily agents name helpText metricType value labels).samples ↔
      ∃ agent metrics, (agent, metrics) ∈ agents ∧
        { name := name
          value := value metrics
          labels := ("agent", agent) :: labels metrics } = sample := by
  simp [agentFamily]

/-- Every sample of a family is one of the snapshot. -/
theorem reported_of_mem_families
    {snapshot : RuntimeSnapshot} {family : Family} {sample : Sample}
    (known : family ∈ families snapshot) (member : sample ∈ family.samples) :
    Reported snapshot sample.line := by
  have called : ∀ {name metrics},
      (name, metrics) ∈ (snapshot.agents.filter fun agent =>
        agent.2.calledModel) →
        (name, metrics) ∈ snapshot.agents ∧ metrics.UsedModel := by
    intro name metrics inside
    rcases List.mem_filter.mp inside with ⟨agent, used⟩
    exact ⟨agent, (usedModel_iff metrics).mpr used⟩
  rw [families, List.mem_append] at known
  rcases known with perAgent | uptime
  · simp only [List.mem_cons, List.not_mem_nil, or_false] at perAgent
    rcases perAgent with
      rfl | rfl | rfl | rfl | rfl | rfl | rfl | rfl | rfl | rfl
    all_goals
      rcases mem_agentFamily_samples.mp member with
        ⟨name, metrics, agent, rfl⟩
    · exact .messagesHandled agent
    · exact .messagesSent agent
    · exact .latencySum agent
    · exact .latencyCount agent
    · exact .errors agent
    · exact .restarts agent
    · exact .tokensIn (called agent).1 (called agent).2
    · exact .tokensOut (called agent).1 (called agent).2
    · exact .cost (called agent).1 (called agent).2
    · exact .status agent
  · cases started : snapshot.uptimeSeconds with
    | none =>
        rw [started] at uptime
        cases uptime
    | some seconds =>
        rw [started] at uptime
        cases List.mem_singleton.mp uptime
        cases List.mem_singleton.mp member
        exact .uptime started

/-- Every sample of the snapshot is in a family. -/
theorem exists_family_of_reported
    {snapshot : RuntimeSnapshot} {line : Line Number}
    (reported : Reported snapshot line) :
    ∃ family ∈ families snapshot, ∃ sample ∈ family.samples,
      sample.line = line := by
  have among : ∀ {name metrics},
      (name, metrics) ∈ snapshot.agents → metrics.UsedModel →
        (name, metrics) ∈ (snapshot.agents.filter fun agent =>
          agent.2.calledModel) := by
    intro name metrics agent used
    exact List.mem_filter.mpr ⟨agent, (usedModel_iff metrics).mp used⟩
  have shown : ∀ (place : Nat) {family : Family} {sample : Sample},
      (families snapshot)[place]? = some family →
        sample ∈ family.samples → sample.line = line →
          ∃ family ∈ families snapshot, ∃ sample ∈ family.samples,
            sample.line = line :=
    fun _ {_ _} found member same =>
      ⟨_, List.mem_of_getElem? found, _, member, same⟩
  cases reported with
  | messagesHandled agent =>
      exact shown 0 rfl
        (mem_agentFamily_samples.mpr ⟨_, _, agent, rfl⟩) rfl
  | messagesSent agent =>
      exact shown 1 rfl
        (mem_agentFamily_samples.mpr ⟨_, _, agent, rfl⟩) rfl
  | latencySum agent =>
      exact shown 2 rfl
        (mem_agentFamily_samples.mpr ⟨_, _, agent, rfl⟩) rfl
  | latencyCount agent =>
      exact shown 3 rfl
        (mem_agentFamily_samples.mpr ⟨_, _, agent, rfl⟩) rfl
  | errors agent =>
      exact shown 4 rfl
        (mem_agentFamily_samples.mpr ⟨_, _, agent, rfl⟩) rfl
  | restarts agent =>
      exact shown 5 rfl
        (mem_agentFamily_samples.mpr ⟨_, _, agent, rfl⟩) rfl
  | tokensIn agent used =>
      exact shown 6 rfl
        (mem_agentFamily_samples.mpr ⟨_, _, among agent used, rfl⟩) rfl
  | tokensOut agent used =>
      exact shown 7 rfl
        (mem_agentFamily_samples.mpr ⟨_, _, among agent used, rfl⟩) rfl
  | cost agent used =>
      exact shown 8 rfl
        (mem_agentFamily_samples.mpr ⟨_, _, among agent used, rfl⟩) rfl
  | status agent =>
      exact shown 9 rfl
        (mem_agentFamily_samples.mpr ⟨_, _, agent, rfl⟩) rfl
  | @uptime seconds started =>
      have last : (families snapshot)[10]? =
          some
            { name := "civitas_runtime_uptime_seconds"
              helpText := "Seconds since this runtime started."
              metricType := "gauge"
              samples :=
                [{ name := "civitas_runtime_uptime_seconds"
                   value := .float seconds }] } := by
        rw [families, started]
        rfl
      exact shown 10 last List.mem_cons_self rfl

/-- The samples of the lines of a family. -/
theorem mem_lines_iff
    {family : Family} {name : Text} {labels : List (Text × Text)}
    {value : Number} {stamp : Option Text} :
    .sample name labels value stamp ∈ family.lines ↔
      ∃ sample ∈ family.samples,
        sample.line = .sample name labels value stamp := by
  unfold Family.lines
  split
  · rename_i none
    simp [none]
  · simp

/-- A family that has samples is a block of lines. -/
theorem Family.WellFormed.block
    {family : Family} (formed : family.WellFormed)
    (given : family.samples ≠ []) :
    ∃ block : Block, block.lines = family.lines ∧
      block.name = Text.ofString family.name := by
  refine
    ⟨{ name := Text.ofString family.name
       helpText := Text.ofString family.helpText
       metricType := Text.ofString family.metricType
       samples := family.samples.map Sample.line
       given := by simpa using given
       named := ?_ }, ?_, rfl⟩
  · intro line member
    rcases List.mem_map.mp member with ⟨sample, inside, rfl⟩
    exact ⟨_, _, by rw [Sample.line, formed.named sample inside]⟩
  · rw [Family.lines, if_neg given]
    rfl

/-- Well-formed families with different names are blocks of lines. -/
theorem exists_blocks
    {list : List Family} (formed : ∀ family ∈ list, family.WellFormed)
    (names : (list.map Family.name).Nodup) :
    ∃ blocks : List Block,
      list.flatMap Family.lines = blocks.flatMap Block.lines ∧
        (blocks.map Block.name).Sublist
          (list.map fun family => Text.ofString family.name) := by
  induction list with
  | nil => exact ⟨[], rfl, .slnil⟩
  | cons family rest ih =>
      rcases ih (fun other member => formed other (.tail _ member))
        (List.nodup_cons.mp names).2 with ⟨blocks, lines, sub⟩
      by_cases none : family.samples = []
      · refine ⟨blocks, ?_, sub.cons _⟩
        rw [List.flatMap_cons, lines, Family.lines, if_pos none]
        rfl
      · rcases (formed family (.head _)).block none with ⟨block, same, name⟩
        refine ⟨block :: blocks, ?_, ?_⟩
        · rw [List.flatMap_cons, List.flatMap_cons, lines, same]
        · rw [List.map_cons, List.map_cons, name]
          exact sub.cons_cons _

theorem exposition_exposes (snapshot : RuntimeSnapshot) :
    Exposes snapshot (exposition snapshot) where
  samples name labels value stamp := by
    rw [exposition, List.mem_flatMap]
    constructor
    · rintro ⟨family, known, inside⟩
      rcases mem_lines_iff.mp inside with ⟨sample, member, same⟩
      rw [← same]
      exact reported_of_mem_families known member
    · intro reported
      rcases exists_family_of_reported reported with
        ⟨family, known, sample, member, same⟩
      exact ⟨family, known, mem_lines_iff.mpr ⟨sample, member, same⟩⟩
  apart := identities_nodup snapshot
  grouped := by
    rcases exists_blocks (wellFormed_of_mem_families snapshot)
      (names_nodup snapshot) with ⟨blocks, lines, sub⟩
    refine ⟨blocks, lines, sub.nodup ?_⟩
    have texts := (names_nodup snapshot).map Text.ofString_injective
    rwa [List.map_map] at texts

/-! ## The text is parsed -/

/-- The texts of floats by their bits, apart from `0.0`. -/
def bitText (float : Double) : Text :=
  if float = zero then [48, point, 48]
  else Decimal.natural float.bits.toNat ++ [letterE]

/-- The float that `bitText` writes so. -/
def readBitText (text : Text) : Option Double :=
  if text = [48, point, 48] then some zero
  else some (Double.ofBits (BitVec.ofNat 64 (Decimal.number text.dropLast)))

/-- Floats written by their bits, which are read back. -/
def bitFloats : FloatText where
  repr := bitText
  parseFloat := readBitText
  parseFloat_repr float _ := by
    unfold bitText
    split
    · rename_i same
      rw [readBitText, if_pos rfl, same]
    · have other :
          Decimal.natural float.bits.toNat ++ [letterE] ≠
            [48, point, 48] := by
        intro same
        have last := congrArg List.getLast? same
        rw [List.getLast?_concat] at last
        revert last
        decide
      rw [readBitText, if_neg other, List.dropLast_concat,
        Decimal.number_natural, BitVec.ofNat_toNat, BitVec.setWidth_eq,
        Double.ofBits_bits]
  repr_letters float _ := by
    unfold bitText
    split
    · rfl
    · have digits := List.all_eq_true.mp
        (Decimal.all_isDigit_natural float.bits.toNat)
      rw [List.all_append, Bool.and_eq_true, List.all_eq_true]
      refine ⟨fun letter member => ?_, rfl⟩
      rw [isFloatLetter, digits letter member]
      rfl
  repr_mark float _ := by
    unfold bitText
    split
    · exact .inl (by simp)
    · exact .inr (by simp)

/-- An agent whose name holds every letter that is escaped. -/
def quotedSnapshot : RuntimeSnapshot where
  agents :=
    [([97, ExpositionFormat.quote, ExpositionFormat.newline,
        ExpositionFormat.backslash],
      { messagesHandled := 3, tokensIn := 7, lastModel := [109] })]

end Civitas.Observability.PrometheusExport
