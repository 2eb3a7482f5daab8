import Civitas.Wire.Msgpack

/-!
# Messages on the wire

`Message` of `messages.py` with the serializers of `serializer.py`.  The
constructor accepts a payload that `json.dumps` can write.  `MsgpackSerializer`
carries what MessagePack can hold, and `JsonSerializer` what its backend can:
`orjson` when it is installed, the standard library otherwise.

A message is carried when `deserialize(serialize(message))` returns it with
the payload that a JSON round trip leaves.  Each serializer carries exactly
the messages that suit it, and the constructor's test is none of the three
conditions.
-/

namespace Civitas.Wire

/-! ## Messages -/

/-- The attributes of a `Message` object; the dataclass checks no types. -/
structure Fields where
  id : Obj
  type : Obj
  sender : Obj
  recipient : Obj
  correlationId : Obj
  replyTo : Obj
  payload : Obj
  timestamp : Obj
  traceId : Obj
  spanId : Obj
  parentSpanId : Obj
  attempt : Obj
  priority : Obj
  ttl : Obj
  seq : Obj

namespace Fields

/-- `Message.to_dict`. -/
def toDict (fields : Fields) : List (Key × Obj) :=
  [(.named "schema_version", .int 1),
    (.named "id", fields.id),
    (.named "type", fields.type),
    (.named "sender", fields.sender),
    (.named "recipient", fields.recipient),
    (.named "correlation_id", fields.correlationId),
    (.named "reply_to", fields.replyTo),
    (.named "payload", fields.payload),
    (.named "timestamp", fields.timestamp),
    (.named "trace_id", fields.traceId),
    (.named "span_id", fields.spanId),
    (.named "parent_span_id", fields.parentSpanId),
    (.named "attempt", fields.attempt),
    (.named "priority", fields.priority),
    (.named "ttl", fields.ttl),
    (.named "seq", fields.seq)]

/-- The attributes other than the payload. -/
def envelope (fields : Fields) : List Obj :=
  [fields.id, fields.type, fields.sender, fields.recipient,
    fields.correlationId, fields.replyTo, fields.timestamp, fields.traceId,
    fields.spanId, fields.parentSpanId, fields.attempt, fields.priority,
    fields.ttl, fields.seq]

/-- Change every attribute. -/
def map (change : Obj → Obj) (fields : Fields) : Fields where
  id := change fields.id
  type := change fields.type
  sender := change fields.sender
  recipient := change fields.recipient
  correlationId := change fields.correlationId
  replyTo := change fields.replyTo
  payload := change fields.payload
  timestamp := change fields.timestamp
  traceId := change fields.traceId
  spanId := change fields.spanId
  parentSpanId := change fields.parentSpanId
  attempt := change fields.attempt
  priority := change fields.priority
  ttl := change fields.ttl
  seq := change fields.seq

end Fields

/-- What the dataclass and its defaults use of the interpreter. -/
structure Interpreter where
  /-- `float.__repr__`. -/
  repr : Double → Text
  /-- `_uuid7()`. -/
  newId : Text
  /-- `time.time()`. -/
  now : Double

section Constructor

variable (python : Interpreter)

/-- `entries.get(name, default)`. -/
def entryOr
    (entries : List (Key × Obj)) (name : String) (default : Obj) : Obj :=
  (entries.lookup (.named name)).getD default

theorem entryOr_cons
    (own name : String) (value default : Obj) (rest : List (Key × Obj)) :
    entryOr ((.named own, value) :: rest) name default =
      if name = own then value else entryOr rest name default := by
  unfold entryOr
  by_cases same : name = own
  · subst same
    simp
  · have apart : (Key.named name == Key.named own) = false := by
      simpa using same
    simp [List.lookup_cons, apart, same]

/-- `Message.from_dict`; `none` when the constructor raises. -/
def Fields.fromDict (data : Obj) : Option Fields :=
  match data with
  | .dict entries =>
      let payload := entryOr entries "payload" (.dict [])
      if (dumps python.repr payload).isSome then
        some
          { id := entryOr entries "id" (.str python.newId)
            type := entryOr entries "type" (.str (Text.ofString "message"))
            sender := entryOr entries "sender" (.str [])
            recipient := entryOr entries "recipient" (.str [])
            correlationId := entryOr entries "correlation_id" .none
            replyTo := entryOr entries "reply_to" .none
            payload := payload
            timestamp := entryOr entries "timestamp" (.float python.now)
            traceId := entryOr entries "trace_id" (.str [])
            spanId := entryOr entries "span_id" (.str [])
            parentSpanId := entryOr entries "parent_span_id" .none
            attempt := entryOr entries "attempt" (.int 0)
            priority := entryOr entries "priority" (.int 0)
            ttl := entryOr entries "ttl" .none
            seq := entryOr entries "seq" .none }
      else none
  | _ => none

/-- A `Message` with the annotated types that its constructor accepted. -/
structure Message where
  id : Text
  type : Text
  sender : Text
  recipient : Text
  correlationId : Option Text
  replyTo : Option Text
  payload : List (Key × Obj)
  timestamp : Double
  traceId : Text
  spanId : Text
  parentSpanId : Option Text
  attempt : Int
  priority : Int
  ttl : Option Double
  seq : Option Int
  distinct : (Obj.dict payload).passes distinctKeys = true
  accepted : (dumps python.repr (.dict payload)).isSome = true

end Constructor

/-- `None` or a text. -/
def optionalText : Option Text → Obj
  | some text => .str text
  | none => .none

namespace Message

variable {python : Interpreter}

/-- The attributes of the message. -/
def fields (message : Message python) : Fields where
  id := .str message.id
  type := .str message.type
  sender := .str message.sender
  recipient := .str message.recipient
  correlationId := optionalText message.correlationId
  replyTo := optionalText message.replyTo
  payload := .dict message.payload
  timestamp := .float message.timestamp
  traceId := .str message.traceId
  spanId := .str message.spanId
  parentSpanId := optionalText message.parentSpanId
  attempt := .int message.attempt
  priority := .int message.priority
  ttl := (message.ttl.map .float).getD .none
  seq := (message.seq.map .int).getD .none

/-- `json.loads(json.dumps(message.payload))`. -/
def jsonPayload (message : Message python) : Obj :=
  loads ((dumps python.repr (.dict message.payload)).get message.accepted)

end Message

/-! ## The `orjson` package -/

/-- A scalar that `orjson` writes. -/
def Obj.scalarOrjsonable : Obj → Bool
  | .bytes _ | .ext _ _ => false
  | scalar => scalar.scalarEncodable

/-- A key that `orjson` writes without `OPT_NON_STR_KEYS`. -/
def Key.orjsonable : Key → Bool
  | .str text => Text.encodable text
  | _ => false

/-- 64-bit integers, UTF-8 texts, and texts as keys. -/
def orjsonable : Check where
  scalar := Obj.scalarOrjsonable
  keys keys := keys.all Key.orjsonable
  size _ := true
  tuples := true

/-- `orjson` writes `null` for a float that JSON has no number for. -/
def finiteOrNull (value : Double) : Obj :=
  if value.isFinite then .float value else .none

/-- What the `orjson` package documents about `dumps` and `loads`. -/
structure Orjson where
  /-- `none` when it raises. -/
  dumps : Obj → Option Json
  /-- `none` when it raises. -/
  loads : Json → Option Obj
  /-- The nesting of the object is within the limits. -/
  holds : Obj → Bool
  dumps_isSome :
    ∀ object,
      (dumps object).isSome = (object.passes orjsonable && holds object)
  loads_dumps :
    ∀ object document, object.passes distinctKeys = true →
      dumps object = some document →
        loads document = some (object.rebuild finiteOrNull)

/-! ## Serializers -/

section Serializers

variable (python : Interpreter)

/-- `MsgpackSerializer.serialize`. -/
def MsgpackSerializer.serialize
    (library : Msgpack) (message : Fields) : Option Bytes :=
  library.packb (.dict message.toDict)

/-- `MsgpackSerializer.deserialize`. -/
def MsgpackSerializer.deserialize
    (library : Msgpack) (data : Bytes) : Option Fields :=
  match library.unpackb data with
  | some raw => Fields.fromDict python raw
  | none => none

/-- `JsonSerializer.serialize`, with `orjson` if it is installed. -/
def JsonSerializer.serialize
    (orjson : Option Orjson) (message : Fields) : Option Json :=
  match orjson with
  | some orjson => orjson.dumps (.dict message.toDict)
  | none => dumps python.repr (.dict message.toDict)

/-- `JsonSerializer.deserialize`. -/
def JsonSerializer.deserialize
    (orjson : Option Orjson) (data : Json) : Option Fields :=
  match orjson with
  | some orjson =>
      match orjson.loads data with
      | some raw => Fields.fromDict python raw
      | none => none
  | none => Fields.fromDict python (loads data)

/-- The two serializers. -/
inductive Serializer where
  | msgpack (library : Msgpack)
  | json (backend : Option Orjson)

/-- `deserialize(serialize(message))`; `none` when one of them raises. -/
def Serializer.deliver
    (serializer : Serializer) (message : Fields) : Option Fields :=
  match serializer with
  | .msgpack library =>
      (MsgpackSerializer.serialize library message).bind
        (MsgpackSerializer.deserialize python library)
  | .json backend =>
      (JsonSerializer.serialize python backend message).bind
        (JsonSerializer.deserialize python backend)

end Serializers

section Carried

variable {python : Interpreter}

/--
The message arrives with its envelope, and with its payload as JSON would
leave it.
-/
def Carried
    (serializer : Serializer) (message : Message python) : Prop :=
  serializer.deliver python message.fields =
    some { message.fields with payload := message.jsonPayload }

/-- An envelope attribute that the standard library returns unchanged. -/
def survivesJson : Obj → Bool
  | .str text => Text.unpaired text
  | .int value => hasDecimalText value
  | _ => true

/-- The messages that a serializer carries. -/
def Serializer.suits
    (serializer : Serializer) (message : Message python) : Bool :=
  let data := Obj.dict message.fields.toDict
  match serializer with
  | .msgpack library =>
      data.passes encodable && message.fields.payload.passes strictKeys &&
        library.holds data
  | .json none => message.fields.envelope.all survivesJson
  | .json (some orjson) =>
      data.passes encodable && message.fields.payload.passes strictKeys &&
        data.passes finiteFloats && orjson.holds data

end Carried

/-! ## Dictionaries of messages -/

section Dictionaries

variable {python : Interpreter}

theorem toDict_map
    {change : Obj → Obj} (fixed : change (.int 1) = .int 1)
    (fields : Fields) :
    (fields.map change).toDict =
      fields.toDict.map fun entry => (entry.1, change entry.2) := by
  simp [Fields.toDict, Fields.map, fixed]

theorem fromDict_toDict (fields : Fields) :
    Fields.fromDict python (.dict fields.toDict) =
      if (dumps python.repr fields.payload).isSome then some fields
      else none := by
  simp [Fields.fromDict, Fields.toDict, entryOr_cons]

/-- Changing a message shows in its envelope or in its payload. -/
theorem map_eq_iff
    {change : Obj → Obj} {fields : Fields} {payload : Obj} :
    fields.map change = { fields with payload := payload } ↔
      (∀ item ∈ fields.envelope, change item = item) ∧
        change fields.payload = payload := by
  simp only [Fields.map, Fields.mk.injEq, Fields.envelope,
    List.forall_mem_cons, List.not_mem_nil, false_implies, implies_true]
  tauto

theorem toDict_keys (fields : Fields) :
    fields.toDict.map Prod.fst =
      ["schema_version", "id", "type", "sender", "recipient",
        "correlation_id", "reply_to", "payload", "timestamp", "trace_id",
        "span_id", "parent_span_id", "attempt", "priority", "ttl",
        "seq"].map Key.named :=
  rfl

theorem toDict_nodup (fields : Fields) :
    (fields.toDict.map Prod.fst).Nodup := by
  rw [toDict_keys]
  refine List.Nodup.map ?_ (by decide)
  intro left right same
  exact Key.named_inj.mp same

theorem named_of_mem_toDict
    {fields : Fields} {entry : Key × Obj} (member : entry ∈ fields.toDict) :
    ∃ name, entry.1 = .named name := by
  have key := List.mem_map_of_mem (f := Prod.fst) member
  rw [toDict_keys] at key
  rcases List.mem_map.mp key with ⟨name, -, same⟩
  exact ⟨name, same.symm⟩

/-- What holds of every value holds of the envelope and the payload. -/
theorem forall_toDict_iff (property : Obj → Prop) (fields : Fields) :
    (∀ entry ∈ fields.toDict, property entry.2) ↔
      property (.int 1) ∧
        (∀ item ∈ fields.envelope, property item) ∧
          property fields.payload := by
  simp only [Fields.toDict, Fields.envelope, List.forall_mem_cons,
    List.not_mem_nil, false_implies, implies_true]
  tauto

/-- A check of the dictionary is one of the envelope and the payload. -/
theorem passes_toDict_iff
    {check : Check} {fields : Fields}
    (size : check.size 16 = true)
    (keys : check.keys (fields.toDict.map Prod.fst) = true)
    (version : check.scalar (.int 1) = true) :
    (Obj.dict fields.toDict).passes check = true ↔
      (∀ item ∈ fields.envelope, item.passes check = true) ∧
        fields.payload.passes check = true := by
  have one : (Obj.int 1).passes check = true := version
  have length : check.size fields.toDict.length = true := size
  rw [Obj.passes_dict, and_iff_right length, and_iff_right keys,
    forall_toDict_iff fun object => object.passes check = true,
    and_iff_right one]

end Dictionaries

/-! ## Typed envelopes -/

section Envelope

variable {python : Interpreter}

/-- An envelope attribute of an annotated type. -/
inductive EnvelopeValue : Obj → Prop where
  | none : EnvelopeValue .none
  | int (value : Int) : EnvelopeValue (.int value)
  | float (value : Double) : EnvelopeValue (.float value)
  | str (text : Text) : EnvelopeValue (.str text)

theorem envelopeValue_of_mem
    {message : Message python} {item : Obj}
    (member : item ∈ message.fields.envelope) :
    EnvelopeValue item := by
  have text : ∀ value, EnvelopeValue (optionalText value) := by
    intro value
    cases value with
    | none => exact .none
    | some text => exact .str text
  have float : ∀ value : Option Double,
      EnvelopeValue ((value.map Obj.float).getD .none) := by
    intro value
    cases value with
    | none => exact .none
    | some value => exact .float value
  have int : ∀ value : Option Int,
      EnvelopeValue ((value.map Obj.int).getD .none) := by
    intro value
    cases value with
    | none => exact .none
    | some value => exact .int value
  have all :
      ∀ item ∈ message.fields.envelope, EnvelopeValue item := by
    simp only [Fields.envelope, Message.fields, List.forall_mem_cons,
      List.not_mem_nil, false_implies, implies_true, and_true]
    exact
      ⟨.str _, .str _, .str _, .str _, text _, text _, .float _, .str _,
        .str _, text _, .int _, .int _, float _, int _⟩
  exact all item member

theorem EnvelopeValue.isScalar
    {item : Obj} (value : EnvelopeValue item) :
    item.isScalar = true := by
  cases value <;> rfl

/-- The keys of an envelope never stand in the way. -/
theorem toDict_keys_encodable (fields : Fields) :
    encodable.keys (fields.toDict.map Prod.fst) = true := by
  rw [toDict_keys]
  refine List.all_eq_true.mpr ?_
  intro key member
  rcases List.mem_map.mp member with ⟨name, -, rfl⟩
  exact Text.encodable_ofString name

theorem toDict_distinct (message : Message python) :
    (Obj.dict message.fields.toDict).passes distinctKeys = true := by
  have keys :
      distinctKeys.keys (message.fields.toDict.map Prod.fst) = true :=
    decide_eq_true (toDict_nodup message.fields)
  refine (passes_toDict_iff rfl keys rfl).mpr ⟨?_, message.distinct⟩
  intro item member
  exact Obj.passes_scalar (envelopeValue_of_mem member).isScalar

theorem toDict_strictKeys_iff (message : Message python) :
    (Obj.dict message.fields.toDict).passes strictKeys = true ↔
      message.fields.payload.passes strictKeys = true := by
  rw [passes_toDict_iff rfl rfl rfl]
  refine and_iff_right ?_
  intro item member
  exact Obj.passes_scalar (envelopeValue_of_mem member).isScalar

/-- What JSON leaves of the payload can be written again. -/
theorem jsonPayload_accepted (message : Message python) :
    (dumps python.repr message.jsonPayload).isSome = true :=
  dumps_loads_isSome _

/-- JSON takes only the tuples from a payload of encodable texts as keys. -/
theorem jsonPayload_eq_listed
    {message : Message python}
    (valid : message.fields.payload.passes encodable = true)
    (strict : message.fields.payload.passes strictKeys = true) :
    message.jsonPayload = message.fields.payload.listed :=
  loads_of_dumps valid strict message.distinct
    (Option.some_get message.accepted).symm

/--
A wire format that changes every attribute in the same way carries the message
when it keeps the envelope and treats the payload as JSON does.
-/
theorem fromDict_map_iff
    {change : Obj → Obj} (message : Message python) :
    Fields.fromDict python (.dict (message.fields.map change).toDict) =
        some { message.fields with payload := message.jsonPayload } ↔
      (∀ item ∈ message.fields.envelope, change item = item) ∧
        change message.fields.payload = message.jsonPayload := by
  rw [fromDict_toDict, ← map_eq_iff]
  constructor
  · intro delivered
    split at delivered
    · exact Option.some.inj delivered
    · cases delivered
  · intro same
    have payload :
        (message.fields.map change).payload = message.jsonPayload := by
      rw [same]
    rw [payload, if_pos (jsonPayload_accepted message), same]

theorem rebuild_toDict
    {float : Double → Obj} (fields : Fields) :
    (Obj.dict fields.toDict).rebuild float =
      .dict (fields.map (Obj.rebuild float)).toDict := by
  have fixed : (Obj.int 1).rebuild float = .int 1 := by
    simp only [Obj.rebuild]
  rw [toDict_map fixed]
  exact Obj.rebuild_dict fields.toDict

end Envelope

/-! ## MessagePack -/

section MsgpackCarriage

variable {python : Interpreter}

theorem msgpack_carried_iff
    (library : Msgpack) (message : Message python) :
    Carried (.msgpack library) message ↔
      Serializer.suits (.msgpack library) message = true := by
  have packed := library.packb_isSome (.dict message.fields.toDict)
  cases data : library.packb (.dict message.fields.toDict) with
  | none =>
      rw [data, Option.isSome_none, eq_comm, Bool.and_eq_false_iff] at packed
      have lost :
          Serializer.deliver python (.msgpack library) message.fields =
            none := by
        simp [Serializer.deliver, MsgpackSerializer.serialize, data]
      rw [Carried, lost]
      constructor
      · intro delivered
        cases delivered
      · intro suits
        simp only [Serializer.suits, Bool.and_eq_true] at suits
        rcases packed with refused | refused
        · rw [suits.1.1] at refused
          cases refused
        · rw [suits.2] at refused
          cases refused
  | some bytes =>
      rw [data, Option.isSome_some, eq_comm, Bool.and_eq_true] at packed
      have read :=
        library.unpackb_packb _ _ (toDict_distinct message) data
      have delivered :
          Serializer.deliver python (.msgpack library) message.fields =
            MsgpackSerializer.deserialize python library bytes := by
        simp [Serializer.deliver, MsgpackSerializer.serialize, data]
      rw [Carried, delivered, MsgpackSerializer.deserialize, read]
      simp only [Serializer.suits, packed.1, packed.2, Bool.true_and,
        Bool.and_true]
      by_cases strict : message.fields.payload.passes strictKeys = true
      · have whole := (toDict_strictKeys_iff message).mpr strict
        have valid :=
          ((passes_toDict_iff rfl (toDict_keys_encodable _) rfl).mp
            packed.1).2
        rw [if_pos whole, iff_true_right strict, Obj.listed, rebuild_toDict]
        refine (fromDict_map_iff message).mpr ⟨?_, ?_⟩
        · intro item member
          exact Obj.listed_scalar (envelopeValue_of_mem member).isScalar
        · exact (jsonPayload_eq_listed valid strict).symm
      · have partly :
            ¬ (Obj.dict message.fields.toDict).passes strictKeys = true := by
          rw [toDict_strictKeys_iff]
          exact strict
        rw [if_neg partly, iff_false_right strict]
        intro delivered
        cases delivered

end MsgpackCarriage

/-! ## The standard library -/

section JsonCarriage

variable {python : Interpreter}

/-- `json.loads(json.dumps(object))`, and the object where that raises. -/
def throughJson (repr : Double → Text) (object : Obj) : Obj :=
  match dumps repr object with
  | some document => loads document
  | none => object

/-- A dictionary with texts as keys is read back entry by entry. -/
theorem loads_dumps_named
    {repr : Double → Text} {entries : List (Key × Obj)} {document : Json}
    (named : ∀ entry ∈ entries, ∃ name, entry.1 = .named name)
    (distinct : (entries.map Prod.fst).Nodup)
    (written : dumps repr (.dict entries) = some document) :
    loads document =
      .dict
        (entries.map fun entry => (entry.1, throughJson repr entry.2)) := by
  rcases dumps_dict_iff.mp written with ⟨members, parts, rfl⟩
  have same :
      (members.map fun member =>
          (Key.str (unescape member.1), loads member.2)) =
        entries.map fun entry => (entry.1, throughJson repr entry.2) := by
    clear written distinct
    induction parts with
    | nil => rfl
    | cons first later ih =>
        rename_i entry member entries members
        rcases first with ⟨text, key, units, document⟩
        rcases named entry List.mem_cons_self with ⟨name, own⟩
        have text_eq : Text.ofString name = text := by
          rw [own] at key
          exact Option.some.inj key
        subst text_eq
        have value : throughJson repr entry.2 = loads member.2 := by
          simp [throughJson, document]
        have others :=
          ih fun item inside => named item (List.mem_cons_of_mem _ inside)
        rw [List.map_cons, List.map_cons, others, units, value,
          unescape_escape (Text.encodable_ofString name), own]
        rfl
  rw [loads, loadsMembers_eq, same, dictOfPairs_of_nodup]
  rw [List.map_map]
  exact distinct

theorem throughJson_eq
    {repr : Double → Text} {object : Obj}
    (written : (dumps repr object).isSome = true) :
    throughJson repr object = loads ((dumps repr object).get written) := by
  rcases Option.isSome_iff_exists.mp written with ⟨document, found⟩
  simp only [throughJson, found, Option.get_some]

/-- The schema version is written and read back. -/
theorem dumps_version (repr : Double → Text) :
    ∃ short, dumps repr (.int 1) = some (.int ⟨1, short⟩) := by
  have short : hasDecimalText 1 = true := hasDecimalText_of_fits64 rfl
  exact ⟨short, by rw [dumps, dif_pos short]⟩

theorem dumps_toDict_isSome_iff
    {repr : Double → Text} (fields : Fields) :
    (dumps repr (.dict fields.toDict)).isSome = true ↔
      (∀ item ∈ fields.envelope, (dumps repr item).isSome = true) ∧
        (dumps repr fields.payload).isSome = true := by
  have version : (dumps repr (.int 1)).isSome = true := by
    rcases dumps_version repr with ⟨short, written⟩
    rw [written, Option.isSome_some]
  have values :
      (dumps repr (.dict fields.toDict)).isSome = true ↔
        ∀ entry ∈ fields.toDict, (dumps repr entry.2).isSome = true := by
    rw [dumps_dict_isSome_iff]
    refine forall₂_congr fun entry member => ?_
    rcases named_of_mem_toDict member with ⟨name, named⟩
    rw [named]
    exact and_iff_right rfl
  rw [values, forall_toDict_iff fun object =>
    (dumps repr object).isSome = true]
  exact and_iff_right version

/-- JSON returns an envelope attribute exactly when it survives. -/
theorem survivesJson_iff
    {repr : Double → Text} {item : Obj} (value : EnvelopeValue item) :
    survivesJson item = true ↔
      (dumps repr item).isSome = true ∧ throughJson repr item = item := by
  cases value with
  | none => simp [survivesJson, throughJson, dumps, loads]
  | float value => simp [survivesJson, throughJson, dumps, loads]
  | int value =>
      by_cases short : hasDecimalText value = true
      · simp [survivesJson, throughJson, dumps, loads, short]
      · simp [survivesJson, throughJson, dumps, short]
  | str text =>
      simp [survivesJson, throughJson, dumps, loads, unescape_escape_iff]

theorem json_carried_iff (message : Message python) :
    Carried (.json none) message ↔
      Serializer.suits (.json none) message = true := by
  have suited :
      Serializer.suits (.json none) message = true ↔
        (∀ item ∈ message.fields.envelope,
          (dumps python.repr item).isSome = true) ∧
          ∀ item ∈ message.fields.envelope,
            throughJson python.repr item = item := by
    rw [Serializer.suits, List.all_eq_true, ← forall₂_and]
    exact
      forall₂_congr fun item member =>
        survivesJson_iff (envelopeValue_of_mem member)
  have payload :
      throughJson python.repr message.fields.payload =
        message.jsonPayload :=
    throughJson_eq message.accepted
  have accepted :
      (dumps python.repr message.fields.payload).isSome = true :=
    message.accepted
  have whole := @dumps_toDict_isSome_iff python.repr message.fields
  rw [and_iff_left accepted] at whole
  rw [suited, ← whole]
  cases data : dumps python.repr (.dict message.fields.toDict) with
  | none =>
      have lost :
          Serializer.deliver python (.json none) message.fields = none := by
        simp [Serializer.deliver, JsonSerializer.serialize, data]
      rw [Carried, lost]
      simp
  | some document =>
      have fixed :
          throughJson python.repr (.int 1) = .int 1 := by
        rcases dumps_version python.repr with ⟨short, written⟩
        simp only [throughJson, written, loads]
      have read :=
        loads_dumps_named (fun _ member => named_of_mem_toDict member)
          (toDict_nodup message.fields) data
      rw [← toDict_map fixed] at read
      have delivered :
          Serializer.deliver python (.json none) message.fields =
            Fields.fromDict python (loads document) := by
        simp [Serializer.deliver, JsonSerializer.serialize, data,
          JsonSerializer.deserialize]
      rw [Carried, delivered, read, fromDict_map_iff, and_iff_left payload]
      simp

end JsonCarriage

/-! ## `orjson` -/

section OrjsonCarriage

variable {python : Interpreter}

/-- A float that JSON has no number for is the only thing that is lost. -/
theorem rebuild_finiteOrNull_iff (object : Obj) :
    object.rebuild finiteOrNull = object.listed ↔
      object.passes finiteFloats = true := by
  induction object using Obj.parts_induction with
  | scalar object scalar =>
      rw [Obj.passes_scalar scalar, Obj.listed_scalar scalar]
      cases object with
      | float value =>
          simp only [Obj.rebuild, finiteOrNull, finiteFloats]
          cases value.isFinite with
          | false => simp
          | true => simp
      | list items => cases scalar
      | tuple items => cases scalar
      | dict entries => cases scalar
      | _ => simp [Obj.rebuild, finiteFloats]
  | list items ih =>
      rw [Obj.listed, Obj.rebuild_list, Obj.rebuild_list, Obj.list.injEq,
        List.map_inj_left, Obj.passes_list_iff finiteFloats fun _ => rfl]
      exact forall₂_congr ih
  | tuple items ih =>
      rw [Obj.listed, Obj.rebuild_tuple, Obj.rebuild_tuple, Obj.list.injEq,
        List.map_inj_left,
        Obj.passes_tuple_iff finiteFloats (fun _ => rfl) rfl]
      exact forall₂_congr ih
  | dict entries ih =>
      rw [Obj.listed, Obj.rebuild_dict, Obj.rebuild_dict, Obj.dict.injEq,
        List.map_inj_left, Obj.passes_dict_iff finiteFloats fun _ => rfl]
      have parts :
          (∀ entry ∈ entries,
              (entry.1, entry.2.rebuild finiteOrNull) =
                (entry.1, entry.2.listed)) ↔
            ∀ entry ∈ entries, entry.2.passes finiteFloats = true := by
        refine forall₂_congr fun entry member => ?_
        rw [Prod.mk.injEq, and_iff_right rfl]
        exact ih entry member
      exact parts.trans (and_iff_right rfl).symm

theorem orjsonable_key_iff
    {repr : Double → Text} {key : Key}
    (written : (keyText repr key).isSome = true) :
    key.orjsonable = true ↔
      key.encodable = true ∧ key.isStrict = true := by
  cases key with
  | bytes data => cases written
  | _ => simp [Key.orjsonable, Key.encodable, Key.isStrict]

/-- Among the objects that JSON can write, `orjson` asks for texts as keys. -/
theorem orjsonable_iff
    {repr : Double → Text} {object : Obj}
    (written : (dumps repr object).isSome = true) :
    object.passes orjsonable = true ↔
      object.passes encodable = true ∧ object.passes strictKeys = true := by
  induction object using Obj.parts_induction with
  | scalar object scalar =>
      rw [Obj.passes_scalar scalar, Obj.passes_scalar scalar,
        Obj.passes_scalar scalar]
      refine Iff.trans ?_ (and_iff_left rfl).symm
      cases object with
      | bytes data => cases written
      | ext code data => cases written
      | _ => rfl
  | list items ih =>
      have parts := dumps_list_isSome_iff.mp written
      rw [Obj.passes_list_iff orjsonable fun _ => rfl,
        Obj.passes_list_iff encodable fun _ => rfl,
        Obj.passes_list_iff strictKeys fun _ => rfl, ← forall₂_and]
      exact forall₂_congr fun item member => ih item member (parts item member)
  | tuple items ih =>
      rw [dumps_tuple] at written
      have parts := dumps_list_isSome_iff.mp written
      rw [Obj.passes_tuple_iff orjsonable (fun _ => rfl) rfl,
        Obj.passes_tuple_iff encodable (fun _ => rfl) rfl,
        Obj.passes_tuple_iff strictKeys (fun _ => rfl) rfl, ← forall₂_and]
      exact forall₂_congr fun item member => ih item member (parts item member)
  | dict entries ih =>
      have parts := dumps_dict_isSome_iff.mp written
      have values :
          (∀ entry ∈ entries, entry.2.passes orjsonable = true) ↔
            (∀ entry ∈ entries, entry.2.passes encodable = true) ∧
              ∀ entry ∈ entries, entry.2.passes strictKeys = true := by
        rw [← forall₂_and]
        exact
          forall₂_congr fun entry member =>
            ih entry member (parts entry member).2
      have keys :
          orjsonable.keys (entries.map Prod.fst) = true ↔
            encodable.keys (entries.map Prod.fst) = true ∧
              strictKeys.keys (entries.map Prod.fst) = true := by
        simp only [orjsonable, encodable, strictKeys, List.all_map,
          List.all_eq_true, Function.comp_apply]
        rw [← forall₂_and]
        exact
          forall₂_congr fun entry member =>
            orjsonable_key_iff (parts entry member).1
      rw [Obj.passes_dict_iff orjsonable fun _ => rfl,
        Obj.passes_dict_iff encodable fun _ => rfl,
        Obj.passes_dict_iff strictKeys fun _ => rfl, values, keys]
      exact and_and_and_comm

theorem orjsonable_toDict_iff (message : Message python) :
    (Obj.dict message.fields.toDict).passes orjsonable = true ↔
      (Obj.dict message.fields.toDict).passes encodable = true ∧
        message.fields.payload.passes strictKeys = true := by
  have keys := toDict_keys_encodable message.fields
  have named :
      orjsonable.keys (message.fields.toDict.map Prod.fst) = true := by
    rw [toDict_keys] at keys ⊢
    refine List.all_eq_true.mpr ?_
    intro key member
    rcases List.mem_map.mp member with ⟨name, -, rfl⟩
    exact Text.encodable_ofString name
  have accepted :
      (dumps python.repr message.fields.payload).isSome = true :=
    message.accepted
  have envelope :
      (∀ item ∈ message.fields.envelope, item.passes orjsonable = true) ↔
        ∀ item ∈ message.fields.envelope, item.passes encodable = true := by
    refine forall₂_congr fun item member => ?_
    cases envelopeValue_of_mem member <;> rfl
  rw [passes_toDict_iff rfl named rfl, passes_toDict_iff rfl keys rfl,
    envelope, orjsonable_iff accepted, and_assoc]

theorem orjson_carried_iff
    (orjson : Orjson) (message : Message python) :
    Carried (.json (some orjson)) message ↔
      Serializer.suits (.json (some orjson)) message = true := by
  have written := orjson.dumps_isSome (.dict message.fields.toDict)
  rw [Bool.eq_iff_iff, Bool.and_eq_true, orjsonable_toDict_iff] at written
  have suited :
      Serializer.suits (.json (some orjson)) message = true ↔
        (orjson.dumps (.dict message.fields.toDict)).isSome = true ∧
          (Obj.dict message.fields.toDict).passes finiteFloats = true := by
    rw [written]
    simp only [Serializer.suits, Bool.and_eq_true]
    exact and_right_comm
  rw [suited]
  cases data : orjson.dumps (.dict message.fields.toDict) with
  | none =>
      have lost :
          Serializer.deliver python (.json (some orjson)) message.fields =
            none := by
        simp [Serializer.deliver, JsonSerializer.serialize, data]
      rw [Carried, lost]
      simp
  | some document =>
      rw [data, Option.isSome_some] at written
      rcases written.mp rfl with ⟨⟨valid, strict⟩, -⟩
      have read :=
        orjson.loads_dumps _ _ (toDict_distinct message) data
      have delivered :
          Serializer.deliver python (.json (some orjson)) message.fields =
            Fields.fromDict python
              ((Obj.dict message.fields.toDict).rebuild finiteOrNull) := by
        simp [Serializer.deliver, JsonSerializer.serialize, data,
          JsonSerializer.deserialize, read]
      have keys := toDict_keys_encodable message.fields
      have payload :=
        jsonPayload_eq_listed
          ((passes_toDict_iff rfl keys rfl).mp valid).2 strict
      have envelope :
          (∀ item ∈ message.fields.envelope,
              item.rebuild finiteOrNull = item) ↔
            ∀ item ∈ message.fields.envelope,
              item.passes finiteFloats = true := by
        refine forall₂_congr fun item member => ?_
        rw [← rebuild_finiteOrNull_iff,
          Obj.listed_scalar (envelopeValue_of_mem member).isScalar]
      rw [Carried, delivered, rebuild_toDict, fromDict_map_iff, payload,
        rebuild_finiteOrNull_iff, envelope, passes_toDict_iff rfl rfl rfl]
      simp

end OrjsonCarriage

/-! ## A backend that behaves as documented -/

section Backend

variable (repr : Double → Text)

theorem finiteOrNull_cases (value : Double) :
    finiteOrNull value = .float value ∨ finiteOrNull value = .none := by
  unfold finiteOrNull
  split
  · exact Or.inl rfl
  · exact Or.inr rfl

/-- What `orjson` accepts can be written once the floats are replaced. -/
theorem dumps_rebuild_isSome
    {object : Obj} (accepted : object.passes orjsonable = true) :
    (dumps repr (object.rebuild finiteOrNull)).isSome = true := by
  induction object using Obj.parts_induction with
  | scalar object scalar =>
      rw [Obj.passes_scalar scalar] at accepted
      cases object with
      | int value =>
          have short : hasDecimalText value = true :=
            hasDecimalText_of_fits64 accepted
          simp [Obj.rebuild, dumps, short]
      | float value =>
          simp only [Obj.rebuild]
          rcases finiteOrNull_cases value with same | same
          · rw [same]
            rfl
          · rw [same]
            rfl
      | bytes data => cases accepted
      | ext code data => cases accepted
      | list items => cases scalar
      | tuple items => cases scalar
      | dict entries => cases scalar
      | _ => rfl
  | list items ih =>
      have parts :=
        (Obj.passes_list_iff orjsonable fun _ => rfl).mp accepted
      rw [Obj.rebuild_list, dumps_list_isSome_iff, List.forall_mem_map]
      exact fun item member => ih item member (parts item member)
  | tuple items ih =>
      have parts :=
        (Obj.passes_tuple_iff orjsonable (fun _ => rfl) rfl).mp accepted
      rw [Obj.rebuild_tuple, dumps_list_isSome_iff, List.forall_mem_map]
      exact fun item member => ih item member (parts item member)
  | dict entries ih =>
      rcases (Obj.passes_dict_iff orjsonable fun _ => rfl).mp accepted with
        ⟨keys, parts⟩
      rw [Obj.rebuild_dict, dumps_dict_isSome_iff, List.forall_mem_map]
      intro entry member
      have key :=
        List.all_eq_true.mp keys _ (List.mem_map_of_mem (f := Prod.fst) member)
      refine ⟨?_, ih entry member (parts entry member)⟩
      cases named : entry.1 with
      | str text => rfl
      | _ =>
          rw [named] at key
          cases key

/-- A check that does not look at floats passes after the replacement. -/
theorem rebuild_passes
    (check target : Check)
    (scalars :
      ∀ object, check.scalar object = true → target.scalar object = true)
    (null : target.scalar .none = true)
    (keys : ∀ keys, check.keys keys = true → target.keys keys = true)
    (sizes : ∀ size, check.size size = true → target.size size = true)
    {object : Obj} (passed : object.passes check = true) :
    (object.rebuild finiteOrNull).passes target = true := by
  refine Obj.passes_rebuild check target ?_ keys sizes passed
  intro object scalar own
  cases object with
  | float value =>
      simp only [Obj.rebuild]
      rcases finiteOrNull_cases value with same | same
      · rw [same]
        exact scalars _ own
      · rw [same]
        exact null
  | list items => cases scalar
  | tuple items => cases scalar
  | dict entries => cases scalar
  | _ => exact scalars _ own

/-- `orjson` by means of the standard library. -/
def orjsonByJson : Orjson where
  dumps object :=
    if object.passes orjsonable
    then dumps repr (object.rebuild finiteOrNull)
    else none
  loads document := some (loads document)
  holds _ := true
  dumps_isSome := by
    intro object
    rw [Bool.and_true]
    split
    · rename_i accepted
      rw [dumps_rebuild_isSome repr accepted, accepted]
    · rename_i refused
      simpa using refused
  loads_dumps := by
    intro object document distinct written
    split at written
    · rename_i accepted
      have valid :
          (object.rebuild finiteOrNull).passes encodable = true := by
        refine
          rebuild_passes orjsonable encodable ?_ rfl ?_ (fun _ same => same)
            accepted
        · intro scalar own
          cases scalar <;> first | exact own | rfl
        · intro keys all
          refine List.all_eq_true.mpr fun key member => ?_
          have own := List.all_eq_true.mp all key member
          cases key <;> first | exact own | cases own
      have strict :
          (object.rebuild finiteOrNull).passes strictKeys = true := by
        refine
          rebuild_passes orjsonable strictKeys (fun _ _ => rfl) rfl ?_
            (fun _ same => same) accepted
        intro keys all
        refine List.all_eq_true.mpr fun key member => ?_
        have own := List.all_eq_true.mp all key member
        cases key <;> first | rfl | cases own
      have floats :
          ∀ value, (finiteOrNull value).listed = finiteOrNull value := by
        intro value
        rcases finiteOrNull_cases value with same | same
        · rw [same]
          rfl
        · rw [same]
          rfl
      have apart :
          (object.rebuild finiteOrNull).passes distinctKeys = true :=
        rebuild_passes distinctKeys distinctKeys (fun _ _ => rfl) rfl
          (fun _ same => same) (fun _ same => same) distinct
      rw [loads_of_dumps valid strict apart written,
        Obj.listed_rebuild floats]
    · cases written

end Backend

/-! ## Which messages are carried -/

/-- An interpreter for the runs below, none of which writes a float. -/
def plainPython : Interpreter where
  repr _ := Text.ofString "0.0"
  newId := Text.ofString "0190"
  now := ⟨0, by decide⟩

/-- A report whose payload is the given dictionary. -/
def reportOf
    (payload : List (Key × Obj))
    (distinct : (Obj.dict payload).passes distinctKeys = true)
    (accepted : (dumps plainPython.repr (.dict payload)).isSome = true) :
    Message plainPython where
  id := Text.ofString "0190"
  type := Text.ofString "report"
  sender := Text.ofString "clerk"
  recipient := Text.ofString "archive"
  correlationId := none
  replyTo := none
  payload := payload
  timestamp := ⟨0, by decide⟩
  traceId := []
  spanId := []
  parentSpanId := none
  attempt := 0
  priority := 0
  ttl := none
  seq := none
  distinct := distinct
  accepted := accepted

end Civitas.Wire
