import Civitas.Transport.ReceiverLoop

/-!
# Addresses and the names of the brokers

Which handlers a message for an address comes to.  In process an address is a
key of `_handlers`.  ZMQ subscribes the socket to the encoded address with the
separator behind it, matches filters as prefixes of topics, and the receiver
loop recovers the address from the topic.  NATS puts a fixed beginning before
the address and matches the subject of a subscription token by token: `*`
stands for one token and a final `>` for all that remain.  JetStream serves a
subscription by the consumer that its durable name identifies, and derives
that name from the address by replacing dots and hyphens.
-/

namespace Civitas.Transport.Addresses

open Civitas.PyValue (Bytes)
open Civitas.Transport.ReceiverLoop
  (topicSep encode decode removeSep decode_removeSep)

/-! ## Subjects of NATS -/

/-- A token of a subject, between two dots. -/
abbrev Token := List Char

/-- The tokens of a subject. -/
def tokens (subject : List Char) : List Token :=
  subject.splitOn '.'

/-- The subject of a subscription matches the subject of a message. -/
def subjectMatches : List Token → List Token → Bool
  | [['>']], _ :: _ => true
  | pattern :: patterns, token :: rest =>
      (pattern = ['*'] || pattern = token) && subjectMatches patterns rest
  | [], [] => true
  | _, _ => false

/-- The subject of a subscription stands for more than itself. -/
def wildcard (subject : List Token) : Bool :=
  subject.contains ['*'] || subject.getLast? = some ['>']

section Equations

-- The equations of `subjectMatches` are derived here, for all that unfold it.
attribute [local simp] subjectMatches

end Equations

theorem subjectMatches_cons
    {pattern token : Token} {patterns rest : List Token}
    (inner : patterns ≠ [] ∨ pattern ≠ ['>']) :
    subjectMatches (pattern :: patterns) (token :: rest) =
      ((pattern = ['*'] || pattern = token) &&
        subjectMatches patterns rest) := by
  rw [subjectMatches]
  rintro rfl rfl
  rcases inner with more | other
  · exact more rfl
  · exact other rfl

theorem subjectMatches_self (subject : List Token) :
    subjectMatches subject subject = true := by
  induction subject with
  | nil => rfl
  | cons token rest ih =>
      by_cases last : rest = [] ∧ token = ['>']
      · rcases last with ⟨rfl, rfl⟩
        rfl
      · rw [subjectMatches_cons (Classical.not_and_iff_not_or_not.mp last), ih]
        simp

/-- A subject without wildcards matches itself alone. -/
theorem eq_of_subjectMatches
    {subject other : List Token} (plain : wildcard subject = false)
    (matched : subjectMatches subject other = true) : other = subject := by
  induction subject generalizing other with
  | nil =>
      cases other with
      | nil => rfl
      | cons token rest => cases matched
  | cons token rest ih =>
      have star : token ≠ ['*'] := by
        rintro rfl
        simp [wildcard] at plain
      have inner : rest ≠ [] ∨ token ≠ ['>'] := by
        by_cases last : rest = []
        · right
          rintro rfl
          simp [wildcard, last] at plain
        · exact .inl last
      cases other with
      | nil => simp [subjectMatches] at matched
      | cons first others =>
          rw [subjectMatches_cons inner] at matched
          have shape : token = first ∧ subjectMatches rest others = true := by
            simpa [star] using matched
          have rest_plain : wildcard rest = false := by
            cases rest with
            | nil => rfl
            | cons second more =>
                simp only [wildcard, List.getLast?_cons_cons] at plain ⊢
                simp only [List.contains_cons, Bool.or_eq_false_iff] at plain ⊢
                exact ⟨plain.1.2, plain.2⟩
          rw [shape.1, ih rest_plain shape.2]

/-- A token that no wildcard is equal to. -/
def letter : Token := ['x']

/-- The wildcards of a subject filled in. -/
def filled : List Token → List Token
  | [] => []
  | [token] => if token = ['*'] ∨ token = ['>'] then [letter] else [token]
  | token :: next :: rest =>
      (if token = ['*'] then letter else token) :: filled (next :: rest)

section Equations

-- The equations of `filled` are derived here, for all that unfold it.
attribute [local simp] filled filled.eq_def

end Equations

theorem subjectMatches_filled (subject : List Token) :
    subjectMatches subject (filled subject) = true := by
  induction subject with
  | nil => rfl
  | cons token rest ih =>
      cases rest with
      | nil =>
          unfold filled
          by_cases last : token = ['>']
          · subst last
            rfl
          · rw [if_congr (or_iff_left last) rfl rfl]
            split
            · rename_i star
              subst star
              rfl
            · exact subjectMatches_self [token]
      | cons next rest =>
          rw [filled, subjectMatches_cons (.inl (List.cons_ne_nil _ _)), ih]
          split
          · rename_i star
            simp [star]
          · simp

theorem filled_ne
    {subject : List Token} (wild : wildcard subject = true) :
    filled subject ≠ subject := by
  induction subject with
  | nil => cases wild
  | cons token rest ih =>
      cases rest with
      | nil =>
          have either : token = ['*'] ∨ token = ['>'] := by
            simp only [wildcard, List.contains_cons, List.contains_nil,
              Bool.or_false, List.getLast?_singleton, Bool.or_eq_true,
              beq_iff_eq, decide_eq_true_eq, Option.some.injEq] at wild
            exact wild.imp Eq.symm id
          rw [filled, if_pos either]
          rcases either with rfl | rfl <;> decide
      | cons next rest =>
          rw [filled]
          intro same
          have parts := List.cons.inj same
          by_cases star : token = ['*']
          · rw [if_pos star, star] at parts
            exact absurd parts.1 (by decide)
          · refine ih ?_ parts.2
            simpa [wildcard, Ne.symm star] using wild

theorem filled_ne_nil
    {subject : List Token} (some : subject ≠ []) : filled subject ≠ [] := by
  cases subject with
  | nil => exact absurd rfl some
  | cons token rest =>
      cases rest with
      | nil =>
          unfold filled
          split <;> exact List.cons_ne_nil _ _
      | cons next rest => exact List.cons_ne_nil _ _

theorem mem_filled
    {subject : List Token} {token : Token}
    (member : token ∈ filled subject) : token = letter ∨ token ∈ subject := by
  induction subject with
  | nil => cases member
  | cons first rest ih =>
      cases rest with
      | nil =>
          rw [filled] at member
          split at member
          · exact .inl (List.mem_singleton.mp member)
          · exact .inr member
      | cons next rest =>
          rw [filled] at member
          rcases List.mem_cons.mp member with here | later
          · split at here
            · exact .inl here
            · exact .inr (here ▸ List.mem_cons_self)
          · rcases ih later with new | old
            · exact .inl new
            · exact .inr (List.mem_cons_of_mem _ old)

/-! ## Tokens of a subject -/

theorem dot_not_mem_tokens
    {subject : List Char} {token : Token} (member : token ∈ tokens subject) :
    '.' ∉ token := by
  induction subject generalizing token with
  | nil =>
      cases List.mem_singleton.mp member
      exact List.not_mem_nil
  | cons first rest ih =>
      unfold tokens at member
      rw [List.splitOn_cons_eq_if_modifyHead] at member
      split at member
      · rcases List.mem_cons.mp member with rfl | later
        · exact List.not_mem_nil
        · exact ih later
      · rename_i other
        cases split : rest.splitOn '.' with
        | nil => exact absurd split (List.splitOn_ne_nil _ _)
        | cons head tail =>
            rw [split, List.modifyHead_cons] at member
            have inside : ∀ token ∈ head :: tail, '.' ∉ token := by
              intro token among
              refine ih ?_
              unfold tokens
              rw [split]
              exact among
            rcases List.mem_cons.mp member with rfl | later
            · intro dot
              rcases List.mem_cons.mp dot with same | within
              · exact other (by simp [← same])
              · exact inside head List.mem_cons_self within
            · exact inside token (List.mem_cons_of_mem _ later)

theorem tokens_injective : Function.Injective tokens := by
  intro left right same
  calc
    left = ['.'].intercalate (tokens left) :=
      (List.intercalate_splitOn '.').symm
    _ = ['.'].intercalate (tokens right) := by rw [same]
    _ = right := List.intercalate_splitOn '.'

/-- Every list of tokens without dots is the list of some subject. -/
theorem tokens_intercalate
    {parts : List Token} (dotless : ∀ token ∈ parts, '.' ∉ token)
    (some : parts ≠ []) : tokens (['.'].intercalate parts) = parts :=
  List.splitOn_intercalate '.' dotless some

/-! ## Broker names of an address -/

/-- A transport. -/
inductive Carrier where
  | inProcess
  /-- `_reply_prefix` is subscribed beside the addresses. -/
  | zmq (replyPrefix : String)
  | nats (jetStream : Bool)
deriving DecidableEq

/-- `_SUBJECT_PREFIX`. -/
def subjectPrefix : String := "civitas.agent."

/-- `NATSTransport._to_subject`. -/
def toSubject (address : String) : List Char :=
  subjectPrefix.toList ++ address.toList

/-- `text.replace(old, new)` for single letters. -/
def replace (text : List Char) (old new : Char) : List Char :=
  text.map fun letter => if letter = old then new else letter

/-- The durable name that JetStream is asked for. -/
def durable (address : String) : List Char :=
  replace (replace address.toList '.' '_') '-' '_'

/-- The topic of a message, and the filter of a subscription, with ZMQ. -/
def topic (address : String) : Bytes :=
  encode address ++ topicSep

/-- What decides about a delivery at the broker. -/
inductive BrokerObject where
  | slot (address : String)
  | topicFilter (filter : Bytes)
  | subject (name : List Char)
  | consumer (durable : List Char)
deriving DecidableEq

/-- The objects that a subscription to the address uses. -/
def brokerObjects (carrier : Carrier) (address : String) :
    List BrokerObject :=
  match carrier with
  | .inProcess => [.slot address]
  | .zmq _ => [.topicFilter (topic address)]
  | .nats false => [.subject (toSubject address)]
  | .nats true => [.subject (toSubject address), .consumer (durable address)]

/-! ## Dispatch -/

/--
The address whose subscription made the consumer that serves this one: the
durable name identifies it.
-/
def servedBy (addresses : List String) (address : String) : String :=
  (addresses.find? fun other => durable other = durable address).getD address

/-- The subject that the messages of a subscription match. -/
def filterSubject
    (jetStream : Bool) (addresses : List String) (address : String) :
    List Char :=
  toSubject (if jetStream then servedBy addresses address else address)

/-- The SUB socket of ZMQ gets a message with the topic. -/
def passes
    (replyPrefix : String) (addresses : List String) (name : Bytes) : Bool :=
  (encode replyPrefix :: addresses.map topic).any fun filter =>
    filter.isPrefixOf name

/--
The addresses whose handlers are called for a message that is published to
`target`, which is not the address of a pending request.
-/
def dispatched
    (carrier : Carrier) (addresses : List String) (target : String) :
    List String :=
  match carrier with
  | .inProcess => if target ∈ addresses then [target] else []
  | .zmq replyPrefix =>
      if passes replyPrefix addresses (topic target) then
        match decode (removeSep (topic target)) with
        | some address => if address ∈ addresses then [address] else []
        | none => []
      else []
  | .nats jetStream =>
      addresses.filter fun address =>
        subjectMatches
          (tokens (filterSubject jetStream addresses address))
          (tokens (toSubject target))

/-! ## Isolation -/

/--
A message comes to the handler of its own address and to no other, and no two
addresses use one object of the broker.
-/
structure Isolated (carrier : Carrier) (addresses : List String) : Prop where
  own : ∀ target ∈ addresses, dispatched carrier addresses target = [target]
  foreign : ∀ target ∉ addresses, dispatched carrier addresses target = []
  apart :
    ∀ address ∈ addresses, ∀ other ∈ addresses, address ≠ other →
      ∀ object ∈ brokerObjects carrier address,
        object ∉ brokerObjects carrier other

/--
The addresses for NATS have no token `*` and no final token `>`, and for
JetStream no two of them differ only in dots, hyphens and underscores.
-/
def Plain (carrier : Carrier) (addresses : List String) : Prop :=
  match carrier with
  | .nats jetStream =>
      (∀ address ∈ addresses, wildcard (tokens address.toList) = false) ∧
        (jetStream = true →
          ∀ address ∈ addresses, ∀ other ∈ addresses,
            durable address = durable other → address = other)
  | _ => True

variable {addresses : List String} {address target : String}

theorem topic_injective : Function.Injective topic := by
  intro left right same
  have named := congrArg (fun name => decode (removeSep name)) same
  simp only [topic, decode_removeSep] at named
  exact Option.some.inj named

theorem toSubject_injective : Function.Injective toSubject := by
  intro left right same
  exact String.toList_inj.mp (List.append_cancel_left same)

theorem tokens_toSubject (address : String) :
    tokens (toSubject address) =
      "civitas".toList :: "agent".toList :: tokens address.toList := by
  have first : toSubject address =
      "civitas".toList ++ '.' :: ("agent".toList ++ '.' :: address.toList) :=
    rfl
  unfold tokens
  rw [first, List.splitOn_append_cons_self, List.splitOn_append_cons_self]
  rfl

/-- The fixed beginning of the subjects matches itself. -/
theorem subjectMatches_toSubject (address target : String) :
    subjectMatches (tokens (toSubject address)) (tokens (toSubject target)) =
      subjectMatches (tokens address.toList) (tokens target.toList) := by
  rw [tokens_toSubject, tokens_toSubject,
    subjectMatches_cons (.inl (List.cons_ne_nil _ _)),
    subjectMatches_cons (.inr (by decide))]
  simp

/-- A subscription without wildcards gets the messages of its address. -/
theorem subjectMatches_iff_of_plain
    (plain : wildcard (tokens address.toList) = false) :
    subjectMatches (tokens (toSubject address)) (tokens (toSubject target)) =
      true ↔ target = address := by
  rw [subjectMatches_toSubject]
  constructor
  · intro matched
    have same := eq_of_subjectMatches plain matched
    exact String.toList_inj.mp (tokens_injective same)
  · rintro rfl
    exact subjectMatches_self _

/-- A subscription with a wildcard gets messages of another address. -/
theorem exists_foreign_of_wildcard
    (wild : wildcard (tokens address.toList) = true) :
    ∃ target, target ≠ address ∧
      subjectMatches (tokens (toSubject address))
        (tokens (toSubject target)) = true := by
  let parts := filled (tokens address.toList)
  have shape : tokens (['.'].intercalate parts) = parts := by
    apply tokens_intercalate
    · intro token member
      rcases mem_filled member with rfl | old
      · decide
      · exact dot_not_mem_tokens old
    · exact filled_ne_nil (List.splitOn_ne_nil _ _)
  refine ⟨String.ofList (['.'].intercalate parts), ?_, ?_⟩
  · intro same
    have equal : parts = tokens address.toList := by
      rw [← shape, ← same, String.toList_ofList]
    exact filled_ne wild equal
  · rw [subjectMatches_toSubject, String.toList_ofList, shape]
    exact subjectMatches_filled _

theorem servedBy_eq
    (distinct : ∀ address ∈ addresses, ∀ other ∈ addresses,
      durable address = durable other → address = other)
    (member : address ∈ addresses) : servedBy addresses address = address := by
  unfold servedBy
  cases found :
      addresses.find? fun other => durable other = durable address with
  | none => rfl
  | some other =>
      have among := List.mem_of_find?_eq_some found
      have same : durable other = durable address := by
        simpa using List.find?_some found
      exact distinct other among address member same

/-- Subscriptions that match their own address alone isolate it. -/
theorem filter_own
    (distinct : addresses.Nodup) (matched : String → Bool)
    (exact : ∀ address ∈ addresses, matched address = true ↔ target = address)
    (member : target ∈ addresses) : addresses.filter matched = [target] := by
  have congr : addresses.filter matched =
      addresses.filter fun address => address == target := by
    apply List.filter_congr
    intro address among
    rw [Bool.eq_iff_iff, exact address among, beq_iff_eq]
    exact eq_comm
  rw [congr, List.filter_beq, List.count_eq_one_of_mem distinct member]
  rfl

theorem filter_foreign
    (matched : String → Bool)
    (exact : ∀ address ∈ addresses, matched address = true ↔ target = address)
    (absent : target ∉ addresses) : addresses.filter matched = [] := by
  apply List.filter_eq_nil_iff.mpr
  intro address among hit
  rw [exact address among] at hit
  exact absent (hit ▸ among)

theorem isolated_inProcess (addresses : List String) :
    Isolated .inProcess addresses where
  own target member := if_pos member
  foreign target absent := if_neg absent
  apart := by
    intro address _ other _ different object used shared
    rw [List.mem_singleton.mp used] at shared
    exact different (BrokerObject.slot.inj (List.mem_singleton.mp shared))

/-- The socket gets the messages of every address that it is subscribed to. -/
theorem passes_own
    (replyPrefix : String) (member : target ∈ addresses) :
    passes replyPrefix addresses (topic target) = true := by
  unfold passes
  rw [List.any_eq_true]
  exact ⟨topic target,
    List.mem_cons_of_mem _ (List.mem_map_of_mem member),
    List.isPrefixOf_iff_prefix.mpr (List.prefix_refl _)⟩

theorem isolated_zmq (replyPrefix : String) (addresses : List String) :
    Isolated (.zmq replyPrefix) addresses where
  own target member := by
    simp only [dispatched, passes_own replyPrefix member, if_true]
    rw [topic, decode_removeSep]
    exact if_pos member
  foreign target absent := by
    simp only [dispatched]
    rw [topic, decode_removeSep]
    simp [absent]
  apart := by
    intro address _ other _ different object used shared
    rw [List.mem_singleton.mp used] at shared
    have same := BrokerObject.topicFilter.inj (List.mem_singleton.mp shared)
    exact different (topic_injective same)

variable {jetStream : Bool}

theorem filterSubject_eq
    (plain : Plain (.nats jetStream) addresses)
    (member : address ∈ addresses) :
    filterSubject jetStream addresses address = toSubject address := by
  unfold filterSubject
  cases jetStream with
  | false => rfl
  | true =>
      rw [if_pos rfl, servedBy_eq (plain.2 rfl) member]

theorem isolated_nats_of_plain
    (distinct : addresses.Nodup)
    (plain : Plain (.nats jetStream) addresses) :
    Isolated (.nats jetStream) addresses := by
  have matched : ∀ target, ∀ address ∈ addresses,
      subjectMatches
          (tokens (filterSubject jetStream addresses address))
          (tokens (toSubject target)) = true ↔ target = address := by
    intro target address member
    rw [filterSubject_eq plain member]
    exact subjectMatches_iff_of_plain (plain.1 address member)
  refine ⟨?_, ?_, ?_⟩
  · intro target member
    exact filter_own distinct _ (matched target) member
  · intro target absent
    exact filter_foreign _ (matched target) absent
  · intro address member other among different object used shared
    cases jetStream with
    | false =>
        rw [List.mem_singleton.mp used] at shared
        have same := BrokerObject.subject.inj (List.mem_singleton.mp shared)
        exact different (toSubject_injective same)
    | true =>
        simp only [brokerObjects, List.mem_cons, List.not_mem_nil,
          or_false] at used shared
        rcases used with rfl | rfl
        · rcases shared with same | wrong
          · exact
              different (toSubject_injective (BrokerObject.subject.inj same))
          · cases wrong
        · rcases shared with wrong | same
          · cases wrong
          · exact different
              (plain.2 rfl address member other among
                (BrokerObject.consumer.inj same))

theorem plain_of_isolated_nats
    (isolated : Isolated (.nats jetStream) addresses) :
    Plain (.nats jetStream) addresses := by
  have durables : jetStream = true →
      ∀ address ∈ addresses, ∀ other ∈ addresses,
        durable address = durable other → address = other := by
    rintro rfl address member other among same
    by_contra different
    refine isolated.apart address member other among different
      (.consumer (durable address)) ?_ ?_
    · simp [brokerObjects]
    · simp [brokerObjects, same]
  refine ⟨?_, durables⟩
  intro address member
  cases wild : wildcard (tokens address.toList) with
  | false => rfl
  | true =>
      rcases exists_foreign_of_wildcard wild with ⟨target, other, hit⟩
      have subject :
          filterSubject jetStream addresses address = toSubject address := by
        unfold filterSubject
        cases jetStream with
        | false => rfl
        | true => rw [if_pos rfl, servedBy_eq (durables rfl) member]
      have called :
          address ∈ dispatched (.nats jetStream) addresses target := by
        apply List.mem_filter.mpr
        refine ⟨member, ?_⟩
        rw [subject]
        exact hit
      by_cases subscribed : target ∈ addresses
      · rw [isolated.own target subscribed] at called
        exact absurd (List.mem_singleton.mp called).symm other
      · rw [isolated.foreign target subscribed] at called
        cases called

/--
In process and with ZMQ, addresses are isolated whatever they are.  With NATS
they are exactly when no subscribed address has a wildcard token, and, for
JetStream, no two of them have one durable name.
-/
theorem isolated_iff_plain
    (carrier : Carrier) (distinct : addresses.Nodup) :
    Isolated carrier addresses ↔ Plain carrier addresses := by
  cases carrier with
  | inProcess => exact ⟨fun _ => trivial, fun _ => isolated_inProcess _⟩
  | zmq replyPrefix =>
      exact ⟨fun _ => trivial, fun _ => isolated_zmq replyPrefix _⟩
  | nats jetStream =>
      exact ⟨plain_of_isolated_nats, isolated_nats_of_plain distinct⟩

/-- Two plain names over JetStream. -/
theorem plain_names_isolated :
    ["billing", "orders.eu"].Nodup ∧
      (Isolated (.nats true) ["billing", "orders.eu"] ↔
        Plain (.nats true) ["billing", "orders.eu"]) ∧
      Isolated (.nats true) ["billing", "orders.eu"] := by
  have distinct : ["billing", "orders.eu"].Nodup := by decide
  have plain : Plain (.nats true) ["billing", "orders.eu"] := by
    refine ⟨by decide, fun _ => by decide⟩
  exact ⟨distinct, isolated_iff_plain _ distinct,
    (isolated_iff_plain _ distinct).mpr plain⟩

/-- An agent with the name `*` gets the messages of every other agent. -/
theorem star_hears_billing :
    ¬ ∀ (carrier : Carrier) (addresses : List String),
      addresses.Nodup → Isolated carrier addresses := by
  intro claim
  have isolated := claim (.nats false) ["*", "billing"] (by decide)
  have own := isolated.own "billing" (by decide)
  have both : dispatched (.nats false) ["*", "billing"] "billing" =
      ["*", "billing"] := by
    decide +kernel
  rw [both] at own
  exact absurd own (by decide)

end Civitas.Transport.Addresses
