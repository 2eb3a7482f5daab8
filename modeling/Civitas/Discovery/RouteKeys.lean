import Civitas.Discovery.Ownership
import Mathlib.Data.List.Induction

/-!
# Routes and keys

`_on_remote_register` stores the announced public key whenever
`register_remote` returns, also when it returned without applying the
announcement, and it keeps the entry when the announced key does not decode.
The keys and the routes agree over a whole sequence of deliveries exactly
when neither of the two happens with an effect.
-/

namespace Civitas.Discovery

open Civitas.PyValue
open Civitas.Security
open Function (update)

variable {env : Environment}

/-- Every announced key is the one stored for its name. -/
def KeysAgree (receiver : Receiver env) : Prop :=
  ∀ name entry, receiver.registry.remote name = some entry →
    entry.pubkey ≠ "" →
      ∃ key, env.decodeKey entry.pubkey = some key ∧
        receiver.keys name = some key

/-- `register_remote` stores the announced entry. -/
def Receiver.applies
    (receiver : Receiver env) (opened : Opened) : Bool :=
  receiver.registry.accepts (opened.announcement env) &&
    (match (opened.announcement env).entry env.python with
      | .ok _ => true
      | .error _ => false)

/-- A register announcement that is not applied leaves the keys alone. -/
def KeysKept (receiver : Receiver env) (delivery : Delivery) : Prop :=
  ∀ opened, receiver.opens delivery.data = some opened →
    delivery.topic = .register →
    receiver.applies opened = false →
      (receiver.handle delivery).keys = receiver.keys

/--
A register announcement that is applied with a key that does not decode, or
ignored with a key that decodes to another one than the stored.
-/
def Receiver.Diverges
    (receiver : Receiver env) (delivery : Delivery) : Prop :=
  ∃ opened, receiver.opens delivery.data = some opened ∧
    delivery.topic = .register ∧
    (opened.announcement env).pubkey ≠ "" ∧
    (receiver.applies opened = true ∧
        env.decodeKey (opened.announcement env).pubkey = none ∨
      receiver.registry.ignores (opened.announcement env) = true ∧
        ∃ key, env.decodeKey (opened.announcement env).pubkey = some key ∧
          receiver.keys opened.name ≠ some key)

/-! ## One delivery -/

/-- What a delivery does to the registry and the keys. -/
inductive Handled
    (receiver : Receiver env) (delivery : Delivery) :
    LocalRegistry Value → (Key → Option env.libraries.VerifyKey) →
      Prop where
  | dropped :
      receiver.opens delivery.data = none →
        Handled receiver delivery receiver.registry receiver.keys
  | withdrawn (opened : Opened) :
      receiver.opens delivery.data = some opened →
      delivery.topic = .deregister →
        Handled receiver delivery
          (receiver.registry.deregisterRemote opened.name opened.epoch)
          receiver.keys
  | rejected (opened : Opened) :
      receiver.opens delivery.data = some opened →
      delivery.topic = .register →
      receiver.applies opened = false →
      receiver.registry.ignores (opened.announcement env) = false →
        Handled receiver delivery receiver.registry receiver.keys
  | ignored (opened : Opened) :
      receiver.opens delivery.data = some opened →
      delivery.topic = .register →
      receiver.applies opened = false →
      receiver.registry.ignores (opened.announcement env) = true →
        Handled receiver delivery receiver.registry
          (env.storeKey receiver.keys opened.name
            (opened.announcement env).pubkey)
  | applied (opened : Opened) (entry : RoutingEntry Value) :
      receiver.opens delivery.data = some opened →
      delivery.topic = .register →
      receiver.applies opened = true →
      Announces (opened.announcement env) entry →
        Handled receiver delivery (receiver.registry.store entry)
          (env.storeKey receiver.keys opened.name
            (opened.announcement env).pubkey)

/-- An accepted announcement is not ignored. -/
theorem not_ignores_of_accepts
    {registry : LocalRegistry Value} {announcement : Announcement Value}
    (accepted : registry.accepts announcement = true) :
    registry.ignores announcement = false := by
  unfold LocalRegistry.accepts at accepted
  unfold LocalRegistry.ignores
  cases found : registry.entries announcement.name with
  | none =>
      have unspent :
          registry.spent announcement.name announcement.epoch = false := by
        simpa [found] using accepted
      have fresh :
          registry.stale announcement.name announcement.epoch = false := by
        by_contra stale
        rw [spent_of_stale (by simpa using stale)] at unspent
        cases unspent
      simp [fresh, unspent]
  | some existing =>
      simp only [found, Bool.and_eq_true, Bool.not_eq_true',
        decide_eq_true_eq] at accepted
      simp [accepted.1.1.1, not_le.mpr accepted.2]

theorem handled_of_handle
    (receiver : Receiver env) (delivery : Delivery) :
    Handled receiver delivery
      (receiver.handle delivery).registry
      (receiver.handle delivery).keys := by
  unfold Receiver.handle
  cases opens : receiver.opens delivery.data with
  | none => exact .dropped opens
  | some opened =>
      cases topic : delivery.topic with
      | deregister => exact .withdrawn opened opens topic
      | register =>
          simp only [Receiver.applyRegister, Receiver.afterOpening]
          cases accepted :
              receiver.registry.accepts (opened.announcement env) with
          | false =>
              have unapplied : receiver.applies opened = false := by
                simp [Receiver.applies, accepted]
              cases ignored :
                  receiver.registry.ignores (opened.announcement env) with
              | true =>
                  rw [registerRemote_of_ignores env.python ignored]
                  exact .ignored opened opens topic unapplied ignored
              | false =>
                  rcases registerRemote_of_rejects env.python accepted
                      ignored with ⟨error, raised, -⟩
                  rw [raised]
                  exact .rejected opened opens topic unapplied ignored
          | true =>
              rw [registerRemote_of_accepts env.python accepted,
                LocalRegistry.place]
              cases built :
                  (opened.announcement env).entry env.python with
              | error error =>
                  exact
                    .rejected opened opens topic
                      (by simp [Receiver.applies, built])
                      (not_ignores_of_accepts accepted)
              | ok entry =>
                  exact
                    .applied opened entry opens topic
                      (by simp [Receiver.applies, accepted, built])
                      (announces_of_entry built)

/-! ### Lookups after a change -/

theorem remote_store
    {registry : LocalRegistry Value} {entry : RoutingEntry Value}
    (remote : entry.isLocal = false) (name : Key) :
    (registry.store entry).remote name =
      if name = entry.name then some entry else registry.remote name := by
  by_cases named : name = entry.name
  · simp [LocalRegistry.remote, LocalRegistry.store, named, remote,
      Option.filter_some]
  · simp [LocalRegistry.remote, LocalRegistry.store, named]

theorem remote_of_withdrawal
    {registry : LocalRegistry Value} {name other : Key} {epoch : Int}
    {entry : RoutingEntry Value}
    (present :
      (registry.deregisterRemote other epoch).remote name = some entry) :
    registry.remote name = some entry := by
  cases stale : registry.stale other epoch with
  | true => simpa [LocalRegistry.deregisterRemote, stale] using present
  | false =>
      by_cases named : name = other
      · subst named
        rw [remote_of_deregisterRemote stale] at present
        cases present
      · have same :
            (registry.deregisterRemote other epoch).entries name =
              registry.entries name := by
          cases remote : (registry.remote other).isSome with
          | true =>
              simp [LocalRegistry.deregisterRemote, stale, remote, named]
          | false => simp [LocalRegistry.deregisterRemote, stale, remote]
        rw [LocalRegistry.remote, same] at present
        exact present

section

variable {keys : Key → Option env.libraries.VerifyKey}
  {name : Key} {pubkey : String}

theorem storeKey_of_decodes
    {key : env.libraries.VerifyKey}
    (given : pubkey ≠ "") (decoded : env.decodeKey pubkey = some key) :
    env.storeKey keys name pubkey = update keys name (some key) := by
  simp [Environment.storeKey, given, decoded]

theorem storeKey_of_unusable
    (unusable : pubkey = "" ∨ env.decodeKey pubkey = none) :
    env.storeKey keys name pubkey = keys := by
  unfold Environment.storeKey
  split_ifs with empty
  · rfl
  · rcases unusable with none | undecoded
    · exact absurd none empty
    · rw [undecoded]

/-- A key stored for one name does not touch another. -/
theorem storeKey_of_ne
    {other : Key} (different : other ≠ name) :
    env.storeKey keys name pubkey other = keys other := by
  unfold Environment.storeKey
  split_ifs
  · rfl
  · cases env.decodeKey pubkey with
    | none => rfl
    | some key => simp [different]

end

/-! ### Agreement over a delivery -/

/-- The keys stay put when an ignored announcement does not diverge. -/
theorem storeKey_of_ignored
    {receiver : Receiver env} {delivery : Delivery} {opened : Opened}
    (steady : ¬ receiver.Diverges delivery)
    (opens : receiver.opens delivery.data = some opened)
    (topic : delivery.topic = .register)
    (ignored :
      receiver.registry.ignores (opened.announcement env) = true) :
    env.storeKey receiver.keys opened.name
      (opened.announcement env).pubkey = receiver.keys := by
  by_cases given : (opened.announcement env).pubkey = ""
  · exact storeKey_of_unusable (.inl given)
  · cases decoded : env.decodeKey (opened.announcement env).pubkey with
    | none => exact storeKey_of_unusable (.inr decoded)
    | some key =>
        have stored : receiver.keys opened.name = some key := by
          by_contra other
          exact
            steady
              ⟨opened, opens, topic, given,
                .inr ⟨ignored, key, decoded, other⟩⟩
        rw [storeKey_of_decodes given decoded, ← stored]
        exact Function.update_eq_self _ _

theorem keysAgree_of_handle
    {receiver : Receiver env} {delivery : Delivery}
    (agree : KeysAgree receiver)
    (steady : ¬ receiver.Diverges delivery) :
    KeysAgree (receiver.handle delivery) := by
  intro name entry present given
  have handled := handled_of_handle receiver delivery
  generalize (receiver.handle delivery).registry = registry
    at handled present
  generalize (receiver.handle delivery).keys = keys at handled ⊢
  cases handled with
  | dropped => exact agree name entry present given
  | withdrawn opened =>
      exact agree name entry (remote_of_withdrawal present) given
  | rejected => exact agree name entry present given
  | ignored opened opens topic _ ignored =>
      rw [storeKey_of_ignored steady opens topic ignored]
      exact agree name entry present given
  | applied opened stored opens topic applies announces =>
      rw [remote_store announces.remote, announces.name] at present
      split_ifs at present with named
      · cases present
        rw [announces.pubkey] at given ⊢
        cases decoded :
            env.decodeKey (opened.announcement env).pubkey with
        | none =>
            exact
              absurd
                ⟨opened, opens, topic, given, .inl ⟨applies, decoded⟩⟩
                steady
        | some key =>
            refine ⟨key, rfl, ?_⟩
            have here : name = opened.name := named
            rw [storeKey_of_decodes given decoded, here]
            exact Function.update_self _ _ _
      · have elsewhere : name ≠ opened.name := named
        rw [storeKey_of_ne elsewhere]
        exact agree name entry present given

theorem keysKept_of_handle
    {receiver : Receiver env} {delivery : Delivery}
    (steady : ¬ receiver.Diverges delivery) :
    KeysKept receiver delivery := by
  intro opened opens topic unapplied
  have handled := handled_of_handle receiver delivery
  generalize (receiver.handle delivery).registry = registry at handled
  generalize (receiver.handle delivery).keys = keys at handled ⊢
  cases handled with
  | dropped => rfl
  | withdrawn => rfl
  | rejected => rfl
  | ignored other opens topic _ ignored =>
      exact storeKey_of_ignored steady opens topic ignored
  | applied other _ otherOpens _ applies =>
      rw [opens] at otherOpens
      cases otherOpens
      rw [unapplied] at applies
      cases applies

/-- A delivery that diverges breaks the agreement or changes a kept key. -/
theorem not_diverges_of_handle
    {receiver : Receiver env} {delivery : Delivery}
    (agree : KeysAgree (receiver.handle delivery))
    (kept : KeysKept receiver delivery) :
    ¬ receiver.Diverges delivery := by
  rintro ⟨opened, opens, topic, given, reason⟩
  have handled := handled_of_handle receiver delivery
  unfold KeysAgree at agree
  have keep := kept opened opens topic
  generalize (receiver.handle delivery).registry = registry
    at handled agree
  generalize (receiver.handle delivery).keys = keys at handled agree keep
  cases handled with
  | dropped none =>
      rw [opens] at none
      cases none
  | withdrawn _ _ other =>
      rw [topic] at other
      cases other
  | rejected other otherOpens _ unapplied noticed =>
      rw [opens] at otherOpens
      cases otherOpens
      rcases reason with ⟨applies, -⟩ | ⟨ignored, -⟩
      · rw [unapplied] at applies
        cases applies
      · rw [noticed] at ignored
        cases ignored
  | ignored other otherOpens _ unapplied ignored =>
      rw [opens] at otherOpens
      cases otherOpens
      rcases reason with ⟨applies, -⟩ | ⟨-, key, decoded, differs⟩
      · rw [unapplied] at applies
        cases applies
      · have same := keep unapplied
        rw [storeKey_of_decodes given decoded] at same
        exact differs (by rw [← same]; exact Function.update_self _ _ _)
  | applied other stored otherOpens _ applies announces =>
      rw [opens] at otherOpens
      cases otherOpens
      rcases reason with ⟨-, undecoded⟩ | ⟨ignored, -⟩
      · have present :
            (receiver.registry.store stored).remote stored.name =
              some stored := by
          rw [remote_store announces.remote, if_pos rfl]
        rcases agree stored.name stored present
            (by rw [announces.pubkey]; exact given) with
          ⟨key, decoded, -⟩
        rw [announces.pubkey, undecoded] at decoded
        cases decoded
      · have accepted :
            receiver.registry.accepts (opened.announcement env) = true :=
          (Bool.and_eq_true_iff.mp applies).1
        rw [not_ignores_of_accepts accepted] at ignored
        cases ignored

/-! ## Whole sequences -/

/--
From a receiver whose routes and keys agree, they agree after every delivery
of a sequence, and no announcement that is not applied changes a key, exactly
when no delivery diverges.
-/
theorem routes_and_keys_agree_iff
    (receiver : Receiver env) (deliveries : List Delivery)
    (start : KeysAgree receiver) :
    ((∀ first, first <+: deliveries →
        KeysAgree (receiver.handleAll first)) ∧
      ∀ first delivery, first ++ [delivery] <+: deliveries →
        KeysKept (receiver.handleAll first) delivery) ↔
      ∀ first delivery, first ++ [delivery] <+: deliveries →
        ¬ (receiver.handleAll first).Diverges delivery := by
  constructor
  · rintro ⟨agree, kept⟩ first delivery within
    have after := agree _ within
    rw [handleAll_snoc] at after
    exact not_diverges_of_handle after (kept first delivery within)
  · intro steady
    refine ⟨?_, fun first delivery within =>
      keysKept_of_handle (steady first delivery within)⟩
    intro first
    induction first using List.reverseRecOn with
    | nil => exact fun _ => start
    | append_singleton first delivery ih =>
        intro within
        rw [handleAll_snoc]
        exact
          keysAgree_of_handle
            (ih ((List.prefix_append _ _).trans within))
            (steady first delivery within)

/-! ## An incarnation and its predecessor -/

/-- An announcement of `w1` by `workers`, with a public key, signed. -/
def keyedRegister (nonce : UInt8) (epoch : Int) (pubkey : String) : Dict :=
  sealedEnvelope "workers" "workers" (List.replicate 16 nonce)
    (dictOf
      [("sender", .str "workers"),
        ("payload", .dict (dictOf
          [("name", .str "w1"), ("epoch", .int epoch),
            ("pubkey", .str pubkey)]))])

/-- The announcement of the second incarnation of `w1`. -/
def newerRegister : Dict :=
  keyedRegister 2 2 "AQEBAQEBAQEBAQEBAQEBAQEBAQEBAQEBAQEBAQEBAQE="

/-- The announcement of the first incarnation, delivered late. -/
def olderRegister : Dict :=
  keyedRegister 1 1 "AAAAAAAAAAAAAAAAAAAAAAAAAAAAAAAAAAAAAAAAAAA="

/-- A receiver that trusts `workers` and has heard nothing yet. -/
def keyedReceiver :
    Receiver (shortEnvironment [newerRegister, olderRegister]) :=
  trusting [newerRegister, olderRegister] ["workers"]

/-- The keys of the short wire format are texts. -/
def keyText
    {wire : List Dict}
    (key : Option (shortEnvironment wire).libraries.VerifyKey) :
    Option String :=
  key

/-- A receiver without remote entries agrees with its keys. -/
theorem routes_and_keys_agree_at_start :
    KeysAgree keyedReceiver ∧
      (((∀ first, first <+: [deliver .register newerRegister] →
          KeysAgree (keyedReceiver.handleAll first)) ∧
        ∀ first delivery,
          first ++ [delivery] <+: [deliver .register newerRegister] →
            KeysKept (keyedReceiver.handleAll first) delivery) ↔
        ∀ first delivery,
          first ++ [delivery] <+: [deliver .register newerRegister] →
            ¬ (keyedReceiver.handleAll first).Diverges delivery) := by
  have start : KeysAgree keyedReceiver := by
    intro name entry present
    cases present
  exact ⟨start, routes_and_keys_agree_iff _ _ start⟩

/-- The late announcement is dropped as stale, and its key is stored. -/
theorem stale_announcement_replaces_key :
    ¬ KeysAgree
      (keyedReceiver.handleAll
        [deliver .register newerRegister,
          deliver .register olderRegister]) := by
  intro agree
  have announced :
      ((keyedReceiver.handleAll
        [deliver .register newerRegister,
          deliver .register olderRegister]).registry.remote
            (.str "w1")).map RoutingEntry.pubkey =
        some "AQEBAQEBAQEBAQEBAQEBAQEBAQEBAQEBAQEBAQEBAQE=" := by
    decide +kernel
  rcases Option.map_eq_some_iff.mp announced with ⟨entry, present, carried⟩
  rcases agree (.str "w1") entry present (by rw [carried]; decide) with
    ⟨key, decoded, stored⟩
  rw [carried, ← stored] at decoded
  have differs :
      keyText
          ((shortEnvironment [newerRegister, olderRegister]).decodeKey
            "AQEBAQEBAQEBAQEBAQEBAQEBAQEBAQEBAQEBAQEBAQE=") ≠
        keyText
          ((keyedReceiver.handleAll
            [deliver .register newerRegister,
              deliver .register olderRegister]).keys (.str "w1")) := by
    decide +kernel
  exact differs (congrArg keyText decoded)

end Civitas.Discovery
