import Civitas.Security.ShortWire
import Civitas.Security.Signing
import Mathlib.Data.List.Dedup

/-!
# Replay protection of one verifier

A sequence of envelopes is presented to one `MessageSigner`, which starts with
an empty nonce cache.  `verify` offers the nonce of an envelope to the cache
before it looks at the signature, so an envelope that fails the signature
check has already spent its nonce.

The law of replay protection is stated on the whole sequence, with the cache
before and after each presentation.  As long as no more genuine messages
arrive than the cache can hold, however often they are replayed, the law holds
exactly when no envelope with an unseen nonce fails the signature check.
-/

namespace Civitas.Security

open Civitas.PyValue
open Civitas.BoundedCache

/-! ## Presenting a sequence of envelopes -/

/-- One call of `verify`, with the cache before and after it. -/
structure Presentation where
  envelope : Dict
  before : NonceCache
  result : Except VerifyError Value
  after : NonceCache

/-- The envelope was accepted. -/
def Presentation.accepted (presentation : Presentation) : Bool :=
  match presentation.result with
  | .ok _ => true
  | .error _ => false

/-- One call of `verify` as a presentation. -/
def MessageSigner.present
    (signer : MessageSigner) (cache : NonceCache) (envelope : Dict) :
    Presentation where
  envelope := envelope
  before := cache
  result := (signer.verify cache envelope).1
  after := (signer.verify cache envelope).2

/-- Present the envelopes one after the other. -/
def MessageSigner.presentAll
    (signer : MessageSigner) :
    NonceCache → List Dict → List Presentation
  | _, [] => []
  | cache, envelope :: rest =>
      signer.present cache envelope ::
        signer.presentAll (signer.present cache envelope).after rest

/-! ## Nonces and genuine envelopes -/

/-- The cache key of the nonce; `none` when `verify` fails before it. -/
def MessageSigner.nonceOf
    (signer : MessageSigner) (envelope : Dict) : Option Key :=
  (signatureBlock signer.libraries.str envelope).bind
    fun block => block.nonce.key?

/-- The signature validates under the key registered for its signer. -/
def MessageSigner.genuine
    (signer : MessageSigner) (envelope : Dict) : Bool :=
  match signatureBlock signer.libraries.str envelope with
  | none => false
  | some block => signer.Validates block

/--
The nonces of the genuine envelopes, each once: a message that is replayed
counts as one.
-/
def MessageSigner.genuineNonces
    (signer : MessageSigner) (envelopes : List Dict) : List Key :=
  (envelopes.filterMap fun envelope =>
    if signer.genuine envelope
    then signer.nonceOf envelope
    else none).dedup

theorem mem_genuineNonces
    {signer : MessageSigner} {envelopes : List Dict} {envelope : Dict}
    {nonce : Key}
    (member : envelope ∈ envelopes)
    (genuine : signer.genuine envelope = true)
    (named : signer.nonceOf envelope = some nonce) :
    nonce ∈ signer.genuineNonces envelopes := by
  refine List.mem_dedup.mpr (List.mem_filterMap.mpr ⟨envelope, member, ?_⟩)
  rw [if_pos genuine, named]

/-- An envelope that fails before its nonce is read changes nothing. -/
theorem present_of_no_nonce
    {signer : MessageSigner} (cache : NonceCache) {envelope : Dict}
    (noNonce : signer.nonceOf envelope = none) :
    (signer.present cache envelope).accepted = false ∧
      (signer.present cache envelope).after = cache := by
  unfold MessageSigner.nonceOf at noNonce
  unfold MessageSigner.present Presentation.accepted MessageSigner.verify
  cases read : signatureBlock signer.libraries.str envelope with
  | none => simp
  | some block =>
      rw [read] at noNonce
      have unhashable : block.nonce.key? = none := noNonce
      simp [unhashable]

/-- An envelope whose nonce the cache holds is rejected and forgotten. -/
theorem present_of_seen
    {signer : MessageSigner} {cache : NonceCache}
    {envelope : Dict} {nonce : Key}
    (named : signer.nonceOf envelope = some nonce)
    (seen : cache.Contains nonce) :
    (signer.present cache envelope).accepted = false ∧
      (signer.present cache envelope).after = cache := by
  unfold MessageSigner.nonceOf at named
  unfold MessageSigner.present Presentation.accepted MessageSigner.verify
  cases read : signatureBlock signer.libraries.str envelope with
  | none => simp
  | some block =>
      rw [read] at named
      have hashed : block.nonce.key? = some nonce := named
      simp [hashed, Cache.offer_of_contains seen]

/-- An unseen nonce is recorded whatever the signature check says. -/
theorem present_of_fresh
    {signer : MessageSigner} {cache : NonceCache}
    {envelope : Dict} {nonce : Key}
    (strict : signer.config.strict = true)
    (named : signer.nonceOf envelope = some nonce)
    (fresh : ¬ cache.Contains nonce) :
    (signer.present cache envelope).accepted =
        signer.genuine envelope ∧
      (signer.present cache envelope).after =
        cache.append nonce fresh := by
  unfold MessageSigner.nonceOf at named
  unfold MessageSigner.present Presentation.accepted
    MessageSigner.verify MessageSigner.genuine
  cases read : signatureBlock signer.libraries.str envelope with
  | none => simp [read] at named
  | some block =>
      rw [read] at named
      have hashed : block.nonce.key? = some nonce := named
      simp only [hashed, Cache.offer_of_fresh fresh, and_true]
      cases checked : signer.checkSignature block with
      | ok msgDict =>
          have valid := (checkSignature_ok_iff strict).mp checked
          simp [valid.1]
      | error error =>
          have invalid : ¬ signer.Validates block := by
            intro valid
            rw [(checkSignature_ok_iff strict).mpr ⟨valid, rfl⟩]
              at checked
            cases checked
          simp [invalid]

/-- Acceptance needs a genuine envelope with an unseen nonce. -/
theorem accepted_inv
    {signer : MessageSigner} {cache : NonceCache} {envelope : Dict}
    (strict : signer.config.strict = true)
    (accepted : (signer.present cache envelope).accepted = true) :
    ∃ nonce,
      signer.nonceOf envelope = some nonce ∧
        ¬ cache.Contains nonce ∧
        signer.genuine envelope = true := by
  cases named : signer.nonceOf envelope with
  | none =>
      rw [(present_of_no_nonce cache named).1] at accepted
      cases accepted
  | some nonce =>
      by_cases seen : cache.Contains nonce
      · rw [(present_of_seen named seen).1] at accepted
        cases accepted
      · rw [(present_of_fresh strict named seen).1] at accepted
        exact ⟨nonce, rfl, seen, accepted⟩

/-! ## The law and its condition -/

/-- The nonces of the accepted envelopes of a run, in order. -/
def MessageSigner.acceptedNonces
    (signer : MessageSigner) (run : List Presentation) : List Key :=
  run.filterMap fun presentation =>
    if presentation.accepted
    then signer.nonceOf presentation.envelope
    else none

/--
Replay protection of a run: no envelope is accepted twice, a rejected
envelope leaves the cache unchanged, a genuine envelope is rejected only for
the nonce of an envelope accepted before it, and the nonces of accepted
envelopes stay in the cache.
-/
structure ReplaySafe
    (signer : MessageSigner) (run : List Presentation) : Prop where
  acceptedOnce :
    ∀ earlier second later,
      run = earlier ++ second :: later →
        second.accepted = true →
        ∀ first ∈ earlier,
          first.accepted = true →
            first.envelope ≠ second.envelope
  rejectedUnchanged :
    ∀ presentation ∈ run,
      presentation.accepted = false →
        presentation.after = presentation.before
  genuineAccepted :
    ∀ earlier presentation later nonce,
      run = earlier ++ presentation :: later →
        signer.genuine presentation.envelope = true →
        signer.nonceOf presentation.envelope = some nonce →
        nonce ∉ signer.acceptedNonces earlier →
          presentation.accepted = true
  acceptedRetained :
    ∀ earlier presentation later nonce,
      run = earlier ++ presentation :: later →
        nonce ∈ signer.acceptedNonces earlier →
          presentation.before.Contains nonce

/-- No envelope with an unseen nonce fails the signature check. -/
def NoForgedFreshNonce
    (signer : MessageSigner) (run : List Presentation) : Prop :=
  ∀ presentation ∈ run, ∀ nonce,
    signer.nonceOf presentation.envelope = some nonce →
      ¬ presentation.before.Contains nonce →
        signer.genuine presentation.envelope = true

theorem mem_presentAll
    {signer : MessageSigner} {cache : NonceCache}
    {envelopes : List Dict} {presentation : Presentation}
    (member : presentation ∈ signer.presentAll cache envelopes) :
    presentation =
      signer.present presentation.before presentation.envelope := by
  induction envelopes generalizing cache with
  | nil => simp [MessageSigner.presentAll] at member
  | cons envelope rest ih =>
      rcases List.mem_cons.mp member with rfl | member
      · rfl
      · exact ih member

/-- The law forbids spending the nonce of a forged envelope. -/
theorem noForgedFreshNonce_of_replaySafe
    {signer : MessageSigner} {cache : NonceCache}
    {envelopes : List Dict}
    (strict : signer.config.strict = true)
    (safe : ReplaySafe signer (signer.presentAll cache envelopes)) :
    NoForgedFreshNonce signer (signer.presentAll cache envelopes) := by
  intro presentation member nonce named fresh
  have outcome := present_of_fresh strict named fresh
  rw [← mem_presentAll member] at outcome
  by_contra forged
  have rejected : presentation.accepted = false :=
    outcome.1.trans (Bool.eq_false_iff.mpr forged)
  have unchanged :=
    safe.rejectedUnchanged presentation member rejected
  exact
    Cache.append_ne_self _ nonce fresh (by decide)
      (outcome.2.symm.trans unchanged)

/-! ## Runs within the capacity of the cache -/

section WithinCapacity

variable {signer : MessageSigner}

/-- A new nonce fits if it and the nonces held are among few enough. -/
theorem length_lt_of_fresh
    {cache : NonceCache} {allowed : List Key} {nonce : Key}
    (capacity : allowed.length ≤ nonceCacheSize)
    (held : ∀ nonce ∈ cache.entries, nonce ∈ allowed)
    (named : nonce ∈ allowed) (fresh : ¬ cache.Contains nonce) :
    cache.entries.length < nonceCacheSize := by
  have distinct : (nonce :: cache.entries).Nodup :=
    List.nodup_cons.mpr ⟨fresh, cache.nodup⟩
  have included : (nonce :: cache.entries) ⊆ allowed :=
    List.cons_subset.mpr ⟨named, held⟩
  have few := List.Nodup.length_le_of_subset distinct included
  rw [List.length_cons] at few
  exact Nat.lt_of_lt_of_le (Nat.lt_of_succ_le few) capacity

/--
One presentation under the condition either accepts and appends, or
changes nothing.
-/
theorem present_entries
    (strict : signer.config.strict = true)
    {cache : NonceCache} {envelope : Dict}
    (room :
      ∀ nonce, signer.nonceOf envelope = some nonce →
        ¬ cache.Contains nonce → signer.genuine envelope = true →
        cache.entries.length < nonceCacheSize)
    (condition :
      ∀ nonce, signer.nonceOf envelope = some nonce →
        ¬ cache.Contains nonce → signer.genuine envelope = true) :
    (signer.present cache envelope).after.entries =
      cache.entries ++
        signer.acceptedNonces [signer.present cache envelope] := by
  unfold MessageSigner.acceptedNonces
  cases named : signer.nonceOf envelope with
  | none =>
      have outcome := present_of_no_nonce cache named
      simp [outcome.1, outcome.2]
  | some nonce =>
      by_cases seen : cache.Contains nonce
      · have outcome := present_of_seen named seen
        simp [outcome.1, outcome.2]
      · have genuine := condition nonce named seen
        have outcome := present_of_fresh strict named seen
        have same :
            (signer.present cache envelope).envelope = envelope :=
          rfl
        simp [outcome.1, outcome.2, genuine, same, named,
          Cache.append_entries seen (room nonce named seen genuine)]

/--
The cache before each presentation holds what it held at the start and the
nonces accepted since.
-/
theorem before_entries
    (strict : signer.config.strict = true)
    {envelopes : List Dict} {cache : NonceCache} {allowed : List Key}
    (capacity : allowed.length ≤ nonceCacheSize)
    (held : ∀ nonce ∈ cache.entries, nonce ∈ allowed)
    (arriving :
      ∀ envelope ∈ envelopes, ∀ nonce,
        signer.genuine envelope = true →
          signer.nonceOf envelope = some nonce → nonce ∈ allowed)
    (condition :
      NoForgedFreshNonce signer (signer.presentAll cache envelopes)) :
    ∀ earlier presentation later,
      signer.presentAll cache envelopes =
          earlier ++ presentation :: later →
        presentation.before.entries =
          cache.entries ++ signer.acceptedNonces earlier := by
  induction envelopes generalizing cache with
  | nil => simp [MessageSigner.presentAll]
  | cons envelope rest ih =>
      intro earlier presentation later split
      have advanced :
          (signer.present cache envelope).after.entries =
            cache.entries ++
              signer.acceptedNonces [signer.present cache envelope] := by
        refine present_entries strict ?_
          (condition (signer.present cache envelope) List.mem_cons_self)
        intro nonce named fresh genuine
        exact
          length_lt_of_fresh capacity held
            (arriving envelope List.mem_cons_self nonce genuine named) fresh
      cases earlier with
      | nil =>
          have first :
              signer.present cache envelope = presentation :=
            (List.cons.inj split).1
          rw [← first]
          simp [MessageSigner.present, MessageSigner.acceptedNonces]
      | cons head earlier =>
          rcases List.cons.inj split with ⟨rfl, restSplit⟩
          have restHeld :
              ∀ nonce ∈ (signer.present cache envelope).after.entries,
                nonce ∈ allowed := by
            intro nonce member
            rw [advanced, List.mem_append] at member
            rcases member with member | member
            · exact held nonce member
            · rcases List.mem_filterMap.mp member with ⟨_, only, named⟩
              cases List.mem_singleton.mp only
              split at named
              · rename_i accepted
                rcases accepted_inv strict accepted with ⟨_, _, _, genuine⟩
                exact
                  arriving envelope List.mem_cons_self nonce genuine named
              · cases named
          have restCondition :
              NoForgedFreshNonce signer
                (signer.presentAll
                  (signer.present cache envelope).after rest) := by
            intro other member
            exact condition other (List.mem_cons_of_mem _ member)
          rw [ih restHeld
            (fun other member =>
              arriving other (List.mem_cons_of_mem _ member))
            restCondition earlier presentation later restSplit, advanced,
            List.append_assoc]
          simp [MessageSigner.acceptedNonces, ← List.filterMap_append]

/-- Within the capacity, the condition gives the whole law. -/
theorem replaySafe_of_noForgedFreshNonce
    (strict : signer.config.strict = true)
    {envelopes : List Dict}
    (room : (signer.genuineNonces envelopes).length ≤ nonceCacheSize)
    (condition :
      NoForgedFreshNonce signer
        (signer.presentAll Cache.empty envelopes)) :
    ReplaySafe signer (signer.presentAll Cache.empty envelopes) := by
  have history :
      ∀ earlier presentation later,
        signer.presentAll Cache.empty envelopes =
            earlier ++ presentation :: later →
          presentation.before.entries =
            signer.acceptedNonces earlier := by
    intro earlier presentation later split
    simpa [Cache.empty] using
      before_entries strict room (by simp [Cache.empty])
        (fun _ member _ => mem_genuineNonces member)
        condition earlier presentation later split
  refine ⟨?_, ?_, ?_, ?_⟩
  · intro earlier second later split secondAccepted
      first firstEarlier firstAccepted same
    have member :
        second ∈ signer.presentAll Cache.empty envelopes := by
      simp [split]
    rw [mem_presentAll member] at secondAccepted
    rcases accepted_inv strict secondAccepted with ⟨nonce, named, fresh, _⟩
    apply fresh
    rw [Cache.Contains, history earlier second later split]
    refine List.mem_filterMap.mpr ⟨first, firstEarlier, ?_⟩
    simp [firstAccepted, same, named]
  · intro presentation member rejected
    cases named : signer.nonceOf presentation.envelope with
    | none =>
        have outcome :=
          present_of_no_nonce presentation.before named
        rw [← mem_presentAll member] at outcome
        exact outcome.2
    | some nonce =>
        by_cases seen : presentation.before.Contains nonce
        · have outcome := present_of_seen named seen
          rw [← mem_presentAll member] at outcome
          exact outcome.2
        · have outcome := present_of_fresh strict named seen
          rw [← mem_presentAll member] at outcome
          rw [outcome.1, condition presentation member nonce named seen]
            at rejected
          cases rejected
  · intro earlier presentation later nonce split genuine named unused
    have member :
        presentation ∈ signer.presentAll Cache.empty envelopes := by
      simp [split]
    have fresh : ¬ presentation.before.Contains nonce := by
      intro seen
      rw [Cache.Contains, history earlier presentation later split]
        at seen
      exact unused seen
    have outcome := present_of_fresh strict named fresh
    rw [← mem_presentAll member] at outcome
    exact outcome.1.trans genuine
  · intro earlier presentation later nonce split used
    rw [Cache.Contains, history earlier presentation later split]
    exact used

end WithinCapacity

/-- An order of `admin`, sealed with the key of `owner`. -/
def orderSealedBy (owner : String) : Dict :=
  sealedEnvelope owner "admin" (List.replicate 16 9)
    (dictOf
      [("type", .str "order"), ("sender", .str "admin"),
        ("recipient", .str "billing")])

/-- A strict receiver that trusts the key of `admin`. -/
def orderReceiver : MessageSigner :=
  strictReceiver [] ["admin"]

end Civitas.Security
