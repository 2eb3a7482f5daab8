import Civitas.PyValue
import Civitas.SlidingWindow
import Mathlib.Algebra.Order.Ring.Rat
import Mathlib.Logic.Function.Basic

/-!
# The rate limiter

`RateLimiter` of `gateway/ratelimit.py`: for each client the times of its
allowed requests, pruned on each call of that client.  The times are read from
`time.monotonic()` and do not decrease along a history; they are exact numbers.

The declarative count goes over all requests that were ever allowed.
-/

namespace Civitas.Gateway

open Civitas.PyValue
open Civitas.SlidingWindow

/-! ## The server -/

/-- `RateLimiter`, with `_max`, `_window` and `_hits`. -/
structure RateLimiter where
  maxRequests : Int := 100
  windowSeconds : ℚ := 60
  hits : String → List ℚ := fun _ => []

/-- What `handle_call` returns. -/
structure RateVerdict where
  allowed : Bool
  remaining : Int
  retryAfter : Int
deriving DecidableEq

/-- A call of the limiter, with the time that it reads. -/
structure RateRequest where
  payload : Dict
  now : ℚ

/-- `str(payload.get("client_id", ""))`. -/
def RateRequest.clientId
    (str : StrFunction) (request : RateRequest) : String :=
  str.render (field request.payload "client_id" (.str ""))

namespace RateLimiter

variable (str : StrFunction)

/-- `handle_call`. -/
def handleCall (limiter : RateLimiter) (request : RateRequest) :
    RateLimiter × RateVerdict :=
  let clientId := request.clientId str
  let cutoff := request.now - limiter.windowSeconds
  let recent := (limiter.hits clientId).filter fun time => cutoff ≤ time
  let allowed : Bool := (recent.length : Int) < limiter.maxRequests
  let kept := if allowed then recent ++ [request.now] else recent
  ({ limiter with hits := Function.update limiter.hits clientId kept },
    { allowed := allowed
      remaining := max 0 (limiter.maxRequests - kept.length)
      -- `int()` cuts the fraction off
      retryAfter := limiter.windowSeconds.num.tdiv limiter.windowSeconds.den })

/-- The limiter after a history of calls. -/
def after (limiter : RateLimiter) (history : List RateRequest) :
    RateLimiter :=
  history.foldl (fun limiter request => (limiter.handleCall str request).1)
    limiter

/-- The calls of a history with their answers. -/
def serve :
    RateLimiter → List RateRequest → List (RateRequest × RateVerdict)
  | _, [] => []
  | limiter, request :: rest =>
      let answered := limiter.handleCall str request
      (request, answered.2) :: serve answered.1 rest

end RateLimiter

/-! ## What is expected -/

variable (str : StrFunction)

/-- The client that a payload names; without a name it is the empty text. -/
def RateRequest.client (request : RateRequest) : String :=
  match field? request.payload "client_id" with
  | some name => str.render name
  | none => ""

/-- The times at which requests of a client were allowed. -/
def allowedTimes
    (client : String) (log : List (RateRequest × RateVerdict)) : List ℚ :=
  log.filterMap fun entry =>
    if entry.2.allowed = true ∧ entry.1.client str = client
    then some entry.1.now else none

/-- How many requests of a client were allowed between two times. -/
def allowedBetween
    (client : String) (first last : ℚ)
    (log : List (RateRequest × RateVerdict)) : Nat :=
  (allowedTimes str client log).countP fun time =>
    decide (first ≤ time ∧ time ≤ last)

/-- The answers to a history are those of an exact sliding window. -/
structure ExactlyLimited
    (fresh : RateLimiter) (history : List RateRequest) : Prop where
  allowed : ∀ earlier request later,
    history = earlier ++ request :: later →
      (((fresh.after str earlier).handleCall str request).2.allowed = true ↔
        (allowedBetween str (request.client str)
            (request.now - fresh.windowSeconds) request.now
            (fresh.serve str earlier) : Int) <
          fresh.maxRequests)
  remaining : ∀ earlier request later,
    history = earlier ++ request :: later →
      let verdict := ((fresh.after str earlier).handleCall str request).2
      let spent : Int :=
        allowedBetween str (request.client str)
            (request.now - fresh.windowSeconds) request.now
            (fresh.serve str earlier) +
          if verdict.allowed then 1 else 0
      0 ≤ verdict.remaining ∧
        verdict.remaining = max 0 (fresh.maxRequests - spent) ∧
        (0 ≤ fresh.maxRequests →
          verdict.remaining = fresh.maxRequests - spent)
  bounded : ∀ client first,
    (allowedBetween str client first (first + fresh.windowSeconds)
        (fresh.serve str history) : Int) ≤
      max 0 fresh.maxRequests
  undelayed : ∀ earlier denied later,
    history = earlier ++ denied :: later →
      ((fresh.after str earlier).handleCall str denied).2.allowed = false →
        fresh.serve str (earlier ++ later) =
          (fresh.serve str history).eraseIdx earlier.length
  independent : ∀ client,
    (fresh.serve str history).filter
        (fun entry => entry.1.client str = client) =
      fresh.serve str
        (history.filter fun request => request.client str = client)

/-! ## One call -/

/-- The requests that count against a new one. -/
def rateWindow (windowSeconds : ℚ) : Window ℚ where
  counts now earlier := now - windowSeconds ≤ earlier
  antitone := by
    intro now later earlier order counted
    have recent : later - windowSeconds ≤ earlier :=
      of_decide_eq_true counted
    exact decide_eq_true ((sub_le_sub_right order _).trans recent)

namespace RateLimiter

variable {str} {limiter other fresh : RateLimiter}

/-- The requests that count against a new one of a limiter. -/
def window (limiter : RateLimiter) : Window ℚ :=
  rateWindow limiter.windowSeconds

/-- The limiter files a request under the client that it names. -/
theorem clientId_eq_client (request : RateRequest) :
    request.clientId str = request.client str := by
  unfold RateRequest.clientId RateRequest.client field
  cases field? request.payload "client_id" with
  | none => exact str.render_str ""
  | some name => rfl

theorem handleCall_allowed (request : RateRequest) :
    (limiter.handleCall str request).2.allowed =
      limiter.window.admits limiter.maxRequests request.now
        (limiter.hits (request.client str)) := by
  simp only [← clientId_eq_client]
  rfl

/-- A call prunes the times of its client, and of no other. -/
theorem handleCall_hits (request : RateRequest) :
    (limiter.handleCall str request).1.hits =
      Function.update limiter.hits (request.client str)
        (limiter.window.request limiter.maxRequests request.now
          (limiter.hits (request.client str))) := by
  simp only [← clientId_eq_client]
  rfl

theorem after_append
    (history later : List RateRequest) :
    limiter.after str (history ++ later) =
      (limiter.after str history).after str later :=
  List.foldl_append

theorem serve_append
    (history later : List RateRequest) :
    limiter.serve str (history ++ later) =
      limiter.serve str history ++
        (limiter.after str history).serve str later := by
  induction history generalizing limiter with
  | nil => rfl
  | cons request rest ih =>
      simp only [List.cons_append, serve]
      rw [ih]
      rfl

theorem serve_length (history : List RateRequest) :
    (limiter.serve str history).length = history.length := by
  induction history generalizing limiter with
  | nil => rfl
  | cons request rest ih => simp only [serve, List.length_cons, ih]

/-- No call changes what the limiter was built with. -/
theorem after_config (history : List RateRequest) :
    (limiter.after str history).maxRequests = limiter.maxRequests ∧
      (limiter.after str history).windowSeconds = limiter.windowSeconds := by
  induction history generalizing limiter with
  | nil => exact ⟨rfl, rfl⟩
  | cons request rest ih => exact ih

/-! ## Limiters that answer alike -/

/-- From a time on, two limiters answer the clients of a kind alike. -/
structure Alike
    (clients : String → Prop) (since : ℚ)
    (limiter other : RateLimiter) : Prop where
  maxRequests : limiter.maxRequests = other.maxRequests
  windowSeconds : limiter.windowSeconds = other.windowSeconds
  hits : ∀ client, clients client →
    limiter.window.Agree since (limiter.hits client) (other.hits client)

variable {clients : String → Prop} {since : ℚ}

theorem Alike.refl (limiter : RateLimiter) :
    Alike clients since limiter limiter where
  maxRequests := rfl
  windowSeconds := rfl
  hits client _ := .refl since (limiter.hits client)

theorem Alike.window
    (alike : Alike clients since limiter other) :
    limiter.window = other.window :=
  congrArg rateWindow alike.windowSeconds

/-- One call is answered alike, and leaves the limiters alike. -/
theorem Alike.handleCall
    (alike : Alike clients since limiter other) {request : RateRequest}
    (order : since ≤ request.now)
    (known : clients (request.client str)) :
    (limiter.handleCall str request).2 = (other.handleCall str request).2 ∧
      Alike clients request.now
        (limiter.handleCall str request).1
        (other.handleCall str request).1 := by
  have agree := alike.hits _ known
  have pruned := agree request.now order
  rcases limiter with ⟨maxRequests, windowSeconds, hits⟩
  rcases other with ⟨otherMax, otherWindow, otherHits⟩
  cases alike.maxRequests
  cases alike.windowSeconds
  have recent :
      ((hits (request.client str)).filter fun time =>
          request.now - windowSeconds ≤ time) =
        (otherHits (request.client str)).filter fun time =>
          request.now - windowSeconds ≤ time :=
    pruned
  refine ⟨?_, rfl, rfl, ?_⟩
  · simp only [RateLimiter.handleCall, clientId_eq_client, recent]
  · intro client named
    simp only [RateLimiter.handleCall, clientId_eq_client, recent]
    by_cases own : client = request.client str
    · subst own
      rw [Function.update_self, Function.update_self]
      exact .refl _ _
    · rw [Function.update_of_ne own, Function.update_of_ne own]
      exact (alike.hits client named).mono order

/-- A call of another client is as if it had not been made. -/
theorem Alike.skip
    (alike : Alike clients since limiter other) {request : RateRequest}
    (order : since ≤ request.now)
    (foreign : ¬ clients (request.client str)) :
    Alike clients request.now (limiter.handleCall str request).1 other where
  maxRequests := alike.maxRequests
  windowSeconds := alike.windowSeconds
  hits client named := by
    rw [handleCall_hits]
    have apart : client ≠ request.client str := by
      intro same
      exact foreign (same ▸ named)
    rw [Function.update_of_ne apart]
    exact (alike.hits client named).mono order

/-- A denied call is as if it had not been made. -/
theorem alike_of_denied
    {request : RateRequest}
    (denied : (limiter.handleCall str request).2.allowed = false) :
    Alike clients request.now (limiter.handleCall str request).1 limiter where
  maxRequests := rfl
  windowSeconds := rfl
  hits client _ := by
    rw [handleCall_hits]
    by_cases own : client = request.client str
    · subst own
      rw [Function.update_self]
      rw [handleCall_allowed] at denied
      exact Window.agree_request_of_refused denied
    · rw [Function.update_of_ne own]
      exact .refl _ _

/--
From limiters alike for some clients, the calls of these clients are answered
alike, whether or not the others make theirs.
-/
theorem Alike.serve [DecidablePred clients]
    (alike : Alike clients since limiter other)
    {history : List RateRequest}
    (ordered : history.Pairwise fun earlier later => earlier.now ≤ later.now)
    (order : ∀ request ∈ history, since ≤ request.now) :
    (limiter.serve str history).filter
        (fun entry => clients (entry.1.client str)) =
      other.serve str
        (history.filter fun request => clients (request.client str)) := by
  induction history generalizing limiter other since with
  | nil => rfl
  | cons request rest ih =>
      rw [List.pairwise_cons] at ordered
      have first := order request List.mem_cons_self
      by_cases known : clients (request.client str)
      · rcases alike.handleCall first known with ⟨same, next⟩
        rw [List.filter_cons_of_pos (by simpa using known)]
        simp only [RateLimiter.serve]
        rw [List.filter_cons_of_pos (by simpa using known), same,
          ih next ordered.2 ordered.1]
      · rw [List.filter_cons_of_neg (by simpa using known)]
        simp only [RateLimiter.serve]
        rw [List.filter_cons_of_neg (by simpa using known)]
        exact ih (alike.skip first known) ordered.2 ordered.1

/-- Alike for all clients, two limiters answer a history alike. -/
theorem Alike.serve_eq
    (alike : Alike (fun _ => True) since limiter other)
    {history : List RateRequest}
    (ordered : history.Pairwise fun earlier later => earlier.now ≤ later.now)
    (order : ∀ request ∈ history, since ≤ request.now) :
    limiter.serve str history = other.serve str history := by
  have served :
      (limiter.serve str history).filter (fun _ => decide True) =
        other.serve str (history.filter fun _ => decide True) :=
    alike.serve ordered order
  rwa [List.filter_eq_self.mpr (by simp),
    List.filter_eq_self.mpr (by simp)] at served

end RateLimiter

/-! ## All requests that were allowed -/

section Histories

variable {str} {fresh : RateLimiter}

theorem allowedTimes_append
    (client : String) (first second : List (RateRequest × RateVerdict)) :
    allowedTimes str client (first ++ second) =
      allowedTimes str client first ++ allowedTimes str client second :=
  List.filterMap_append

theorem after_snoc (history : List RateRequest) (request : RateRequest) :
    fresh.after str (history ++ [request]) =
      ((fresh.after str history).handleCall str request).1 :=
  RateLimiter.after_append history [request]

theorem window_after (history : List RateRequest) :
    (fresh.after str history).window = fresh.window :=
  congrArg rateWindow (RateLimiter.after_config history).2

/-- A call is granted when there is room in what is remembered. -/
theorem handleCall_after_allowed
    (history : List RateRequest) (request : RateRequest) :
    ((fresh.after str history).handleCall str request).2.allowed =
      fresh.window.admits fresh.maxRequests request.now
        ((fresh.after str history).hits (request.client str)) := by
  rw [RateLimiter.handleCall_allowed, window_after,
    (RateLimiter.after_config history).1]

/-- A call adds to the allowed times of its client what is granted. -/
theorem allowedTimes_snoc
    (history : List RateRequest) (request : RateRequest) :
    allowedTimes str (request.client str)
        (fresh.serve str (history ++ [request])) =
      fresh.window.grant fresh.maxRequests request.now
        ((fresh.after str history).hits (request.client str))
        (allowedTimes str (request.client str)
          (fresh.serve str history)) := by
  rw [RateLimiter.serve_append, allowedTimes_append, Window.grant,
    ← handleCall_after_allowed]
  cases answer :
      ((fresh.after str history).handleCall str request).2.allowed with
  | false => simp [RateLimiter.serve, allowedTimes, answer]
  | true => simp [RateLimiter.serve, allowedTimes, answer]

theorem hits_snoc
    (history : List RateRequest) (request : RateRequest) :
    (fresh.after str (history ++ [request])).hits (request.client str) =
      fresh.window.request fresh.maxRequests request.now
        ((fresh.after str history).hits (request.client str)) := by
  rw [after_snoc, RateLimiter.handleCall_hits, Function.update_self,
    window_after, (RateLimiter.after_config history).1]

/-- A call of another client adds nothing. -/
theorem allowedTimes_snoc_of_ne
    {client : String} (history : List RateRequest) {request : RateRequest}
    (foreign : client ≠ request.client str) :
    allowedTimes str client (fresh.serve str (history ++ [request])) =
      allowedTimes str client (fresh.serve str history) := by
  rw [RateLimiter.serve_append, allowedTimes_append]
  simp [RateLimiter.serve, allowedTimes, Ne.symm foreign]

theorem hits_snoc_of_ne
    {client : String} (history : List RateRequest) {request : RateRequest}
    (foreign : client ≠ request.client str) :
    (fresh.after str (history ++ [request])).hits client =
      (fresh.after str history).hits client := by
  rw [after_snoc, RateLimiter.handleCall_hits,
    Function.update_of_ne foreign]

/-- Only calls that were made have been allowed. -/
theorem made_of_mem_allowedTimes
    {client : String} {history : List RateRequest} {time : ℚ}
    (member : time ∈ allowedTimes str client (fresh.serve str history)) :
    ∃ request ∈ history, request.now = time := by
  induction history generalizing fresh with
  | nil => cases member
  | cons request rest ih =>
      rcases List.mem_filterMap.mp member with ⟨entry, served, allowed⟩
      rcases List.mem_cons.mp served with rfl | later
      · refine ⟨request, List.mem_cons_self, ?_⟩
        split at allowed
        · exact Option.some.inj allowed
        · cases allowed
      · rcases ih (List.mem_filterMap.mpr ⟨entry, later, allowed⟩) with
          ⟨asked, among, same⟩
        exact ⟨asked, List.mem_cons_of_mem _ among, same⟩

/-- What a limiter remembers of a client, and what it has allowed him. -/
structure Remembers
    (str : StrFunction) (fresh : RateLimiter)
    (history : List RateRequest) (client : String) : Prop where
  agree : ∀ since, (∀ request ∈ history, request.now ≤ since) →
    fresh.window.Agree since
      ((fresh.after str history).hits client)
      (allowedTimes str client (fresh.serve str history))
  orderly :
    fresh.window.Orderly fresh.maxRequests
      (allowedTimes str client (fresh.serve str history))

/-- In a history in order, what is remembered stands for all that counts. -/
theorem remembers_of_ordered
    (str : StrFunction) (empty : fresh.hits = fun _ => [])
    {history : List RateRequest}
    (ordered : history.Pairwise fun earlier later => earlier.now ≤ later.now)
    (client : String) :
    Remembers str fresh history client := by
  induction history using List.reverseRecOn with
  | nil =>
      refine ⟨?_, .nil⟩
      intro since _
      show fresh.window.Agree since (fresh.hits client) []
      rw [empty]
      exact .refl since []
  | append_singleton history request ih =>
      have parts := List.pairwise_append.mp ordered
      have sound := ih parts.1
      have past : ∀ earlier ∈ history, earlier.now ≤ request.now :=
        fun earlier member =>
          parts.2.2 earlier member request List.mem_cons_self
      have latest : ∀ since,
          (∀ asked ∈ history ++ [request], asked.now ≤ since) →
            request.now ≤ since :=
        fun since all => all request (by simp)
      by_cases own : client = request.client str
      · subst own
        have agree := sound.agree request.now past
        constructor
        · intro since all
          rw [hits_snoc, allowedTimes_snoc]
          exact (agree.request le_rfl).mono (latest since all)
        · rw [allowedTimes_snoc]
          refine sound.orderly.grant ?_ agree le_rfl
          intro time member
          rcases made_of_mem_allowedTimes member with ⟨earlier, asked, rfl⟩
          exact past earlier asked
      · constructor
        · intro since all
          rw [hits_snoc_of_ne history own, allowedTimes_snoc_of_ne history own]
          exact (sound.agree request.now past).mono (latest since all)
        · rw [allowedTimes_snoc_of_ne history own]
          exact sound.orderly

/-! ## The law -/

variable {history earlier later : List RateRequest} {request : RateRequest}

/-- What is remembered of a client counts like all that he was allowed. -/
theorem length_prune_hits
    (str : StrFunction) (empty : fresh.hits = fun _ => [])
    (ordered :
      (earlier ++ [request]).Pairwise fun first second =>
        first.now ≤ second.now) :
    (fresh.window.prune request.now
        ((fresh.after str earlier).hits (request.client str))).length =
      allowedBetween str (request.client str)
        (request.now - fresh.windowSeconds) request.now
        (fresh.serve str earlier) := by
  have parts := List.pairwise_append.mp ordered
  have past : ∀ asked ∈ earlier, asked.now ≤ request.now :=
    fun asked member => parts.2.2 asked member request List.mem_cons_self
  have sound :=
    remembers_of_ordered str empty parts.1 (request.client str)
  rw [sound.agree request.now past request.now le_rfl, Window.prune,
    ← List.countP_eq_length_filter, allowedBetween]
  apply List.countP_congr
  intro time member
  have before : time ≤ request.now := by
    rcases made_of_mem_allowedTimes member with ⟨asked, among, rfl⟩
    exact past asked among
  simp [RateLimiter.window, rateWindow, before]

theorem ordered_of_split
    (ordered : history.Pairwise fun first second => first.now ≤ second.now)
    (split : history = earlier ++ request :: later) :
    (earlier ++ [request]).Pairwise fun first second =>
      first.now ≤ second.now := by
  rw [split, List.append_cons] at ordered
  exact (List.pairwise_append.mp ordered).1

theorem allowed_iff
    (str : StrFunction) (empty : fresh.hits = fun _ => [])
    (ordered :
      (earlier ++ [request]).Pairwise fun first second =>
        first.now ≤ second.now) :
    ((fresh.after str earlier).handleCall str request).2.allowed = true ↔
      (allowedBetween str (request.client str)
          (request.now - fresh.windowSeconds) request.now
          (fresh.serve str earlier) : Int) <
        fresh.maxRequests := by
  rw [handleCall_after_allowed, Window.admits, decide_eq_true_iff,
    length_prune_hits str empty ordered]

/-- `remaining` is what the call leaves of the budget. -/
theorem remaining_eq
    (str : StrFunction) (empty : fresh.hits = fun _ => [])
    (ordered :
      (earlier ++ [request]).Pairwise fun first second =>
        first.now ≤ second.now) :
    ((fresh.after str earlier).handleCall str request).2.remaining =
      max 0 (fresh.maxRequests -
        (allowedBetween str (request.client str)
            (request.now - fresh.windowSeconds) request.now
            (fresh.serve str earlier) +
          if ((fresh.after str earlier).handleCall str request).2.allowed
          then 1 else 0)) := by
  have count := length_prune_hits str empty ordered
  have granted :
      ((fresh.after str earlier).handleCall str request).2.allowed =
        fresh.window.admits fresh.maxRequests request.now
          ((fresh.after str earlier).hits (request.client str)) :=
    handleCall_after_allowed earlier request
  have remaining :
      ((fresh.after str earlier).handleCall str request).2.remaining =
        max 0 ((fresh.after str earlier).maxRequests -
          (((fresh.after str earlier).window.request
            (fresh.after str earlier).maxRequests request.now
            ((fresh.after str earlier).hits
              (request.client str))).length : Int)) := by
    simp only [← RateLimiter.clientId_eq_client]
    rfl
  rw [remaining, window_after, (RateLimiter.after_config earlier).1,
    Window.request, ← granted]
  cases ((fresh.after str earlier).handleCall str request).2.allowed with
  | false => simp [count]
  | true => simp [count]

/-- Distances of at most the window count against each other. -/
theorem spans_closed (windowSeconds first : ℚ) :
    (rateWindow windowSeconds).Spans fun time =>
      decide (first ≤ time ∧ time ≤ first + windowSeconds) := by
  intro earlier later inside last _
  have begun := (of_decide_eq_true inside).1
  have ended := (of_decide_eq_true last).2
  exact decide_eq_true ((sub_le_iff_le_add.mpr ended).trans begun)

end Histories

/--
Over a history of calls in order of time, the limiter answers exactly by the
requests that it has allowed within the window, for each client by himself.
-/
theorem requests_exactly_limited
    (str : StrFunction) (fresh : RateLimiter)
    (empty : fresh.hits = fun _ => [])
    (history : List RateRequest)
    (ordered :
      history.Pairwise fun earlier later => earlier.now ≤ later.now) :
    ExactlyLimited str fresh history where
  allowed earlier request later split :=
    allowed_iff str empty (ordered_of_split ordered split)
  remaining earlier request later split := by
    have part := ordered_of_split ordered split
    have value := remaining_eq str empty part
    have room := allowed_iff str empty part
    have sound := remembers_of_ordered str empty
      (List.pairwise_append.mp part).1 (request.client str)
    have spent := sound.orderly.count_le
      (spans_closed fresh.windowSeconds
        (request.now - fresh.windowSeconds))
    rw [sub_add_cancel] at spent
    refine ⟨?_, value, ?_⟩
    · rw [value]
      exact le_max_left 0 _
    · intro meaningful
      rw [value]
      rw [max_eq_right meaningful] at spent
      apply max_eq_right
      split
      · rename_i granted
        have left := room.mp granted
        omega
      · rw [add_zero]
        exact sub_nonneg.mpr spent
  bounded client first :=
    (remembers_of_ordered str empty ordered client).orderly.count_le
      (spans_closed fresh.windowSeconds first)
  undelayed earlier denied later split refused := by
    rw [split] at ordered
    have tail := (List.pairwise_append.mp ordered).2.1
    rw [List.pairwise_cons] at tail
    have alike :
        RateLimiter.Alike (fun _ => True) denied.now
          ((fresh.after str earlier).handleCall str denied).1
          (fresh.after str earlier) :=
      RateLimiter.alike_of_denied refused
    have same :
        ((fresh.after str earlier).handleCall str denied).1.serve str later =
          (fresh.after str earlier).serve str later :=
      alike.serve_eq tail.2 tail.1
    rw [split, RateLimiter.serve_append, RateLimiter.serve_append,
      List.eraseIdx_append_of_length_le
        (by rw [RateLimiter.serve_length]),
      RateLimiter.serve_length, Nat.sub_self, ← same]
    rfl
  independent client := by
    cases history with
    | nil => rfl
    | cons request rest =>
        have first : ∀ asked ∈ request :: rest, request.now ≤ asked.now := by
          intro asked member
          rcases List.mem_cons.mp member with rfl | later
          · exact le_rfl
          · exact (List.pairwise_cons.mp ordered).1 asked later
        have alike :
            RateLimiter.Alike (fun name => name = client) request.now
              fresh fresh :=
          .refl fresh
        exact alike.serve ordered first

/-- A call of a client at a time. -/
def callOf (client : String) (now : ℚ) : RateRequest where
  payload := dictOf [("client_id", .str client)]
  now := now

/-- A third call of a client comes exactly a window after the first. -/
theorem third_call_exactly_limited :
    ExactlyLimited textOnly { maxRequests := 2, windowSeconds := 1 }
      [callOf "a" 0, callOf "b" 0, callOf "a" (1 / 2), callOf "a" 1,
        callOf "a" (5 / 4)] :=
  requests_exactly_limited textOnly _ rfl _ (by decide +kernel)

end Civitas.Gateway
