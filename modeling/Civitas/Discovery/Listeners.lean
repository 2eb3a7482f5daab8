import Civitas.Discovery.LocalRegistry
import Civitas.Transition
import Mathlib.Data.List.Basic

/-!
# Listeners of the routing table

`add_listener`, `remove_listener` and `_fire_listeners` of `LocalRegistry`:
every registration and every deregistration is told to the listeners, as a
task for each, in the order of the changes.  A listener hears the name, the
capabilities and their metadata, and which of the two it was.

A listener that keeps a table of its own from what it hears has, for every
name, what the registry has.

A change made while no event loop runs is told to nobody.  A listener only
takes notes here: what it does with them, and that a call of it may raise
before there is a task, are left out.
-/

namespace Civitas.Discovery

open Civitas.PyValue
open Civitas.Transition
open Function (update)

/-! ## Notes -/

/-- What a listener is told of a name. -/
inductive Event where
  | register
  | deregister
deriving DecidableEq

/-- The arguments of a listener. -/
structure Note where
  name : Key
  capabilities : List Value
  capabilityMetadata : Value
  event : Event

/-- A registry, the listeners in the order of `_listeners`, and their notes. -/
structure Directory (Owner : Type) [Inhabited Owner] where
  registry : LocalRegistry Owner := {}
  listeners : List Nat := []
  heard : Nat → List Note := fun _ => []

variable {Owner : Type} [Inhabited Owner]

/-- The note of an event of an entry. -/
def RoutingEntry.note (entry : RoutingEntry Owner) (event : Event) : Note where
  name := entry.name
  capabilities := entry.capabilities
  capabilityMetadata := entry.capabilityMetadata
  event := event

/-- `_fire_listeners`; a listener that was added twice is called twice. -/
def Directory.fire
    (d : Directory Owner) (inLoop : Bool) (note : Note) : Directory Owner :=
  if inLoop
  then
    { d with
      heard := fun listener =>
        d.heard listener ++
          List.replicate (d.listeners.count listener) note }
  else d

@[simp]
theorem Directory.fire_registry
    (d : Directory Owner) (inLoop : Bool) (note : Note) :
    (d.fire inLoop note).registry = d.registry := by
  cases inLoop <;> rfl

/-! ## Operations -/

/-- `register`; unchanged when it raises. -/
def Directory.register
    (d : Directory Owner) (inLoop : Bool) (registration : Registration) :
    Directory Owner :=
  match d.registry.register registration with
  | none => d
  | some registry =>
      { d with registry := registry }.fire inLoop
        ((registration.entry : RoutingEntry Owner).note .register)

/-- `deregister`: the listeners are told of a name that was local. -/
def Directory.deregister
    (d : Directory Owner) (inLoop : Bool) (name : Key) : Directory Owner :=
  let removed := { d with registry := d.registry.deregister name }
  match d.registry.entries name with
  | none => removed
  | some entry => removed.fire inLoop (entry.note .deregister)

/-- `register_remote`; unchanged when it raises. -/
def Directory.registerRemote
    [BEq Owner] (python : Conversions) (d : Directory Owner) (inLoop : Bool)
    (announcement : Announcement Owner) : Directory Owner :=
  match d.registry.registerRemote python announcement with
  | .error _ => d
  | .ok registry =>
      let stored := { d with registry := registry }
      -- the returns before the end tell nobody
      match announcement.entry python with
      | .error _ => stored
      | .ok entry =>
          if d.registry.accepts announcement
          then stored.fire inLoop (entry.note .register)
          else stored

/-- `deregister_remote`: the listeners are told of a name that was removed. -/
def Directory.deregisterRemote
    (d : Directory Owner) (inLoop : Bool) (name : Key) (epoch : Int) :
    Directory Owner :=
  let removed := { d with registry := d.registry.deregisterRemote name epoch }
  if d.registry.stale name epoch then removed
  else
    match d.registry.remote name with
    | none => removed
    | some entry => removed.fire inLoop (entry.note .deregister)

/--
`reregister_preserving`; the name is free when it is registered again, and the
metadata of an entry is a dictionary.
-/
def Directory.reregister
    (d : Directory Owner) (inLoop : Bool) (name : Key) : Directory Owner :=
  (d.deregister inLoop name).register inLoop
    (match d.registry.entries name with
      | none => { name := name }
      | some entry =>
          { name := name
            address := some entry.address
            isLocal := entry.isLocal
            capabilities := entry.capabilities
            capabilityMetadata :=
              match entry.capabilityMetadata with
              | .dict items => items
              | _ => [] })

/-- The calls of the registry. -/
inductive Operation (Owner : Type) [Inhabited Owner] where
  | register (registration : Registration)
  | deregister (name : Key)
  | registerRemote (announcement : Announcement Owner)
  | deregisterRemote (name : Key) (epoch : Int)
  | setSuspended (name : Key) (suspended : Bool)
  | addListener (listener : Nat)
  | removeListener (listener : Nat)

/-- An operation, and whether an event loop runs. -/
structure Request (Owner : Type) [Inhabited Owner] where
  operation : Operation Owner
  inLoop : Bool := true

/-- One call of the registry. -/
def Directory.step
    [BEq Owner] (python : Conversions) (d : Directory Owner)
    (request : Request Owner) : Option (Directory Owner) :=
  match request.operation with
  | .register registration => some (d.register request.inLoop registration)
  | .deregister name => some (d.deregister request.inLoop name)
  | .registerRemote announcement =>
      some (d.registerRemote python request.inLoop announcement)
  | .deregisterRemote name epoch =>
      some (d.deregisterRemote request.inLoop name epoch)
  | .setSuspended name suspended =>
      some { d with registry := d.registry.setSuspended name suspended }
  | .addListener listener =>
      some { d with listeners := d.listeners ++ [listener] }
  | .removeListener listener =>
      some { d with listeners := d.listeners.filter (· ≠ listener) }

/-! ## What a listener can know -/

/-- What a listener knows of a name. -/
abbrev View := Key → Option (List Value × Value)

/-- The part of the registry that listeners are told. -/
def LocalRegistry.view (registry : LocalRegistry Owner) : View :=
  fun name =>
    (registry.entries name).map fun entry =>
      (entry.capabilities, entry.capabilityMetadata)

/-- What a listener does to its own view when it is told. -/
def Note.apply (view : View) (note : Note) : View :=
  update view note.name
    (match note.event with
      | .register => some (note.capabilities, note.capabilityMetadata)
      | .deregister => none)

/-- The table of a listener that starts from a view and hears the notes. -/
def replay (view : View) (notes : List Note) : View :=
  notes.foldl Note.apply view

/-- A name is taken back with what was last said about it. -/
def Note.Due (view : View) (note : Note) : Prop :=
  note.event = .deregister →
    view note.name = some (note.capabilities, note.capabilityMetadata)

/-- Each deregistration takes back what is in the table when it is heard. -/
def Due : View → List Note → Prop
  | _, [] => True
  | view, note :: rest => note.Due view ∧ Due (note.apply view) rest

theorem replay_append (view : View) (first second : List Note) :
    replay view (first ++ second) = replay (replay view first) second :=
  List.foldl_append

theorem due_append {view : View} {first second : List Note} :
    Due view (first ++ second) ↔
      Due view first ∧ Due (replay view first) second := by
  induction first generalizing view with
  | nil => simp [Due, replay]
  | cons note rest ih =>
      simp only [List.cons_append, Due, ih, replay, List.foldl_cons, and_assoc]

theorem Note.apply_apply (view : View) (note : Note) :
    note.apply (note.apply view) = note.apply view := by
  simp [Note.apply]

/-- Hearing a note again changes nothing. -/
theorem replay_replicate (view : View) (note : Note) (times : Nat) :
    replay view (List.replicate (times + 1) note) = note.apply view := by
  induction times generalizing view with
  | zero => rfl
  | succ times ih =>
      rw [List.replicate_succ, replay, List.foldl_cons]
      exact (ih (note.apply view)).trans (note.apply_apply view)

/-! ## What one operation tells -/

/-- Every entry is stored under its name. -/
def LocalRegistry.Named (registry : LocalRegistry Owner) : Prop :=
  ∀ name entry, registry.entries name = some entry → entry.name = name

theorem named_update
    {registry : LocalRegistry Owner} (named : registry.Named)
    (entry : RoutingEntry Owner) {name : Key} {other : RoutingEntry Owner}
    (found : update registry.entries entry.name (some entry) name =
      some other) : other.name = name := by
  by_cases same : name = entry.name
  · subst same
    rw [Function.update_self, Option.some.injEq] at found
    rw [found]
  · rw [Function.update_of_ne same] at found
    exact named name other found

theorem named_remove
    {registry : LocalRegistry Owner} (named : registry.Named)
    {name other : Key} {entry : RoutingEntry Owner}
    (found : update registry.entries other none name = some entry) :
    entry.name = name := by
  by_cases same : name = other
  · subst same
    rw [Function.update_self] at found
    cases found
  · rw [Function.update_of_ne same] at found
    exact named name entry found

theorem view_update
    (registry : LocalRegistry Owner) (entry : RoutingEntry Owner) :
    (fun name =>
      (update registry.entries entry.name (some entry) name).map
        fun entry => (entry.capabilities, entry.capabilityMetadata)) =
      (entry.note .register).apply registry.view := by
  funext name
  by_cases same : name = entry.name
  · subst same
    simp [Note.apply, RoutingEntry.note]
  · simp [Note.apply, RoutingEntry.note, LocalRegistry.view,
      Function.update_of_ne same]

theorem view_remove
    {registry : LocalRegistry Owner} (named : registry.Named)
    {name : Key} {entry : RoutingEntry Owner}
    (found : registry.entries name = some entry) :
    (fun other =>
      (update registry.entries name none other).map
        fun entry => (entry.capabilities, entry.capabilityMetadata)) =
      (entry.note .deregister).apply registry.view := by
  funext other
  rw [← named name entry found]
  by_cases same : other = entry.name
  · subst same
    simp [Note.apply, RoutingEntry.note]
  · simp [Note.apply, RoutingEntry.note, LocalRegistry.view,
      Function.update_of_ne same]

/-- The listeners stay, and hear of what becomes of the view. -/
def Told (d after : Directory Owner) : Prop :=
  after.listeners = d.listeners ∧
    ((after.heard = d.heard ∧ after.registry.view = d.registry.view) ∨
      ∃ note : Note, note.Due d.registry.view ∧
        after.registry.view = note.apply d.registry.view ∧
        ∀ listener, after.heard listener =
          d.heard listener ++
            List.replicate (d.listeners.count listener) note)

/-- The entries keep their names, and in an event loop the listeners hear. -/
def Keeping (d : Directory Owner) (inLoop : Bool) (after : Directory Owner) :
    Prop :=
  after.registry.Named ∧ (inLoop = true → Told d after)

theorem Keeping.still
    {d after : Directory Owner} (named : after.registry.Named)
    (listeners : after.listeners = d.listeners)
    (heard : after.heard = d.heard)
    (view : after.registry.view = d.registry.view) (inLoop : Bool) :
    Keeping d inLoop after :=
  ⟨named, fun _ => ⟨listeners, .inl ⟨heard, view⟩⟩⟩

/-- Nothing happens. -/
theorem Keeping.refl
    {d : Directory Owner} (named : d.registry.Named) (inLoop : Bool) :
    Keeping d inLoop d :=
  .still named rfl rfl rfl inLoop

theorem Keeping.fire
    (d : Directory Owner) (stored : LocalRegistry Owner) {note : Note}
    (named : stored.Named) (due : note.Due d.registry.view)
    (view : stored.view = note.apply d.registry.view) (inLoop : Bool) :
    Keeping d inLoop (({ d with registry := stored }).fire inLoop note) := by
  refine ⟨by simpa using named, ?_⟩
  rintro rfl
  refine ⟨rfl, .inr ⟨note, due, view, ?_⟩⟩
  intro listener
  rfl

/-- A registration takes nothing back. -/
theorem due_register (entry : RoutingEntry Owner) (view : View) :
    (entry.note .register).Due view := by
  intro taken
  cases taken

/-- A deregistration takes back the entry that is stored. -/
theorem due_deregister
    {registry : LocalRegistry Owner} (named : registry.Named)
    {name : Key} {entry : RoutingEntry Owner}
    (found : registry.entries name = some entry) :
    (entry.note .deregister).Due registry.view := by
  intro _
  simp [LocalRegistry.view, RoutingEntry.note, named name entry found, found]

theorem keeping_register
    (d : Directory Owner) (named : d.registry.Named) (inLoop : Bool)
    (registration : Registration) :
    Keeping d inLoop (d.register inLoop registration) := by
  unfold Directory.register
  cases registered : d.registry.register registration with
  | none => exact .refl named inLoop
  | some registry =>
      unfold LocalRegistry.register at registered
      split_ifs at registered
      cases registered
      apply Keeping.fire
      · intro name entry found
        exact named_update named registration.entry found
      · exact due_register _ _
      · exact view_update d.registry registration.entry

theorem keeping_deregister
    (d : Directory Owner) (named : d.registry.Named) (inLoop : Bool)
    (name : Key) : Keeping d inLoop (d.deregister inLoop name) := by
  have removed : (d.registry.deregister name).Named := by
    intro other entry found
    exact named_remove named found
  unfold Directory.deregister
  cases found : d.registry.entries name with
  | none =>
      refine ⟨removed, fun _ => ⟨rfl, .inl ⟨rfl, ?_⟩⟩⟩
      funext other
      by_cases same : other = name
      · subst same
        simp [LocalRegistry.view, LocalRegistry.deregister, found]
      · simp [LocalRegistry.view, LocalRegistry.deregister,
          Function.update_of_ne same]
  | some entry =>
      exact .fire d _ removed (due_deregister named found)
        (view_remove named found) inLoop

theorem keeping_registerRemote
    [BEq Owner] (python : Conversions) (d : Directory Owner)
    (named : d.registry.Named) (inLoop : Bool)
    (announcement : Announcement Owner) :
    Keeping d inLoop (d.registerRemote python inLoop announcement) := by
  unfold Directory.registerRemote
  cases accepted : d.registry.accepts announcement with
  | true =>
      rw [registerRemote_of_accepts python accepted, LocalRegistry.place]
      cases announcement.entry python with
      | error error => exact .refl named inLoop
      | ok entry =>
          apply Keeping.fire
          · intro name other found
            exact named_update named entry found
          · exact due_register _ _
          · exact view_update d.registry entry
  | false =>
      rcases registerRemote_of_refuses python accepted with
        unchanged | ⟨error, raised⟩
      · rw [unchanged]
        cases announcement.entry python with
        | error error => exact .refl named inLoop
        | ok entry => exact .refl named inLoop
      · rw [raised]
        exact .refl named inLoop

theorem keeping_deregisterRemote
    (d : Directory Owner) (named : d.registry.Named) (inLoop : Bool)
    (name : Key) (epoch : Int) :
    Keeping d inLoop (d.deregisterRemote inLoop name epoch) := by
  unfold Directory.deregisterRemote LocalRegistry.deregisterRemote
  cases stale : d.registry.stale name epoch with
  | true =>
      simp only [if_true]
      exact .refl named inLoop
  | false =>
      cases found : d.registry.remote name with
      | none =>
          simp only [Bool.false_eq_true, if_false, Option.isSome_none]
          exact .still named rfl rfl rfl inLoop
      | some entry =>
          have present : d.registry.entries name = some entry :=
            (Option.filter_eq_some_iff.mp found).1
          simp only [Bool.false_eq_true, if_false, Option.isSome_some,
            if_true]
          apply Keeping.fire
          · intro other left found
            exact named_remove named found
          · exact due_deregister named present
          · exact view_remove named present

/-! ## Runs -/

/-- Nobody removes the listener, and an event loop runs. -/
def Keeps (listener : Nat) (request : Request Owner) : Prop :=
  request.inLoop = true ∧
    ∀ other, request.operation = .removeListener other → other ≠ listener

/-- Nobody adds the listener again either. -/
def KeepsOnce (listener : Nat) (request : Request Owner) : Prop :=
  Keeps listener request ∧ request.operation ≠ .addListener listener

variable [BEq Owner] {python : Conversions} {d after : Directory Owner}
  {listener : Nat} {request : Request Owner}

/-- An operation other than those on the listeners keeps and tells. -/
theorem keeping_step
    (named : d.registry.Named)
    (stepped : d.step python request = some after) :
    Keeping d request.inLoop after ∨
      (after.registry = d.registry ∧ after.heard = d.heard) ∧
        ((∃ other, request.operation = .addListener other ∧
          after.listeners = d.listeners ++ [other]) ∨
        ∃ other, request.operation = .removeListener other ∧
          after.listeners = d.listeners.filter (· ≠ other)) := by
  unfold Directory.step at stepped
  cases operation : request.operation with
  | register registration =>
      rw [operation] at stepped
      cases stepped
      exact .inl (keeping_register d named _ registration)
  | deregister name =>
      rw [operation] at stepped
      cases stepped
      exact .inl (keeping_deregister d named _ name)
  | registerRemote announcement =>
      rw [operation] at stepped
      cases stepped
      exact .inl (keeping_registerRemote python d named _ announcement)
  | deregisterRemote name epoch =>
      rw [operation] at stepped
      cases stepped
      exact .inl (keeping_deregisterRemote d named _ name epoch)
  | setSuspended name suspended =>
      rw [operation] at stepped
      cases stepped
      exact .inl (.still named rfl rfl rfl _)
  | addListener other =>
      rw [operation] at stepped
      cases stepped
      exact .inr ⟨⟨rfl, rfl⟩, .inl ⟨other, rfl, rfl⟩⟩
  | removeListener other =>
      rw [operation] at stepped
      cases stepped
      exact .inr ⟨⟨rfl, rfl⟩, .inr ⟨other, rfl, rfl⟩⟩

theorem named_of_step
    (named : d.registry.Named)
    (stepped : d.step python request = some after) :
    after.registry.Named := by
  rcases keeping_step named stepped with keeping | ⟨⟨same, -⟩, -⟩
  · exact keeping.1
  · rw [same]
    exact named

/-- The listener has heard what leads from the first view to the present. -/
structure Tracks (listener : Nat) (first d : Directory Owner) : Prop where
  named : d.registry.Named
  listens : listener ∈ d.listeners
  heard : ∃ notes, d.heard listener = first.heard listener ++ notes ∧
    replay first.registry.view notes = d.registry.view

/-- The listener hears every change once. -/
structure TracksOnce (listener : Nat) (first d : Directory Owner) :
    Prop where
  named : d.registry.Named
  once : d.listeners.count listener = 1
  heard : ∃ notes, d.heard listener = first.heard listener ++ notes ∧
    replay first.registry.view notes = d.registry.view ∧
    Due first.registry.view notes

theorem Tracks.step
    {first : Directory Owner} (tracks : Tracks listener first d)
    (keeps : Keeps listener request)
    (stepped : d.step python request = some after) :
    Tracks listener first after := by
  rcases tracks.heard with ⟨notes, heard, view⟩
  have named := named_of_step tracks.named stepped
  rcases keeping_step tracks.named stepped with
    ⟨-, keeping⟩ | ⟨⟨same, still⟩, listeners⟩
  · rcases keeping keeps.1 with ⟨listeners, told⟩
    have listens : listener ∈ after.listeners := by
      rw [listeners]
      exact tracks.listens
    refine ⟨named, listens, ?_⟩
    rcases told with ⟨still, same⟩ | ⟨note, -, applied, told⟩
    · exact ⟨notes, by rw [still, heard], by rw [same, view]⟩
    · rcases Nat.exists_eq_add_one.mpr
        (List.count_pos_iff.mpr tracks.listens) with ⟨others, count⟩
      refine ⟨notes ++ List.replicate (others + 1) note, ?_, ?_⟩
      · rw [told, heard, count, List.append_assoc]
      · rw [replay_append, view, replay_replicate, applied]
  · refine ⟨named, ?_, notes, by rw [still, heard], by rw [same, view]⟩
    rcases listeners with ⟨other, -, listeners⟩ | ⟨other, removed, listeners⟩
    · rw [listeners]
      exact List.mem_append_left _ tracks.listens
    · rw [listeners]
      exact List.mem_filter.mpr
        ⟨tracks.listens, decide_eq_true (keeps.2 other removed).symm⟩

theorem TracksOnce.step
    {first : Directory Owner} (tracks : TracksOnce listener first d)
    (keeps : KeepsOnce listener request)
    (stepped : d.step python request = some after) :
    TracksOnce listener first after := by
  rcases tracks.heard with ⟨notes, heard, view, due⟩
  have named := named_of_step tracks.named stepped
  rcases keeping_step tracks.named stepped with
    ⟨-, keeping⟩ | ⟨⟨same, still⟩, listeners⟩
  · rcases keeping keeps.1.1 with ⟨listeners, told⟩
    refine ⟨named, by rw [listeners, tracks.once], ?_⟩
    rcases told with ⟨still, same⟩ | ⟨note, taken, applied, told⟩
    · exact ⟨notes, by rw [still, heard], by rw [same, view], due⟩
    · refine ⟨notes ++ [note], ?_, ?_, ?_⟩
      · rw [told, heard, tracks.once, List.append_assoc]
        rfl
      · rw [replay_append, view, applied]
        rfl
      · rw [due_append, view]
        exact ⟨due, taken, trivial⟩
  · refine ⟨named, ?_, notes, by rw [still, heard], by rw [same, view], due⟩
    rcases listeners with
      ⟨other, added, listeners⟩ | ⟨other, removed, listeners⟩
    · have apart : other ≠ listener := by
        rintro rfl
        exact keeps.2 added
      rw [listeners, List.count_append, tracks.once,
        List.count_singleton, if_neg (by simpa using apart)]
    · rw [listeners, List.count_filter, tracks.once]
      exact decide_eq_true (keeps.1.2 other removed).symm

/-- A restart is heard as a deregistration and a registration. -/
theorem reregister_reaches
    (d : Directory Owner) (name : Key) (listener : Nat) :
    Reaches (Directory.step python) (fun _ => KeepsOnce listener) d
      (d.reregister true name) := by
  have keeps : ∀ operation : Operation Owner,
      (∀ other, operation ≠ .removeListener other) →
        (∀ other, operation ≠ .addListener other) →
          KeepsOnce listener { operation := operation } := by
    intro operation removes adds
    refine ⟨⟨rfl, ?_⟩, adds listener⟩
    intro other removed
    exact absurd removed (removes other)
  have leaves := keeps (.deregister name) (by simp) (by simp)
  refine .step (.step .start leaves rfl) (keeps (.register _) ?_ ?_) rfl
  · simp
  · simp

theorem named_of_reaches
    (run : Reaches (Directory.step python) (fun _ _ => True) {} d) :
    d.registry.Named := by
  have base : ({} : Directory Owner).registry.Named := by
    intro name entry found
    cases found
  exact run.invariant base fun _ _ _ named _ stepped =>
    named_of_step named stepped

/-- A registry with one listener. -/
def listening : Directory String := { listeners := [0] }

/-- A peer is announced, and announced again as a new incarnation. -/
def listeningToPeer : Directory String :=
  (listening.registerRemote plainConversions true
    { name := .str "solver", owner := "east", epoch := 1
      capabilities := .list [.str "solve"] }).registerRemote
      plainConversions true
      { name := .str "solver", owner := "east", epoch := 2 }

theorem listening_of_added :
    Reaches (Directory.step plainConversions) (fun _ _ => True) {}
      listening := by
  have added : ({} : Directory String).step plainConversions
      { operation := .addListener 0 } = some listening := rfl
  exact .step .start trivial added

/-- The peer leaves. -/
def listenedToPeer : Directory String :=
  listeningToPeer.deregisterRemote true (.str "solver") 2

theorem listenedToPeer_of_announced :
    Reaches (Directory.step plainConversions) (fun _ => KeepsOnce 0)
      listening listenedToPeer := by
  have announces : ∀ announcement : Announcement String,
      KeepsOnce 0 { operation := .registerRemote announcement } := by
    intro announcement
    refine ⟨⟨rfl, ?_⟩, ?_⟩
    · intro other removed
      cases removed
    · intro added
      cases added
  have leaves : @KeepsOnce String _ 0
      { operation := .deregisterRemote (.str "solver") 2 } := by
    refine ⟨⟨rfl, ?_⟩, ?_⟩
    · intro other removed
      cases removed
    · intro added
      cases added
  exact
    .step (.step (.step .start (announces _) rfl) (announces _) rfl) leaves rfl

/--
Whatever is registered and taken back after a listener was added, the table
that the listener keeps is the registry's.
-/
theorem listener_table_is_registry
    {first : Directory Owner}
    (before : Reaches (Directory.step python) (fun _ _ => True) {} first)
    (listens : listener ∈ first.listeners)
    (run : Reaches (Directory.step python) (fun _ => Keeps listener) first d) :
    ∃ notes, d.heard listener = first.heard listener ++ notes ∧
      replay first.registry.view notes = d.registry.view := by
  have start : Tracks listener first first :=
    ⟨named_of_reaches before, listens, [], by simp, rfl⟩
  exact (run.invariant start fun _ _ _ tracks keeps stepped =>
    tracks.step keeps stepped).heard

/-- The table of the listener, when the peer has left. -/
theorem listener_table_of_peer :
    ∃ notes, listenedToPeer.heard 0 = listening.heard 0 ++ notes ∧
      replay listening.registry.view notes = listenedToPeer.registry.view :=
  listener_table_is_registry listening_of_added (List.mem_singleton.mpr rfl)
    (listenedToPeer_of_announced.mono fun _ _ keeps => keeps.1)

/--
A listener that was added once hears of each registration before it is taken
back, with the same capabilities and metadata, and of every deregistration:
nothing stays in its table that the registry does not have.
-/
theorem deregistrations_take_back_what_was_told
    {first : Directory Owner}
    (before : Reaches (Directory.step python) (fun _ _ => True) {} first)
    (once : first.listeners.count listener = 1)
    (run : Reaches (Directory.step python) (fun _ => KeepsOnce listener)
      first d) :
    ∃ notes, d.heard listener = first.heard listener ++ notes ∧
      replay first.registry.view notes = d.registry.view ∧
      Due first.registry.view notes := by
  have start : TracksOnce listener first first :=
    ⟨named_of_reaches before, once, [], by simp, rfl, trivial⟩
  exact (run.invariant start fun _ _ _ tracks keeps stepped =>
    tracks.step keeps stepped).heard

/-- The peer is taken back as it was announced last. -/
theorem deregistration_of_peer_is_due :
    ∃ notes, listenedToPeer.heard 0 = listening.heard 0 ++ notes ∧
      replay listening.registry.view notes = listenedToPeer.registry.view ∧
      Due listening.registry.view notes :=
  deregistrations_take_back_what_was_told listening_of_added rfl
    listenedToPeer_of_announced

end Civitas.Discovery
