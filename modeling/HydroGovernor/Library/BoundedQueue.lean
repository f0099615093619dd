import HydroGovernor.Library.Transition

/-! First-in-first-out queues of a fixed depth whose senders never wait, and what the receiver
gets over a run of the system that uses one. -/

namespace Firmware

structure BoundedQueue (Item : Type*) (depth : Nat) where
  items : List Item
  fits : items.length ≤ depth
  deriving DecidableEq, Repr

namespace BoundedQueue

variable {Item : Type*} {depth : Nat}

def empty : BoundedQueue Item depth := ⟨[], Nat.zero_le _⟩

/-- A send that does not wait: a full queue drops the item. -/
def send (queue : BoundedQueue Item depth) (item : Item) : BoundedQueue Item depth :=
  if room : queue.items.length < depth then
    { items := queue.items ++ [item]
      fits := by rw [List.length_append, List.length_singleton]; exact room }
  else queue

def receive : BoundedQueue Item depth → Option (Item × BoundedQueue Item depth)
  | ⟨[], _⟩ => none
  | ⟨item :: rest, fits⟩ => some (item, ⟨rest, Nat.le_of_succ_le fits⟩)

theorem send_items (queue : BoundedQueue Item depth) (item : Item) :
    (queue.send item).items =
      if queue.items.length < depth then queue.items ++ [item] else queue.items := by
  unfold send
  split <;> rfl

theorem receive_items {queue rest : BoundedQueue Item depth} {item : Item}
    (received : queue.receive = some (item, rest)) : queue.items = item :: rest.items := by
  obtain ⟨items, fits⟩ := queue
  cases items with
  | nil => cases received
  | cons first later =>
      cases received
      rfl

section Run

open Transition

variable {State Action : Type*} {step : State → Action → Option State} {start final : State}

/-- How a system uses a queue: what a step offers to it and what it takes out of it. -/
structure Use (step : State → Action → Option State) (Item : Type*) (depth : Nat) where
  queue : State → BoundedQueue Item depth
  offer : State → Action → Option Item
  take : State → Action → Option Item
  offered : ∀ state action next item, step state action = some next →
    offer state action = some item → take state action = none ∧ queue next = (queue state).send item
  taken : ∀ state action next item, step state action = some next →
    take state action = some item → offer state action = none ∧
      (queue state).receive = some (item, queue next)
  framed : ∀ state action next, step state action = some next → offer state action = none →
    take state action = none → queue next = queue state

variable (use : Use step Item depth)

def Use.accept (state : State) (action : Action) : Option Item :=
  if (use.queue state).items.length < depth then use.offer state action else none

def Use.offers (trace : List (State × Action)) : List Item :=
  trace.filterMap (fun taken => use.offer taken.1 taken.2)

def Use.accepted (trace : List (State × Action)) : List Item :=
  trace.filterMap (fun taken => use.accept taken.1 taken.2)

def Use.delivered (trace : List (State × Action)) : List Item :=
  trace.filterMap (fun taken => use.take taken.1 taken.2)

theorem Use.accepted_sublist (trace : List (State × Action)) :
    (use.accepted trace).Sublist (use.offers trace) := by
  induction trace with
  | nil => exact List.Sublist.refl _
  | cons pair trace ih =>
      rw [accepted, offers, List.filterMap_cons, List.filterMap_cons]
      cases offered : use.offer pair.1 pair.2 with
      | none =>
          have refused : use.accept pair.1 pair.2 = none := by rw [accept, offered, ite_self]
          rw [refused]
          exact ih
      | some item =>
          cases added : use.accept pair.1 pair.2 with
          | none => exact ih.cons item
          | some kept =>
              have same : kept = item := by
                unfold accept at added
                split at added
                · rw [offered] at added
                  exact (Option.some.inj added).symm
                · cases added
              rw [same]
              exact ih.cons_cons item

/-- What one step does to the account of the queue. -/
theorem Use.step_items {state next : State} {action : Action}
    (stepped : step state action = some next) :
    (use.take state action).toList ++ (use.queue next).items =
      (use.queue state).items ++ (use.accept state action).toList := by
  cases offered : use.offer state action with
  | some item =>
      obtain ⟨untaken, sent⟩ := use.offered state action next item stepped offered
      rw [untaken, sent, send_items, accept, offered]
      split
      · rfl
      · simp
  | none =>
      have refused : use.accept state action = none := by rw [accept, offered, ite_self]
      rw [refused]
      cases taken : use.take state action with
      | some item =>
          obtain ⟨-, received⟩ := use.taken state action next item stepped taken
          rw [receive_items received]
          simp
      | none =>
          rw [use.framed state action next stepped offered taken]
          simp

theorem Use.conserved {trace : List (State × Action)} (run : Run step start trace final)
    (initial : (use.queue start).items = []) :
    use.delivered trace ++ (use.queue final).items = use.accepted trace := by
  induction run with
  | nil => simpa [delivered, accepted] using initial
  | @snoc trace state next action earlier stepped ih =>
      rw [delivered, accepted, filterMap_snoc, filterMap_snoc, ← delivered, ← accepted, ← ih,
        List.append_assoc, List.append_assoc, use.step_items stepped]

/-- An item is refused exactly when the last `depth` of those accepted before are all still
waiting. -/
theorem Use.refused_iff {trace front back : List (State × Action)} {state : State}
    {action : Action} {item : Item} (run : Run step start trace final)
    (initial : (use.queue start).items = [])
    (split : trace = front ++ (state, action) :: back)
    (offered : use.offer state action = some item) :
    use.accept state action = none ↔
      (use.accepted front).length = (use.delivered front).length + depth := by
  obtain ⟨_, before, _, _⟩ := run.before split
  have account := congrArg List.length (use.conserved before initial)
  rw [List.length_append] at account
  have bound := (use.queue state).fits
  unfold accept
  split
  · rename_i room
    rw [offered]
    constructor
    · intro none
      cases none
    · intro full
      omega
  · rename_i full
    exact ⟨fun _ => by omega, fun _ => rfl⟩

end Run

end BoundedQueue

end Firmware
