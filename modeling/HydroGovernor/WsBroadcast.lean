import HydroGovernor.Library.Transition
import HydroGovernor.SensorText

/-! The WebSocket push of web_server.c: push_task walks over the sessions of the server and queues
one frame for each, and the httpd task sends the frames. Sessions come and go meanwhile, and a
descriptor that was closed is given out again. -/

namespace HydroGovernor

open Firmware
open Firmware.Transition (Run filterMap_snoc exec execTrace run_of_exec)

/-- `max_open_sockets` of HTTPD_DEFAULT_CONFIG. MAX_WS_CLIENTS leaves room for all of them. -/
def maxOpenSockets : Nat := 7

/-- A session of the server. `connection` counts the accepted connections. -/
structure Session where
  fd : Nat
  connection : Nat
  websocket : Bool
  deriving DecidableEq, Repr

/-- `ws_send_arg_t`, with the number of the malloc that gave it. `data` are the `len` bytes. -/
structure WsSendArg where
  cell : Nat
  fd : Nat
  data : Bytes
  deriving DecidableEq, Repr

/-- Where web_server_push_sensor_update is. -/
inductive BroadcastPc where
  | idle
  | listing (data : Bytes)
  | walking (data : Bytes) (fds : List Nat)
  | allocating (data : Bytes) (fd : Nat) (fds : List Nat)
  | queueing (arg : WsSendArg) (fds : List Nat)
  deriving DecidableEq, Repr

/-- `heap` are the arguments allocated and not freed, `sent` the frames with their connections.
`fault` records a free of anything else. -/
structure Broadcast where
  sessions : List Session
  accepted : Nat
  heap : List Nat
  cells : Nat
  work : List WsSendArg
  push : BroadcastPc
  sent : List (Nat × Bytes)
  fault : Bool
  deriving DecidableEq, Repr

def Broadcast.start : Broadcast := ⟨[], 0, [], 0, [], .idle, [], false⟩

inductive BroadcastAction where
  | accept (fd : Nat)
  | upgrade (fd : Nat)
  | close (fd : Nat)
  | push (json : CString)
  | list (ret : EspErr)
  | check
  | malloc (ok : Bool)
  | queueWork (ret : EspErr)
  | sendFrame (ok : Bool)
  deriving DecidableEq, Repr

namespace Broadcast

def free (server : Broadcast) (cell : Nat) : Broadcast :=
  { server with
    heap := server.heap.erase cell
    fault := server.fault || !server.heap.contains cell }

def holder (server : Broadcast) (fd : Nat) : Option Nat :=
  (server.sessions.find? (fun session => session.fd == fd)).map Session.connection

/-- ws_send_cb. A frame for a descriptor without a session is not sent. -/
def wsSendCb (server : Broadcast) (a : WsSendArg) (ok : Bool) : Broadcast :=
  let delivered :=
    if ok then (server.holder a.fd).toList.map (fun connection => (connection, a.data)) else []
  { server with sent := server.sent ++ delivered }.free a.cell

end Broadcast

def broadcastStep (server : Broadcast) : BroadcastAction → Option Broadcast
  | .accept fd =>
      -- the network stack gives out a descriptor that is not in use
      if server.sessions.any (fun session => session.fd == fd) ∨
          maxOpenSockets ≤ server.sessions.length then none
      else
        some { server with
          sessions := server.sessions ++ [⟨fd, server.accepted, false⟩]
          accepted := server.accepted + 1 }
  | .upgrade fd =>
      some { server with
        sessions := server.sessions.map (fun session =>
          if session.fd = fd then { session with websocket := true } else session) }
  | .close fd =>
      some { server with sessions := server.sessions.filter (fun session => session.fd != fd) }
  | .push json =>
      if server.push = .idle then
        some { server with push := .listing (json.bytes.take (wsJsonBufSize - 1)) }
      else none
  | .list ret =>
      match server.push with
      | .listing data =>
          if ret = .ok then
            some { server with push := .walking data (server.sessions.map Session.fd) }
          else some { server with push := .idle }
      | _ => none
  | .check =>
      match server.push with
      | .walking _ [] => some { server with push := .idle }
      | .walking data (fd :: fds) =>
          if server.sessions.any (fun session => session.fd == fd && session.websocket) then
            some { server with push := .allocating data fd fds }
          else some { server with push := .walking data fds }
      | _ => none
  | .malloc ok =>
      match server.push with
      | .allocating data fd fds =>
          if ok then
            some { server with
              heap := server.heap ++ [server.cells]
              cells := server.cells + 1
              push := .queueing ⟨server.cells, fd, data⟩ fds }
          else some { server with push := .walking data fds }
      | _ => none
  | .queueWork ret =>
      match server.push with
      | .queueing arg fds =>
          if ret = .ok then
            some { server with work := server.work ++ [arg], push := .walking arg.data fds }
          else some { server.free arg.cell with push := .walking arg.data fds }
      | _ => none
  | .sendFrame ok =>
      match server.work with
      | [] => none
      | a :: work => some ({ server with work := work }.wsSendCb a ok)

abbrev BroadcastHistory (trace : List (Broadcast × BroadcastAction)) (final : Broadcast) : Prop :=
  Run broadcastStep Broadcast.start trace final

/-- Everything that a step can do. -/
inductive Moves (server : Broadcast) : BroadcastAction → Broadcast → Prop where
  | accept (fd : Nat) (unused : ∀ session ∈ server.sessions, session.fd ≠ fd) :
      Moves server (.accept fd) { server with
        sessions := server.sessions ++ [⟨fd, server.accepted, false⟩]
        accepted := server.accepted + 1 }
  | upgrade (fd : Nat) :
      Moves server (.upgrade fd) { server with
        sessions := server.sessions.map (fun session =>
          if session.fd = fd then { session with websocket := true } else session) }
  | close (fd : Nat) :
      Moves server (.close fd)
        { server with sessions := server.sessions.filter (fun session => session.fd != fd) }
  | push (json : CString) (idle : server.push = .idle) :
      Moves server (.push json)
        { server with push := .listing (json.bytes.take (wsJsonBufSize - 1)) }
  | listed (data : Bytes) (listing : server.push = .listing data) :
      Moves server (.list .ok)
        { server with push := .walking data (server.sessions.map Session.fd) }
  | unlisted (ret : EspErr) (data : Bytes) (failed : ret ≠ .ok)
      (listing : server.push = .listing data) :
      Moves server (.list ret) { server with push := .idle }
  | walked (data : Bytes) (walking : server.push = .walking data []) :
      Moves server .check { server with push := .idle }
  | found (data : Bytes) (fd : Nat) (fds : List Nat)
      (walking : server.push = .walking data (fd :: fds))
      (websocket : ∃ session ∈ server.sessions, session.fd = fd ∧ session.websocket = true) :
      Moves server .check { server with push := .allocating data fd fds }
  | skipped (data : Bytes) (fd : Nat) (fds : List Nat)
      (walking : server.push = .walking data (fd :: fds))
      (plain : ∀ session ∈ server.sessions, session.fd = fd → session.websocket = false) :
      Moves server .check { server with push := .walking data fds }
  | allocated (data : Bytes) (fd : Nat) (fds : List Nat)
      (allocating : server.push = .allocating data fd fds) :
      Moves server (.malloc true) { server with
        heap := server.heap ++ [server.cells]
        cells := server.cells + 1
        push := .queueing ⟨server.cells, fd, data⟩ fds }
  | refused (data : Bytes) (fd : Nat) (fds : List Nat)
      (allocating : server.push = .allocating data fd fds) :
      Moves server (.malloc false) { server with push := .walking data fds }
  | queued (arg : WsSendArg) (fds : List Nat) (queueing : server.push = .queueing arg fds) :
      Moves server (.queueWork .ok)
        { server with work := server.work ++ [arg], push := .walking arg.data fds }
  | dropped (ret : EspErr) (arg : WsSendArg) (fds : List Nat) (failed : ret ≠ .ok)
      (queueing : server.push = .queueing arg fds) :
      Moves server (.queueWork ret)
        { server.free arg.cell with push := .walking arg.data fds }
  | ran (ok : Bool) (a : WsSendArg) (work : List WsSendArg) (waiting : server.work = a :: work) :
      Moves server (.sendFrame ok) ({ server with work := work }.wsSendCb a ok)

theorem broadcast_moves {server next : Broadcast} {action : BroadcastAction}
    (taken : broadcastStep server action = some next) : Moves server action next := by
  cases action with
  | accept fd =>
      simp only [broadcastStep] at taken
      split at taken <;> cases taken
      rename_i free
      simp only [List.any_eq_true, beq_iff_eq, not_or, not_exists, not_and] at free
      exact .accept fd free.1
  | upgrade fd =>
      cases taken
      exact .upgrade fd
  | close fd =>
      cases taken
      exact .close fd
  | push json =>
      simp only [broadcastStep] at taken
      split at taken <;> cases taken
      rename_i idle
      exact .push json idle
  | list ret =>
      simp only [broadcastStep] at taken
      split at taken
      case h_2 => cases taken
      rename_i data listing
      split at taken <;> cases taken
      · rename_i ok
        rw [ok]
        exact .listed data listing
      · rename_i failed
        exact .unlisted ret data failed listing
  | check =>
      simp only [broadcastStep] at taken
      split at taken
      case h_3 => cases taken
      · rename_i data walking
        cases taken
        exact .walked data walking
      · rename_i data fd fds walking
        split at taken <;> cases taken
        · rename_i any
          simp only [List.any_eq_true, Bool.and_eq_true, beq_iff_eq] at any
          exact .found data fd fds walking any
        · rename_i any
          simp only [List.any_eq_true, Bool.and_eq_true, beq_iff_eq, not_exists, not_and,
            Bool.not_eq_true] at any
          exact .skipped data fd fds walking any
  | malloc ok =>
      simp only [broadcastStep] at taken
      split at taken
      case h_2 => cases taken
      rename_i data fd fds allocating
      cases ok with
      | true =>
          cases taken
          exact .allocated data fd fds allocating
      | false =>
          cases taken
          exact .refused data fd fds allocating
  | queueWork ret =>
      simp only [broadcastStep] at taken
      split at taken
      case h_2 => cases taken
      rename_i arg fds queueing
      split at taken <;> cases taken
      · rename_i ok
        rw [ok]
        exact .queued arg fds queueing
      · rename_i failed
        exact .dropped ret arg fds failed queueing
  | sendFrame ok =>
      simp only [broadcastStep] at taken
      split at taken
      case h_1 => cases taken
      rename_i a work waiting
      cases taken
      exact .ran ok a work waiting

/-! Ownership of the arguments -/

/-- The argument that the walk has in its hands. -/
def BroadcastPc.held : BroadcastPc → List Nat
  | .queueing arg _ => [arg.cell]
  | _ => []

/-- Every argument is in the work queue or in the hands of the walk, once, and nothing was freed
that was not allocated. -/
structure Owned (server : Broadcast) : Prop where
  once : server.heap.Nodup
  places : server.heap = server.work.map WsSendArg.cell ++ server.push.held
  given : ∀ cell ∈ server.heap, cell < server.cells
  noFault : server.fault = false

theorem free_owned {server : Broadcast} (owned : Owned server) (cell : Nat)
    (allocated : cell ∈ server.heap) :
    (server.free cell).heap.Nodup ∧ (∀ other ∈ (server.free cell).heap, other < server.cells) ∧
      (server.free cell).fault = false := by
  refine ⟨owned.once.erase cell, fun other member => ?_, ?_⟩
  · exact owned.given other (List.mem_of_mem_erase member)
  · have contained : server.heap.contains cell = true := List.contains_iff_mem.mpr allocated
    rw [Broadcast.free, contained, owned.noFault]
    rfl

theorem owned_step {server next : Broadcast} {action : BroadcastAction} (owned : Owned server)
    (taken : broadcastStep server action = some next) : Owned next := by
  have places := owned.places
  cases broadcast_moves taken with
  | accept | upgrade | close =>
      exact ⟨owned.once, places, owned.given, owned.noFault⟩
  | push json pc | listed data pc | unlisted ret data failed pc | walked data pc
  | found data fd fds pc websocket | skipped data fd fds pc plain
  | refused data fd fds pc =>
      rw [pc] at places
      exact ⟨owned.once, places, owned.given, owned.noFault⟩
  | allocated data fd fds pc =>
      rw [pc] at places
      change server.heap = server.work.map WsSendArg.cell ++ [] at places
      rw [List.append_nil] at places
      constructor
      case once =>
        rw [List.nodup_append]
        refine ⟨owned.once, List.nodup_singleton _, ?_⟩
        intro cell member other single
        rw [List.mem_singleton.mp single]
        exact Nat.ne_of_lt (owned.given cell member)
      case places => rw [places]; rfl
      case given =>
        intro cell member
        rcases List.mem_append.mp member with old | new
        · exact Nat.lt_succ_of_lt (owned.given cell old)
        · rw [List.mem_singleton.mp new]
          exact Nat.lt_succ_self _
      case noFault => exact owned.noFault
  | queued arg fds pc =>
      rw [pc] at places
      refine ⟨owned.once, ?_, owned.given, owned.noFault⟩
      show server.heap = (server.work ++ [arg]).map WsSendArg.cell ++ []
      rw [places, List.map_append, List.append_nil]
      rfl
  | dropped ret arg fds failed pc =>
      rw [pc, BroadcastPc.held] at places
      obtain ⟨once, given, noFault⟩ := free_owned owned arg.cell (by rw [places]; simp)
      refine ⟨once, ?_, given, noFault⟩
      -- the walk frees the last argument it allocated
      have unqueued : arg.cell ∉ server.work.map WsSendArg.cell := by
        have apart := owned.once
        rw [places, List.nodup_append] at apart
        exact fun member => apart.2.2 _ member _ (List.mem_singleton_self _) rfl
      show server.heap.erase arg.cell = server.work.map WsSendArg.cell ++ []
      rw [places, List.erase_append_right _ unqueued, List.erase_cons_head]
  | ran ok a work waiting =>
      rw [waiting, List.map_cons] at places
      obtain ⟨once, given, noFault⟩ := free_owned owned a.cell (by rw [places]; simp)
      refine ⟨once, ?_, given, noFault⟩
      show server.heap.erase a.cell = work.map WsSendArg.cell ++ server.push.held
      rw [places, List.cons_append, List.erase_cons_head]

/-- No run leaks an argument or frees one twice. -/
theorem args_owned {trace : List (Broadcast × BroadcastAction)} {server : Broadcast}
    (history : BroadcastHistory trace server) :
    server.heap.Nodup ∧ server.heap = server.work.map WsSendArg.cell ++ server.push.held ∧
      server.fault = false := by
  have initial : Owned Broadcast.start := ⟨List.nodup_nil, rfl, by simp [Broadcast.start], rfl⟩
  have owned := history.invariant_state Owned initial
    (fun _ _ _ owned taken => owned_step owned taken)
  exact ⟨owned.once, owned.places, owned.noFault⟩

def interruptedWalk : List BroadcastAction :=
  [.accept 5, .accept 6, .accept 7, .upgrade 5, .upgrade 6, .upgrade 7, .push ⟨[123], by decide⟩,
    .list .ok, .check, .malloc true, .queueWork .ok, .check, .malloc true, .queueWork .fail,
    .close 5, .check, .malloc true]

theorem interrupted_walk_owned :
    ∃ server, BroadcastHistory (execTrace broadcastStep Broadcast.start interruptedWalk) server ∧
      server.heap = [0, 2] ∧ server.fault = false := by
  have executed : (exec broadcastStep Broadcast.start interruptedWalk).map
      (fun server => (server.work.map WsSendArg.cell, server.push.held)) = some ([0], [2]) := by
    decide +kernel
  obtain ⟨server, run, places⟩ := Option.map_eq_some_iff.mp executed
  obtain ⟨waiting, held⟩ := Prod.mk.inj places
  have history := run_of_exec run
  obtain ⟨_, owned, noFault⟩ := args_owned history
  refine ⟨server, history, ?_, noFault⟩
  rw [owned, waiting, held]
  rfl

/-! What a connection receives -/

/-- The descriptors that the walk still goes to, with the payload for them. -/
def BroadcastPc.ahead : BroadcastPc → List (Nat × Bytes)
  | .walking data fds => fds.map (fun fd => (fd, data))
  | .allocating data fd fds => (fd, data) :: fds.map (fun fd => (fd, data))
  | .queueing arg fds => (arg.fd, arg.data) :: fds.map (fun fd => (fd, arg.data))
  | _ => []

def payloads (number : Nat) (frames : List (Nat × Bytes)) : List Bytes :=
  (frames.filter (fun frame => frame.1 == number)).map Prod.snd

@[simp] theorem payloads_nil (number : Nat) : payloads number [] = [] := rfl

@[simp] theorem payloads_append (number : Nat) (front back : List (Nat × Bytes)) :
    payloads number (front ++ back) = payloads number front ++ payloads number back := by
  simp [payloads]

theorem payloads_cons (number other : Nat) (data : Bytes) (frames : List (Nat × Bytes)) :
    payloads number ((other, data) :: frames) =
      (if other = number then [data] else []) ++ payloads number frames := by
  by_cases same : other = number <;> simp [payloads, same]

theorem payloads_one (number other : Nat) (data : Bytes) :
    payloads number [(other, data)] = if other = number then [data] else [] := by
  simp [payloads_cons]

theorem payloads_each {fds : List Nat} {fd : Nat} (distinct : fds.Nodup) (member : fd ∈ fds)
    (data : Bytes) : payloads fd (fds.map (fun other => (other, data))) = [data] := by
  induction fds with
  | nil => cases member
  | cons first rest ih =>
      obtain ⟨fresh, distinct⟩ := List.nodup_cons.mp distinct
      rw [List.map_cons, payloads_cons]
      rcases List.mem_cons.mp member with rfl | later
      · have none : payloads fd (rest.map (fun other => (other, data))) = [] := by
          simp only [payloads, List.map_eq_nil_iff, List.filter_eq_nil_iff, List.mem_map]
          rintro _ ⟨other, among, rfl⟩
          have apart : other ≠ fd := fun same => fresh (same ▸ among)
          simpa using apart
        rw [none, if_pos rfl, List.append_nil]
      · have apart : first ≠ fd := fun same => fresh (same ▸ later)
        rw [if_neg apart, List.nil_append, ih distinct later]

namespace Broadcast

def onTheWay (server : Broadcast) : List (Nat × Bytes) :=
  server.work.map (fun a => (a.fd, a.data)) ++ server.push.ahead

def outstanding (server : Broadcast) (fd : Nat) : List Bytes :=
  payloads fd server.onTheWay

def receivedBy (server : Broadcast) (connection : Nat) : List Bytes :=
  payloads connection server.sent

def Open (server : Broadcast) (fd connection : Nat) : Prop :=
  ⟨fd, connection, true⟩ ∈ server.sessions

end Broadcast

/-- The payload whose client list a step takes. -/
def listedBy (server : Broadcast) : BroadcastAction → Option Bytes
  | .list .ok =>
      match server.push with
      | .listing data => some data
      | _ => none
  | _ => none

def listed (trace : List (Broadcast × BroadcastAction)) : List Bytes :=
  trace.filterMap (fun taken => listedBy taken.1 taken.2)

/-- A step that loses no frame: memory, the work queue and the socket take what they are given. -/
def BroadcastAction.succeeds : BroadcastAction → Bool
  | .malloc ok | .sendFrame ok => ok
  | .queueWork ret => ret == .ok
  | _ => true

/-- One session for a descriptor and for a connection. -/
structure Distinct (server : Broadcast) : Prop where
  fds : (server.sessions.map Session.fd).Nodup
  connections : (server.sessions.map Session.connection).Nodup
  counted : ∀ session ∈ server.sessions, session.connection < server.accepted

theorem distinct_step {server next : Broadcast} {action : BroadcastAction}
    (distinct : Distinct server) (taken : broadcastStep server action = some next) :
    Distinct next := by
  obtain ⟨fds, connections, counted⟩ := distinct
  cases broadcast_moves taken with
  | accept fd unused =>
      constructor
      case fds =>
        rw [List.map_append, List.nodup_append]
        refine ⟨fds, List.nodup_singleton _, ?_⟩
        intro other member last single
        obtain ⟨session, among, rfl⟩ := List.mem_map.mp member
        rw [List.mem_singleton.mp single]
        exact unused session among
      case connections =>
        rw [List.map_append, List.nodup_append]
        refine ⟨connections, List.nodup_singleton _, ?_⟩
        intro other member last single
        obtain ⟨session, among, rfl⟩ := List.mem_map.mp member
        rw [List.mem_singleton.mp single]
        exact Nat.ne_of_lt (counted session among)
      case counted =>
        intro session member
        rcases List.mem_append.mp member with old | new
        · exact Nat.lt_succ_of_lt (counted session old)
        · rw [List.mem_singleton.mp new]
          exact Nat.lt_succ_self _
  | upgrade fd =>
      have same (field : Session → Nat)
          (unset : ∀ session : Session, field { session with websocket := true } = field session) :
          (server.sessions.map (fun session =>
            if session.fd = fd then { session with websocket := true } else session)).map field =
            server.sessions.map field := by
        rw [List.map_map]
        refine List.map_congr_left (fun session _ => ?_)
        show field (if _ then _ else _) = _
        split
        · exact unset session
        · rfl
      constructor
      case fds => rw [same Session.fd (fun _ => rfl)]; exact fds
      case connections => rw [same Session.connection (fun _ => rfl)]; exact connections
      case counted =>
        intro session member
        obtain ⟨before, among, rfl⟩ := List.mem_map.mp member
        have bound := counted before among
        split <;> exact bound
  | close fd =>
      have fewer (field : Session → Nat) :
          ((server.sessions.filter (fun session => session.fd != fd)).map field).Sublist
            (server.sessions.map field) := List.filter_sublist.map field
      exact ⟨fds.sublist (fewer _), connections.sublist (fewer _),
        fun session member => counted session (List.mem_of_mem_filter member)⟩
  | _ => exact ⟨fds, connections, counted⟩

theorem open_step {server next : Broadcast} {action : BroadcastAction} {fd connection : Nat}
    (is : server.Open fd connection) (stays : action ≠ .close fd)
    (taken : broadcastStep server action = some next) : next.Open fd connection := by
  cases broadcast_moves taken with
  | accept => exact List.mem_append_left _ is
  | upgrade other =>
      refine List.mem_map.mpr ⟨_, is, ?_⟩
      split <;> rfl
  | close other =>
      have apart : fd ≠ other := by rintro rfl; exact stays rfl
      exact List.mem_filter.mpr ⟨is, by simpa using apart⟩
  | _ => exact is

theorem holder_iff {server : Broadcast} {fd connection : Nat} (distinct : Distinct server)
    (is : server.Open fd connection) (other : Nat) :
    server.holder other = some connection ↔ other = fd := by
  constructor
  · intro held
    obtain ⟨session, found, named⟩ := Option.map_eq_some_iff.mp held
    have among := List.mem_of_find?_eq_some found
    have same := List.inj_on_of_nodup_map distinct.connections among is named
    have there := List.find?_some found
    rw [same] at there
    exact (beq_iff_eq.mp there).symm
  · rintro rfl
    cases found : server.sessions.find? (fun session => session.fd == other) with
    | none => simpa using List.find?_eq_none.mp found _ is
    | some session =>
        have there := List.find?_some found
        have same := List.inj_on_of_nodup_map distinct.fds (List.mem_of_find?_eq_some found) is
          (beq_iff_eq.mp there)
        rw [Broadcast.holder, found, same]
        rfl

/-- What the connection of a descriptor received between two states, followed by what is on its
way then, is a selection in order from what was on its way and what was added, and all of it
where nothing was lost. -/
def Conveyed (server later : Broadcast) (fd connection : Nat) (added : List Bytes)
    (whole : Prop) : Prop :=
  ∃ got, later.receivedBy connection = server.receivedBy connection ++ got ∧
    (got ++ later.outstanding fd).Sublist (server.outstanding fd ++ added) ∧
    (whole → got ++ later.outstanding fd = server.outstanding fd ++ added)

theorem Conveyed.kept {server later : Broadcast} {fd connection : Nat} {added : List Bytes}
    {whole : Prop} (received : later.receivedBy connection = server.receivedBy connection)
    (account : later.outstanding fd = server.outstanding fd ++ added) :
    Conveyed server later fd connection added whole := by
  refine ⟨[], ?_, ?_, fun _ => account⟩
  · rw [received, List.append_nil]
  · rw [List.nil_append, account]

theorem Conveyed.lost {server later : Broadcast} {fd connection : Nat} {whole : Prop}
    (received : later.receivedBy connection = server.receivedBy connection)
    (account : (later.outstanding fd).Sublist (server.outstanding fd)) (noticed : ¬ whole) :
    Conveyed server later fd connection [] whole := by
  refine ⟨[], ?_, ?_, fun none => absurd none noticed⟩
  · rw [received, List.append_nil]
  · rw [List.nil_append, List.append_nil]
    exact account

theorem Conveyed.trans {first second third : Broadcast} {fd connection : Nat}
    {front back : List Bytes} {whole also : Prop}
    (start : Conveyed first second fd connection front whole)
    (rest : Conveyed second third fd connection back also) :
    Conveyed first third fd connection (front ++ back) (whole ∧ also) := by
  obtain ⟨got, received, some, all⟩ := start
  obtain ⟨more, after, someMore, allMore⟩ := rest
  refine ⟨got ++ more, by rw [after, received, List.append_assoc], ?_, ?_⟩
  · calc ((got ++ more) ++ third.outstanding fd)
      _ = got ++ (more ++ third.outstanding fd) := List.append_assoc ..
      List.Sublist _ (got ++ (second.outstanding fd ++ back)) := someMore.append_left got
      _ = (got ++ second.outstanding fd) ++ back := (List.append_assoc ..).symm
      List.Sublist _ ((first.outstanding fd ++ front) ++ back) := some.append_right back
      _ = first.outstanding fd ++ (front ++ back) := List.append_assoc ..
  · rintro ⟨holds, also⟩
    rw [List.append_assoc, allMore also, ← List.append_assoc, all holds, List.append_assoc]

theorem wsSendCb_received (server : Broadcast) (a : WsSendArg) (ok : Bool) (connection : Nat) :
    (server.wsSendCb a ok).receivedBy connection = server.receivedBy connection ++
      if ok = true ∧ server.holder a.fd = some connection then [a.data] else [] := by
  rw [Broadcast.receivedBy, Broadcast.receivedBy, Broadcast.wsSendCb, Broadcast.free,
    payloads_append]
  cases ok with
  | false => simp
  | true =>
      cases held : server.holder a.fd with
      | none => simp
      | some other => simp [payloads_one]

theorem conveyed_step {server next : Broadcast} {action : BroadcastAction} {fd connection : Nat}
    (distinct : Distinct server) (is : server.Open fd connection)
    (taken : broadcastStep server action = some next) :
    Conveyed server next fd connection (listedBy server action).toList
      (action.succeeds = true) := by
  cases broadcast_moves taken with
  | accept | upgrade | close => exact .kept rfl (List.append_nil _).symm
  | push json pc | walked data pc | found data other fds pc websocket
  | allocated data other fds pc =>
      refine .kept rfl ?_
      simp [Broadcast.outstanding, Broadcast.onTheWay, pc, BroadcastPc.ahead, listedBy]
  | unlisted ret data failed pc =>
      have none : listedBy server (.list ret) = none := by
        cases ret with
        | ok => exact absurd rfl failed
        | _ => rfl
      rw [none]
      refine .kept rfl ?_
      simp [Broadcast.outstanding, Broadcast.onTheWay, pc, BroadcastPc.ahead]
  | listed data pc =>
      refine .kept rfl ?_
      have member : fd ∈ server.sessions.map Session.fd := List.mem_map_of_mem is
      have each := payloads_each distinct.fds member data
      simp only [Broadcast.outstanding, Broadcast.onTheWay, pc, BroadcastPc.ahead, listedBy,
        payloads_append, List.append_nil, each, Option.toList_some]
  | skipped data other fds pc plain =>
      refine .kept rfl ?_
      -- the open session is not the one that was passed over
      have apart : other ≠ fd := by
        rintro rfl
        exact absurd (plain _ is rfl) (by simp)
      simp only [Broadcast.outstanding, Broadcast.onTheWay, pc, BroadcastPc.ahead, listedBy,
        List.map_cons, payloads_append, payloads_cons, if_neg apart, List.nil_append,
        Option.toList_none, List.append_nil]
  | refused data other fds pc =>
      refine .lost rfl ?_ (by simp [BroadcastAction.succeeds])
      simp only [Broadcast.outstanding, Broadcast.onTheWay, pc, BroadcastPc.ahead,
        payloads_append, payloads_cons]
      exact (List.sublist_append_right _ _).append_left _
  | queued arg fds pc =>
      refine .kept rfl ?_
      simp [Broadcast.outstanding, Broadcast.onTheWay, pc, BroadcastPc.ahead, listedBy,
        payloads_cons]
  | dropped ret arg fds failed pc =>
      refine .lost rfl ?_ (by simpa [BroadcastAction.succeeds] using failed)
      simp only [Broadcast.outstanding, Broadcast.onTheWay, Broadcast.free, pc, BroadcastPc.ahead,
        payloads_append, payloads_cons]
      exact (List.sublist_append_right _ _).append_left _
  | ran ok a work waiting =>
      have holds : ({ server with work := work } : Broadcast).holder a.fd = some connection ↔
          a.fd = fd := holder_iff distinct is a.fd
      have before : server.outstanding fd = (if a.fd = fd then [a.data] else []) ++
          payloads fd (work.map (fun a => (a.fd, a.data)) ++ server.push.ahead) := by
        rw [Broadcast.outstanding, Broadcast.onTheWay, waiting, List.map_cons, List.cons_append,
          payloads_cons]
      have received := wsSendCb_received { server with work := work } a ok connection
      by_cases same : a.fd = fd
      · rw [if_pos same] at before
        cases ok with
        | true =>
            rw [if_pos ⟨rfl, holds.mpr same⟩] at received
            refine ⟨[a.data], received, ?_, fun _ => ?_⟩
            · rw [before]
              exact List.sublist_append_left _ _
            · rw [before]
              exact (List.append_nil _).symm
        | false =>
            rw [if_neg (by simp), List.append_nil] at received
            refine .lost received ?_ (by simp [BroadcastAction.succeeds])
            rw [before]
            exact List.sublist_append_right _ _
      · rw [if_neg same, List.nil_append] at before
        rw [if_neg (fun both => same (holds.mp both.2)), List.append_nil] at received
        exact .kept received (by rw [before]; exact (List.append_nil _).symm)

theorem conveyed_run {start final : Broadcast} {trace : List (Broadcast × BroadcastAction)}
    {fd connection : Nat} (run : Run broadcastStep start trace final) (distinct : Distinct start)
    (is : start.Open fd connection) (stays : ∀ taken ∈ trace, taken.2 ≠ .close fd) :
    Distinct final ∧ final.Open fd connection ∧
      Conveyed start final fd connection (listed trace)
        (∀ taken ∈ trace, taken.2.succeeds = true) := by
  induction run with
  | nil => exact ⟨distinct, is, .kept rfl (List.append_nil _).symm⟩
  | @snoc trace state next action earlier taken ih =>
      obtain ⟨distinct, is, conveyed⟩ :=
        ih (fun pair member => stays pair (List.mem_append_left _ member))
      have last := stays _ (List.mem_append_right _ (List.mem_singleton_self _))
      refine ⟨distinct_step distinct taken, open_step is last taken, ?_⟩
      obtain ⟨got, received, some, all⟩ := conveyed.trans (conveyed_step distinct is taken)
      rw [listed, filterMap_snoc]
      refine ⟨got, received, some, fun none => all ⟨fun pair member => ?_, ?_⟩⟩
      · exact none pair (List.mem_append_left _ member)
      · exact none _ (List.mem_append_right _ (List.mem_singleton_self _))

theorem open_of_upgrade {front : List (Broadcast × BroadcastAction)} {server next : Broadcast}
    {fd connection : Nat} (before : BroadcastHistory front server)
    (session : server.holder fd = some connection)
    (upgraded : broadcastStep server (.upgrade fd) = some next) :
    Distinct next ∧ next.Open fd connection := by
  have initial : Distinct Broadcast.start :=
    ⟨List.nodup_nil, List.nodup_nil, by simp [Broadcast.start]⟩
  have distinct := before.invariant_state Distinct initial
    (fun _ _ _ distinct taken => distinct_step distinct taken)
  refine ⟨distinct_step distinct upgraded, ?_⟩
  cases upgraded
  obtain ⟨held, found, named⟩ := Option.map_eq_some_iff.mp session
  have there := List.find?_some found
  rw [beq_iff_eq] at there
  refine List.mem_map.mpr ⟨held, List.mem_of_find?_eq_some found, ?_⟩
  rw [if_pos there, ← there, ← named]

/-- Whatever happens on the other connections, a browser that stays on the dashboard receives the
sensor texts whose client list was taken since its upgrade, each at most once and in order, and
every one of them where memory, queue and socket do not fail. Before them come only frames that
were on their way to its descriptor when it upgraded. -/
theorem frames_reach_browser {front back : List (Broadcast × BroadcastAction)}
    {state final : Broadcast} {fd connection : Nat}
    (history : BroadcastHistory (front ++ (state, .upgrade fd) :: back) final)
    (session : state.holder fd = some connection)
    (stays : ∀ taken ∈ back, taken.2 ≠ .close fd) :
    ∃ got, final.receivedBy connection = state.receivedBy connection ++ got ∧
      (got ++ final.outstanding fd).Sublist (state.outstanding fd ++ listed back) ∧
      ((∀ taken ∈ back, taken.2.succeeds = true) →
        got ++ final.outstanding fd = state.outstanding fd ++ listed back) := by
  obtain ⟨next, before, upgraded, after⟩ := history.before rfl
  obtain ⟨distinct, is⟩ := open_of_upgrade before session upgraded
  cases upgraded
  exact (conveyed_run after distinct is stays).2.2

def reusedFront : List BroadcastAction :=
  [.accept 5, .upgrade 5, .push ⟨[123], by decide⟩, .list .ok, .check, .malloc true,
    .queueWork .ok, .check, .close 5, .accept 5]

def reusedBack : List BroadcastAction :=
  [.sendFrame true, .push ⟨[125], by decide⟩, .list .ok, .check, .malloc true, .queueWork .ok,
    .sendFrame true]

def reusedState : Broadcast :=
  ⟨[⟨5, 1, false⟩], 2, [0], 1, [⟨0, 5, [123]⟩], .idle, [], false⟩

theorem reused_descriptor :
    ∃ final got, BroadcastHistory (execTrace broadcastStep Broadcast.start
        (reusedFront ++ .upgrade 5 :: reusedBack)) final ∧
      final.receivedBy 1 = reusedState.receivedBy 1 ++ got ∧
      got ++ final.outstanding 5 = [[123]] ++ [[125]] := by
  have executed : (exec broadcastStep Broadcast.start
      (reusedFront ++ .upgrade 5 :: reusedBack)).isSome = true := by decide +kernel
  obtain ⟨final, run⟩ := Option.isSome_iff_exists.mp executed
  have history := run_of_exec run
  have split : execTrace broadcastStep Broadcast.start (reusedFront ++ .upgrade 5 :: reusedBack) =
      execTrace broadcastStep Broadcast.start reusedFront ++ (reusedState, .upgrade 5) ::
        execTrace broadcastStep { reusedState with sessions := [⟨5, 1, true⟩] } reusedBack := by
    decide +kernel
  have session : reusedState.holder 5 = some 1 := by decide
  obtain ⟨got, received, _, all⟩ :=
    frames_reach_browser (split ▸ history) session (by decide +kernel)
  refine ⟨final, got, history, received, (all (by decide +kernel)).trans ?_⟩
  decide +kernel

end HydroGovernor
