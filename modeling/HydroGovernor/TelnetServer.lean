import HydroGovernor.Library.Descriptors
import HydroGovernor.Library.Transition

/-! The Telnet log sink among the other users of the socket table. -/

namespace HydroGovernor

open Firmware

inductive SocketOwner where
  | telnet
  | other
  deriving DecidableEq, Repr

/-- Where telnet_task is in its accept loop. `client` is its local of that name. -/
inductive TelnetPc where
  | accepting
  | publishing (client : Nat)
  | polling (client : Nat)
  | clearing (client : Nat)
  | closing (client : Nat)
  deriving DecidableEq, Repr

def TelnetPc.client : TelnetPc → Option Nat
  | .accepting => none
  | .publishing client => some client
  | .polling client => some client
  | .clearing client => some client
  | .closing client => some client

/-- A telnet_server_send past its copy of s_client_fd. `connection` is what was open on the
descriptor when it was copied. -/
structure SendCall where
  fd : Nat
  connection : Option (Connection SocketOwner)
  lineSent : Bool
  deriving DecidableEq, Repr

/-- `clientFd` is s_client_fd, with `none` for −1. `closed` are the connections that close_client
has ended. -/
structure TelnetSystem where
  sockets : Descriptors SocketOwner
  clientFd : Option Nat
  task : TelnetPc
  calls : List SendCall
  accepted : List (Connection SocketOwner)
  closed : List (Connection SocketOwner)

def TelnetSystem.started : TelnetSystem := ⟨Descriptors.empty, none, .accepting, [], [], []⟩

/-- `task ended` is the next piece of telnet_task, where `ended` says that a recv has returned 0
or an error other than a timeout. -/
inductive TelnetAction where
  | acceptFailed
  | accept (fd : Nat)
  | task (ended : Bool)
  | call
  | send (index : Nat)
  | otherOpens (fd : Nat)
  | otherCloses (fd : Nat)
  deriving DecidableEq, Repr

def taskStep (system : TelnetSystem) (ended : Bool) : Option TelnetSystem :=
  match system.task with
  | .accepting => none
  | .publishing client => some { system with clientFd := some client, task := .polling client }
  | .polling client =>
      if ended then some { system with task := .clearing client } else some system
  | .clearing client => some { system with clientFd := none, task := .closing client }
  | .closing client =>
      some { system with
        sockets := system.sockets.close client
        closed := system.closed ++ (system.sockets.table client).toList
        task := .accepting }

def telnetStep (system : TelnetSystem) : TelnetAction → Option TelnetSystem
  | .acceptFailed => if system.task = .accepting then some system else none
  | .accept fd =>
      if system.task = .accepting ∧ system.sockets.table fd = none then
        some { system with
          sockets := system.sockets.openAt fd .telnet
          accepted := system.accepted ++ [system.sockets.next .telnet]
          task := .publishing fd }
      else none
  | .task ended => taskStep system ended
  | .call =>
      match system.clientFd with
      | none => some system
      | some fd =>
          some { system with calls := system.calls ++ [⟨fd, system.sockets.table fd, false⟩] }
  | .send index =>
      match system.calls[index]? with
      | none => none
      | some call =>
          if call.lineSent then some { system with calls := system.calls.eraseIdx index }
          else some { system with calls := system.calls.set index { call with lineSent := true } }
  | .otherOpens fd =>
      if system.sockets.table fd = none then
        some { system with sockets := system.sockets.openAt fd .other }
      else none
  | .otherCloses fd =>
      match system.sockets.table fd with
      | none => none
      | some connection =>
          if connection.owner = .other then
            some { system with sockets := system.sockets.close fd }
          else none

abbrev TelnetHistory (trace : List (TelnetSystem × TelnetAction)) (system : TelnetSystem) : Prop :=
  Transition.Run telnetStep TelnetSystem.started trace system

def TelnetSystem.sends (system : TelnetSystem) : TelnetAction → Option SendCall
  | .send index => system.calls[index]?
  | _ => none

/-- Every send acts on the open connection that telnet_task accepted and the caller read. -/
def SendsReachClient (trace : List (TelnetSystem × TelnetAction)) : Prop :=
  ∀ taken ∈ trace, ∀ call, taken.1.sends taken.2 = some call →
    ∃ connection ∈ taken.1.accepted, call.connection = some connection ∧
      taken.1.sockets.table call.fd = some connection

/-- telnet_task closes what it has accepted, each connection once. -/
structure ClosesOnce (trace : List (TelnetSystem × TelnetAction)) (final : TelnetSystem) :
    Prop where
  each : ∀ taken ∈ trace, ∀ client ended, taken.1.task = .closing client →
    taken.2 = .task ended → ∃ connection ∈ taken.1.accepted,
      taken.1.sockets.table client = some connection ∧ connection ∉ taken.1.closed
  all : final.task = .accepting → final.closed = final.accepted
  once : final.closed.Nodup

/-- Between the copy of a call and its sends the connection is not closed by telnet_task. -/
def UnclosedUntilSent (trace : List (TelnetSystem × TelnetAction)) : Prop :=
  ∀ taken ∈ trace, ∀ call, taken.1.sends taken.2 = some call →
    ∀ connection ∈ call.connection, connection ∉ taken.1.closed

/-- What telnet_task has accepted is what it has closed and, until it is back at accept, the
connection on its descriptor. No one else ends a connection of it. -/
structure TelnetInv (system : TelnetSystem) : Prop where
  rest : system.task.client = none → system.accepted = system.closed
  held : ∀ client, system.task.client = some client → ∃ connection,
    system.sockets.table client = some connection ∧ connection.owner = .telnet ∧
      system.accepted = system.closed ++ [connection]
  published : ∀ fd, system.clientFd = some fd → system.task.client = some fd ∧
    ∀ client, system.task ≠ .closing client
  once : system.accepted.Nodup
  numbered : ∀ connection ∈ system.accepted, connection.serial < system.sockets.opened
  gone : ∀ connection ∈ system.closed, ∀ fd, system.sockets.table fd ≠ some connection
  calls : ∀ call ∈ system.calls, ∃ connection ∈ system.accepted,
    call.connection = some connection ∧
      (connection ∉ system.closed → system.sockets.table call.fd = some connection)

theorem telnetInv_started : TelnetInv TelnetSystem.started :=
  ⟨fun _ => rfl, nofun, nofun, List.nodup_nil, nofun, nofun, nofun⟩

theorem TelnetInv.unclosed {system : TelnetSystem} (inv : TelnetInv system)
    {connection : Connection SocketOwner} (accepted : connection ∈ system.accepted)
    (unclosed : connection ∉ system.closed) :
    ∃ client, system.task.client = some client ∧
      system.sockets.table client = some connection ∧ connection.owner = .telnet := by
  cases holding : system.task.client with
  | none =>
      rw [inv.rest holding] at accepted
      exact absurd accepted unclosed
  | some client =>
      obtain ⟨current, stored, owner, whole⟩ := inv.held client holding
      rw [whole] at accepted
      rcases List.mem_append.mp accepted with ended | last
      · exact absurd ended unclosed
      · rw [List.mem_singleton.mp last]
        exact ⟨client, rfl, stored, owner⟩

theorem TelnetInv.closed_accepted {system : TelnetSystem} (inv : TelnetInv system)
    {connection : Connection SocketOwner} (ended : connection ∈ system.closed) :
    connection ∈ system.accepted := by
  cases holding : system.task.client with
  | none =>
      rw [inv.rest holding]
      exact ended
  | some client =>
      obtain ⟨_, -, -, whole⟩ := inv.held client holding
      rw [whole]
      exact List.mem_append_left _ ended

theorem TelnetInv.held_unclosed {system : TelnetSystem} (inv : TelnetInv system)
    {connection : Connection SocketOwner}
    (whole : system.accepted = system.closed ++ [connection]) : connection ∉ system.closed := by
  intro ended
  have once := inv.once
  rw [whole] at once
  exact (List.nodup_append.mp once).2.2 connection ended connection (List.mem_singleton_self _) rfl

theorem TelnetInv.others {system : TelnetSystem} (inv : TelnetInv system)
    {sockets : Descriptors SocketOwner} (later : system.sockets.opened ≤ sockets.opened)
    (kept : ∀ fd connection, system.sockets.table fd = some connection →
      connection.owner = .telnet → sockets.table fd = some connection)
    (old : ∀ fd connection, connection.serial < system.sockets.opened →
      sockets.table fd = some connection → system.sockets.table fd = some connection) :
    TelnetInv { system with sockets := sockets } where
  rest := inv.rest
  held client holding := by
    obtain ⟨connection, stored, owner, whole⟩ := inv.held client holding
    exact ⟨connection, kept client connection stored owner, owner, whole⟩
  published := inv.published
  once := inv.once
  numbered connection accepted := Nat.lt_of_lt_of_le (inv.numbered connection accepted) later
  gone connection ended fd stored :=
    inv.gone connection ended fd
      (old fd connection (inv.numbered connection (inv.closed_accepted ended)) stored)
  calls call member := by
    obtain ⟨connection, accepted, copied, stored⟩ := inv.calls call member
    refine ⟨connection, accepted, copied, fun unclosed => ?_⟩
    obtain ⟨_, _, _, owner⟩ := inv.unclosed accepted unclosed
    exact kept call.fd connection (stored unclosed) owner

theorem telnetInv_task {system next : TelnetSystem} {ended : Bool} (inv : TelnetInv system)
    (taken : taskStep system ended = some next) : TelnetInv next := by
  unfold taskStep at taken
  cases pc : system.task with
  | accepting => simp [pc] at taken
  | publishing client =>
      simp only [pc] at taken
      cases taken
      exact ⟨nofun, fun fd is => inv.held fd (by rw [pc]; exact is),
        fun fd is => ⟨is, nofun⟩, inv.once, inv.numbered, inv.gone, inv.calls⟩
  | polling client =>
      simp only [pc] at taken
      split at taken <;> cases taken
      · refine ⟨nofun, fun fd is => inv.held fd (by rw [pc]; exact is), fun fd is => ?_, inv.once,
          inv.numbered, inv.gone, inv.calls⟩
        have here := (inv.published fd is).1
        rw [pc] at here
        exact ⟨here, nofun⟩
      · exact inv
  | clearing client =>
      simp only [pc] at taken
      cases taken
      exact ⟨nofun, fun fd is => inv.held fd (by rw [pc]; exact is), nofun, inv.once,
        inv.numbered, inv.gone, inv.calls⟩
  | closing client =>
      simp only [pc] at taken
      cases taken
      obtain ⟨connection, stored, owner, whole⟩ := inv.held client (by rw [pc]; rfl)
      have now : system.accepted =
          system.closed ++ (system.sockets.table client).toList := by
        rw [whole, stored]
        rfl
      refine ⟨fun _ => now, nofun, fun fd is => absurd pc ((inv.published fd is).2 client),
        inv.once, inv.numbered, ?_, ?_⟩
      · intro gone member fd still
        rcases List.mem_append.mp member with before | last
        · exact inv.gone gone before fd (Descriptors.close_eq_some.mp still).2
        · rw [stored, Option.toList_some, List.mem_singleton] at last
          rw [last] at still
          exact Descriptors.close_ends stored fd still
      · intro call member
        obtain ⟨copied, accepted, is, -⟩ := inv.calls call member
        refine ⟨copied, accepted, is, fun unclosed => absurd ?_ unclosed⟩
        rw [← now]
        exact accepted

theorem telnetInv_accept {system : TelnetSystem} {fd : Nat} (inv : TelnetInv system)
    (atAccept : system.task = .accepting) (free : system.sockets.table fd = none) :
    TelnetInv { system with
      sockets := system.sockets.openAt fd .telnet
      accepted := system.accepted ++ [system.sockets.next .telnet]
      task := .publishing fd } where
  rest := nofun
  held client is := by
    cases is
    refine ⟨system.sockets.next .telnet, Descriptors.openAt_self _ _ _, rfl, ?_⟩
    rw [inv.rest (by rw [atAccept]; rfl)]
  published client is := by
    have here := (inv.published client is).1
    rw [atAccept] at here
    cases here
  once := by
    refine List.nodup_append.mpr ⟨inv.once, List.nodup_singleton _, ?_⟩
    intro earlier before last is same
    rw [List.mem_singleton.mp is] at same
    exact absurd (inv.numbered earlier before) (by rw [same]; exact Nat.lt_irrefl _)
  numbered connection member := by
    rcases List.mem_append.mp member with before | last
    · exact Nat.lt_succ_of_lt (inv.numbered connection before)
    · rw [List.mem_singleton.mp last]
      exact Nat.lt_succ_self _
  gone connection ended other stored := by
    rcases Descriptors.openAt_cases stored with rfl | before
    · exact absurd (inv.numbered _ (inv.closed_accepted ended)) (Nat.lt_irrefl _)
    · exact inv.gone connection ended other before
  calls call member := by
    obtain ⟨connection, accepted, copied, stored⟩ := inv.calls call member
    exact ⟨connection, List.mem_append_left _ accepted, copied,
      fun unclosed => Descriptors.openAt_keeps free (stored unclosed)⟩

theorem telnetInv_call {system : TelnetSystem} {fd : Nat} (inv : TelnetInv system)
    (published : system.clientFd = some fd) :
    TelnetInv { system with
      calls := system.calls ++ [⟨fd, system.sockets.table fd, false⟩] } where
  rest := inv.rest
  held := inv.held
  published := inv.published
  once := inv.once
  numbered := inv.numbered
  gone := inv.gone
  calls call member := by
    rcases List.mem_append.mp member with before | last
    · exact inv.calls call before
    · rw [List.mem_singleton.mp last]
      obtain ⟨connection, stored, -, whole⟩ := inv.held fd (inv.published fd published).1
      refine ⟨connection, ?_, stored, fun _ => stored⟩
      rw [whole]
      exact List.mem_append_right _ (List.mem_singleton_self _)

theorem TelnetInv.sent {system : TelnetSystem} (inv : TelnetInv system) {calls : List SendCall}
    (copies : ∀ call ∈ calls, ∃ earlier ∈ system.calls,
      call.fd = earlier.fd ∧ call.connection = earlier.connection) :
    TelnetInv { system with calls := calls } where
  rest := inv.rest
  held := inv.held
  published := inv.published
  once := inv.once
  numbered := inv.numbered
  gone := inv.gone
  calls call member := by
    obtain ⟨earlier, before, fd, connection⟩ := copies call member
    rw [fd, connection]
    exact inv.calls earlier before

theorem telnetInv_step {system next : TelnetSystem} {action : TelnetAction}
    (inv : TelnetInv system) (taken : telnetStep system action = some next) :
    TelnetInv next := by
  cases action with
  | task ended => exact telnetInv_task inv taken
  | acceptFailed =>
      simp only [telnetStep] at taken
      split at taken <;> cases taken
      exact inv
  | accept fd =>
      simp only [telnetStep] at taken
      split at taken
      · rename_i ready
        cases taken
        exact telnetInv_accept inv ready.1 ready.2
      · cases taken
  | call =>
      simp only [telnetStep] at taken
      split at taken <;> cases taken
      · exact inv
      · rename_i fd published
        exact telnetInv_call inv published
  | send index =>
      simp only [telnetStep] at taken
      split at taken
      · cases taken
      · rename_i call pending
        have before := List.mem_of_getElem? pending
        split at taken <;> cases taken
        · exact inv.sent (fun other member => ⟨other, List.mem_of_mem_eraseIdx member, rfl, rfl⟩)
        · apply inv.sent
          intro other member
          rcases List.mem_or_eq_of_mem_set member with kept | rfl
          · exact ⟨other, kept, rfl, rfl⟩
          · exact ⟨call, before, rfl, rfl⟩
  | otherOpens fd =>
      simp only [telnetStep] at taken
      split at taken <;> cases taken
      rename_i free
      refine inv.others (Nat.le_succ _) (fun _ _ stored _ => Descriptors.openAt_keeps free stored)
        (fun other connection old stored => ?_)
      rcases Descriptors.openAt_cases stored with rfl | before
      · exact absurd old (Nat.lt_irrefl _)
      · exact before
  | otherCloses fd =>
      simp only [telnetStep] at taken
      split at taken
      · cases taken
      rename_i connection stored
      split at taken <;> cases taken
      rename_i foreign
      refine inv.others (Nat.le_refl _) (fun other kept there owner => ?_)
        (fun other connection _ there => (Descriptors.close_eq_some.mp there).2)
      refine Descriptors.close_eq_some.mpr ⟨fun same => ?_, there⟩
      rw [same, stored] at there
      cases there
      rw [foreign] at owner
      cases owner

theorem telnetInv_before {trace front back : List (TelnetSystem × TelnetAction)}
    {final system : TelnetSystem} {action : TelnetAction} (run : TelnetHistory trace final)
    (split : trace = front ++ (system, action) :: back) : TelnetInv system :=
  run.invariant_before (fun _ system => TelnetInv system) (fun _ _ => True) telnetInv_started
    (fun _ _ _ _ _ inv _ taken => telnetInv_step inv taken) (fun _ _ => trivial) split

theorem closesOnce_of_history {trace : List (TelnetSystem × TelnetAction)} {final : TelnetSystem}
    (run : TelnetHistory trace final) : ClosesOnce trace final := by
  have inv := run.invariant_state TelnetInv telnetInv_started
    (fun _ _ _ inv taken => telnetInv_step inv taken)
  refine ⟨?_, fun atAccept => (inv.rest (by rw [atAccept]; rfl)).symm, ?_⟩
  · intro taken member client ended closing _
    obtain ⟨front, back, split⟩ := List.append_of_mem member
    have before := telnetInv_before run split
    obtain ⟨connection, stored, -, whole⟩ := before.held client (by rw [closing]; rfl)
    refine ⟨connection, ?_, stored, before.held_unclosed whole⟩
    rw [whole]
    exact List.mem_append_right _ (List.mem_singleton_self _)
  · have once := inv.once
    cases holding : final.task.client with
    | none => rwa [inv.rest holding] at once
    | some client =>
        obtain ⟨_, -, -, whole⟩ := inv.held client holding
        rw [whole] at once
        exact (List.nodup_append.mp once).1

/-- The log goes to the Telnet client only exactly when no connection is closed between the
copy of its descriptor and a send. -/
theorem telnet_client_only_iff (trace : List (TelnetSystem × TelnetAction)) (final : TelnetSystem)
    (run : TelnetHistory trace final) :
    (SendsReachClient trace ∧ ClosesOnce trace final) ↔ UnclosedUntilSent trace := by
  have sending (taken : TelnetSystem × TelnetAction) (member : taken ∈ trace) (call : SendCall)
      (sends : taken.1.sends taken.2 = some call) :
      TelnetInv taken.1 ∧ call ∈ taken.1.calls := by
    obtain ⟨front, back, split⟩ := List.append_of_mem member
    refine ⟨telnetInv_before run split, ?_⟩
    unfold TelnetSystem.sends at sends
    split at sends
    · exact List.mem_of_getElem? sends
    · cases sends
  constructor
  · rintro ⟨reach, -⟩ taken member call sends connection copied ended
    obtain ⟨inv, -⟩ := sending taken member call sends
    obtain ⟨client, -, is, stored⟩ := reach taken member call sends
    rw [copied] at is
    cases is
    exact inv.gone connection ended call.fd stored
  · intro unclosed
    refine ⟨fun taken member call sends => ?_, closesOnce_of_history run⟩
    obtain ⟨inv, pending⟩ := sending taken member call sends
    obtain ⟨connection, accepted, copied, stored⟩ := inv.calls call pending
    exact ⟨connection, accepted, copied,
      stored (unclosed taken member call sends connection copied)⟩

def clientLeaves : List TelnetAction :=
  [.accept 54, .task false, .call, .task true, .task false, .task false, .otherOpens 54, .send 0]

theorem line_sent_to_web_client :
    ¬ ∀ trace final, TelnetHistory trace final →
      SendsReachClient trace ∧ ClosesOnce trace final := by
  intro every
  obtain ⟨final, run, -⟩ := Transition.exists_run_of_exec clientLeaves
    (fun (_ : TelnetSystem) => true)
    (show (Transition.exec telnetStep TelnetSystem.started clientLeaves).any _ = true by decide)
  have reused : (Transition.execTrace telnetStep TelnetSystem.started clientLeaves).any
      (fun (taken : TelnetSystem × TelnetAction) => (taken.1.sends taken.2).any
        (fun call => decide (call.connection = some ⟨0, .telnet⟩ ∧
          taken.1.sockets.table call.fd = some ⟨1, .other⟩))) = true := by decide
  obtain ⟨taken, member, misled⟩ := List.any_eq_true.mp reused
  cases sends : taken.1.sends taken.2 with
  | none =>
      rw [sends, Option.any_none] at misled
      cases misled
  | some call =>
      rw [sends, Option.any_some] at misled
      obtain ⟨copied, stored⟩ := of_decide_eq_true misled
      obtain ⟨connection, -, is, reached⟩ := (every _ final run).1 taken member call sends
      rw [copied] at is
      rw [stored, ← is] at reached
      exact absurd reached (by decide)

def clientStays : List TelnetAction :=
  [.accept 54, .task false, .call, .send 0, .send 0, .task true, .task false, .task false]

theorem line_sent_to_client :
    ∃ trace final, TelnetHistory trace final ∧ SendsReachClient trace ∧
      ClosesOnce trace final := by
  obtain ⟨final, run, -⟩ := Transition.exists_run_of_exec clientStays
    (fun (_ : TelnetSystem) => true)
    (show (Transition.exec telnetStep TelnetSystem.started clientStays).any _ = true by decide)
  have unclosed : (Transition.execTrace telnetStep TelnetSystem.started clientStays).all
      (fun (taken : TelnetSystem × TelnetAction) => (taken.1.sends taken.2).all
        (fun call => call.connection.all (fun connection =>
          decide (connection ∉ taken.1.closed)))) = true := by decide
  refine ⟨_, final, run, (telnet_client_only_iff _ final run).mpr ?_⟩
  intro taken member call sends connection copied
  have checked := List.all_eq_true.mp unclosed taken member
  rw [sends, Option.all_some, copied, Option.all_some] at checked
  exact of_decide_eq_true checked

end HydroGovernor
