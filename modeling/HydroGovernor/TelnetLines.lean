import HydroGovernor.Library.CString

/-! What the client of the Telnet log sink receives when its socket takes only a part of what
telnet_server_send offers. -/

namespace HydroGovernor

open Firmware

def crlf : Bytes := [0x0D, 0x0A]

/-- A call of telnet_server_send, with the number of bytes for which the socket has room at each
of its two sends. -/
structure TelnetCall where
  msg : CString
  lineRoom : Nat
  newlineRoom : Nat
  deriving DecidableEq, Repr

/-- `send` with MSG_DONTWAIT: the bytes that the socket takes. -/
def sendNow (room : Nat) (bytes : Bytes) : Bytes := bytes.take room

/-- `stream` is what the client has received so far, and `clientFd` s_client_fd with `none`
for −1. -/
def telnetServerSend (clientFd : Option Nat) (stream : Bytes) (call : TelnetCall) : Bytes :=
  match clientFd with
  | none => stream
  | some _ => stream ++ sendNow call.lineRoom call.msg.bytes ++ sendNow call.newlineRoom crlf

def telnetStream (clientFd : Option Nat) (calls : List TelnetCall) : Bytes :=
  calls.foldl (telnetServerSend clientFd) []

def lineOf (msg : CString) : Bytes := msg.bytes ++ crlf

/-- Every call puts its whole line behind what was received or nothing, so that the stream is
made of the lines of a subsequence of the messages. -/
structure WholeLines (clientFd : Option Nat) (calls : List TelnetCall) : Prop where
  each : ∀ before call after, calls = before ++ call :: after →
    telnetStream clientFd (before ++ [call]) = telnetStream clientFd before ++ lineOf call.msg ∨
      telnetStream clientFd (before ++ [call]) = telnetStream clientFd before
  stream : ∃ delivered : List CString, delivered.Sublist (calls.map TelnetCall.msg) ∧
    telnetStream clientFd calls = delivered.flatMap lineOf

def TelnetCall.TakenWhole (call : TelnetCall) : Prop :=
  call.msg.length ≤ call.lineRoom ∧ crlf.length ≤ call.newlineRoom

def TelnetCall.Refused (call : TelnetCall) : Prop :=
  (call.msg.length = 0 ∨ call.lineRoom = 0) ∧ call.newlineRoom = 0

/-! One call -/

def TelnetCall.output (call : TelnetCall) : Bytes :=
  sendNow call.lineRoom call.msg.bytes ++ sendNow call.newlineRoom crlf

theorem telnetServerSend_output (fd : Nat) (stream : Bytes) (call : TelnetCall) :
    telnetServerSend (some fd) stream call = stream ++ call.output := by
  rw [telnetServerSend, TelnetCall.output, List.append_assoc]

theorem telnetStream_step (fd : Nat) (before : List TelnetCall) (call : TelnetCall) :
    telnetStream (some fd) (before ++ [call]) = telnetStream (some fd) before ++ call.output := by
  rw [telnetStream, List.foldl_append, List.foldl_cons, List.foldl_nil, telnetServerSend_output,
    telnetStream]

theorem output_whole_iff (call : TelnetCall) : call.output = lineOf call.msg ↔ call.TakenWhole := by
  have crlfLength : crlf.length = 2 := rfl
  constructor
  · intro whole
    have long := congrArg List.length whole
    simp only [TelnetCall.output, lineOf, sendNow, List.length_append, List.length_take,
      crlfLength] at long
    rw [TelnetCall.TakenWhole, CString.length, crlfLength]
    omega
  · rintro ⟨line, newline⟩
    rw [TelnetCall.output, sendNow, sendNow, List.take_of_length_le line,
      List.take_of_length_le newline, lineOf]

theorem output_nothing_iff (call : TelnetCall) : call.output = [] ↔ call.Refused := by
  have crlfLength : crlf.length = 2 := rfl
  rw [← List.length_eq_zero_iff, TelnetCall.Refused, CString.length]
  simp only [TelnetCall.output, sendNow, List.length_append, List.length_take, crlfLength]
  omega

/-! A run of calls -/

theorem telnetStream_lines (fd : Nat) (calls : List TelnetCall)
    (taken : ∀ call ∈ calls, call.TakenWhole ∨ call.Refused) :
    ∃ delivered : List CString, delivered.Sublist (calls.map TelnetCall.msg) ∧
      telnetStream (some fd) calls = delivered.flatMap lineOf := by
  induction calls using List.reverseRecOn with
  | nil => exact ⟨[], List.Sublist.refl _, rfl⟩
  | append_singleton before call ih =>
      obtain ⟨delivered, part, stream⟩ :=
        ih (fun earlier member => taken earlier (List.mem_append_left _ member))
      rw [telnetStream_step, List.map_append, List.map_singleton, stream]
      rcases taken call (List.mem_append_right _ List.mem_cons_self) with whole | refused
      · refine ⟨delivered ++ [call.msg], part.append (List.Sublist.refl _), ?_⟩
        rw [(output_whole_iff call).mpr whole, List.flatMap_append, List.flatMap_singleton]
      · refine ⟨delivered, part.trans (List.sublist_append_left _ _), ?_⟩
        rw [(output_nothing_iff call).mpr refused, List.append_nil]

/-- The log is made of whole lines exactly when the socket takes both sends of every call whole,
or neither of them at all. -/
theorem telnet_lines_iff (fd : Nat) (calls : List TelnetCall) :
    WholeLines (some fd) calls ↔ ∀ call ∈ calls, call.TakenWhole ∨ call.Refused := by
  constructor
  · intro whole call member
    obtain ⟨before, after, split⟩ := List.append_of_mem member
    have each := whole.each before call after split
    rw [telnetStream_step] at each
    rcases each with line | nothing
    · exact .inl ((output_whole_iff call).mp (List.append_cancel_left line))
    · exact .inr ((output_nothing_iff call).mp (List.append_right_eq_self.mp nothing))
  · intro taken
    refine ⟨?_, telnetStream_lines fd calls taken⟩
    rintro before call after rfl
    rw [telnetStream_step]
    rcases taken call (by simp) with whole | refused
    · exact .inl (by rw [(output_whole_iff call).mpr whole])
    · exact .inr (by rw [(output_nothing_iff call).mpr refused, List.append_nil])

def flowMessage : CString := ⟨ascii "flow 2.4", by decide⟩

/-- The socket has room for the first four bytes of the message and for the line end. -/
theorem line_cut :
    ¬ ∀ fd calls, WholeLines (some fd) calls := by
  intro every
  obtain ⟨delivered, part, stream⟩ := (every 54 [⟨flowMessage, 4, 2⟩]).stream
  have only : ∀ delivered ∈ [flowMessage].sublists,
      telnetStream (some 54) [⟨flowMessage, 4, 2⟩] ≠ delivered.flatMap lineOf := by decide
  exact only delivered (List.mem_sublists.mpr part) stream

end HydroGovernor
