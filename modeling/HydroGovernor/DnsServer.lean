import HydroGovernor.Library.TrackedBuffer

/-! The captive-portal responder: one iteration of the receive loop of dns_task on its two
stack buffers. -/

namespace HydroGovernor

open Firmware

def dnsBufSize : Nat := 512

/-- `sizeof(dns_hdr_t)`. -/
def dnsHdrSize : Nat := 12

structure DnsBuffers where
  buf : TrackedBuffer
  resp : TrackedBuffer
  buf_sized : buf.cells.length = dnsBufSize
  resp_sized : resp.cells.length = dnsBufSize
  deriving DecidableEq, Repr

/-- AP_IP_ADDR in network byte order. -/
def apIp : Bytes := [192, 168, 4, 1]

/-- The first twelve bytes behind `ans`: pointer to the question's name, type A, class IN,
TTL 60, RDLENGTH 4. -/
def answerFixed : Bytes := [0xC0, 0x0C, 0x00, 0x01, 0x00, 0x01, 0x00, 0x00, 0x00, 0x3C, 0x00, 0x04]

/-- What recvfrom returns: a datagram cut to the buffer, or an error. -/
def received (datagram : Option Bytes) : Bytes :=
  match datagram with
  | some bytes => bytes.take dnsBufSize
  | none => []

def receive (buf : TrackedBuffer) (datagram : Option Bytes) : TrackedBuffer :=
  buf.forget.store 0 (received datagram)

/-- The writes to `resp` for a request of `n` bytes, in the order of the source. -/
def buildResponse (buf resp : TrackedBuffer) (n : Nat) : TrackedBuffer × TrackedBuffer :=
  let (id, buf) := buf.load 0 2
  let resp := resp.store 0 id
  let resp := resp.store 2 [0x81, 0x80]
  let (qdcount, buf) := buf.load 4 2
  let resp := resp.store 4 qdcount
  let resp := resp.store 6 [0x00, 0x01]
  let resp := resp.store 8 [0x00, 0x00]
  let resp := resp.store 10 [0x00, 0x00]
  let qlen := n - dnsHdrSize
  let (question, buf) := buf.load dnsHdrSize qlen
  let resp := resp.store dnsHdrSize question
  let resp := resp.store (dnsHdrSize + qlen) answerFixed
  (buf, resp.store (dnsHdrSize + qlen + 12) apIp)

@[simp] theorem receive_length (buf : TrackedBuffer) (datagram : Option Bytes) :
    (receive buf datagram).cells.length = buf.cells.length :=
  TrackedBuffer.store_length _ _ _

@[simp] theorem receive_reads (buf : TrackedBuffer) (datagram : Option Bytes) :
    (receive buf datagram).reads = [] :=
  TrackedBuffer.store_reads _ _ _

@[simp] theorem buildResponse_resp_length (buf resp : TrackedBuffer) (n : Nat) :
    (buildResponse buf resp n).2.cells.length = resp.cells.length := by
  simp [buildResponse]

/-- What one iteration leaves: the buffers with the accesses it made after recvfrom, the
received length, and the length and bytes handed to sendto. -/
structure DnsIteration where
  buffers : DnsBuffers
  n : Nat
  sent : Option (Nat × Bytes)
  deriving DecidableEq, Repr

def dnsIteration (buffers : DnsBuffers) (datagram : Option Bytes) : DnsIteration :=
  let n := (received datagram).length
  let buf := receive buffers.buf datagram
  let resp := buffers.resp.forget
  if n < dnsHdrSize then
    { buffers :=
        { buf := buf
          resp := resp
          buf_sized := (receive_length _ _).trans buffers.buf_sized
          resp_sized := buffers.resp_sized }
      n := n
      sent := none }
  else
    let built := buildResponse buf resp n
    let length := dnsHdrSize + (n - dnsHdrSize) + 16
    { buffers :=
        { buf := built.1
          resp := built.2
          buf_sized := (receive_length _ _).trans buffers.buf_sized
          resp_sized := (buildResponse_resp_length _ _ _).trans buffers.resp_sized }
      n := n
      sent := some (length, (built.2.load 0 length).1) }

/-- The iterations of the loop, until s_running is cleared. -/
def dnsTask (buffers : DnsBuffers) : List (Option Bytes) → List DnsIteration
  | [] => []
  | datagram :: rest =>
      let iteration := dnsIteration buffers datagram
      iteration :: dnsTask iteration.buffers rest

/-- Only received bytes are read, only cells of `resp` are written, and what is sent has the
announced length and was written in this very iteration. -/
structure StaysInside (iteration : DnsIteration) : Prop where
  reads : ∀ index ∈ iteration.buffers.buf.reads, index < iteration.n
  writes : ∀ index ∈ iteration.buffers.resp.writes, index < dnsBufSize
  sent : ∀ length bytes, iteration.sent = some (length, bytes) →
    length = iteration.n + 16 ∧ length ≤ dnsBufSize ∧
      ∀ index < length, index ∈ iteration.buffers.resp.writes

theorem buildResponse_reads {buf resp : TrackedBuffer} {n : Nat} (index : Nat) :
    index ∈ (buildResponse buf resp n).1.reads ↔
      index ∈ buf.reads ∨ index < 2 ∨ (4 ≤ index ∧ index < 6) ∨
        (dnsHdrSize ≤ index ∧ index < dnsHdrSize + (n - dnsHdrSize)) := by
  simp only [buildResponse, TrackedBuffer.load_reads, List.mem_append, List.mem_range'_1]
  by_cases before : index ∈ buf.reads
  · simp only [before, true_or]
  · simp only [before, false_or]
    omega

theorem buildResponse_writes {buf resp : TrackedBuffer} {n : Nat} (index : Nat) :
    index ∈ (buildResponse buf resp n).2.writes ↔
      index ∈ resp.writes ∨ index < dnsHdrSize + (n - dnsHdrSize) + 16 := by
  simp only [buildResponse, TrackedBuffer.store_writes, List.mem_append, List.mem_range'_1,
    TrackedBuffer.load_length, dnsHdrSize, answerFixed, apIp, List.length_cons, List.length_nil]
  by_cases before : index ∈ resp.writes
  · simp only [before, true_or]
  · simp only [before, false_or]
    omega

/-- One iteration stays inside its buffers exactly when at most 496 bytes were received. -/
theorem iteration_staysInside_iff (buffers : DnsBuffers) (datagram : Option Bytes) :
    StaysInside (dnsIteration buffers datagram) ↔ (received datagram).length ≤ 496 := by
  by_cases runt : (received datagram).length < dnsHdrSize
  · refine iff_of_true ?_ ?_
    · simp only [dnsIteration, if_pos runt]
      exact ⟨by simp, by simp [TrackedBuffer.forget, TrackedBuffer.ofCells], nofun⟩
    · simp only [dnsHdrSize] at runt
      omega
  · rw [dnsIteration, if_neg runt]
    simp only [dnsHdrSize, Nat.not_lt] at runt
    constructor
    · intro inside
      have bound := (inside.sent _ _ rfl).2.1
      simp only [dnsHdrSize, dnsBufSize] at bound
      omega
    · intro short
      constructor
      · intro index read
        rw [buildResponse_reads, receive_reads] at read
        simp only [List.not_mem_nil, dnsHdrSize, false_or] at read
        change index < (received datagram).length
        omega
      · intro index written
        rw [buildResponse_writes] at written
        simp only [TrackedBuffer.forget, TrackedBuffer.ofCells, List.not_mem_nil, dnsHdrSize,
          false_or] at written
        simp only [dnsBufSize]
        omega
      · intro length bytes sent
        cases sent
        simp only [dnsHdrSize, dnsBufSize]
        refine ⟨by omega, by omega, fun index below => ?_⟩
        rw [buildResponse_writes]
        exact Or.inr below

theorem received_short_iff (datagram : Option Bytes) :
    (received datagram).length ≤ 496 ↔ ∀ bytes, datagram = some bytes → bytes.length ≤ 496 := by
  cases datagram with
  | none => simp [received]
  | some bytes =>
      simp only [received, dnsBufSize, List.length_take, Option.some.injEq, forall_eq']
      omega

/-- Every iteration stays inside the buffers exactly when no datagram is longer than 496. -/
theorem dnsTask_staysInside_iff (buffers : DnsBuffers) (datagrams : List (Option Bytes)) :
    (∀ iteration ∈ dnsTask buffers datagrams, StaysInside iteration) ↔
      ∀ bytes, some bytes ∈ datagrams → bytes.length ≤ 496 := by
  induction datagrams generalizing buffers with
  | nil => simp [dnsTask]
  | cons datagram rest ih =>
      simp only [dnsTask, List.mem_cons, forall_eq_or_imp]
      rw [ih, iteration_staysInside_iff, received_short_iff]
      constructor
      · rintro ⟨first, later⟩ bytes (here | there)
        · exact first bytes here.symm
        · exact later bytes there
      · intro short
        exact ⟨fun bytes is => short bytes (Or.inl is.symm),
          fun bytes member => short bytes (Or.inr member)⟩

def zeroBuffers : DnsBuffers where
  buf := .ofCells (List.replicate dnsBufSize 0)
  resp := .ofCells (List.replicate dnsBufSize 0)
  buf_sized := List.length_replicate
  resp_sized := List.length_replicate

theorem full_datagram_overflows :
    ¬ ∀ buffers datagrams, ∀ iteration ∈ dnsTask buffers datagrams, StaysInside iteration := by
  intro inside
  have first := inside zeroBuffers [some (List.replicate 512 0)] _ (List.mem_singleton_self _)
  rw [iteration_staysInside_iff, received_short_iff] at first
  have short := first _ rfl
  rw [List.length_replicate] at short
  omega

def replyTo (request : Bytes) : Bytes :=
  request.take 2 ++ [0x81, 0x80] ++ (request.drop 4).take 2 ++ [0x00, 0x01] ++ [0x00, 0x00] ++
    [0x00, 0x00] ++ request.drop dnsHdrSize ++ answerFixed ++ apIp

/-- The response built for a request in `buf` is the reply to it. -/
theorem buildResponse_holds {buf : TrackedBuffer} (resp : TrackedBuffer) {request : Bytes}
    (filled : buf.Holds request) (sized : resp.cells.length = dnsBufSize)
    (header : dnsHdrSize ≤ request.length) (short : request.length ≤ 496) :
    (buildResponse buf resp request.length).2.Holds (replyTo request) := by
  simp only [dnsHdrSize, dnsBufSize] at header sized
  have id : (buf.load 0 2).1 = request.take 2 := filled.load (by omega)
  have qdcount : ((buf.load 0 2).2.load 4 2).1 = (request.drop 4).take 2 :=
    filled.load (by omega)
  have question : (((buf.load 0 2).2.load 4 2).2.load 12 (request.length - 12)).1 =
      request.drop 12 :=
    calc
      (buf.load 12 (request.length - 12)).1 = (request.drop 12).take (request.length - 12) :=
        filled.load (by omega)
      _ = request.drop 12 := List.take_of_length_le (by rw [List.length_drop])
  have idLength : (request.take 2).length = 2 := by
    rw [List.length_take]
    omega
  have qdLength : ((request.drop 4).take 2).length = 2 := by
    rw [List.length_take, List.length_drop]
    omega
  have questionLength : (request.drop 12).length = request.length - 12 := List.length_drop
  simp only [buildResponse, dnsHdrSize]
  rw [id, qdcount, question, Nat.add_sub_cancel' header]
  have header : (((((resp.store 0 (request.take 2)).store 2 [0x81, 0x80]).store 4
      ((request.drop 4).take 2)).store 6 [0x00, 0x01]).store 8 [0x00, 0x00]).Holds
        (request.take 2 ++ [0x81, 0x80] ++ (request.drop 4).take 2 ++ [0x00, 0x01] ++
          [0x00, 0x00]) := by
    refine .store (.store (.store (.store (.store (.nothing resp) rfl ?_) ?_ ?_) ?_ ?_) ?_ ?_)
      ?_ ?_ <;> simp [sized, idLength, qdLength]
  refine .store (.store (.store (.store header ?_ ?_) ?_ ?_) ?_ ?_) ?_ ?_ <;>
    simp [sized, idLength, qdLength, questionLength, answerFixed, apIp] <;> omega

theorem replyTo_length {request : Bytes} (header : dnsHdrSize ≤ request.length) :
    (replyTo request).length = request.length + 16 := by
  simp only [dnsHdrSize] at header
  simp only [replyTo, answerFixed, apIp, dnsHdrSize, List.length_append, List.length_take,
    List.length_drop, List.length_cons, List.length_nil]
  omega

theorem iteration_answers (buffers : DnsBuffers) (datagram : Option Bytes)
    (header : dnsHdrSize ≤ (received datagram).length) :
    (dnsIteration buffers datagram).sent =
      some ((received datagram).length + 16,
        ((buildResponse (receive buffers.buf datagram) buffers.resp.forget
          (received datagram).length).2.load 0 ((received datagram).length + 16)).1) := by
  rw [dnsIteration, if_neg (Nat.not_lt.mpr header)]
  have length : dnsHdrSize + ((received datagram).length - dnsHdrSize) =
      (received datagram).length := Nat.add_sub_cancel' header
  simp only [length]

theorem iteration_sent (buffers : DnsBuffers) {request : Bytes}
    (header : dnsHdrSize ≤ request.length) (short : request.length ≤ 496) :
    (dnsIteration buffers (some request)).sent =
      some (request.length + 16, replyTo request) := by
  have whole : received (some request) = request := by
    simp only [received, dnsBufSize]
    exact List.take_of_length_le (by omega)
  have filled : (receive buffers.buf (some request)).Holds request := by
    have sized : buffers.buf.forget.cells.length = dnsBufSize := buffers.buf_sized
    have room : 0 + request.length ≤ buffers.buf.forget.cells.length := by
      rw [sized]
      simp only [dnsBufSize]
      omega
    rw [receive, whole]
    exact (TrackedBuffer.Holds.nothing buffers.buf.forget).store rfl room
  have built := buildResponse_holds buffers.resp.forget filled buffers.resp_sized header short
  have answered := iteration_answers buffers (some request) (by rw [whole]; exact header)
  rw [whole] at answered
  rw [answered, built.load (by rw [replyTo_length header]; omega)]
  rw [← replyTo_length header]
  simp

end HydroGovernor
