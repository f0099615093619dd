import HydroGovernor.Library.TrackedBuffer
import HydroGovernor.Nvs

/-! ota_handler: the firmware upload, with every way in which the connection delivers the body
and in which the OTA calls fail. -/

namespace HydroGovernor

open Firmware

def otaBufSize : Nat := 1024

/-- How the calls of one request answer. The functions take the number of the call;
`recv` gives no size when httpd_req_recv fails. -/
structure OtaEnv where
  partition : Bool
  begins : EspErr
  recv : Nat → Option Nat
  write : Nat → EspErr
  ends : EspErr
  setBoot : EspErr

/-- The number of bytes delivered: from 1 up to what was asked for. -/
def chunkSize (offered requested : Nat) : Nat := max 1 (min offered requested)

inductive OtaCall where
  | begin (ret : EspErr)
  | recv (requested : Nat) (received : Option Nat)
  | write (payload : Bytes) (ret : EspErr)
  | abort
  | finish (ret : EspErr)
  | setBoot (ret : EspErr)
  deriving DecidableEq, Repr

inductive OtaReply where
  | error (text : String)
  | ok (text : String)
  deriving DecidableEq, Repr

/-- The calls that a request makes, its reply, what it returns, and whether it ends in
esp_restart, which does not return. -/
structure OtaResult where
  calls : List OtaCall
  reply : OtaReply
  returned : Option EspErr
  restarts : Bool
  deriving DecidableEq, Repr

/-- `remaining < OTA_BUF_SIZE ? remaining : OTA_BUF_SIZE`. -/
def toRecv (remaining : Int) : Nat :=
  if remaining < otaBufSize then remaining.toNat else otaBufSize

theorem chunkSize_toRecv {remaining : Int} (positive : 0 < remaining) (offered : Nat) :
    1 ≤ chunkSize offered (toRecv remaining) ∧ chunkSize offered (toRecv remaining) ≤ otaBufSize ∧
      (chunkSize offered (toRecv remaining) : Int) ≤ remaining := by
  unfold chunkSize toRecv otaBufSize
  by_cases small : remaining < (1024 : Nat)
  · rw [if_pos small]
    omega
  · rw [if_neg small]
    omega

/-- The receive loop; `unread` is what the client has still to deliver. The text is that of
the error that ends it. -/
def receiveLoop (env : OtaEnv) (remaining : Int) (unread : Bytes) (buf : TrackedBuffer)
    (call : Nat) : List OtaCall × Option String :=
  if _more : 0 < remaining then
    match env.recv call with
    | none => ([.recv (toRecv remaining) none, .abort], some "Receive failed")
    | some offered =>
        let received := chunkSize offered (toRecv remaining)
        let filled := buf.store 0 (unread.take received)
        let (payload, buf) := filled.load 0 received
        if env.write call ≠ .ok then
          ([.recv (toRecv remaining) (some received), .write payload (env.write call), .abort],
            some "OTA write failed")
        else
          let (calls, failure) :=
            receiveLoop env (remaining - received) (unread.drop received) buf (call + 1)
          (.recv (toRecv remaining) (some received) :: .write payload .ok :: calls, failure)
  else ([], none)
termination_by remaining.toNat
decreasing_by
  have size := chunkSize_toRecv _more offered
  omega

def asInt (size : Nat) : Int := (BitVec.ofNat 32 size).toInt

def otaHandler (env : OtaEnv) (body : Bytes) (buf : TrackedBuffer) : OtaResult :=
  if env.partition = false then ⟨[], .error "No OTA partition", some .fail, false⟩
  else if env.begins ≠ .ok then
    ⟨[.begin env.begins], .error "OTA begin failed", some .fail, false⟩
  else
    match receiveLoop env (asInt body.length) body buf 0 with
    | (calls, some failure) => ⟨.begin .ok :: calls, .error failure, some .fail, false⟩
    | (calls, none) =>
        if env.ends ≠ .ok then
          ⟨.begin .ok :: calls ++ [.finish env.ends], .error "OTA validation failed", some .fail,
            false⟩
        else
          ⟨.begin .ok :: calls ++ [.finish .ok, .setBoot env.setBoot],
            .ok "\x7b\"status\":\"ok\",\"msg\":\"OTA complete. Rebooting...\"\x7d", none, true⟩

def written (calls : List OtaCall) : Bytes :=
  calls.flatMap (fun call => match call with | .write payload _ => payload | _ => [])

def OtaCall.isRecv : OtaCall → Bool
  | .recv _ _ => true
  | _ => false

/-- Every result is what the environment answers to the call, and esp_ota_write is given the chunk
that httpd_req_recv has just delivered. `call` counts the rounds of the loop, and `unread` is what
the client has still to deliver. -/
def OtaAnswered (env : OtaEnv) : Nat → Bytes → Bytes → List OtaCall → Prop
  | _, _, _, [] => True
  | call, unread, chunk, .begin ret :: rest =>
      env.partition = true ∧ ret = env.begins ∧ OtaAnswered env call unread chunk rest
  | call, unread, _, .recv requested received :: rest =>
      received = (env.recv call).map (fun offered => chunkSize offered requested) ∧
        OtaAnswered env call (unread.drop (received.getD 0)) (unread.take (received.getD 0)) rest
  | call, unread, chunk, .write payload ret :: rest =>
      payload = chunk ∧ ret = env.write call ∧ OtaAnswered env (call + 1) unread [] rest
  | call, unread, chunk, .abort :: rest => OtaAnswered env call unread chunk rest
  | call, unread, chunk, .finish ret :: rest =>
      ret = env.ends ∧ OtaAnswered env call unread chunk rest
  | call, unread, chunk, .setBoot ret :: rest =>
      ret = env.setBoot ∧ OtaAnswered env call unread chunk rest

/-- What becomes of the handle that esp_ota_begin opens. -/
inductive OtaHandle where
  | unopened
  | opened
  | released
  deriving DecidableEq, Repr

/-- The calls that each state of the handle allows: it is written only while open, released by
esp_ota_abort or esp_ota_end, and not used afterwards. -/
def OtaHandle.step : OtaHandle → OtaCall → Option OtaHandle
  | .unopened, .begin ret => some (if ret = .ok then .opened else .unopened)
  | .opened, .recv _ _ => some .opened
  | .opened, .write _ _ => some .opened
  | .opened, .abort => some .released
  | .opened, .finish _ => some .released
  | .released, .setBoot _ => some .released
  | _, _ => none

/-- The boot partition after the calls; only a successful esp_ota_set_boot_partition moves it. -/
def bootsUpdate (calls : List OtaCall) : Bool := calls.any (fun call => call = .setBoot .ok)

/-- What the loop has done when it ends, for a client that has `unread` to deliver. -/
structure LoopResult (unread : Bytes) (calls : List OtaCall) (failure : Option String) : Prop where
  writtenFront : written calls <+: unread
  complete : failure = none → written calls = unread
  noBoot : ∀ ret, OtaCall.setBoot ret ∉ calls
  recvs : calls.countP OtaCall.isRecv ≤ unread.length
  handle : calls.foldlM OtaHandle.step .opened =
    some (if failure.isSome then OtaHandle.released else OtaHandle.opened)

def chunkBuffer (buf : TrackedBuffer) (unread : Bytes) (received : Nat) : TrackedBuffer :=
  ((buf.store 0 (unread.take received)).load 0 received).2

@[simp] theorem chunkBuffer_length (buf : TrackedBuffer) (unread : Bytes) (received : Nat) :
    (chunkBuffer buf unread received).cells.length = buf.cells.length :=
  TrackedBuffer.store_length _ _ _

theorem payload_eq {buf : TrackedBuffer} {unread : Bytes} {received : Nat}
    (delivered : received ≤ unread.length) (room : received ≤ buf.cells.length) :
    ((buf.store 0 (unread.take received)).load 0 received).1 = unread.take received := by
  have size : (unread.take received).length = received := by
    rw [List.length_take]
    omega
  have holds : (buf.store 0 (unread.take received)).Holds (unread.take received) :=
    (TrackedBuffer.Holds.nothing buf).store rfl (by omega)
  rw [holds.load (by omega), List.drop_zero, List.take_take, Nat.min_self]

theorem receiveLoop_done {env : OtaEnv} {remaining : Int} {unread : Bytes}
    {buf : TrackedBuffer} {call : Nat} (done : ¬ 0 < remaining) :
    receiveLoop env remaining unread buf call = ([], none) := by
  rw [receiveLoop, dif_neg done]

theorem receiveLoop_lost {env : OtaEnv} {remaining : Int} {unread : Bytes}
    {buf : TrackedBuffer} {call : Nat} (more : 0 < remaining) (lost : env.recv call = none) :
    receiveLoop env remaining unread buf call =
      ([.recv (toRecv remaining) none, .abort], some "Receive failed") := by
  rw [receiveLoop, dif_pos more, lost]

theorem receiveLoop_round {env : OtaEnv} {remaining : Int} {unread : Bytes}
    {buf : TrackedBuffer} {call offered : Nat} (more : 0 < remaining)
    (offers : env.recv call = some offered) :
    receiveLoop env remaining unread buf call =
      let received := chunkSize offered (toRecv remaining)
      let payload := ((buf.store 0 (unread.take received)).load 0 received).1
      let next := receiveLoop env (remaining - received) (unread.drop received)
        (chunkBuffer buf unread received) (call + 1)
      if env.write call ≠ .ok then
        ([.recv (toRecv remaining) (some received), .write payload (env.write call), .abort],
          some "OTA write failed")
      else
        (.recv (toRecv remaining) (some received) :: .write payload .ok :: next.1, next.2) := by
  rw [receiveLoop, dif_pos more, offers]
  rfl

theorem receiveLoop_chunk {env : OtaEnv} {remaining : Int} {unread : Bytes}
    {buf : TrackedBuffer} {call offered : Nat} (more : 0 < remaining)
    (offers : env.recv call = some offered) (size : remaining ≤ unread.length)
    (room : buf.cells.length = otaBufSize) :
    receiveLoop env remaining unread buf call =
      let received := chunkSize offered (toRecv remaining)
      let next := receiveLoop env (remaining - received) (unread.drop received)
        (chunkBuffer buf unread received) (call + 1)
      if env.write call ≠ .ok then
        ([.recv (toRecv remaining) (some received),
          .write (unread.take received) (env.write call), .abort], some "OTA write failed")
      else
        (.recv (toRecv remaining) (some received) :: .write (unread.take received) .ok :: next.1,
          next.2) := by
  obtain ⟨_, inBuffer, inBody⟩ := chunkSize_toRecv more offered
  have payload : ((buf.store 0 (unread.take (chunkSize offered (toRecv remaining)))).load 0
      (chunkSize offered (toRecv remaining))).1 =
        unread.take (chunkSize offered (toRecv remaining)) :=
    payload_eq (by omega) (by omega)
  rw [receiveLoop_round more offers]
  simp only [payload]

theorem LoopResult.chunk {unread : Bytes} {calls : List OtaCall} {failure : Option String}
    {received requested : Nat} (positive : 1 ≤ received) (inBody : received ≤ unread.length)
    (rest : LoopResult (unread.drop received) calls failure) :
    LoopResult unread
      (.recv requested (some received) :: .write (unread.take received) .ok :: calls) failure where
  writtenFront := by
    have joined := (List.prefix_append_right_inj (unread.take received)).mpr rest.writtenFront
    rwa [List.take_append_drop] at joined
  complete ended := by
    have later := rest.complete ended
    calc
      unread.take received ++ written calls = unread.take received ++ unread.drop received := by
        rw [later]
      _ = unread := List.take_append_drop received unread
  noBoot ret member := by
    simp only [List.mem_cons, reduceCtorEq, false_or] at member
    exact rest.noBoot ret member
  recvs := by
    have bound := rest.recvs
    rw [List.length_drop] at bound
    simp only [List.countP_cons, OtaCall.isRecv]
    simp only [Bool.false_eq_true, if_false, if_true]
    omega
  handle := rest.handle

theorem receiveLoop_result (env : OtaEnv) (remaining : Int) (unread : Bytes)
    (buf : TrackedBuffer) (call : Nat) (size : remaining = unread.length)
    (room : buf.cells.length = otaBufSize) :
    LoopResult unread (receiveLoop env remaining unread buf call).1
      (receiveLoop env remaining unread buf call).2 := by
  induction left : remaining.toNat using Nat.strong_induction_on
    generalizing remaining unread buf call with
  | _ left ih =>
      by_cases more : 0 < remaining
      · cases offers : env.recv call with
        | none =>
            rw [receiveLoop_lost more offers]
            refine ⟨List.nil_prefix, nofun, by simp, ?_, rfl⟩
            change 1 ≤ unread.length
            omega
        | some offered =>
            obtain ⟨positive, _, inBody⟩ := chunkSize_toRecv more offered
            rw [receiveLoop_chunk more offers size.le room]
            dsimp only
            split
            · refine ⟨?_, nofun, by simp, ?_, rfl⟩
              · simpa [written] using List.take_prefix _ unread
              · change 1 ≤ unread.length
                omega
            · refine .chunk positive (by omega) (ih _ ?_ _ _ _ _ ?_ ?_ rfl)
              · omega
              · rw [List.length_drop]
                omega
              · rw [chunkBuffer_length, room]
      · rw [receiveLoop_done more]
        have empty : unread = [] := by
          rw [← List.length_eq_zero_iff]
          omega
        subst empty
        exact ⟨List.prefix_refl _, fun _ => rfl, by simp, Nat.zero_le _, rfl⟩

theorem receiveLoop_answered (env : OtaEnv) (remaining : Int) (unread : Bytes)
    (buf : TrackedBuffer) (call : Nat) (size : remaining ≤ unread.length)
    (room : buf.cells.length = otaBufSize) :
    OtaAnswered env call unread [] (receiveLoop env remaining unread buf call).1 := by
  induction left : remaining.toNat using Nat.strong_induction_on
    generalizing remaining unread buf call with
  | _ left ih =>
      by_cases more : 0 < remaining
      · cases offers : env.recv call with
        | none =>
            rw [receiveLoop_lost more offers]
            exact ⟨by rw [offers]; rfl, trivial⟩
        | some offered =>
            obtain ⟨positive, _, inBody⟩ := chunkSize_toRecv more offered
            rw [receiveLoop_chunk more offers size room]
            dsimp only
            split
            · exact ⟨by rw [offers]; rfl, rfl, rfl, trivial⟩
            · rename_i accepted
              refine ⟨by rw [offers]; rfl, rfl, (not_not.mp accepted).symm, ?_⟩
              refine ih _ ?_ _ _ _ _ ?_ ?_ rfl
              · omega
              · simp only [Option.getD_some, List.length_drop]
                omega
              · rw [chunkBuffer_length, room]
      · rw [receiveLoop_done more]
        trivial

theorem OtaAnswered.append {env : OtaEnv} {calls tail : List OtaCall} {call : Nat}
    {unread chunk : Bytes} (answered : OtaAnswered env call unread chunk calls)
    (behind : ∀ call unread chunk, OtaAnswered env call unread chunk tail) :
    OtaAnswered env call unread chunk (calls ++ tail) := by
  induction calls generalizing call unread chunk with
  | nil => exact behind call unread chunk
  | cons made rest ih =>
      cases made with
      | begin ret => exact ⟨answered.1, answered.2.1, ih answered.2.2⟩
      | recv requested received => exact ⟨answered.1, ih answered.2⟩
      | write payload ret => exact ⟨answered.1, answered.2.1, ih answered.2.2⟩
      | abort => exact ih answered
      | finish ret => exact ⟨answered.1, ih answered.2⟩
      | setBoot ret => exact ⟨answered.1, ih answered.2⟩

/-! How the loop ends -/

def OtaCall.succeeded : OtaCall → Bool
  | .begin ret => ret == .ok
  | .recv _ received => received.isSome
  | .write _ ret => ret == .ok
  | .abort => true
  | .finish ret => ret == .ok
  | .setBoot ret => ret == .ok

/-- From this call on the upload breaks off: a receive or a write fails before the bytes that
remain have come. -/
inductive UploadFails (env : OtaEnv) : Int → Nat → Prop where
  | lost {remaining : Int} {call : Nat} (more : 0 < remaining) (lost : env.recv call = none) :
      UploadFails env remaining call
  | refused {remaining : Int} {call offered : Nat} (more : 0 < remaining)
      (offers : env.recv call = some offered) (refused : env.write call ≠ .ok) :
      UploadFails env remaining call
  | later {remaining : Int} {call offered : Nat} (more : 0 < remaining)
      (offers : env.recv call = some offered) (accepted : env.write call = .ok)
      (rest : UploadFails env (remaining - chunkSize offered (toRecv remaining)) (call + 1)) :
      UploadFails env remaining call

/-- How the loop ends, and what its calls are, for any client. -/
structure LoopEnds (env : OtaEnv) (remaining : Int) (call : Nat) (calls : List OtaCall)
    (failure : Option String) : Prop where
  fails : failure.isSome = true ↔ UploadFails env remaining call
  succeeded : (∀ call ∈ calls, call.succeeded = true) ↔ failure = none
  noBoot : ∀ ret, OtaCall.setBoot ret ∉ calls
  atMost : (written calls).length ≤ remaining.toNat

/-- One accepted chunk in front of what the rest of the loop does. -/
theorem LoopEnds.chunk {env : OtaEnv} {remaining : Int} {call offered : Nat}
    {calls : List OtaCall} {failure : Option String} {payload : Bytes} (more : 0 < remaining)
    (offers : env.recv call = some offered) (accepted : env.write call = .ok)
    (sized : payload.length = chunkSize offered (toRecv remaining))
    (rest : LoopEnds env (remaining - chunkSize offered (toRecv remaining)) (call + 1) calls
      failure) :
    LoopEnds env remaining call
      (.recv (toRecv remaining) (some (chunkSize offered (toRecv remaining))) ::
        .write payload .ok :: calls) failure where
  fails := by
    rw [rest.fails]
    constructor
    · exact .later more offers accepted
    · intro failed
      cases failed with
      | lost _ lost =>
          rw [offers] at lost
          cases lost
      | refused _ _ refused => exact absurd accepted refused
      | later _ offers' _ later =>
          rw [offers] at offers'
          cases offers'
          exact later
  succeeded := by
    rw [← rest.succeeded]
    simp [OtaCall.succeeded]
  noBoot ret member := by
    simp only [List.mem_cons, reduceCtorEq, false_or] at member
    exact rest.noBoot ret member
  atMost := by
    obtain ⟨_, _, inBody⟩ := chunkSize_toRecv more offered
    have bound := rest.atMost
    have split : written (.recv (toRecv remaining)
        (some (chunkSize offered (toRecv remaining))) :: .write payload .ok :: calls) =
          payload ++ written calls := by
      simp [written]
    rw [split, List.length_append, sized]
    omega

theorem receiveLoop_ends (env : OtaEnv) (remaining : Int) (unread : Bytes) (buf : TrackedBuffer)
    (call : Nat) :
    LoopEnds env remaining call (receiveLoop env remaining unread buf call).1
      (receiveLoop env remaining unread buf call).2 := by
  induction left : remaining.toNat using Nat.strong_induction_on
    generalizing remaining unread buf call with
  | _ left ih =>
      by_cases more : 0 < remaining
      · cases offers : env.recv call with
        | none =>
            rw [receiveLoop_lost more offers]
            exact ⟨iff_of_true rfl (.lost more offers), by simp [OtaCall.succeeded], by simp,
              Nat.zero_le _⟩
        | some offered =>
            obtain ⟨positive, _, inBody⟩ := chunkSize_toRecv more offered
            rw [receiveLoop_round more offers]
            dsimp only
            by_cases refused : env.write call ≠ .ok
            · rw [if_pos refused]
              refine ⟨iff_of_true rfl (.refused more offers refused), ?_, by simp, ?_⟩
              · simp [OtaCall.succeeded, refused]
              · simp only [written, List.flatMap_cons, List.flatMap_nil, List.append_nil,
                  List.nil_append, TrackedBuffer.load_length]
                omega
            · rw [if_neg refused]
              exact .chunk more offers (not_not.mp refused) (TrackedBuffer.load_length _ _ _)
                (ih _ (by omega) _ _ _ _ rfl)
      · rw [receiveLoop_done more]
        have unfailed : ¬ UploadFails env remaining call := by
          intro failed
          cases failed with
          | lost more' => exact more more'
          | refused more' => exact more more'
          | later more' => exact more more'
        exact ⟨iff_of_false (by simp) unfailed, by simp, by simp, Nat.zero_le _⟩

theorem asInt_of_lt {size : Nat} (fits : size < 2 ^ 31) : asInt size = size := by
  have value : (BitVec.ofNat 32 size).toNat = size := by
    rw [BitVec.toNat_ofNat]
    omega
  rw [asInt, BitVec.toInt_eq_toNat_of_lt (by omega), value]

@[simp] theorem written_append (front back : List OtaCall) :
    written (front ++ back) = written front ++ written back := by
  simp [written]

theorem asInt_lt (size : Nat) : asInt size < 2 ^ 31 := by
  have bound := BitVec.toInt_lt (x := BitVec.ofNat 32 size)
  rw [asInt]
  omega

theorem asInt_le (size : Nat) : asInt size ≤ size := by
  have value : (BitVec.ofNat 32 size).toNat ≤ size := by
    rw [BitVec.toNat_ofNat]
    exact Nat.mod_le _ _
  have toInt := BitVec.toInt_eq_toNat_cond (BitVec.ofNat 32 size)
  rw [asInt, toInt]
  split
  · omega
  · omega

/-! The whole request -/

/-- One of the calls in front of esp_ota_set_boot_partition fails. -/
def FailsBeforeBoot (env : OtaEnv) (body : Bytes) : Prop :=
  env.partition = false ∨ env.begins ≠ .ok ∨ UploadFails env (asInt body.length) 0 ∨
    env.ends ≠ .ok

theorem bootsUpdate_of_none {calls : List OtaCall} (none : ∀ ret, OtaCall.setBoot ret ∉ calls) :
    bootsUpdate calls = false := by
  rw [bootsUpdate, List.any_eq_false]
  intro call member
  simp only [decide_eq_true_eq]
  rintro rfl
  exact none .ok member

theorem otaHandler_answered (env : OtaEnv) (body : Bytes) (buf : TrackedBuffer)
    (room : buf.cells.length = otaBufSize) :
    OtaAnswered env 0 body [] (otaHandler env body buf).calls := by
  have loop := receiveLoop_answered env (asInt body.length) body buf 0 (asInt_le _) room
  unfold otaHandler
  split
  · trivial
  rename_i missing
  have partition : env.partition = true := Bool.eq_true_of_not_eq_false missing
  split
  · exact ⟨partition, rfl, trivial⟩
  rename_i begun
  have begins := (not_not.mp begun).symm
  split
  · rename_i calls failure ran
    rw [ran] at loop
    exact ⟨partition, begins, loop⟩
  · rename_i calls ran
    rw [ran] at loop
    split
    · exact ⟨partition, begins, loop.append (fun _ _ _ => ⟨rfl, trivial⟩)⟩
    · rename_i ends
      exact ⟨partition, begins,
        loop.append (fun _ _ _ => ⟨(not_not.mp ends).symm, rfl, trivial⟩)⟩

/-- The calls are a real conversation with the environment, esp_ota_set_boot_partition is reached
exactly behind a complete and validated upload, and the handle of esp_ota_begin is released exactly
once. -/
structure OtaIntegrity (env : OtaEnv) (body : Bytes) (calls : List OtaCall) : Prop where
  answered : OtaAnswered env 0 body [] calls
  reached : (∃ ret, OtaCall.setBoot ret ∈ calls) ↔ ¬ FailsBeforeBoot env body
  booted : ∀ ret, OtaCall.setBoot ret ∈ calls →
    written calls = body ∧ .finish .ok ∈ calls ∧ env.partition = true ∧ env.begins = .ok ∧
      env.ends = .ok
  moved : bootsUpdate calls = true ↔ ¬ FailsBeforeBoot env body ∧ env.setBoot = .ok
  writtenFront : written calls <+: body
  handle : calls.foldlM OtaHandle.step .unopened =
    some (if OtaCall.begin .ok ∈ calls then OtaHandle.released else OtaHandle.unopened)
  recvs : calls.countP OtaCall.isRecv ≤ body.length

theorem OtaIntegrity.of_unbooted {env : OtaEnv} {body : Bytes} {calls : List OtaCall}
    (answered : OtaAnswered env 0 body [] calls) (fails : FailsBeforeBoot env body)
    (noBoot : ∀ ret, OtaCall.setBoot ret ∉ calls) (writtenFront : written calls <+: body)
    (handle : calls.foldlM OtaHandle.step .unopened =
      some (if OtaCall.begin .ok ∈ calls then OtaHandle.released else OtaHandle.unopened))
    (recvs : calls.countP OtaCall.isRecv ≤ body.length) : OtaIntegrity env body calls where
  answered := answered
  reached := iff_of_false (fun ⟨ret, member⟩ => noBoot ret member) (not_not.mpr fails)
  booted ret member := absurd member (noBoot ret)
  moved := by
    rw [bootsUpdate_of_none noBoot]
    exact iff_of_false Bool.false_ne_true (fun succeeds => succeeds.1 fails)
  writtenFront := writtenFront
  handle := handle
  recvs := recvs

/-- What the calls behind a loop that ran to its end add to it. -/
structure LoopTail (tail : List OtaCall) : Prop where
  silent : written tail = []
  quiet : tail.countP OtaCall.isRecv = 0
  ends : tail.foldlM OtaHandle.step .opened = some .released

theorem LoopTail.written {body : Bytes} {calls tail : List OtaCall} (added : LoopTail tail)
    (result : LoopResult body calls none) : written (.begin .ok :: calls ++ tail) = body := by
  rw [List.cons_append]
  calc
    HydroGovernor.written (calls ++ tail) =
        HydroGovernor.written calls ++ HydroGovernor.written tail := written_append calls tail
    _ = body := by rw [result.complete rfl, added.silent, List.append_nil]

theorem LoopTail.handle {body : Bytes} {calls tail : List OtaCall} (added : LoopTail tail)
    (result : LoopResult body calls none) :
    (.begin .ok :: calls ++ tail).foldlM OtaHandle.step .unopened =
      some (if OtaCall.begin .ok ∈ .begin .ok :: calls ++ tail then OtaHandle.released
        else OtaHandle.unopened) := by
  have opened := result.handle
  simp only [Option.isSome_none, Bool.false_eq_true, if_false] at opened
  simp [OtaHandle.step, List.foldlM_append, opened, added.ends]

theorem LoopTail.recvs {body : Bytes} {calls tail : List OtaCall} (added : LoopTail tail)
    (result : LoopResult body calls none) :
    (.begin .ok :: calls ++ tail).countP OtaCall.isRecv ≤ body.length := by
  have bound := result.recvs
  simp only [List.cons_append, List.countP_cons, List.countP_append, added.quiet, OtaCall.isRecv,
    Bool.false_eq_true, if_false]
  omega

/-- Whatever the chunking and the failures, ota_handler keeps the upload's integrity. -/
theorem ota_integrity (env : OtaEnv) (body : Bytes) (buf : TrackedBuffer)
    (room : buf.cells.length = otaBufSize) (fits : body.length < 2 ^ 31) :
    OtaIntegrity env body (otaHandler env body buf).calls := by
  have result := receiveLoop_result env (asInt body.length) body buf 0 (asInt_of_lt fits) room
  have ended := receiveLoop_ends env (asInt body.length) body buf 0
  have answered := otaHandler_answered env body buf room
  unfold otaHandler at answered ⊢
  split at answered
  · rename_i missing
    rw [if_pos missing]
    exact .of_unbooted answered (.inl missing) (by simp) List.nil_prefix rfl (Nat.zero_le _)
  rename_i missing
  rw [if_neg missing]
  split at answered
  · rename_i failed
    rw [if_pos failed]
    refine .of_unbooted answered (.inr (.inl failed)) (by simp) List.nil_prefix ?_ (Nat.zero_le _)
    simp [OtaHandle.step, failed, Ne.symm failed]
  rename_i begun
  rw [if_neg begun]
  split at answered
  · rename_i calls failure ran
    rw [ran] at result ended
    have fails : FailsBeforeBoot env body := .inr (.inr (.inl (ended.fails.mp rfl)))
    refine .of_unbooted answered fails ?_ result.writtenFront ?_ result.recvs
    · simpa using result.noBoot
    · simpa [OtaHandle.step] using result.handle
  · rename_i calls ran
    rw [ran] at result ended
    split at answered
    · rename_i invalid
      rw [if_pos invalid]
      have added : LoopTail [.finish env.ends] := ⟨rfl, rfl, rfl⟩
      refine .of_unbooted answered (.inr (.inr (.inr invalid))) ?_ ?_ (added.handle result)
        (added.recvs result)
      · simpa using result.noBoot
      · rw [added.written result]
    · rename_i valid
      rw [if_neg valid]
      have added : LoopTail [.finish .ok, .setBoot env.setBoot] := ⟨rfl, rfl, rfl⟩
      have succeeds : ¬ FailsBeforeBoot env body := by
        rintro (absent | refused | broken | invalid)
        · exact missing absent
        · exact begun refused
        · cases ended.fails.mpr broken
        · exact valid invalid
      have before : bootsUpdate calls = false := bootsUpdate_of_none result.noBoot
      rw [bootsUpdate] at before
      have booted : env.partition = true ∧ env.begins = .ok ∧ env.ends = .ok :=
        ⟨Bool.eq_true_of_not_eq_false missing, not_not.mp begun, not_not.mp valid⟩
      refine ⟨answered, iff_of_true ⟨env.setBoot, by simp⟩ succeeds,
        fun _ _ => ⟨added.written result, by simp, booted⟩, ?_, ?_,
        added.handle result, added.recvs result⟩
      · rw [bootsUpdate, List.cons_append, List.any_cons, List.any_append, before]
        simp [succeeds]
      · rw [added.written result]

theorem receiveLoop_succeeds {env : OtaEnv} (delivers : ∀ call, (env.recv call).isSome = true)
    (writes : ∀ call, env.write call = .ok) (remaining : Int) (unread : Bytes)
    (buf : TrackedBuffer) (call : Nat) (size : remaining = unread.length)
    (room : buf.cells.length = otaBufSize) :
    (receiveLoop env remaining unread buf call).2 = none := by
  induction left : remaining.toNat using Nat.strong_induction_on
    generalizing remaining unread buf call with
  | _ left ih =>
      by_cases more : 0 < remaining
      · obtain ⟨offered, offers⟩ := Option.isSome_iff_exists.mp (delivers call)
        obtain ⟨positive, _, inBody⟩ := chunkSize_toRecv more offered
        rw [receiveLoop_chunk more offers size.le room]
        simp only [writes call, ne_eq, not_true_eq_false, if_false]
        refine ih _ ?_ _ _ _ _ ?_ ?_ rfl
        · omega
        · rw [List.length_drop]
          omega
        · rw [chunkBuffer_length, room]
      · rw [receiveLoop_done more]

theorem otaHandler_boots {env : OtaEnv} {body : Bytes} {buf : TrackedBuffer}
    (partition : env.partition = true) (begins : env.begins = .ok) (ends : env.ends = .ok)
    (delivers : ∀ call, (env.recv call).isSome = true) (writes : ∀ call, env.write call = .ok)
    (room : buf.cells.length = otaBufSize) (fits : body.length < 2 ^ 31) :
    OtaCall.setBoot env.setBoot ∈ (otaHandler env body buf).calls := by
  have ended := receiveLoop_succeeds delivers writes _ body buf 0 (asInt_of_lt fits) room
  unfold otaHandler
  rw [if_neg (by simp [partition]), if_neg (by simp [begins])]
  split
  · rename_i calls failure ran
    rw [ran] at ended
    cases ended
  · rw [if_neg (by simp [ends])]
    simp

def steadyEnv : OtaEnv where
  partition := true
  begins := .ok
  recv _ := some 2
  write _ := .ok
  ends := .ok
  setBoot := .ok

theorem steady_upload :
    OtaCall.setBoot .ok ∈
        (otaHandler steadyEnv [1, 2, 3] (.ofCells (List.replicate otaBufSize 0))).calls ∧
      OtaIntegrity steadyEnv [1, 2, 3]
        (otaHandler steadyEnv [1, 2, 3] (.ofCells (List.replicate otaBufSize 0))).calls := by
  constructor
  · exact otaHandler_boots rfl rfl rfl (fun _ => rfl) (fun _ => rfl) List.length_replicate
      (by decide)
  · exact ota_integrity steadyEnv [1, 2, 3] (.ofCells (List.replicate otaBufSize 0))
      List.length_replicate (by decide)

end HydroGovernor
