import HydroGovernor.Library.TrackedBuffer
import HydroGovernor.Library.WebSocket
import HydroGovernor.Nvs

/-! ws_handler over the whole stream of a WebSocket connection. -/

namespace HydroGovernor

open Firmware
open Firmware.WebSocket (Frame Header)

/-- What esp_http_server does around the handler. `recvHeader` is httpd_ws_recv_frame with
length 0 and `recvPayload` the second call with the length that the first has told; `control`
says how many bytes it takes behind the first byte of a frame that is not for the handler, unless
it closes the connection. -/
structure WsServer where
  isData : UInt8 → Bool
  recvHeader : Bytes → Except EspErr Header
  recvPayload : Header → Bytes → Except EspErr Bytes
  control : UInt8 → Bytes → Option Nat

/-- The server reads the frames of a client as they were sent. -/
structure WsServer.Lawful (server : WsServer) : Prop where
  data : ∀ frame : Frame, frame.isData → server.isData frame.first = true
  header : ∀ (frame : Frame) rest, server.recvHeader (frame.headerRest ++ rest) =
    .ok ⟨frame.content.length, frame.key, frame.headerRest.length⟩
  payload : ∀ (frame : Frame) rest,
    server.recvPayload ⟨frame.content.length, frame.key, frame.headerRest.length⟩
      (frame.payload ++ rest) = .ok frame.content

/-- How a call ends: with what it returns, unless esp_restart ends it, and with what it has not
read. -/
structure WsCall where
  ret : Option EspErr
  left : Bytes
  deriving DecidableEq, Repr

def wsBufSize : Nat := 33

def wsHandler (server : WsServer) (isGet : Bool) (stream : Bytes) : WsCall :=
  if isGet then ⟨some .ok, stream⟩
  else
    match server.recvHeader stream with
    | .error ret => ⟨some ret, stream⟩
    | .ok pkt =>
        let stream := stream.drop pkt.size
        if pkt.length = 0 ∨ pkt.length > 32 then ⟨some .ok, stream⟩
        else
          match server.recvPayload pkt stream with
          | .error ret => ⟨some ret, stream⟩
          | .ok payload =>
              let stream := stream.drop pkt.length
              let buf := (TrackedBuffer.zeroed wsBufSize).store 0 payload
              -- strncmp((char *)buf, "reboot", 6) == 0
              if (buf.load 0 6).1 = ascii "reboot" then ⟨none, stream⟩
              else ⟨some .ok, stream⟩

theorem wsHandler_left (server : WsServer) (isGet : Bool) (stream : Bytes) :
    (wsHandler server isGet stream).left.length ≤ stream.length := by
  unfold wsHandler
  split
  · exact le_refl _
  split
  · exact le_refl _
  dsimp only
  split
  · exact (List.drop_sublist _ _).length_le
  split
  · exact (List.drop_sublist _ _).length_le
  split
  · exact ((List.drop_sublist _ _).trans (List.drop_sublist _ _)).length_le
  · exact ((List.drop_sublist _ _).trans (List.drop_sublist _ _)).length_le

def serve (server : WsServer) : Bytes → List WsCall
  | [] => []
  | first :: rest =>
      if server.isData first then
        let call := wsHandler server false rest
        if call.ret = some .ok then call :: serve server call.left else [call]
      else
        match server.control first rest with
        | none => []
        | some count => serve server (rest.drop count)
termination_by stream => stream.length
decreasing_by
  · exact Nat.lt_succ_of_le (wsHandler_left server false rest)
  · exact Nat.lt_succ_of_le (List.drop_sublist _ _).length_le

/-- A whole frame of at most 32 bytes that begins with the command. -/
def Reboots (frame : Frame) : Prop :=
  frame.content.length ≤ 32 ∧ ascii "reboot" <+: frame.content

/-- Each call that returns ESP_OK has read exactly its frame, and the device restarts if a
frame says so and only then. -/
structure InSync (frames : List Frame) (calls : List WsCall) : Prop where
  left : ∀ index call, calls[index]? = some call → call.ret = some .ok →
    call.left = (frames.drop (index + 1)).flatMap Frame.wire
  atMost : calls.length ≤ frames.length
  restarts : (∃ call ∈ calls, call.ret = none) ↔ ∃ frame ∈ frames, Reboots frame

/-- No frame before the first that says `reboot` has more than 32 bytes. -/
def ShortUntilReboot (frames : List Frame) : Prop :=
  ∀ before frame after, frames = before ++ frame :: after →
    (∀ earlier ∈ before, ¬ Reboots earlier) → frame.content.length ≤ 32

/-! One call -/

theorem prefix_zeros_iff {text content : Bytes} (noNul : ∀ code ∈ text, code ≠ 0) (count : Nat) :
    text <+: content ++ List.replicate count 0 ↔ text <+: content := by
  constructor
  · intro starts
    by_cases inside : text.length ≤ content.length
    · exact List.prefix_of_prefix_length_le starts (List.prefix_append _ _) inside
    · have bound : content.length < text.length := Nat.lt_of_not_le inside
      have long := starts.length_le
      have same := starts.getElem bound
      rw [List.getElem_append_right (le_refl _), List.getElem_replicate] at same
      exact absurd same (noNul _ (List.getElem_mem bound))
  · intro starts
    exact starts.trans (List.prefix_append _ _)

theorem reboot_command {content : Bytes} (short : content.length ≤ 32) :
    (((TrackedBuffer.zeroed wsBufSize).store 0 content).load 0 6).1 = ascii "reboot" ↔
      ascii "reboot" <+: content := by
  have noNul : ∀ code ∈ ascii "reboot", code ≠ 0 := by decide +kernel
  have sized : (TrackedBuffer.zeroed wsBufSize).cells.length = 33 := List.length_replicate
  have stored : ((TrackedBuffer.zeroed wsBufSize).store 0 content).cells =
      content ++ List.replicate (33 - content.length) 0 := by
    rw [TrackedBuffer.store_cells (by omega), TrackedBuffer.zeroed, TrackedBuffer.ofCells,
      List.take_zero, List.nil_append, Nat.zero_add, List.drop_replicate, wsBufSize]
  have inside : 0 + 6 ≤ ((TrackedBuffer.zeroed wsBufSize).store 0 content).cells.length := by
    rw [TrackedBuffer.store_length, sized]
    omega
  rw [TrackedBuffer.load_inside inside, List.drop_zero, stored,
    ← prefix_zeros_iff noNul (33 - content.length), List.prefix_iff_eq_take]
  exact eq_comm

variable {server : WsServer}

theorem wsHandler_frame (lawful : server.Lawful) (frame : Frame) (after : Bytes) :
    wsHandler server false (frame.rest ++ after) =
      if frame.content.length > 32 then ⟨some .ok, frame.payload ++ after⟩
      else if ascii "reboot" <+: frame.content then ⟨none, after⟩
      else ⟨some .ok, after⟩ := by
  have header := lawful.header frame (frame.payload ++ after)
  have payload := lawful.payload frame after
  have sized : frame.payload.length = frame.content.length := WebSocket.mask_length _ _
  rw [wsHandler, if_neg Bool.false_ne_true, Frame.rest, List.append_assoc, header]
  dsimp only
  rw [List.drop_left]
  by_cases long : frame.content.length > 32
  · rw [if_pos (.inr long), if_pos long]
  rw [if_neg long]
  by_cases nothing : frame.content.length = 0
  · have empty : frame.payload = [] := List.length_eq_zero_iff.mp (sized.trans nothing)
    have notCommand : ¬ ascii "reboot" <+: frame.content := by
      rw [List.length_eq_zero_iff.mp nothing]
      decide
    rw [if_pos (.inl nothing), if_neg notCommand, empty, List.nil_append]
  · rw [if_neg (by rintro (empty | tooLong) <;> contradiction), payload]
    dsimp only
    rw [List.drop_left' sized]
    by_cases command : ascii "reboot" <+: frame.content
    · rw [if_pos ((reboot_command (Nat.le_of_not_lt long)).mpr command), if_pos command]
    · rw [if_neg (fun same => command ((reboot_command (Nat.le_of_not_lt long)).mp same)),
        if_neg command]

theorem serve_frame (lawful : server.Lawful) {frame : Frame} (data : frame.isData)
    (after : Bytes) :
    serve server (frame.wire ++ after) =
      if frame.content.length > 32 then
        ⟨some .ok, frame.payload ++ after⟩ :: serve server (frame.payload ++ after)
      else if ascii "reboot" <+: frame.content then [⟨none, after⟩]
      else ⟨some .ok, after⟩ :: serve server after := by
  rw [Frame.wire, List.cons_append, serve, if_pos (lawful.data frame data)]
  dsimp only
  rw [wsHandler_frame lawful]
  split
  · rfl
  split
  · rfl
  · rfl

/-! The whole stream -/

theorem shortUntilReboot_cons {frame : Frame} (short : frame.content.length ≤ 32)
    (quiet : ¬ Reboots frame) (frames : List Frame) :
    ShortUntilReboot (frame :: frames) ↔ ShortUntilReboot frames := by
  constructor
  · intro all before other after split earlier
    apply all (frame :: before) other after (by rw [split, List.cons_append])
    intro first member
    rcases List.mem_cons.mp member with rfl | inside
    · exact quiet
    · exact earlier first inside
  · intro all before other after split earlier
    cases before with
    | nil =>
        rw [(List.cons.inj split).1.symm]
        exact short
    | cons first before =>
        exact all before other after (List.cons.inj split).2
          (fun other member => earlier other (List.mem_cons_of_mem _ member))

theorem shortUntilReboot_reboots {frame : Frame} (reboots : Reboots frame) (frames : List Frame) :
    ShortUntilReboot (frame :: frames) := by
  intro before other after split earlier
  cases before with
  | nil =>
      rw [(List.cons.inj split).1.symm]
      exact reboots.1
  | cons first before =>
      apply absurd reboots
      rw [(List.cons.inj split).1]
      exact earlier first List.mem_cons_self

theorem inSync_cons {frame : Frame} (quiet : ¬ Reboots frame) (frames : List Frame)
    (calls : List WsCall) :
    InSync (frame :: frames) (⟨some .ok, frames.flatMap Frame.wire⟩ :: calls) ↔
      InSync frames calls := by
  constructor
  · intro sync
    refine ⟨?_, Nat.le_of_succ_le_succ sync.atMost, ?_⟩
    · intro index call at_index ok
      exact sync.left (index + 1) call at_index ok
    · simpa [quiet] using sync.restarts
  · intro sync
    refine ⟨?_, Nat.succ_le_succ sync.atMost, ?_⟩
    · intro index call at_index ok
      cases index with
      | zero =>
          cases at_index
          rfl
      | succ index => exact sync.left index call at_index ok
    · simpa [quiet] using sync.restarts

theorem inSync_reboots {frame : Frame} (reboots : Reboots frame) (frames : List Frame)
    (left : Bytes) : InSync (frame :: frames) [⟨none, left⟩] where
  left index call at_index ok := by
    cases index with
    | zero =>
        cases at_index
        cases ok
    | succ index => cases at_index
  atMost := Nat.succ_le_succ (Nat.zero_le _)
  restarts := iff_of_true ⟨_, List.mem_cons_self, rfl⟩ ⟨frame, List.mem_cons_self, reboots⟩

/-- The handler stays in step with the client exactly when no frame before the first that says
`reboot` is longer than 32 bytes. -/
theorem ws_sync_iff (server : WsServer) (lawful : server.Lawful) (frames : List Frame)
    (data : ∀ frame ∈ frames, frame.isData) :
    InSync frames (serve server (frames.flatMap Frame.wire)) ↔ ShortUntilReboot frames := by
  induction frames with
  | nil =>
      apply iff_of_true
      · rw [List.flatMap_nil, serve]
        exact ⟨nofun, le_refl _, by simp⟩
      · intro before frame after split
        simp at split
  | cons frame frames ih =>
      have later := ih (fun other member => data other (List.mem_cons_of_mem _ member))
      rw [List.flatMap_cons, serve_frame lawful (data frame List.mem_cons_self)]
      by_cases long : frame.content.length > 32
      · rw [if_pos long]
        apply iff_of_false
        · intro sync
          have left := congrArg List.length (sync.left 0 _ rfl rfl)
          have sized : frame.payload.length = frame.content.length := WebSocket.mask_length _ _
          rw [List.drop_one, List.tail_cons, List.length_append] at left
          omega
        · intro short
          exact Nat.not_le_of_gt long (short [] frame frames rfl nofun)
      rw [if_neg long]
      have short := Nat.le_of_not_lt long
      by_cases command : ascii "reboot" <+: frame.content
      · rw [if_pos command]
        exact iff_of_true (inSync_reboots ⟨short, command⟩ frames _)
          (shortUntilReboot_reboots ⟨short, command⟩ frames)
      · have quiet : ¬ Reboots frame := fun reboots => command reboots.2
        rw [if_neg command, inSync_cons quiet, shortUntilReboot_cons short quiet]
        exact later

def frameServer : WsServer where
  isData first := decide (first &&& 0x0F ≤ 2)
  recvHeader stream :=
    match WebSocket.readHeader stream with
    | some pkt => .ok pkt
    | none => .error .fail
  recvPayload pkt stream :=
    if stream.length < pkt.length then .error .fail
    else .ok (WebSocket.mask pkt.key (stream.take pkt.length))
  control _ rest := (WebSocket.readHeader rest).map (fun pkt => pkt.size + pkt.length)

theorem frameServer_lawful : frameServer.Lawful where
  data _ data := decide_eq_true data
  header frame rest := by simp only [frameServer, WebSocket.readHeader_frame]
  payload frame rest := by
    have sized : frame.payload.length = frame.content.length := WebSocket.mask_length _ _
    have enough : ¬ (frame.payload ++ rest).length < frame.content.length := by
      rw [List.length_append]
      omega
    simp only [frameServer, if_neg enough, List.take_left' sized]
    rw [Frame.payload, WebSocket.mask_mask]

def textFrame (content : Bytes) (fits : content.length < 2 ^ 63) : Frame where
  first := 0x81
  key := [0x3A, 0x11, 0x5C, 0x07]
  content := content
  key_length := rfl
  content_lt := fits

theorem reboot_behind_short_frame :
    InSync [textFrame (ascii "status") (by decide), textFrame (ascii "reboot now") (by decide)]
      (serve frameServer ([textFrame (ascii "status") (by decide),
        textFrame (ascii "reboot now") (by decide)].flatMap Frame.wire)) := by
  apply (ws_sync_iff frameServer frameServer_lawful _ (by decide)).mpr
  have quiet : ¬ Reboots (textFrame (ascii "status") (by decide)) := by
    rintro ⟨_, command⟩
    exact absurd command (by decide +kernel)
  rw [shortUntilReboot_cons (by decide) quiet]
  exact shortUntilReboot_reboots ⟨by decide, by decide +kernel⟩ []

def rebootFrame : Frame where
  first := 0x81
  key := [0, 0, 0, 0]
  content := ascii "reboot"
  key_length := rfl
  content_lt := by decide

def hidingFrame : Frame where
  first := 0x82
  key := [0, 0, 0, 0]
  content := rebootFrame.wire ++ List.replicate 21 0
  key_length := rfl
  content_lt := by decide

/-- The unread payload of a long frame restarts the device. -/
theorem payload_served :
    ¬ ∀ (server : WsServer) (frames : List Frame), server.Lawful →
      (∀ frame ∈ frames, frame.isData) →
      InSync frames (serve server (frames.flatMap Frame.wire)) := by
  intro every
  have sync := every frameServer [hidingFrame] frameServer_lawful (by decide)
  have unread : hidingFrame.payload ++ [] = rebootFrame.wire ++ List.replicate 21 0 := by
    decide +kernel
  have command : ascii "reboot" <+: rebootFrame.content := List.prefix_refl _
  rw [List.flatMap_cons, serve_frame frameServer_lawful (by decide), if_pos (by decide),
    List.flatMap_nil, unread, serve_frame frameServer_lawful (by decide), if_neg (by decide),
    if_pos command] at sync
  obtain ⟨frame, member, reboots⟩ :=
    sync.restarts.mp ⟨_, List.mem_cons_of_mem _ List.mem_cons_self, rfl⟩
  rw [List.mem_singleton.mp member] at reboots
  exact absurd reboots.1 (by decide)

end HydroGovernor
