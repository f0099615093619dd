import HydroGovernor.Library.FormEncoding
import HydroGovernor.Library.TrackedBuffer
import HydroGovernor.SaveForm

/-! The url_decode of web_server.c on its two buffers, and the form decoder it stands for. -/

namespace HydroGovernor

open Firmware

/-! The loop over both buffers -/

structure UrlDecoded where
  di : Nat
  src : TrackedBuffer
  dst : TrackedBuffer

/-- `dst_size` is at least 1. -/
def urlDecodeLoop (srcLen dstSize si di : Nat) (src dst : TrackedBuffer) : UrlDecoded :=
  if si < srcLen ∧ di < dstSize - 1 then
    let (ch, src) := src.load si 1
    if ch = [0x25] ∧ si + 2 < srcLen then
      let (hex, src) := src.load (si + 1) 2
      match hexPair hex with
      | some val => urlDecodeLoop srcLen dstSize (si + 3) (di + 1) src (dst.store di [val])
      | none => urlDecodeLoop srcLen dstSize (si + 1) (di + 1) src (dst.store di ch)
    else if ch = [0x2B] then
      urlDecodeLoop srcLen dstSize (si + 1) (di + 1) src (dst.store di [0x20])
    else urlDecodeLoop srcLen dstSize (si + 1) (di + 1) src (dst.store di ch)
  else ⟨di, src, dst⟩
termination_by srcLen - si

/-- The count that is returned, and both buffers afterwards. -/
def urlDecodeBuffer (srcLen dstSize : Nat) (src dst : TrackedBuffer) : UrlDecoded :=
  let decoded := urlDecodeLoop srcLen dstSize 0 0 src dst
  { decoded with dst := decoded.dst.store decoded.di [0] }

/-! The decoder over lists, one step at a time -/

theorem urlDecodeFrom_full {size : Nat} (src : Bytes) {out : Bytes}
    (full : ¬ out.length < size - 1) : urlDecodeFrom size src 0 out = out := by
  cases src with
  | nil => rfl
  | cons ch rest => rw [urlDecodeFrom, if_neg full]

theorem urlDecodeFrom_pair {size : Nat} {first second value : UInt8} {out : Bytes}
    (room : out.length < size - 1) (digits : strtolPair first second = some value) (rest : Bytes) :
    urlDecodeFrom size (0x25 :: first :: second :: rest) 0 out =
      urlDecodeFrom size rest 0 (out ++ [value]) := by
  rw [urlDecodeFrom, if_pos room, if_pos rfl, hexPair, digits]
  simp only [urlDecodeFrom]

theorem urlDecodeFrom_percent {size : Nat} {rest out : Bytes} (room : out.length < size - 1)
    (unpaired : hexPair rest = none) :
    urlDecodeFrom size (0x25 :: rest) 0 out = urlDecodeFrom size rest 0 (out ++ [0x25]) := by
  rw [urlDecodeFrom, if_pos room, if_pos rfl, unpaired]

theorem urlDecodeFrom_plus {size : Nat} {out : Bytes} (room : out.length < size - 1)
    (rest : Bytes) :
    urlDecodeFrom size (0x2B :: rest) 0 out = urlDecodeFrom size rest 0 (out ++ [0x20]) := by
  rw [urlDecodeFrom, if_pos room, if_neg (by decide), if_pos rfl]

theorem urlDecodeFrom_plain {size : Nat} {ch : UInt8} {out : Bytes} (room : out.length < size - 1)
    (notPercent : ch ≠ 0x25) (notPlus : ch ≠ 0x2B) (rest : Bytes) :
    urlDecodeFrom size (ch :: rest) 0 out = urlDecodeFrom size rest 0 (out ++ [ch]) := by
  rw [urlDecodeFrom, if_pos room, if_neg notPercent, if_neg notPlus]

/-! The loop computes the decoder over lists -/

/-- What the loop does from `si` on: it writes the rest of the decoded text behind the text so
far, and reads and writes nothing outside the two sizes. -/
structure LoopWrites (srcLen dstSize si : Nat) (out : Bytes) (src dst : TrackedBuffer)
    (result : UrlDecoded) (written : Bytes) (offsets : List Nat) : Prop where
  count : result.di = out.length + written.length
  source : result.src = { src with reads := src.reads ++ offsets }
  target : result.dst = dst.store out.length written
  text : urlDecodeFrom dstSize ((src.cells.take srcLen).drop si) 0 out = out ++ written
  inside : ∀ offset ∈ offsets, offset < srcLen
  room : out.length + written.length ≤ max out.length (dstSize - 1)

variable {srcLen dstSize si : Nat} {out : Bytes} {src dst : TrackedBuffer}

theorem LoopWrites.stop
    (text : urlDecodeFrom dstSize ((src.cells.take srcLen).drop si) 0 out = out) :
    LoopWrites srcLen dstSize si out src dst ⟨out.length, src, dst⟩ [] [] where
  count := rfl
  source := by rw [List.append_nil]
  target := rfl
  text := by rw [text, List.append_nil]
  inside := nofun
  room := le_max_left _ _

/-- One byte more is written, and the rest of the loop writes what follows. -/
theorem LoopWrites.step {next : Nat} {value : UInt8} {offsets : List Nat}
    {result : UrlDecoded} {written : Bytes} {later : List Nat}
    (rest : LoopWrites srcLen dstSize next (out ++ [value])
      { src with reads := src.reads ++ offsets } (dst.store out.length [value])
      result written later)
    (room : out.length < dstSize - 1) (inside : ∀ offset ∈ offsets, offset < srcLen)
    (text : urlDecodeFrom dstSize ((src.cells.take srcLen).drop si) 0 out =
      urlDecodeFrom dstSize ((src.cells.take srcLen).drop next) 0 (out ++ [value])) :
    LoopWrites srcLen dstSize si out src dst result (value :: written) (offsets ++ later) where
  count := by
    rw [rest.count, List.length_append, List.length_singleton, List.length_cons]
    omega
  source := by rw [rest.source, List.append_assoc]
  target := by
    rw [rest.target, List.length_append]
    exact (TrackedBuffer.store_append dst out.length [value] written).symm
  text := by
    rw [text, rest.text, List.append_assoc, List.singleton_append]
  inside := by
    intro offset member
    rcases List.mem_append.mp member with here | after
    · exact inside offset here
    · exact rest.inside offset after
  room := by
    have bound := rest.room
    rw [List.length_append, List.length_singleton] at bound
    rw [List.length_cons]
    omega

theorem load_one {buffer : TrackedBuffer} {offset : Nat} (inside : offset < buffer.cells.length) :
    buffer.load offset 1 =
      ([buffer.cells[offset]], { buffer with reads := buffer.reads ++ [offset] }) := by
  simp [TrackedBuffer.load, inside]

theorem load_two {buffer : TrackedBuffer} {offset : Nat}
    (inside : offset + 1 < buffer.cells.length) :
    buffer.load offset 2 =
      ([buffer.cells[offset], buffer.cells[offset + 1]],
        { buffer with reads := buffer.reads ++ [offset, offset + 1] }) := by
  have first : offset < buffer.cells.length := Nat.lt_of_succ_lt inside
  simp [TrackedBuffer.load, List.range'_succ, inside, first]

theorem rest_cons {cells : Bytes} (fits : srcLen ≤ cells.length) (more : si < srcLen) :
    (cells.take srcLen).drop si = cells[si] :: (cells.take srcLen).drop (si + 1) := by
  rw [List.drop_eq_getElem_cons (by rw [List.length_take]; omega), List.getElem_take]

/-- One round of the loop is one step of the decoder over lists. -/
theorem urlDecodeLoop_round (fits : srcLen ≤ src.cells.length) (unread : si < srcLen)
    (room : out.length < dstSize - 1) :
    ∃ next value offsets, si < next ∧
      urlDecodeLoop srcLen dstSize si out.length src dst =
        urlDecodeLoop srcLen dstSize next (out.length + 1)
          { src with reads := src.reads ++ offsets } (dst.store out.length [value]) ∧
      (∀ offset ∈ offsets, offset < srcLen) ∧
      urlDecodeFrom dstSize ((src.cells.take srcLen).drop si) 0 out =
        urlDecodeFrom dstSize ((src.cells.take srcLen).drop next) 0 (out ++ [value]) := by
  have here : ∀ offset ∈ [si], offset < srcLen := by simpa using unread
  rw [urlDecodeLoop, if_pos ⟨unread, room⟩, rest_cons fits unread,
    load_one (Nat.lt_of_lt_of_le unread fits)]
  simp only [List.cons.injEq, and_true]
  by_cases percent : src.cells[si] = 0x25
  · by_cases two : si + 2 < srcLen
    · have pair : hexPair ((src.cells.take srcLen).drop (si + 1)) =
          hexPair [src.cells[si + 1], src.cells[si + 2]] := by
        rw [rest_cons fits (by omega), rest_cons fits two]
        rfl
      have ahead : ∀ offset ∈ [si] ++ [si + 1, si + 2], offset < srcLen := by
        intro offset member
        simp only [List.cons_append, List.nil_append, List.mem_cons, List.not_mem_nil,
          or_false] at member
        omega
      rw [if_pos ⟨percent, two⟩, load_two (by simp only; omega)]
      simp only [percent]
      cases digits : hexPair [src.cells[si + 1], src.cells[si + 2]] with
      | some value =>
          refine ⟨si + 3, value, [si] ++ [si + 1, si + 2], by omega, ?_, ahead, ?_⟩
          · rw [List.append_assoc]
          · rw [rest_cons fits (by omega), rest_cons fits two]
            exact urlDecodeFrom_pair room digits _
      | none =>
          refine ⟨si + 1, 0x25, [si] ++ [si + 1, si + 2], by omega, ?_, ahead, ?_⟩
          · rw [List.append_assoc]
          · exact urlDecodeFrom_percent room (pair.trans digits)
    · have short : hexPair ((src.cells.take srcLen).drop (si + 1)) = none := by
        have atMostOne : ((src.cells.take srcLen).drop (si + 1)).length ≤ 1 := by
          rw [List.length_drop, List.length_take]
          omega
        match (src.cells.take srcLen).drop (si + 1), atMostOne with
        | [], _ => rfl
        | [_], _ => rfl
      rw [if_neg (fun both => two both.2), percent, if_neg (by decide)]
      exact ⟨si + 1, 0x25, [si], by omega, rfl, here, urlDecodeFrom_percent room short⟩
  · rw [if_neg (fun both => percent both.1)]
    by_cases plus : src.cells[si] = 0x2B
    · rw [if_pos plus, plus]
      exact ⟨si + 1, 0x20, [si], by omega, rfl, here, urlDecodeFrom_plus room _⟩
    · rw [if_neg plus]
      exact ⟨si + 1, src.cells[si], [si], by omega, rfl, here,
        urlDecodeFrom_plain room percent plus _⟩

theorem urlDecodeLoop_writes (srcLen dstSize si : Nat) (out : Bytes) (src dst : TrackedBuffer)
    (fits : srcLen ≤ src.cells.length) :
    ∃ written offsets, LoopWrites srcLen dstSize si out src dst
      (urlDecodeLoop srcLen dstSize si out.length src dst) written offsets := by
  by_cases more : si < srcLen ∧ out.length < dstSize - 1
  · obtain ⟨next, value, offsets, ahead, round, inside, text⟩ :=
      urlDecodeLoop_round fits more.1 more.2
    obtain ⟨written, later, rest⟩ := urlDecodeLoop_writes srcLen dstSize next (out ++ [value])
      { src with reads := src.reads ++ offsets } (dst.store out.length [value]) fits
    rw [List.length_append, List.length_singleton] at rest
    rw [round]
    exact ⟨value :: written, offsets ++ later, rest.step more.2 inside text⟩
  · rw [urlDecodeLoop, if_neg more]
    refine ⟨[], [], .stop ?_⟩
    by_cases room : out.length < dstSize - 1
    · have read : ((src.cells.take srcLen).drop si) = [] := by
        apply List.drop_eq_nil_of_le
        rw [List.length_take]
        omega
      rw [read, urlDecodeFrom]
    · exact urlDecodeFrom_full _ room
termination_by srcLen - si

theorem urlDecodeBuffer_eq (srcLen dstSize : Nat) (src dst : TrackedBuffer)
    (fits : srcLen ≤ src.cells.length) :
    ∃ offsets, urlDecodeBuffer srcLen dstSize src dst =
        ⟨(urlDecode dstSize (src.cells.take srcLen)).length,
          { src with reads := src.reads ++ offsets },
          dst.store 0 (urlDecode dstSize (src.cells.take srcLen) ++ [0])⟩ ∧
      (∀ offset ∈ offsets, offset < srcLen) ∧
      (urlDecode dstSize (src.cells.take srcLen)).length ≤ dstSize - 1 := by
  obtain ⟨written, offsets, writes⟩ := urlDecodeLoop_writes srcLen dstSize 0 [] src dst fits
  have text : urlDecode dstSize (src.cells.take srcLen) = written := writes.text
  have count : (urlDecodeLoop srcLen dstSize 0 0 src dst).di = written.length := by
    rw [← Nat.zero_add written.length]
    exact writes.count
  have target : (urlDecodeLoop srcLen dstSize 0 0 src dst).dst = dst.store 0 written :=
    writes.target
  have source := writes.source
  refine ⟨offsets, ?_, writes.inside, ?_⟩
  · rw [text, TrackedBuffer.store_append, Nat.zero_add, urlDecodeBuffer, count, target, ← source]
    rfl
  · have room := writes.room
    rw [List.length_nil, Nat.zero_add, Nat.zero_max] at room
    rw [text]
    exact room

theorem urlDecode_length (size : Nat) (src : Bytes) : (urlDecode size src).length ≤ size - 1 := by
  obtain ⟨_, _, _, short⟩ :=
    urlDecodeBuffer_eq src.length size (.ofCells src) (.ofCells []) (le_refl _)
  rwa [TrackedBuffer.ofCells, List.take_length] at short

/-! The grammar of strtol and two digits -/

theorem hexDigitValue_eq : hexDigitValue = Form.hexValue := rfl

def blankOrSign (byte : UInt8) : Bool := isSpaceByte byte || byte == 0x2B || byte == 0x2D

theorem hexValue_blankOrSign :
    ∀ byte : UInt8, blankOrSign byte = true → Form.hexValue byte = none := by
  decide +kernel

theorem hexValue_lt {byte : UInt8} {value : Nat} (digit : Form.hexValue byte = some value) :
    value < 16 := by
  have every : ∀ byte : UInt8, ∀ value ∈ Form.hexValue byte, value < 16 := by decide +kernel
  exact every byte value digit

theorem strtolPair_digits {first second value : UInt8}
    (digits : Form.hexByte first second = some value) : strtolPair first second = some value := by
  rw [Form.hexByte] at digits
  rw [strtolPair, hexDigitValue_eq]
  cases high : Form.hexValue first with
  | none => simp [high] at digits
  | some high' =>
      cases low : Form.hexValue second with
      | none => simp [high, low] at digits
      | some low' => simpa [high, low] using digits

theorem strtolPair_blankOrSign {first second : UInt8} (lead : blankOrSign first = true)
    (digit : (Form.hexValue second).isSome = true) :
    ∃ value, strtolPair first second = some value ∧ value ≠ 0x25 := by
  obtain ⟨low, is⟩ := Option.isSome_iff_exists.mp digit
  have bound := hexValue_lt is
  have small : ∀ low < 16, UInt8.ofNat low ≠ 0x25 ∧ -(UInt8.ofNat low) ≠ 0x25 := by
    decide +kernel
  rw [strtolPair, hexDigitValue_eq, is, hexValue_blankOrSign first lead]
  simp only [blankOrSign, Bool.or_eq_true, beq_iff_eq] at lead
  by_cases positive : isSpaceByte first = true ∨ first = 0x2B
  · exact ⟨_, if_pos positive, (small low bound).1⟩
  · have minus : first = 0x2D := lead.resolve_left positive
    exact ⟨_, by simp only [if_neg positive, if_pos minus], (small low bound).2⟩

theorem strtolPair_none {first second : UInt8} (notDigits : Form.hexByte first second = none)
    (notSigned : ¬(blankOrSign first = true ∧ (Form.hexValue second).isSome = true)) :
    strtolPair first second = none := by
  rw [strtolPair, hexDigitValue_eq]
  cases low : Form.hexValue second with
  | none => rfl
  | some low' =>
      have lead : ¬ blankOrSign first = true := by simpa [low] using notSigned
      cases high : Form.hexValue first with
      | some high' => simp [Form.hexByte, high, low] at notDigits
      | none =>
          simp only [blankOrSign, Bool.or_eq_true, beq_iff_eq, not_or] at lead
          obtain ⟨⟨notSpace, notPlus⟩, notMinus⟩ := lead
          simp only [notSpace, notPlus, notMinus, or_self, Bool.false_eq_true, if_false]

theorem hexPair_none {rest : Bytes} (unpaired : Form.startsWithPair rest = false)
    (unsigned : ∀ lead digit after, rest = lead :: digit :: after →
      ¬(blankOrSign lead = true ∧ (Form.hexValue digit).isSome = true)) :
    hexPair rest = none := by
  cases rest with
  | nil => rfl
  | cons first later =>
      cases later with
      | nil => rfl
      | cons second after =>
          have notDigits : Form.hexByte first second = none :=
            Option.not_isSome_iff_eq_none.mp (by simpa [Form.startsWithPair] using unpaired)
          exact strtolPair_none notDigits (unsigned first second after rfl)

/-! Where the two decoders agree -/

/-- Every percent sign that a blank or a sign and one digit follow stands behind at least `room`
decoded bytes. -/
def NoSignedPair (room : Nat) (src : Bytes) : Prop :=
  ∀ front lead digit rest, src = front ++ Form.percentSign :: lead :: digit :: rest →
    blankOrSign lead = true → (Form.hexValue digit).isSome = true →
    room ≤ (Form.decode front).length

theorem noSignedPair_zero (src : Bytes) : NoSignedPair 0 src := by
  intro front lead digit rest _ _ _
  exact Nat.zero_le _

theorem noSignedPair_cons (head : Bytes) {room : Nat} {src : Bytes}
    (behind : ∀ front lead digit rest, head ++ src = front ++ Form.percentSign :: lead :: digit ::
      rest → blankOrSign lead = true → (Form.hexValue digit).isSome = true →
      ∃ after, front = head ++ after)
    (decodes : ∀ front back, src = front ++ back →
      (Form.decode (head ++ front)).length = (Form.decode front).length + 1) :
    NoSignedPair (room + 1) (head ++ src) ↔ NoSignedPair room src := by
  constructor
  · intro noSigned front lead digit rest split signed isDigit
    have later := noSigned (head ++ front) lead digit rest
      (by rw [split, List.append_assoc]) signed isDigit
    rw [decodes front _ split] at later
    exact Nat.le_of_succ_le_succ later
  · intro noSigned front lead digit rest split signed isDigit
    obtain ⟨after, rfl⟩ := behind front lead digit rest split signed isDigit
    rw [List.append_assoc] at split
    have split' := List.append_cancel_left split
    rw [decodes after _ split']
    exact Nat.succ_le_succ (noSigned after lead digit rest split' signed isDigit)

theorem noSignedPair_byte {room : Nat} {byte : UInt8} {src : Bytes}
    (notPercent : byte ≠ Form.percentSign)
    (decodes : ∀ front, (Form.decode (byte :: front)).length = (Form.decode front).length + 1) :
    NoSignedPair (room + 1) (byte :: src) ↔ NoSignedPair room src := by
  apply noSignedPair_cons [byte]
  · intro front lead digit rest split _ _
    cases front with
    | nil => exact absurd (List.cons.inj split).1 notPercent
    | cons first after => exact ⟨after, by rw [(List.cons.inj split).1]; rfl⟩
  · intro front _ _
    exact decodes front

theorem noSignedPair_pair {room : Nat} {high low value : UInt8} {src : Bytes}
    (digits : Form.hexByte high low = some value) :
    NoSignedPair (room + 1) (Form.percentSign :: high :: low :: src) ↔ NoSignedPair room src := by
  have both : (Form.hexByte high low).isSome = true := by rw [digits]; rfl
  rw [Form.hexByte_isSome, Bool.and_eq_true] at both
  have highNot : ∀ byte, blankOrSign byte = true ∨ byte = Form.percentSign → high ≠ byte := by
    rintro byte (lead | rfl) rfl
    · rw [hexValue_blankOrSign high lead] at both
      exact absurd both.1 (by decide)
    · exact absurd both.1 (by decide)
  have lowNot : low ≠ Form.percentSign := by
    rintro rfl
    exact absurd both.2 (by decide)
  apply noSignedPair_cons [Form.percentSign, high, low]
  · intro front lead digit rest split signed _
    match front, split with
    | [], split => exact absurd (List.cons.inj (List.cons.inj split).2).1 (highNot _ (.inl signed))
    | [_], split => exact absurd (List.cons.inj (List.cons.inj split).2).1 (highNot _ (.inr rfl))
    | [_, _], split =>
        exact absurd (List.cons.inj (List.cons.inj (List.cons.inj split).2).2).1 lowNot
    | first :: second :: third :: after, split =>
        simp only [List.cons_append, List.nil_append, List.cons.injEq] at split
        obtain ⟨rfl, rfl, rfl, _⟩ := split
        exact ⟨after, rfl⟩
  · intro front _ _
    exact congrArg List.length (Form.decode_pair digits front)

theorem noSignedPair_percent {room : Nat} {src : Bytes}
    (unpaired : Form.startsWithPair src = false)
    (unsigned : ∀ lead digit rest, src = lead :: digit :: rest →
      ¬(blankOrSign lead = true ∧ (Form.hexValue digit).isSome = true)) :
    NoSignedPair (room + 1) (Form.percentSign :: src) ↔ NoSignedPair room src := by
  apply noSignedPair_cons [Form.percentSign]
  · intro front lead digit rest split signed isDigit
    cases front with
    | nil => exact absurd ⟨signed, isDigit⟩ (unsigned lead digit rest (List.cons.inj split).2)
    | cons first after => exact ⟨after, by rw [(List.cons.inj split).1]; rfl⟩
  · intro front back split
    have stays : Form.startsWithPair front = false := by
      apply Bool.eq_false_iff.mpr
      intro paired
      have longer := Form.startsWithPair_append paired back
      rw [← split, unpaired] at longer
      cases longer
    exact congrArg List.length (Form.decode_percent stays)

/-- The text in dst is what the form decoder makes of the source, up to the room left. -/
def Agrees (size room : Nat) (src out : Bytes) : Prop :=
  urlDecodeFrom size src 0 out = out ++ (Form.decode src).take room

theorem agrees_full {size : Nat} {src out : Bytes} (full : out.length + 0 = size - 1) :
    Agrees size 0 src out := by
  rw [Agrees, urlDecodeFrom_full src (by omega), List.take_zero, List.append_nil]

theorem agrees_step {size room : Nat} {value : UInt8} {src rest out : Bytes}
    (left : out.length + room = size - 1)
    (step : out.length < size - 1 →
      urlDecodeFrom size src 0 out = urlDecodeFrom size rest 0 (out ++ [value]))
    (decodes : Form.decode src = value :: Form.decode rest)
    (signed : ∀ room, NoSignedPair (room + 1) src ↔ NoSignedPair room rest)
    (later : ∀ room out, out.length + room = size - 1 →
      (Agrees size room rest out ↔ NoSignedPair room rest)) :
    Agrees size room src out ↔ NoSignedPair room src := by
  cases room with
  | zero => exact iff_of_true (agrees_full left) (noSignedPair_zero src)
  | succ room =>
      have next : Agrees size (room + 1) src out ↔ Agrees size room rest (out ++ [value]) := by
        rw [Agrees, Agrees, step (by omega), decodes, List.take_succ_cons, List.append_assoc,
          List.singleton_append]
      rw [next, signed room]
      apply later
      rw [List.length_append, List.length_singleton]
      omega

theorem urlDecodeFrom_extends (size : Nat) (src : Bytes) (skip : Nat) (out : Bytes) :
    ∃ more, urlDecodeFrom size src skip out = out ++ more := by
  induction src generalizing skip out with
  | nil => exact ⟨[], by rw [urlDecodeFrom, List.append_nil]⟩
  | cons ch rest ih =>
      cases skip with
      | succ skip =>
          rw [urlDecodeFrom]
          exact ih skip out
      | zero =>
          have behind : ∀ skip value, ∃ more,
              urlDecodeFrom size rest skip (out ++ [value]) = out ++ more := by
            intro skip value
            obtain ⟨more, longer⟩ := ih skip (out ++ [value])
            exact ⟨value :: more, by rw [longer, List.append_assoc, List.singleton_append]⟩
          rw [urlDecodeFrom]
          repeat' split
          all_goals first
            | exact behind _ _
            | exact ⟨[], (List.append_nil out).symm⟩

theorem signed_disagrees {size room : Nat} {lead digit : UInt8} {rest out : Bytes}
    (left : out.length + (room + 1) = size - 1) (isLead : blankOrSign lead = true)
    (isDigit : (Form.hexValue digit).isSome = true)
    (unpaired : Form.startsWithPair (lead :: digit :: rest) = false) :
    ¬ Agrees size (room + 1) (Form.percentSign :: lead :: digit :: rest) out := by
  intro agrees
  obtain ⟨value, number, different⟩ := strtolPair_blankOrSign isLead isDigit
  obtain ⟨more, longer⟩ := urlDecodeFrom_extends size rest 0 (out ++ [value])
  have decoded : urlDecodeFrom size (Form.percentSign :: lead :: digit :: rest) 0 out =
      out ++ value :: more := by
    calc
      urlDecodeFrom size (Form.percentSign :: lead :: digit :: rest) 0 out =
          urlDecodeFrom size rest 0 (out ++ [value]) :=
        urlDecodeFrom_pair (by omega) number rest
      _ = out ++ value :: more := by rw [longer, List.append_assoc, List.singleton_append]
  rw [Agrees, decoded, Form.decode_percent unpaired, List.take_succ_cons] at agrees
  exact different (List.cons.inj (List.append_cancel_left agrees)).1

/-- The text that url_decode writes is that of the form decoder exactly when no signed pair
stands where there is still room. -/
theorem agrees_iff {size room : Nat} (src out : Bytes) (left : out.length + room = size - 1) :
    Agrees size room src out ↔ NoSignedPair room src := by
  induction Form.spelled src generalizing out room with
  | empty =>
      have none : NoSignedPair room [] := by
        intro front lead digit rest split
        simp at split
      simp [Agrees, urlDecodeFrom, Form.decode, none]
  | plain byte rest notPercent notPlus _ ih =>
      have decodes := fun front => Form.decode_plain notPercent notPlus front
      apply agrees_step left (fun more => urlDecodeFrom_plain more notPercent notPlus rest)
        (decodes rest) _ (fun room out left => ih out left)
      intro room
      exact noSignedPair_byte notPercent (fun front => congrArg List.length (decodes front))
  | plus rest _ ih =>
      apply agrees_step left (fun more => urlDecodeFrom_plus more rest) (Form.decode_plus rest) _
        (fun room out left => ih out left)
      intro room
      apply noSignedPair_byte (by decide)
      intro front
      exact congrArg List.length (Form.decode_plus front)
  | pair high low value rest digits _ ih =>
      exact agrees_step left
        (fun more => urlDecodeFrom_pair more (strtolPair_digits digits) rest)
        (Form.decode_pair digits rest) (fun _ => noSignedPair_pair digits)
        (fun room out left => ih out left)
  | percent rest unpaired _ ih =>
      by_cases signed : ∃ lead digit after, rest = lead :: digit :: after ∧
          blankOrSign lead = true ∧ (Form.hexValue digit).isSome = true
      · obtain ⟨lead, digit, after, rfl, isLead, isDigit⟩ := signed
        cases room with
        | zero => exact iff_of_true (agrees_full left) (noSignedPair_zero _)
        | succ room =>
            apply iff_of_false (signed_disagrees left isLead isDigit unpaired)
            intro noSigned
            have none := noSigned [] lead digit after rfl isLead isDigit
            exact absurd none (Nat.not_succ_le_zero room)
      · have unsigned : ∀ lead digit after, rest = lead :: digit :: after →
            ¬(blankOrSign lead = true ∧ (Form.hexValue digit).isSome = true) := by
          intro lead digit after split both
          exact signed ⟨lead, digit, after, split, both.1, both.2⟩
        have literal := hexPair_none unpaired unsigned
        exact agrees_step left (fun more => urlDecodeFrom_percent more literal)
          (Form.decode_percent unpaired) (fun _ => noSignedPair_percent unpaired unsigned)
          (fun room out left => ih out left)

/-! url_decode -/

/-- dst holds the decoded source as far as there is room and a NUL, the length of the text is
returned, and both buffers are used within their sizes. -/
structure DecodesForm (src : Bytes) (dstSize : Nat) (result : UrlDecoded) : Prop where
  returned : result.di = min (Form.decode src).length (dstSize - 1)
  text : result.dst.Holds ((Form.decode src).take (dstSize - 1) ++ [0])
  reads : ∀ offset ∈ result.src.reads, offset < src.length
  writes : ∀ offset ∈ result.dst.writes, offset < dstSize

/-- url_decode is the form decoder exactly when no percent sign with a blank or a sign and one
digit behind it stands where dst still has room. -/
theorem url_decode_iff (src beyond dst : Bytes) (dstSize : Nat) (positive : 1 ≤ dstSize)
    (sized : dstSize ≤ dst.length) :
    DecodesForm src dstSize (urlDecodeBuffer src.length dstSize (.ofCells (src ++ beyond))
        (.ofCells dst)) ↔ NoSignedPair (dstSize - 1) src := by
  have fits : src.length ≤ (TrackedBuffer.ofCells (src ++ beyond)).cells.length := by
    simp [TrackedBuffer.ofCells]
  obtain ⟨offsets, result, inside, short⟩ :=
    urlDecodeBuffer_eq src.length dstSize _ (.ofCells dst) fits
  have whole : (TrackedBuffer.ofCells (src ++ beyond)).cells.take src.length = src :=
    List.take_left
  rw [whole] at result short
  let target := (TrackedBuffer.ofCells dst).store 0 (urlDecode dstSize src ++ [0])
  have holds : target.Holds (urlDecode dstSize src ++ [0]) := by
    apply (TrackedBuffer.Holds.nothing (.ofCells dst)).store rfl
    simp only [TrackedBuffer.ofCells, List.length_append, List.length_singleton, List.length_nil]
    omega
  have text_iff : Agrees dstSize (dstSize - 1) src [] ↔
      urlDecode dstSize src = (Form.decode src).take (dstSize - 1) := by
    rw [Agrees, List.nil_append, urlDecode]
  have taken : min (Form.decode src).length (dstSize - 1) =
      ((Form.decode src).take (dstSize - 1)).length := by
    rw [List.length_take, Nat.min_comm]
  rw [result, ← agrees_iff src [] (by rw [List.length_nil, Nat.zero_add]), text_iff]
  constructor
  · intro decodes
    have long : (urlDecode dstSize src).length =
        ((Form.decode src).take (dstSize - 1)).length := decodes.returned.trans taken
    have same := holds.unique decodes.text
      (by rw [List.length_append, List.length_append, long])
    exact List.append_cancel_right same
  · intro text
    constructor
    case returned => exact (congrArg List.length text).trans taken.symm
    case text =>
        rw [← text]
        exact holds
    case reads =>
        simp only [TrackedBuffer.ofCells, List.nil_append]
        exact inside
    case writes =>
        intro offset member
        simp only [TrackedBuffer.store_writes, TrackedBuffer.ofCells, List.nil_append,
          List.length_append, List.length_singleton, List.mem_range'_1] at member
        omega

/-- The form decoder keeps `ab%+1`, and so does url_decode with room for two bytes. -/
theorem signed_pair_cut : DecodesForm (ascii "ab%+1") 3
    (urlDecodeBuffer (ascii "ab%+1").length 3 (.ofCells (ascii "ab%+1" ++ [0]))
      (.ofCells (List.replicate 64 0))) := by
  apply (url_decode_iff (ascii "ab%+1") [0] (List.replicate 64 0) 3 (by decide) (by decide)).mpr
  intro front lead digit rest split _ _
  have bytes : ascii "ab%+1" = [0x61, 0x62, 0x25, 0x2B, 0x31] := by decide
  rw [bytes] at split
  match front, split with
  | [], split => exact absurd (List.cons.inj split).1 (by decide)
  | [_], split => exact absurd (List.cons.inj (List.cons.inj split).2).1 (by decide)
  | first :: second :: front, split =>
      have long := congrArg List.length split
      simp only [List.length_cons, List.length_append, List.length_nil] at long
      have last : front = [] := List.length_eq_zero_iff.mp (by omega)
      simp only [last, List.cons_append, List.cons.injEq] at split
      rw [last, ← split.1, ← split.2.1]
      decide

/-- `%+1` is the byte 1 to url_decode. -/
theorem signed_pair_decoded :
    ¬ ∀ src beyond dst dstSize, 1 ≤ dstSize → dstSize ≤ dst.length →
      DecodesForm src dstSize (urlDecodeBuffer src.length dstSize (.ofCells (src ++ beyond))
        (.ofCells dst)) := by
  intro every
  have decodes := every [0x25, 0x2B, 0x31] [0] (List.replicate 64 0) 64 (by decide) (by decide)
  obtain ⟨offsets, result, _⟩ := urlDecodeBuffer_eq 3 64
    (.ofCells ([0x25, 0x2B, 0x31] ++ [0])) (.ofCells (List.replicate 64 0)) (by decide)
  have returned : (urlDecode 64 [0x25, 0x2B, 0x31]).length =
      min (Form.decode [0x25, 0x2B, 0x31]).length (64 - 1) :=
    (congrArg UrlDecoded.di result).symm.trans decodes.returned
  exact absurd returned (by decide)

end HydroGovernor
