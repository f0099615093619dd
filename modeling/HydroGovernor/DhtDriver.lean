import HydroGovernor.Library.BitOrder
import HydroGovernor.Nvs
import HydroGovernor.PushTask

/-! dht_driver.c: one read attempt of the DHT11 with its pulse widths and its checksum, and the
three attempts of dht11_read. -/

namespace HydroGovernor

open Firmware
open Firmware.BitOrder

/-! wait_level -/

/-- One call of wait_level: the timer at its start, after each look that did not find the level,
and after the look that did. -/
structure Wait where
  start : Int
  misses : List Int
  last : Int
  deriving DecidableEq, Repr

def waitLoop (start timeoutUs last : Int) : List Int → Int
  | [] => last - start
  | now :: misses =>
      if timeoutUs ≤ now - start then -1 else waitLoop start timeoutUs last misses

/-- The elapsed time, or −1. -/
def waitLevel (timeoutUs : Int) (wait : Wait) : Int :=
  waitLoop wait.start timeoutUs wait.last wait.misses

/-! dht11_read_once -/

/-- One bit on the line, with the timer before and after the wait for its falling edge. -/
structure DhtBit where
  rise : Wait
  highStart : Int
  fall : Wait
  highEnd : Int
  deriving DecidableEq, Repr

def DhtBit.pulseUs (bit : DhtBit) : Int := bit.highEnd - bit.highStart

/-- What an attempt meets on the line: the response of the sensor and forty bits. -/
structure DhtLine where
  low : Wait
  high : Wait
  dataStart : Wait
  bits : List DhtBit
  forty : bits.length = 40
  deriving DecidableEq, Repr

/-- `data[i / 8] <<= 1; if (pulse_us > 40) data[i / 8] |= 1;` -/
def shiftPulse (pulseUs : Int) (i : Nat) (data : Bytes) : Bytes :=
  let data := data.modify (i / 8) (fun byte => byte <<< 1)
  if pulseUs > 40 then data.modify (i / 8) (fun byte => byte ||| 1) else data

/-- The loop over the bits, from bit `i` on; `none` when a wait runs into its timeout. -/
def bitLoop : List DhtBit → Nat → Bytes → Option Bytes
  | [], _, data => some data
  | bit :: rest, i, data =>
      if waitLevel 80 bit.rise < 0 then none
      else if waitLevel 100 bit.fall < 0 then none
      else bitLoop rest (i + 1) (shiftPulse bit.pulseUs i data)

/-- `*temp` and `*humidity`, of a type of numbers that holds every byte exactly. -/
structure DhtOut (Value : Type) where
  temp : Value
  humidity : Value
  deriving DecidableEq, Repr

section

variable {Value : Type} [NatCast Value]

def dht11ReadOnce (line : DhtLine) (out : DhtOut Value) : EspErr × DhtOut Value :=
  if waitLevel 100 line.low < 0 then (.timeout, out)
  else if waitLevel 100 line.high < 0 then (.timeout, out)
  else if waitLevel 100 line.dataStart < 0 then (.timeout, out)
  else
    match bitLoop line.bits 0 (List.replicate 5 0) with
    | none => (.timeout, out)
    | some data =>
        let chk := UInt8.ofNat (((data.getD 0 0).toNat + (data.getD 1 0).toNat +
          (data.getD 2 0).toNat + (data.getD 3 0).toNat) &&& 0xFF)
        if data.getD 4 0 ≠ chk then (.invalidCrc, out)
        else (.ok, { temp := (data.getD 2 0).toNat, humidity := (data.getD 0 0).toNat })

/-- What a call of dht11_read returns and leaves, and the results of the attempts it made. -/
structure DhtRead (Value : Type) where
  ret : EspErr
  out : DhtOut Value
  tried : List EspErr
  deriving DecidableEq, Repr

/-- The loop of dht11_read with `left` attempts to go; `lines` is what each attempt meets. -/
def dht11Attempts (lines : Nat → DhtLine) : Nat → Nat → DhtOut Value → DhtRead Value
  | 0, _, out => ⟨.fail, out, []⟩
  | left + 1, attempt, out =>
      let (ret, out) := dht11ReadOnce (lines attempt) out
      if ret = .ok then ⟨.ok, out, [ret]⟩
      else
        let read := dht11Attempts lines left (attempt + 1) out
        { read with tried := ret :: read.tried }

def dht11Read (lines : Nat → DhtLine) (out : DhtOut Value) : DhtRead Value :=
  dht11Attempts lines 3 0 out

/-! Trains of pulses -/

/-- All waits of the attempt end in time, and these are the widths of its high pulses. -/
structure Measured (line : DhtLine) (widths : List Int) : Prop where
  low : 0 ≤ waitLevel 100 line.low
  high : 0 ≤ waitLevel 100 line.high
  dataStart : 0 ≤ waitLevel 100 line.dataStart
  rises : ∀ bit ∈ line.bits, 0 ≤ waitLevel 80 bit.rise
  falls : ∀ bit ∈ line.bits, 0 ≤ waitLevel 100 bit.fall
  widths : line.bits.map DhtBit.pulseUs = widths

/-- Zeros are at most 40 us wide, and ones wider. -/
def Encodes (widths : List Int) (bits : List Bool) : Prop :=
  List.Forall₂ (fun width bit => if bit then 40 < width else width ≤ 40) widths bits

def dhtFrame (b0 b1 b2 b3 : UInt8) : Bytes :=
  [b0, b1, b2, b3, UInt8.ofNat ((b0.toNat + b1.toNat + b2.toNat + b3.toNat) % 256)]

/-- At most so many attempts, up to the first that succeeds. -/
structure TriesUpTo (count : Nat) (lines : Nat → DhtLine) (out : DhtOut Value)
    (read : DhtRead Value) : Prop where
  atMost : read.tried.length ≤ count
  first : ∀ attempt < count,
    (∀ earlier < attempt, (dht11ReadOnce (lines earlier) out).1 ≠ .ok) →
    (dht11ReadOnce (lines attempt) out).1 = .ok →
      read.ret = .ok ∧ read.out = (dht11ReadOnce (lines attempt) out).2 ∧
        read.tried.length = attempt + 1
  failed : (∀ attempt < count, (dht11ReadOnce (lines attempt) out).1 ≠ .ok) →
    read.ret = .fail ∧ read.out = out ∧ read.tried.length = count

/-! One attempt -/

theorem shiftPulse_eq (pulseUs : Int) (i : Nat) (data : Bytes) :
    shiftPulse pulseUs i data =
      data.modify (i / 8) (fun byte => shiftIn byte (decide (40 < pulseUs))) := by
  by_cases wide : 40 < pulseUs
  · simp only [shiftPulse, shiftIn, gt_iff_lt, wide, if_true, decide_true]
    exact List.modify_modify_eq _ _ _ _
  · simp only [shiftPulse, shiftIn, gt_iff_lt, wide, if_false, decide_false, Bool.false_eq_true]

theorem bitLoop_encoded {line : List DhtBit} {bits : List Bool}
    (rises : ∀ bit ∈ line, 0 ≤ waitLevel 80 bit.rise)
    (falls : ∀ bit ∈ line, 0 ≤ waitLevel 100 bit.fall)
    (encodes : Encodes (line.map DhtBit.pulseUs) bits) (i : Nat) (data : Bytes) :
    bitLoop line i data = some (shiftAll bits i data) := by
  induction line generalizing bits i data with
  | nil =>
      cases encodes
      rfl
  | cons pulse rest ih =>
      cases encodes with
      | @cons _ bit _ bits classified later =>
          have rise := rises pulse List.mem_cons_self
          have fall := falls pulse List.mem_cons_self
          have wide : decide (40 < pulse.pulseUs) = bit := by
            cases bit with
            | true => exact decide_eq_true classified
            | false => exact decide_eq_false (not_lt.mpr classified)
          rw [bitLoop, if_neg (not_lt.mpr rise), if_neg (not_lt.mpr fall), shiftPulse_eq, wide,
            shiftAll]
          apply ih
          · exact fun other member => rises other (List.mem_cons_of_mem _ member)
          · exact fun other member => falls other (List.mem_cons_of_mem _ member)
          · exact later

def dhtDecoded (d0 d1 d2 d3 d4 : UInt8) (out : DhtOut Value) : EspErr × DhtOut Value :=
  if d4 ≠ [d0, d1, d2, d3].sum then (.invalidCrc, out)
  else (.ok, { temp := d2.toNat, humidity := d0.toNat })

theorem sum_bytes (b0 b1 b2 b3 : UInt8) :
    [b0, b1, b2, b3].sum =
      UInt8.ofNat ((b0.toNat + b1.toNat + b2.toNat + b3.toNat) % 256) := by
  apply UInt8.toNat_inj.mp
  simp only [List.sum_cons, List.sum_nil, UInt8.toNat_add, UInt8.toNat_ofNat', UInt8.toNat_zero]
  omega

theorem dht11ReadOnce_measured {line : DhtLine} {widths : List Int}
    (measured : Measured line widths) {d0 d1 d2 d3 d4 : UInt8}
    (encodes : Encodes widths ([d0, d1, d2, d3, d4].flatMap byteBits)) (out : DhtOut Value) :
    dht11ReadOnce line out = dhtDecoded d0 d1 d2 d3 d4 out := by
  have widths := measured.widths
  subst widths
  have received : bitLoop line.bits 0 (List.replicate 5 0) = some [d0, d1, d2, d3, d4] := by
    rw [bitLoop_encoded measured.rises measured.falls encodes]
    exact congrArg some (shiftAll_bytes [] [d0, d1, d2, d3, d4])
  have chk : UInt8.ofNat ((d0.toNat + d1.toNat + d2.toNat + d3.toNat) &&& 0xFF) =
      [d0, d1, d2, d3].sum := by
    rw [sum_bytes]
    exact congrArg UInt8.ofNat (Nat.and_two_pow_sub_one_eq_mod _ 8)
  rw [dht11ReadOnce, if_neg (not_lt.mpr measured.low), if_neg (not_lt.mpr measured.high),
    if_neg (not_lt.mpr measured.dataStart), received]
  simp only [List.getD_cons_zero, List.getD_cons_succ, chk]
  rfl

theorem dhtFrame_sealed (b0 b1 b2 b3 : UInt8) :
    dhtFrame b0 b1 b2 b3 = [b0, b1, b2, b3] ++ [[b0, b1, b2, b3].sum] := by
  rw [sum_bytes]
  rfl

theorem dht11ReadOnce_frame {line : DhtLine} {widths : List Int} (measured : Measured line widths)
    {b0 b1 b2 b3 : UInt8} (encodes : Encodes widths ((dhtFrame b0 b1 b2 b3).flatMap byteBits))
    (out : DhtOut Value) : dht11ReadOnce line out = (.ok, ⟨b2.toNat, b0.toNat⟩) := by
  rw [dhtFrame_sealed] at encodes
  rw [dht11ReadOnce_measured measured encodes, dhtDecoded, if_neg (not_not.mpr rfl)]

theorem dht11ReadOnce_misread {line : DhtLine} {widths : List Int} (measured : Measured line widths)
    {b0 b1 b2 b3 : UInt8} {place : Nat} (inside : place < 40)
    (misread : Encodes widths (((dhtFrame b0 b1 b2 b3).flatMap byteBits).modify place not))
    (out : DhtOut Value) : dht11ReadOnce line out = (.invalidCrc, out) := by
  have split : place = 8 * (place / 8) + (⟨place % 8, Nat.mod_lt _ (by decide)⟩ : Fin 8) :=
    (Nat.div_add_mod place 8).symm
  have turn : place / 8 < [b0, b1, b2, b3].length + 1 := by
    rw [List.length_cons, List.length_cons, List.length_cons, List.length_cons, List.length_nil]
    omega
  rw [split, flatMap_flip, dhtFrame_sealed] at misread
  obtain ⟨received, last, changed, four, unsealed⟩ := sealed_modify turn (flip_ne _)
  obtain ⟨d0, d1, d2, d3, rfl⟩ := List.length_eq_four.mp four
  rw [changed] at misread
  rw [dht11ReadOnce_measured measured misread, dhtDecoded, if_pos unsealed]

/-! Three attempts -/

theorem dht11ReadOnce_cases (line : DhtLine) (out : DhtOut Value) :
    (∃ t h : UInt8, dht11ReadOnce line out = (.ok, ⟨t.toNat, h.toNat⟩)) ∨
      ∃ ret, ret ≠ .ok ∧ dht11ReadOnce line out = (ret, out) := by
  unfold dht11ReadOnce
  split
  · exact .inr ⟨.timeout, by decide, rfl⟩
  split
  · exact .inr ⟨.timeout, by decide, rfl⟩
  split
  · exact .inr ⟨.timeout, by decide, rfl⟩
  split
  · exact .inr ⟨.timeout, by decide, rfl⟩
  dsimp only
  split
  · exact .inr ⟨.invalidCrc, by decide, rfl⟩
  · exact .inl ⟨_, _, rfl⟩

theorem TriesUpTo.once {left : Nat} {lines : Nat → DhtLine} {out read : DhtOut Value}
    (succeeds : dht11ReadOnce (lines 0) out = (.ok, read)) :
    TriesUpTo (left + 1) lines out ⟨.ok, read, [.ok]⟩ where
  atMost := Nat.succ_le_succ (Nat.zero_le _)
  first attempt inside earlier ok := by
    cases attempt with
    | zero => exact ⟨rfl, by rw [succeeds], rfl⟩
    | succ attempt => exact absurd (by rw [succeeds]) (earlier 0 (Nat.succ_pos attempt))
  failed all := absurd (by rw [succeeds]) (all 0 (Nat.succ_pos left))

theorem TriesUpTo.again {left : Nat} {lines : Nat → DhtLine} {out : DhtOut Value} {ret : EspErr}
    {read : DhtRead Value} (fails : dht11ReadOnce (lines 0) out = (ret, out)) (failed : ret ≠ .ok)
    (later : TriesUpTo left (fun attempt => lines (attempt + 1)) out read) :
    TriesUpTo (left + 1) lines out { read with tried := ret :: read.tried } where
  atMost := Nat.succ_le_succ later.atMost
  first attempt inside earlier ok := by
    cases attempt with
    | zero =>
        rw [fails] at ok
        exact absurd ok failed
    | succ attempt =>
        obtain ⟨returned, values, count⟩ := later.first attempt (Nat.lt_of_succ_lt_succ inside)
          (fun before less => earlier (before + 1) (Nat.succ_lt_succ less)) ok
        exact ⟨returned, values, congrArg Nat.succ count⟩
  failed all := by
    obtain ⟨returned, values, count⟩ :=
      later.failed (fun attempt less => all (attempt + 1) (Nat.succ_lt_succ less))
    exact ⟨returned, values, congrArg Nat.succ count⟩

theorem dht11Attempts_tries (lines : Nat → DhtLine) (left attempt : Nat) (out : DhtOut Value) :
    TriesUpTo left (fun k => lines (attempt + k)) out (dht11Attempts lines left attempt out) := by
  induction left generalizing attempt with
  | zero =>
      refine ⟨Nat.zero_le _, ?_, fun _ => ⟨rfl, rfl, rfl⟩⟩
      intro attempt inside
      exact absurd inside (Nat.not_lt_zero attempt)
  | succ left ih =>
      rw [dht11Attempts]
      rcases dht11ReadOnce_cases (lines attempt) out with ⟨t, h, succeeds⟩ | ⟨ret, failed, fails⟩
      · rw [succeeds]
        exact .once succeeds
      · rw [fails]
        dsimp only
        rw [if_neg failed]
        apply TriesUpTo.again fails failed
        have later := ih (attempt + 1)
        simp only [Nat.add_assoc, Nat.add_comm 1] at later
        exact later

theorem dht11Attempts_bytes {lines : Nat → DhtLine} {left attempt : Nat} {out : DhtOut Int}
    (succeeds : (dht11Attempts lines left attempt out).ret = .ok) :
    ∃ t h : UInt8, (dht11Attempts lines left attempt out).out = ⟨dhtValue t, dhtValue h⟩ := by
  induction left generalizing attempt with
  | zero => cases succeeds
  | succ left ih =>
      rw [dht11Attempts] at succeeds ⊢
      rcases dht11ReadOnce_cases (lines attempt) out with ⟨t, h, read⟩ | ⟨ret, failed, fails⟩
      · rw [read]
        exact ⟨t, h, rfl⟩
      · rw [fails] at succeeds ⊢
        dsimp only at succeeds ⊢
        rw [if_neg failed] at succeeds ⊢
        exact ih succeeds

theorem dht11Read_bytes {lines : Nat → DhtLine} {out : DhtOut Int}
    (succeeds : (dht11Read lines out).ret = .ok) :
    ∃ t h : UInt8, (dht11Read lines out).out = ⟨dhtValue t, dhtValue h⟩ :=
  dht11Attempts_bytes succeeds

/-- A frame is read exactly, a single misread bit is noticed, and dht11_read takes the first of
three attempts that succeeds. -/
theorem dht11_reads (b0 b1 b2 b3 : UInt8) (line : DhtLine) (widths : List Int)
    (measured : Measured line widths) (lines : Nat → DhtLine) (out : DhtOut Value) :
    (Encodes widths ((dhtFrame b0 b1 b2 b3).flatMap byteBits) →
        dht11ReadOnce line out = (.ok, ⟨b2.toNat, b0.toNat⟩)) ∧
      (∀ place < 40,
        Encodes widths (((dhtFrame b0 b1 b2 b3).flatMap byteBits).modify place not) →
          (dht11ReadOnce line out).1 = .invalidCrc) ∧
      TriesUpTo 3 lines out (dht11Read lines out) := by
  refine ⟨?_, ?_, ?_⟩
  · intro encodes
    exact dht11ReadOnce_frame measured encodes out
  · intro place inside misread
    rw [dht11ReadOnce_misread measured inside misread]
  · have tries := dht11Attempts_tries lines 3 0 out
    simp only [Nat.zero_add] at tries
    exact tries

end

def pulseWidth (bit : Bool) : Int := if bit then 70 else 26

def pulseTrain (bits : List Bool) (forty : bits.length = 40) : DhtLine where
  low := ⟨0, [], 10⟩
  high := ⟨10, [], 90⟩
  dataStart := ⟨90, [], 170⟩
  bits := bits.map (fun bit => ⟨⟨0, [], 50⟩, 50, ⟨50, [], 50⟩, 50 + pulseWidth bit⟩)
  forty := by
    rw [List.length_map]
    exact forty

def roomBits : List Bool := (dhtFrame 61 0 24 0).flatMap byteBits

def roomTrain : DhtLine := pulseTrain roomBits (by decide +kernel)

def misreadTrain : DhtLine := pulseTrain (roomBits.modify 23 not) (by decide +kernel)

theorem room_reads :
    dht11ReadOnce roomTrain (⟨0, 0⟩ : DhtOut Int) = (.ok, ⟨24, 61⟩) ∧
      (dht11ReadOnce misreadTrain (⟨0, 0⟩ : DhtOut Int)).1 = .invalidCrc ∧
      TriesUpTo 3 (fun _ => misreadTrain) (⟨0, 0⟩ : DhtOut Int)
        (dht11Read (fun _ => misreadTrain) ⟨0, 0⟩) := by
  have room : Measured roomTrain (roomBits.map pulseWidth) :=
    ⟨by decide, by decide, by decide, by decide +kernel, by decide +kernel, by decide +kernel⟩
  have misread : Measured misreadTrain ((roomBits.modify 23 not).map pulseWidth) :=
    ⟨by decide, by decide, by decide, by decide +kernel, by decide +kernel, by decide +kernel⟩
  have read := dht11_reads 61 0 24 0 roomTrain _ room (fun _ => misreadTrain) (⟨0, 0⟩ : DhtOut Int)
  have refused := dht11_reads 61 0 24 0 misreadTrain _ misread (fun _ => misreadTrain)
    (⟨0, 0⟩ : DhtOut Int)
  refine ⟨read.1 ?_, refused.2.1 23 (by decide) ?_, read.2.2⟩
  · unfold Encodes
    decide +kernel
  · unfold Encodes
    decide +kernel

end HydroGovernor
