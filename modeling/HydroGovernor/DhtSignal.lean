import HydroGovernor.Library.Polling
import HydroGovernor.DhtDriver

/-! dht_driver.c against the line itself: the levels that the sensor drives over time, and a driver
that polls them, reads its timer in between and may be preempted at any instant. -/

namespace HydroGovernor

open Firmware
open Firmware.BitOrder
open Firmware.Polling

/-! The sensor -/

/-- One bit: how long the line is low before it, and how long it is high. -/
structure LinePulse where
  low : Int
  high : Int
  deriving DecidableEq, Repr

/-- The pulses from `time` on, the low level after the last one, and the pull-up. -/
def Sends (signal : Int → Bool) (tail : Int) : List LinePulse → Int → Prop
  | [], time =>
      Holds signal false time (time + tail) ∧ ∀ later, time + tail ≤ later → signal later = true
  | pulse :: rest, time =>
      Holds signal false time (time + pulse.low) ∧
        Holds signal true (time + pulse.low) (time + pulse.low + pulse.high) ∧
        Sends signal tail rest (time + pulse.low + pulse.high)

/-- How long the line is low before the next pulse, or after the last one. -/
def lowFor (tail : Int) : List LinePulse → Int
  | [] => tail
  | pulse :: _ => pulse.low

/-- Pulses that a driver can tell apart whose steps take `gap` at most. -/
structure Readable (gap : Int) (pulse : LinePulse) (bit : Bool) : Prop where
  low : 3 * gap ≤ pulse.low ∧ pulse.low + gap ≤ 80
  high : 8 * gap ≤ pulse.high ∧ pulse.high + gap ≤ 100
  width : if bit then 40 + 6 * gap ≤ pulse.high else pulse.high + 4 * gap ≤ 41

/-- One answer of the sensor: its response from `answer` on, and the pulses. -/
structure DhtWave where
  answer : Int
  respLow : Int
  respHigh : Int
  pulses : List LinePulse
  tail : Int
  deriving DecidableEq, Repr

def DhtWave.ready (wave : DhtWave) : Int := wave.answer + wave.respLow

def DhtWave.start (wave : DhtWave) : Int := wave.ready + wave.respHigh

/-- The line carries this answer, and was idle from `begun` until then. -/
structure DhtWave.Drives (wave : DhtWave) (signal : Int → Bool) (begun : Int) : Prop where
  idle : Holds signal true begun wave.answer
  low : Holds signal false wave.answer wave.ready
  high : Holds signal true wave.ready wave.start
  sends : Sends signal wave.tail wave.pulses wave.start

/-! The driver -/

section

variable (signal : Int → Bool) (away gap : Int)

/-- One call of wait_level, `before` being the time of the last thing done before it. -/
def WaitRead (level : Bool) (timeoutUs before : Int) (wait : Wait) : Prop :=
  Takes away gap before wait.start ∧
    ∃ found, Looks signal away gap level timeoutUs wait.start wait.start wait.misses found wait.last

/-- The loop over the bits, up to the first timeout. -/
def BitsRead : List DhtBit → Int → Prop
  | [], _ => True
  | bit :: rest, before =>
      WaitRead signal away gap true 80 before bit.rise ∧
        (0 ≤ waitLevel 80 bit.rise →
          Takes away gap bit.rise.last bit.highStart ∧
            WaitRead signal away gap false 100 bit.highStart bit.fall ∧
            (0 ≤ waitLevel 100 bit.fall →
              Takes away gap bit.fall.last bit.highEnd ∧ BitsRead rest bit.highEnd))

/-- One run of dht11_read_once on the line, which looks at it from `begun` on. -/
structure LineRead (begun : Int) (line : DhtLine) : Prop where
  low : WaitRead signal away gap false 100 begun line.low
  high : 0 ≤ waitLevel 100 line.low → WaitRead signal away gap true 100 line.low.last line.high
  dataStart : 0 ≤ waitLevel 100 line.low → 0 ≤ waitLevel 100 line.high →
    WaitRead signal away gap false 100 line.high.last line.dataStart
  bits : 0 ≤ waitLevel 100 line.low → 0 ≤ waitLevel 100 line.high →
    0 ≤ waitLevel 100 line.dataStart → BitsRead signal away gap line.bits line.dataStart.last

end

/-! Waits in time -/

theorem waitLoop_inTime {start timeoutUs last : Int} {misses : List Int}
    (ended : 0 ≤ waitLoop start timeoutUs last misses) : InTime timeoutUs start misses := by
  induction misses with
  | nil => exact fun miss member => absurd member List.not_mem_nil
  | cons now misses ih =>
      rw [waitLoop] at ended
      split at ended
      · exact absurd ended (by decide)
      · rename_i early
        exact List.forall_mem_cons.mpr ⟨not_le.mp early, ih ended⟩

theorem waitLoop_nonneg {start timeoutUs last : Int} {misses : List Int}
    (inTime : InTime timeoutUs start misses) (ordered : start ≤ last) :
    0 ≤ waitLoop start timeoutUs last misses := by
  induction misses with
  | nil => exact sub_nonneg.mpr ordered
  | cons now misses ih =>
      rw [waitLoop, if_neg (not_le.mpr (inTime now List.mem_cons_self))]
      exact ih (fun miss member => inTime miss (List.mem_cons_of_mem _ member))

section

variable {signal : Int → Bool} {away gap : Int}

/-- What a wait that ended in time did. -/
structure WaitSeen (signal : Int → Bool) (away gap : Int) (level : Bool) (timeoutUs before : Int)
    (wait : Wait) (found : Int) : Prop where
  begins : Takes away gap before wait.start
  looks : Looks signal away gap level timeoutUs wait.start wait.start wait.misses found wait.last
  inTime : InTime timeoutUs wait.start wait.misses
  after : wait.start ≤ found
  there : signal found = level
  ends : Takes away gap found wait.last

theorem WaitRead.seen {level : Bool} {timeoutUs before : Int} {wait : Wait}
    (reads : WaitRead signal away gap level timeoutUs before wait)
    (ended : 0 ≤ waitLevel timeoutUs wait) :
    ∃ found, WaitSeen signal away gap level timeoutUs before wait found := by
  obtain ⟨begins, found, looks⟩ := reads
  have inTime := waitLoop_inTime ended
  obtain ⟨after, there, ends⟩ := looks.finds inTime
  exact ⟨found, begins, looks, inTime, after, there, ends⟩

theorem WaitSeen.ordered {level : Bool} {timeoutUs before found : Int} {wait : Wait}
    (seen : WaitSeen signal away gap level timeoutUs before wait found) :
    before ≤ found ∧ found ≤ wait.last :=
  ⟨le_trans seen.begins.1 seen.after, seen.ends.1⟩

theorem WaitSeen.prompt {level : Bool} {timeoutUs before found : Int} {wait : Wait}
    (seen : WaitSeen signal away gap level timeoutUs before wait found)
    (present : away < before ∨ wait.last ≤ away) {edge stop : Int}
    (holds : Holds signal level edge stop) (inside : found < stop) :
    (found ≤ before + 2 * gap ∨ found < edge + 2 * gap) ∧ wait.last ≤ found + gap := by
  have begins := seen.begins.1
  have after := seen.after
  have ends := seen.ends.1
  have started := seen.begins.quiet (by omega)
  have last := seen.ends.quiet (by omega)
  rcases seen.looks.prompt seen.inTime (by omega) holds inside with first | near
  · exact ⟨.inl (by omega), last⟩
  · exact ⟨.inr near, last⟩

theorem WaitRead.succeeds {level : Bool} {timeoutUs before : Int} {wait : Wait}
    (reads : WaitRead signal away gap level timeoutUs before wait) (present : away < before)
    {first edge stop : Int} (waits : Holds signal (!level) first edge)
    (holds : Holds signal level edge stop) (since : first ≤ before)
    (looked : before + 2 * gap < stop) (stays : edge + 2 * gap ≤ stop)
    (comes : edge + gap ≤ before + timeoutUs) :
    0 ≤ waitLevel timeoutUs wait ∧
      ∃ found, WaitSeen signal away gap level timeoutUs before wait found ∧
        edge ≤ found ∧ found < stop := by
  obtain ⟨begins, found, looks⟩ := reads
  have ordered := begins.1
  have soon := begins.quiet (.inl present)
  obtain ⟨inTime, come, inside⟩ := looks.succeeds (by omega) waits holds (by omega) (by omega)
    stays (by omega)
  obtain ⟨after, there, ends⟩ := looks.finds inTime
  have last := ends.1
  exact ⟨waitLoop_nonneg inTime (by omega), found,
    ⟨begins, looks, inTime, after, there, ends⟩, come, inside⟩

/-- What the driver saw of a bit that it read. -/
structure BitSeen (signal : Int → Bool) (away gap before : Int) (bit : DhtBit) (up down : Int) :
    Prop where
  rise : WaitSeen signal away gap true 80 before bit.rise up
  timed : Takes away gap bit.rise.last bit.highStart
  fall : WaitSeen signal away gap false 100 bit.highStart bit.fall down
  measured : Takes away gap bit.fall.last bit.highEnd

theorem BitsRead.seen {bit : DhtBit} {rest : List DhtBit} {before : Int}
    (reads : BitsRead signal away gap (bit :: rest) before) (rise : 0 ≤ waitLevel 80 bit.rise)
    (fall : 0 ≤ waitLevel 100 bit.fall) :
    ∃ up down, BitSeen signal away gap before bit up down ∧
      BitsRead signal away gap rest bit.highEnd := by
  obtain ⟨riseRead, goesOn⟩ := reads
  obtain ⟨timed, fallRead, last⟩ := goesOn rise
  obtain ⟨measured, later⟩ := last fall
  obtain ⟨up, riseSeen⟩ := riseRead.seen rise
  obtain ⟨down, fallSeen⟩ := fallRead.seen fall
  exact ⟨up, down, ⟨riseSeen, timed, fallSeen, measured⟩, later⟩

theorem BitSeen.ordered {before up down : Int} {bit : DhtBit}
    (seen : BitSeen signal away gap before bit up down) :
    before ≤ up ∧ up ≤ bit.highStart ∧ bit.highStart ≤ down ∧ down ≤ bit.highEnd := by
  have rise := seen.rise.ordered
  have timed := seen.timed.1
  have fall := seen.fall.ordered
  have measured := seen.measured.1
  omega

/-! No pulse is lost -/

/-- Every wait of these bits ended in time. -/
def BitsInTime (bits : List DhtBit) : Prop :=
  ∀ bit ∈ bits, 0 ≤ waitLevel 80 bit.rise ∧ 0 ≤ waitLevel 100 bit.fall

theorem Sends.low {tail : Int} {pulses : List LinePulse} {time : Int}
    (sends : Sends signal tail pulses time) :
    Holds signal false time (time + lowFor tail pulses) := by
  cases pulses with
  | nil => exact sends.1
  | cons pulse rest => exact sends.1

/-- Each bit that the driver reads is another pulse of the line, however it was preempted. -/
theorem BitsRead.bound {tail : Int} {pulses : List LinePulse} {bits : List DhtBit}
    {time found before : Int} (sends : Sends signal tail pulses time)
    (reads : BitsRead signal away gap bits before) (inTime : BitsInTime bits)
    (since : time ≤ found) (low : signal found = false) (earlier : found ≤ before) :
    bits.length ≤ pulses.length := by
  induction pulses generalizing bits time found before with
  | nil =>
      cases bits with
      | nil => exact Nat.le_refl 0
      | cons bit rest =>
          have ⟨rise, fall⟩ := inTime bit List.mem_cons_self
          obtain ⟨up, down, seen, _⟩ := reads.seen rise fall
          have ordered := seen.ordered
          have raised := sends.1.left (by omega) seen.rise.there
          have idle := sends.2 down (by omega)
          rw [seen.fall.there] at idle
          cases idle
  | cons pulse pulses ih =>
      cases bits with
      | nil => exact Nat.zero_le _
      | cons bit rest =>
          have ⟨rise, fall⟩ := inTime bit List.mem_cons_self
          obtain ⟨up, down, seen, later⟩ := reads.seen rise fall
          have ordered := seen.ordered
          have risen := sends.1.left (by omega) seen.rise.there
          have fallen := sends.2.1.left (by omega) seen.fall.there
          exact Nat.succ_le_succ (ih sends.2.2 later
            (fun other member => inTime other (List.mem_cons_of_mem _ member)) fallen
            seen.fall.there ordered.2.2.2)

theorem BitsRead.inLow {tail : Int} {pulses : List LinePulse} {bits : List DhtBit}
    {time found before : Int} (sends : Sends signal tail pulses time)
    (reads : BitsRead signal away gap bits before) (inTime : BitsInTime bits)
    (same : bits.length = pulses.length) (low : signal found = false) (earlier : found ≤ before) :
    found < time + lowFor tail pulses := by
  by_contra beyond
  have beyond := not_lt.mp beyond
  cases pulses with
  | nil =>
      have idle := sends.2 found beyond
      rw [low] at idle
      cases idle
  | cons pulse pulses =>
      have fallen := sends.2.1.left beyond low
      have bound := reads.bound sends.2.2 inTime fallen low earlier
      rw [same, List.length_cons] at bound
      omega

/-- The bit that the driver has just read is the pulse that the line has just sent. -/
structure InStep (time : Int) (pulse : LinePulse) (next up down : Int) : Prop where
  rose : time + pulse.low ≤ up
  high : up < time + pulse.low + pulse.high
  fell : time + pulse.low + pulse.high ≤ down
  low : down < time + pulse.low + pulse.high + next

theorem BitSeen.inStep {tail time before up down : Int} {pulse : LinePulse}
    {pulses : List LinePulse} {bit : DhtBit} {rest : List DhtBit}
    (sends : Sends signal tail (pulse :: pulses) time)
    (seen : BitSeen signal away gap before bit up down)
    (later : BitsRead signal away gap rest bit.highEnd) (inTime : BitsInTime rest)
    (same : rest.length = pulses.length) (since : time ≤ before) :
    InStep time pulse (lowFor tail pulses) up down := by
  have ordered := seen.ordered
  have rose := sends.1.left (by omega) seen.rise.there
  have fell := sends.2.1.left (by omega) seen.fall.there
  have low := later.inLow sends.2.2 inTime same seen.fall.there ordered.2.2.2
  have high := sends.2.2.low.before (by omega) seen.rise.there
  exact ⟨rose, high, fell, low⟩

/-! Widths -/

def DhtBit.read (bit : DhtBit) : Bool := decide (40 < bit.pulseUs)

/-- A pulse during which the driver was not preempted is measured well enough. -/
theorem BitSeen.exact {time next found before up down : Int} {pulse : LinePulse} {bit : DhtBit}
    {sent : Bool} (seen : BitSeen signal away gap before bit up down)
    (inStep : InStep time pulse next up down)
    (high : Holds signal true (time + pulse.low) (time + pulse.low + pulse.high))
    (low : Holds signal false (time + pulse.low + pulse.high)
      (time + pulse.low + pulse.high + next))
    (readable : Readable gap pulse sent) (below : found < time + pulse.low)
    (near : Takes away (2 * gap) found before) (present : away < found ∨ bit.highEnd ≤ away) :
    bit.read = sent := by
  obtain ⟨rose, upHigh, fell, downLow⟩ := inStep
  have arrived := near.1
  have rise := seen.rise.ordered
  have timed := seen.timed.1
  have fall := seen.fall.ordered
  have measured := seen.measured.1
  -- no step up to the second timer reading is the long one
  have started := near.quiet (by omega)
  have riseSoon := seen.rise.prompt (by omega) high upHigh
  have highStart := seen.timed.quiet (by omega)
  have fallSoon := seen.fall.prompt (by omega) low downLow
  have highEnd := seen.measured.quiet (by omega)
  have room := readable.high.1
  have width := readable.width
  unfold DhtBit.read DhtBit.pulseUs
  cases sent with
  | true =>
      rw [if_pos rfl] at width
      exact decide_eq_true (by omega)
  | false =>
      rw [if_neg Bool.false_ne_true] at width
      exact decide_eq_false (by omega)

/-- A driver that is not preempted reads the bit in time. -/
theorem BitsRead.succeeds {tail time found before : Int} {pulse : LinePulse}
    {pulses : List LinePulse} {bit : DhtBit} {rest : List DhtBit} {sent : Bool}
    (sends : Sends signal tail (pulse :: pulses) time)
    (reads : BitsRead signal away gap (bit :: rest) before) (readable : Readable gap pulse sent)
    (room : 3 * gap ≤ lowFor tail pulses) (since : time ≤ found)
    (below : found < time + pulse.low) (near : Takes away (2 * gap) found before)
    (present : away < found) :
    (0 ≤ waitLevel 80 bit.rise ∧ 0 ≤ waitLevel 100 bit.fall) ∧
      ∃ up down, BitSeen signal away gap before bit up down ∧
        InStep time pulse (lowFor tail pulses) up down ∧
        BitsRead signal away gap rest bit.highEnd := by
  obtain ⟨riseRead, goesOn⟩ := reads
  have lows := readable.low
  have highs := readable.high
  have arrived := near.1
  have started := near.quiet (.inl present)
  obtain ⟨rise, up, riseSeen, rose, upHigh⟩ := riseRead.succeeds (by omega) sends.1 sends.2.1
    (by omega) (by omega) (by omega) (by omega)
  obtain ⟨timed, fallRead, last⟩ := goesOn rise
  have riseOrdered := riseSeen.ordered
  have riseSoon := riseSeen.prompt (.inl (by omega)) sends.2.1 upHigh
  have timedAfter := timed.1
  have highStart := timed.quiet (by omega)
  obtain ⟨fall, down, fallSeen, fell, downLow⟩ := fallRead.succeeds (by omega) sends.2.1
    sends.2.2.low (by omega) (by omega) (by omega) (by omega)
  obtain ⟨measured, later⟩ := last fall
  exact ⟨⟨rise, fall⟩, up, down, ⟨riseSeen, timed, fallSeen, measured⟩,
    ⟨rose, upHigh, fell, downLow⟩, later⟩

theorem BitSeen.near {before up down : Int} {bit : DhtBit}
    (seen : BitSeen signal away gap before bit up down) :
    Takes away (2 * gap) down bit.highEnd := by
  rw [two_mul]
  exact seen.fall.ends.trans seen.measured

/-! A whole frame -/

def readBits (bits : List DhtBit) : List Bool := bits.map DhtBit.read

theorem bitsInTime_nil : BitsInTime [] := fun _ member => absurd member List.not_mem_nil

theorem bitsInTime_cons {bit : DhtBit} {rest : List DhtBit}
    (first : 0 ≤ waitLevel 80 bit.rise ∧ 0 ≤ waitLevel 100 bit.fall) (later : BitsInTime rest) :
    BitsInTime (bit :: rest) :=
  List.forall_mem_cons.mpr ⟨first, later⟩

theorem BitsInTime.tail {bit : DhtBit} {rest : List DhtBit} (inTime : BitsInTime (bit :: rest)) :
    BitsInTime rest :=
  (List.forall_mem_cons.mp inTime).2

theorem lowFor_room {tail : Int} {pulses : List LinePulse} {sent : List Bool}
    (readable : List.Forall₂ (Readable gap) pulses sent) (room : 3 * gap ≤ tail) :
    3 * gap ≤ lowFor tail pulses := by
  cases readable with
  | nil => exact room
  | cons first _ => exact first.low.1

theorem bits_exact {tail : Int} (room : 3 * gap ≤ tail) {pulses : List LinePulse}
    {sent : List Bool} (readable : List.Forall₂ (Readable gap) pulses sent)
    {bits : List DhtBit} {time found before : Int} (sends : Sends signal tail pulses time)
    (reads : BitsRead signal away gap bits before) (same : bits.length = pulses.length)
    (since : time ≤ found) (below : found < time + lowFor tail pulses)
    (near : Takes away (2 * gap) found before) (present : away < found) :
    BitsInTime bits ∧ readBits bits = sent := by
  induction readable generalizing bits time found before with
  | nil =>
      have empty := List.length_eq_zero_iff.mp same
      subst empty
      exact ⟨bitsInTime_nil, rfl⟩
  | @cons pulse bit pulses sent first others ih =>
      obtain ⟨head, rest, rfl⟩ := List.exists_cons_of_length_eq_add_one same
      obtain ⟨inTime, up, down, seen, inStep, later⟩ := BitsRead.succeeds sends reads first
        (lowFor_room others room) since below near present
      have ordered := seen.ordered
      have arrived := near.1
      obtain ⟨restInTime, restRead⟩ := ih sends.2.2 later (Nat.succ.inj same) inStep.fell
        inStep.low seen.near (by omega)
      refine ⟨bitsInTime_cons inTime restInTime, ?_⟩
      have exactly := seen.exact inStep sends.2.1 sends.2.2.low first below near (.inl present)
      rw [readBits, List.map_cons, exactly]
      exact congrArg _ restRead

theorem cons_burst (sent read : Bool) (bits : List Bool) :
    read :: bits = burst (sent ^^ read) false 0 (sent :: bits) := by
  have keeps : (fun bit => bit ^^ false) = id := funext Bool.xor_false
  rw [burst, List.modify_zero_cons, List.modify_succ_cons, keeps, List.modify_id]
  simp

theorem cons_cons_burst (sent read next nextRead : Bool) (bits : List Bool) :
    read :: nextRead :: bits =
      burst (sent ^^ read) (next ^^ nextRead) 0 (sent :: next :: bits) := by
  simp [burst]

theorem bits_first {tail : Int} (room : 3 * gap ≤ tail) {pulses : List LinePulse}
    {sent : List Bool} (readable : List.Forall₂ (Readable gap) pulses sent)
    {bits : List DhtBit} {time before : Int} (sends : Sends signal tail pulses time)
    (reads : BitsRead signal away gap bits before) (inTime : BitsInTime bits)
    (same : bits.length = pulses.length) (since : time ≤ before) (present : away < before) :
    readBits bits = sent ∨
      ∃ bit rest read, sent = bit :: rest ∧ readBits bits = read :: rest := by
  cases readable with
  | nil =>
      have empty := List.length_eq_zero_iff.mp same
      subst empty
      exact .inl rfl
  | @cons pulse bit pulses sent first others =>
      obtain ⟨head, rest, rfl⟩ := List.exists_cons_of_length_eq_add_one same
      have ⟨rise, fall⟩ := inTime head List.mem_cons_self
      obtain ⟨up, down, seen, later⟩ := reads.seen rise fall
      have same := Nat.succ.inj same
      have inStep := seen.inStep sends later inTime.tail same since
      have ordered := seen.ordered
      have exactly := bits_exact room others sends.2.2 later same inStep.fell inStep.low seen.near
        (by omega)
      refine .inr ⟨bit, sent, head.read, rfl, ?_⟩
      rw [readBits, List.map_cons]
      exact congrArg _ exactly.2

/-- One preemption, wherever it is and however long it takes, spoils at most two neighbouring bits
of an attempt that does not time out. -/
theorem bits_burst {tail : Int} (room : 3 * gap ≤ tail) {pulses : List LinePulse}
    {sent : List Bool} (readable : List.Forall₂ (Readable gap) pulses sent)
    {bits : List DhtBit} {time found before : Int} (sends : Sends signal tail pulses time)
    (reads : BitsRead signal away gap bits before) (inTime : BitsInTime bits)
    (same : bits.length = pulses.length) (since : time ≤ found)
    (below : found < time + lowFor tail pulses) (near : Takes away (2 * gap) found before) :
    ∃ first second place, readBits bits = burst first second place sent := by
  induction readable generalizing bits time found before with
  | nil =>
      have empty := List.length_eq_zero_iff.mp same
      subst empty
      exact ⟨false, false, 0, (burst_nil _ _ _).symm⟩
  | @cons pulse bit pulses sent first others ih =>
      obtain ⟨head, rest, rfl⟩ := List.exists_cons_of_length_eq_add_one same
      have ⟨rise, fall⟩ := inTime head List.mem_cons_self
      obtain ⟨up, down, seen, later⟩ := reads.seen rise fall
      have same := Nat.succ.inj same
      have arrived := near.1
      have inStep := seen.inStep sends later inTime.tail same (by omega)
      have split : readBits (head :: rest) = head.read :: readBits rest := List.map_cons
      rw [split]
      -- the task left before the falling edge was seen, after its last timer reading, or in between
      rcases lt_or_ge away down with early | late
      · have exactly := bits_exact room others sends.2.2 later same inStep.fell inStep.low
          seen.near early
        rw [exactly.2]
        exact ⟨_, _, 0, cons_burst bit head.read sent⟩
      rcases lt_or_ge away head.highEnd with between | after
      · have ordered := seen.ordered
        have fell := inStep.fell
        rcases bits_first room others sends.2.2 later inTime.tail same (by omega) between with
          exactly | ⟨next, others, read, shape, misread⟩
        · rw [exactly]
          exact ⟨_, _, 0, cons_burst bit head.read sent⟩
        · rw [misread, shape]
          exact ⟨_, _, 0, cons_cons_burst bit head.read next read others⟩
      · have exactly := seen.exact inStep sends.2.1 sends.2.2.low first below near (.inr after)
        obtain ⟨one, other, place, misread⟩ := ih sends.2.2 later inTime.tail same inStep.fell
          inStep.low seen.near
        rw [exactly, misread]
        exact ⟨one, other, place + 1, (burst_cons one other bit place sent).symm⟩

end

/-! A sensor and a driver to run -/

def pulseSignal (tail : Int) : List LinePulse → Int → Int → Bool
  | [], time, now => decide (time + tail ≤ now)
  | pulse :: rest, time, now =>
      if now < time + pulse.low then false
      else if now < time + pulse.low + pulse.high then true
      else pulseSignal tail rest (time + pulse.low + pulse.high) now

def DhtWave.signal (wave : DhtWave) (now : Int) : Bool :=
  if now < wave.answer then true
  else if now < wave.ready then false
  else if now < wave.start then true
  else pulseSignal wave.tail wave.pulses wave.start now

theorem pulseSignal_sends {signal : Int → Bool} {tail : Int} (settles : 0 ≤ tail)
    {pulses : List LinePulse} {time : Int}
    (agrees : ∀ now, time ≤ now → signal now = pulseSignal tail pulses time now)
    (forward : ∀ pulse ∈ pulses, 0 ≤ pulse.low ∧ 0 ≤ pulse.high) :
    Sends signal tail pulses time := by
  induction pulses generalizing time with
  | nil =>
      refine ⟨fun now since inside => ?_, fun now idle => ?_⟩
      · rw [agrees now since]
        exact decide_eq_false (not_le.mpr inside)
      · rw [agrees now (by omega)]
        exact decide_eq_true idle
  | cons pulse rest ih =>
      have ⟨low, high⟩ := forward pulse List.mem_cons_self
      refine ⟨fun now since inside => ?_, fun now since inside => ?_, ih (fun now since => ?_)
        (fun other member => forward other (List.mem_cons_of_mem _ member))⟩
      · rw [agrees now since, pulseSignal, if_pos inside]
      · rw [agrees now (by omega), pulseSignal, if_neg (by omega), if_pos inside]
      · rw [agrees now (by omega), pulseSignal, if_neg (by omega), if_neg (by omega)]

theorem DhtWave.signal_drives {wave : DhtWave} (respLow : 0 ≤ wave.respLow)
    (respHigh : 0 ≤ wave.respHigh) (settles : 0 ≤ wave.tail)
    (forward : ∀ pulse ∈ wave.pulses, 0 ≤ pulse.low ∧ 0 ≤ pulse.high) (begun : Int) :
    wave.Drives wave.signal begun := by
  have ready : wave.ready = wave.answer + wave.respLow := rfl
  have start : wave.start = wave.ready + wave.respHigh := rfl
  refine ⟨fun now since inside => ?_, fun now since inside => ?_, fun now since inside => ?_,
    pulseSignal_sends settles (fun now since => ?_) forward⟩
  · rw [DhtWave.signal, if_pos inside]
  · rw [DhtWave.signal, if_neg (by omega), if_pos inside]
  · rw [DhtWave.signal, if_neg (by omega), if_neg (by omega), if_pos inside]
  · rw [DhtWave.signal, if_neg (by omega), if_neg (by omega), if_neg (by omega)]

section

variable (signal : Int → Bool) (pace : Int → Int)

/-- The timer after each look in vain, and after the last look; `pace` gives the time of the next
step. -/
def pollLoop (level : Bool) (timeoutUs start : Int) : Nat → Int → List Int × Int
  | 0, now => ([], now)
  | fuel + 1, now =>
      let look := pace now
      if signal look = level then ([], pace look)
      else
        let miss := pace look
        if timeoutUs ≤ miss - start then ([miss], miss)
        else
          let (misses, last) := pollLoop level timeoutUs start fuel miss
          (miss :: misses, last)

def pollWait (level : Bool) (timeoutUs before : Int) : Wait :=
  let start := pace before
  let (misses, last) := pollLoop signal pace level timeoutUs start timeoutUs.toNat start
  ⟨start, misses, last⟩

def pollBits : Nat → Int → List DhtBit
  | 0, _ => []
  | count + 1, before =>
      let rise := pollWait signal pace true 80 before
      let highStart := pace rise.last
      let fall := pollWait signal pace false 100 highStart
      let highEnd := pace fall.last
      ⟨rise, highStart, fall, highEnd⟩ :: pollBits count highEnd

theorem pollBits_length (count : Nat) (before : Int) :
    (pollBits signal pace count before).length = count := by
  induction count generalizing before with
  | zero => rfl
  | succ count ih => exact congrArg Nat.succ (ih _)

/-- What the driver meets on the line when its steps follow this pace. -/
def pollLine (begun : Int) : DhtLine :=
  let low := pollWait signal pace false 100 begun
  let high := pollWait signal pace true 100 low.last
  let dataStart := pollWait signal pace false 100 high.last
  ⟨low, high, dataStart, pollBits signal pace 40 dataStart.last, pollBits_length signal pace 40 _⟩

end

section

variable {signal : Int → Bool} {pace : Int → Int} {away gap : Int}

theorem pollLoop_looks (steps : ∀ now, now < pace now ∧ Takes away gap now (pace now))
    {level : Bool} {timeoutUs start : Int} {fuel : Nat} {now : Int}
    (early : now - start < timeoutUs) (fuelled : timeoutUs ≤ now - start + fuel) :
    ∃ found, Looks signal away gap level timeoutUs start now
      (pollLoop signal pace level timeoutUs start fuel now).1 found
      (pollLoop signal pace level timeoutUs start fuel now).2 := by
  induction fuel generalizing now with
  | zero => omega
  | succ fuel ih =>
      have look := steps now
      have read := steps (pace now)
      rw [pollLoop]
      dsimp only
      by_cases there : signal (pace now) = level
      · rw [if_pos there]
        exact ⟨pace now, .found look.2 there read.2⟩
      · rw [if_neg there]
        have absent := Bool.eq_not.mpr there
        by_cases late : timeoutUs ≤ pace (pace now) - start
        · rw [if_pos late]
          exact ⟨0, .expired look.2 absent read.2 late⟩
        · rw [if_neg late]
          obtain ⟨found, rest⟩ := @ih (pace (pace now)) (by omega) (by omega)
          exact ⟨found, .missed look.2 absent read.2 (not_le.mp late) rest⟩

theorem pollWait_read (steps : ∀ now, now < pace now ∧ Takes away gap now (pace now))
    (level : Bool) {timeoutUs : Int} (positive : 0 < timeoutUs) (before : Int) :
    WaitRead signal away gap level timeoutUs before (pollWait signal pace level timeoutUs before) :=
  ⟨(steps before).2, pollLoop_looks steps (by omega) (by omega)⟩

theorem pollBits_read (steps : ∀ now, now < pace now ∧ Takes away gap now (pace now))
    (count : Nat) (before : Int) :
    BitsRead signal away gap (pollBits signal pace count before) before := by
  have inTime : (0 : Int) < 80 ∧ (0 : Int) < 100 := by decide
  induction count generalizing before with
  | zero => exact trivial
  | succ count ih =>
      rw [pollBits, BitsRead]
      dsimp only
      refine ⟨pollWait_read steps true inTime.1 before, fun _ => ⟨(steps _).2, ?_, fun _ => ?_⟩⟩
      · exact pollWait_read steps false inTime.2 _
      · exact ⟨(steps _).2, ih _⟩

theorem pollLine_read (steps : ∀ now, now < pace now ∧ Takes away gap now (pace now))
    (begun : Int) : LineRead signal away gap begun (pollLine signal pace begun) := by
  have inTime : (0 : Int) < 100 := by decide
  rw [pollLine]
  refine ⟨?_, fun _ => ?_, fun _ _ => ?_, fun _ _ _ => ?_⟩
  all_goals dsimp only
  · exact pollWait_read steps false inTime _
  · exact pollWait_read steps true inTime _
  · exact pollWait_read steps false inTime _
  · exact pollBits_read steps 40 _

end

/-! One attempt -/

theorem bitLoop_late {bits : List DhtBit} (late : ¬ BitsInTime bits) (i : Nat) (data : Bytes) :
    bitLoop bits i data = none := by
  induction bits generalizing i data with
  | nil => exact absurd bitsInTime_nil late
  | cons bit rest ih =>
      rw [bitLoop]
      by_cases rise : waitLevel 80 bit.rise < 0
      · rw [if_pos rise]
      rw [if_neg rise]
      by_cases fall : waitLevel 100 bit.fall < 0
      · rw [if_pos fall]
      rw [if_neg fall]
      exact ih (fun later => late (bitsInTime_cons ⟨not_lt.mp rise, not_lt.mp fall⟩ later)) _ _

theorem encodes_read (bits : List DhtBit) : Encodes (bits.map DhtBit.pulseUs) (readBits bits) := by
  induction bits with
  | nil => exact .nil
  | cons bit rest ih =>
      refine .cons ?_ ih
      unfold DhtBit.read
      by_cases wide : 40 < bit.pulseUs
      · rw [decide_eq_true wide]
        exact wide
      · rw [decide_eq_false wide]
        exact not_lt.mp wide

theorem measured_of_inTime {line : DhtLine} (low : 0 ≤ waitLevel 100 line.low)
    (high : 0 ≤ waitLevel 100 line.high) (dataStart : 0 ≤ waitLevel 100 line.dataStart)
    (bits : BitsInTime line.bits) : Measured line (line.bits.map DhtBit.pulseUs) where
  low := low
  high := high
  dataStart := dataStart
  rises bit member := (bits bit member).1
  falls bit member := (bits bit member).2
  widths := rfl

section

variable {Value : Type} [NatCast Value]

theorem dht11ReadOnce_timeout (line : DhtLine) (out : DhtOut Value) :
    dht11ReadOnce line out = (.timeout, out) ∨ Measured line (line.bits.map DhtBit.pulseUs) := by
  unfold dht11ReadOnce
  split
  · exact .inl rfl
  rename_i low
  split
  · exact .inl rfl
  rename_i high
  split
  · exact .inl rfl
  rename_i dataStart
  by_cases bits : BitsInTime line.bits
  · exact .inr (measured_of_inTime (not_lt.mp low) (not_lt.mp high) (not_lt.mp dataStart) bits)
  · rw [bitLoop_late bits]
    exact .inl rfl

theorem dht11ReadOnce_burst {line : DhtLine}
    (measured : Measured line (line.bits.map DhtBit.pulseUs)) {b0 b1 b2 b3 : UInt8}
    {first second : Bool} {place : Nat}
    (misread : readBits line.bits =
      burst first second place ((dhtFrame b0 b1 b2 b3).flatMap byteBits)) (out : DhtOut Value) :
    dht11ReadOnce line out = (.ok, ⟨b2.toNat, b0.toNat⟩) ∨
      dht11ReadOnce line out = (.invalidCrc, out) := by
  have encodes := encodes_read line.bits
  rw [misread] at encodes
  have noticed := noticed_burst [b0, b1, b2, b3] first second place
  rw [← dhtFrame_sealed] at noticed
  rcases noticed with same | ⟨received, last, changed, four, unsealed⟩
  · rw [same, ← dhtFrame_sealed] at encodes
    exact .inl (dht11ReadOnce_frame measured encodes out)
  · obtain ⟨d0, d1, d2, d3, rfl⟩ := List.length_eq_four.mp four
    rw [changed] at encodes
    exact .inr ((dht11ReadOnce_measured measured encodes out).trans (if_pos unsealed))

/-- One attempt: what the sensor sends, when the driver begins to look, and when the scheduler
preempts it. -/
structure DhtAttempt (gap : Int) where
  signal : Int → Bool
  begun : Int
  away : Int
  wave : DhtWave
  b0 : UInt8
  b1 : UInt8
  b2 : UInt8
  b3 : UInt8
  paced : 0 ≤ gap
  drives : wave.Drives signal begun
  readable : List.Forall₂ (Readable gap) wave.pulses ((dhtFrame b0 b1 b2 b3).flatMap byteBits)
  room : 3 * gap ≤ wave.tail

variable {gap : Int}

def DhtAttempt.reading (attempt : DhtAttempt gap) : DhtOut Value :=
  ⟨attempt.b2.toNat, attempt.b0.toNat⟩

def DhtAttempt.Meets (attempt : DhtAttempt gap) (line : DhtLine) : Prop :=
  LineRead attempt.signal attempt.away gap attempt.begun line

/-- The driver is not preempted, begins while the sensor still holds its response low at the
latest, and the response keeps its times. -/
structure DhtAttempt.Undisturbed (attempt : DhtAttempt gap) : Prop where
  present : attempt.away < attempt.begun
  begins : attempt.begun + 2 * gap < attempt.wave.ready
  answers : attempt.wave.answer + gap ≤ attempt.begun + 100
  respLow : 2 * gap ≤ attempt.wave.respLow ∧ attempt.wave.respLow + gap ≤ 100
  respHigh : 3 * gap ≤ attempt.wave.respHigh ∧ attempt.wave.respHigh + gap ≤ 100

theorem DhtAttempt.forty (attempt : DhtAttempt gap) (line : DhtLine) :
    line.bits.length = attempt.wave.pulses.length := by
  rw [line.forty, attempt.readable.length_eq]
  simp only [dhtFrame, List.flatMap_cons, List.flatMap_nil, List.length_append, byteBits_length,
    List.length_nil]

theorem DhtAttempt.near (attempt : DhtAttempt gap) {found last : Int}
    (ends : Takes attempt.away gap found last) : Takes attempt.away (2 * gap) found last := by
  have paced := attempt.paced
  unfold Takes at *
  omega

/-- Whenever the driver was preempted, an attempt gives the frame that was sent, or fails. -/
theorem DhtAttempt.safe (attempt : DhtAttempt gap) {line : DhtLine} (meets : attempt.Meets line)
    (out : DhtOut Value) :
    dht11ReadOnce line out = (.ok, attempt.reading) ∨ dht11ReadOnce line out = (.invalidCrc, out) ∨
      dht11ReadOnce line out = (.timeout, out) := by
  rcases dht11ReadOnce_timeout line out with timeout | measured
  · exact .inr (.inr timeout)
  obtain ⟨falls, lowSeen⟩ := meets.low.seen measured.low
  obtain ⟨rises, highSeen⟩ := (meets.high measured.low).seen measured.high
  obtain ⟨found, dataSeen⟩ := (meets.dataStart measured.low measured.high).seen measured.dataStart
  have reads := meets.bits measured.low measured.high measured.dataStart
  have inTime : BitsInTime line.bits := fun bit member =>
    ⟨measured.rises bit member, measured.falls bit member⟩
  have lowOrdered := lowSeen.ordered
  have highOrdered := highSeen.ordered
  have dataOrdered := dataSeen.ordered
  have answered := attempt.drives.idle.left lowOrdered.1 lowSeen.there
  have ready := attempt.drives.low.left (by omega) highSeen.there
  have started := attempt.drives.high.left (by omega) dataSeen.there
  have below := reads.inLow attempt.drives.sends inTime (attempt.forty line) dataSeen.there
    dataOrdered.2
  obtain ⟨first, second, place, misread⟩ := bits_burst attempt.room attempt.readable
    attempt.drives.sends reads inTime (attempt.forty line) started below
    (attempt.near dataSeen.ends)
  rcases dht11ReadOnce_burst measured misread out with ok | refused
  · exact .inl ok
  · exact .inr (.inl refused)

/-- An attempt without a preemption succeeds. -/
theorem DhtAttempt.succeeds (attempt : DhtAttempt gap) {line : DhtLine}
    (meets : attempt.Meets line) (undisturbed : attempt.Undisturbed) (out : DhtOut Value) :
    dht11ReadOnce line out = (.ok, attempt.reading) := by
  obtain ⟨present, begins, answers, respLow, respHigh⟩ := undisturbed
  have paced := attempt.paced
  have room := lowFor_room attempt.readable attempt.room
  have ready : attempt.wave.ready = attempt.wave.answer + attempt.wave.respLow := rfl
  have start : attempt.wave.start = attempt.wave.ready + attempt.wave.respHigh := rfl
  obtain ⟨low, falls, lowSeen, fell, lowInside⟩ := meets.low.succeeds present
    attempt.drives.idle attempt.drives.low (le_refl _) begins (by omega) answers
  have lowOrdered := lowSeen.ordered
  have lowLast := lowSeen.ends.quiet (.inl (by omega))
  obtain ⟨high, rises, highSeen, rose, highInside⟩ := (meets.high low).succeeds (by omega)
    attempt.drives.low attempt.drives.high (by omega) (by omega) (by omega) (by omega)
  have highOrdered := highSeen.ordered
  have highLast := highSeen.ends.quiet (.inl (by omega))
  obtain ⟨dataStart, found, dataSeen, started, dataInside⟩ :=
    (meets.dataStart low high).succeeds (by omega) attempt.drives.high attempt.drives.sends.low
      (by omega) (by omega) (by omega) (by omega)
  have dataOrdered := dataSeen.ordered
  obtain ⟨inTime, read⟩ := bits_exact attempt.room attempt.readable attempt.drives.sends
    (meets.bits low high dataStart) (attempt.forty line) started dataInside
    (attempt.near dataSeen.ends) (by omega)
  have encodes := encodes_read line.bits
  rw [read] at encodes
  exact dht11ReadOnce_frame (measured_of_inTime low high dataStart inTime) encodes out

/-! Three attempts -/

/-- With at most one preemption in each attempt, dht11_read returns the readings that the sensor
sent, or fails and leaves the old ones, and it returns them if one attempt was not preempted. -/
theorem polled_reads (attempts : Nat → DhtAttempt gap) (lines : Nat → DhtLine)
    (meets : ∀ k < 3, (attempts k).Meets (lines k)) (out : DhtOut Value) :
    ((dht11Read lines out).ret = .ok →
        ∃ k < 3, (dht11Read lines out).tried.length = k + 1 ∧
          (dht11Read lines out).out = (attempts k).reading) ∧
      ((dht11Read lines out).ret ≠ .ok →
        (dht11Read lines out).ret = .fail ∧ (dht11Read lines out).out = out) ∧
      ((∃ k < 3, (attempts k).Undisturbed) → (dht11Read lines out).ret = .ok) := by
  have tries := dht11Attempts_tries lines 3 0 out
  simp only [Nat.zero_add] at tries
  by_cases some : ∃ k, k < 3 ∧ (dht11ReadOnce (lines k) out).1 = .ok
  · have ⟨inside, succeeds⟩ := Nat.find_spec some
    have earlier : ∀ before < Nat.find some, (dht11ReadOnce (lines before) out).1 ≠ .ok :=
      fun before less ok => Nat.find_min some less ⟨less.trans inside, ok⟩
    obtain ⟨returned, values, count⟩ := tries.first _ inside earlier succeeds
    refine ⟨fun _ => ⟨_, inside, count, ?_⟩, fun failed => absurd returned failed,
      fun _ => returned⟩
    refine values.trans ?_
    rcases (attempts _).safe (meets _ inside) out with ok | refused | timeout
    · rw [ok]
    · rw [refused] at succeeds
      cases succeeds
    · rw [timeout] at succeeds
      cases succeeds
  · have all : ∀ k < 3, (dht11ReadOnce (lines k) out).1 ≠ .ok := fun k inside ok =>
      some ⟨k, inside, ok⟩
    obtain ⟨returned, values, _⟩ := tries.failed all
    refine ⟨fun ok => ?_, fun _ => ⟨returned, values⟩, fun ⟨k, inside, undisturbed⟩ => ?_⟩
    · have fail : EspErr.fail = .ok := returned.symm.trans ok
      cases fail
    · have ok := (attempts k).succeeds (meets k inside) undisturbed out
      exact absurd (congrArg Prod.fst ok) (all k inside)

end

def roomWave : DhtWave := ⟨30, 80, 80, roomBits.map (fun bit => ⟨50, pulseWidth bit⟩), 50⟩

/-- Three microseconds a step, and `delay` more for the step that is under way at `away`. -/
def pausedPace (away delay now : Int) : Int :=
  if now ≤ away ∧ away < now + 3 then now + 3 + delay else now + 3

theorem pausedPace_steps {away delay : Int} (forward : 0 ≤ delay) (now : Int) :
    now < pausedPace away delay now ∧ Takes away 3 now (pausedPace away delay now) := by
  unfold pausedPace Takes
  split
  · omega
  · omega

theorem roomWave_readable : List.Forall₂ (Readable 3) roomWave.pulses roomBits := by
  rw [roomWave, List.forall₂_map_left_iff, List.forall₂_same]
  intro bit _
  cases bit with
  | false => exact ⟨by decide, by decide, by decide⟩
  | true => exact ⟨by decide, by decide, by decide⟩

def roomAttempt (away : Int) : DhtAttempt 3 where
  signal := roomWave.signal
  begun := 0
  away := away
  wave := roomWave
  b0 := 61
  b1 := 0
  b2 := 24
  b3 := 0
  paced := by decide
  drives := by
    refine DhtWave.signal_drives (by decide) (by decide) (by decide) ?_ 0
    intro pulse member
    obtain ⟨bit, _, rfl⟩ := List.mem_map.mp member
    cases bit with
    | false => decide
    | true => decide
  readable := roomWave_readable
  room := by decide

def roomAway (attempt : Nat) : Int := if attempt = 0 then 300 else -1

def roomLine (attempt : Nat) : DhtLine :=
  pollLine roomWave.signal (pausedPace (roomAway attempt) 40) 0

theorem polled_room_reads :
    (dht11Read roomLine (⟨0, 0⟩ : DhtOut Int)).ret = .ok ∧
      (dht11Read roomLine (⟨0, 0⟩ : DhtOut Int)).out = ⟨24, 61⟩ := by
  have reads := polled_reads (fun attempt => roomAttempt (roomAway attempt)) roomLine
    (fun attempt _ => pollLine_read (fun now => pausedPace_steps (by decide) now) 0)
    (⟨0, 0⟩ : DhtOut Int)
  have ok := reads.2.2 ⟨1, by decide, ⟨by decide, by decide, by decide, by decide, by decide⟩⟩
  obtain ⟨attempt, _, _, values⟩ := reads.1 ok
  exact ⟨ok, values⟩

end HydroGovernor
