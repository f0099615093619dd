import HydroGovernor.Library.CString

/-! DNS messages on the wire: a reader for whole datagrams that follows the counts of the
header, with name compression by pointers to earlier names. -/

namespace Firmware.Dns

def word (high low : UInt8) : Nat := high.toNat * 256 + low.toNat

/-- The labels of a name up to its end or to a pointer. -/
structure RawName where
  labels : List Bytes
  pointer : Option Nat
  deriving DecidableEq, Repr

/-- A name has at most 127 labels, and as many pointers at most are followed. -/
def maxLabels : Nat := 127
def maxNameLength : Nat := 255

def readName : Nat → Bytes → Option (RawName × Bytes)
  | 0, _ => none
  | _ + 1, [] => none
  | fuel + 1, length :: rest =>
      if length = 0 then some (⟨[], none⟩, rest)
      else if length.toNat < 64 then
        if rest.length < length.toNat then none
        else
          match readName fuel (rest.drop length.toNat) with
          | some (tail, after) =>
              some (⟨rest.take length.toNat :: tail.labels, tail.pointer⟩, after)
          | none => none
      else if 0xC0 ≤ length.toNat then
        match rest with
        | low :: after => some (⟨[], some ((length.toNat - 0xC0) * 256 + low.toNat)⟩, after)
        | [] => none
      else none

/-- Follow the pointer of a name that starts at `offset`; it has to point to an earlier
place. -/
def expandName (message : Bytes) : Nat → Nat → RawName → Option (List Bytes)
  | _, _, ⟨labels, none⟩ => some labels
  | 0, _, ⟨_, some _⟩ => none
  | hops + 1, offset, ⟨labels, some target⟩ =>
      if target < offset then
        match readName (maxLabels + 1) (message.drop target) with
        | some (more, _) => (expandName message hops target more).map (labels ++ ·)
        | none => none
      else none

def nameLength (labels : List Bytes) : Nat := (labels.map (fun label => label.length + 1)).sum + 1

/-- `bytes` is the part of the message that is still to be read. -/
def parseName (message bytes : Bytes) : Option (List Bytes × Bytes) :=
  match readName (maxLabels + 1) bytes with
  | some (raw, rest) =>
      match expandName message maxLabels (message.length - bytes.length) raw with
      | some labels => if nameLength labels ≤ maxNameLength then some (labels, rest) else none
      | none => none
  | none => none

structure Question where
  name : List Bytes
  qtype : Nat
  qclass : Nat
  deriving DecidableEq, Repr

structure Record where
  name : List Bytes
  rtype : Nat
  rclass : Nat
  ttl : Nat
  rdata : Bytes
  deriving DecidableEq, Repr

structure Message where
  id : Nat
  flags : Nat
  questions : List Question
  answers : List Record
  authority : List Record
  additional : List Record
  deriving DecidableEq, Repr

def parseQuestion (message bytes : Bytes) : Option (Question × Bytes) :=
  match parseName message bytes with
  | some (name, t1 :: t0 :: c1 :: c0 :: rest) => some (⟨name, word t1 t0, word c1 c0⟩, rest)
  | _ => none

def parseRecord (message bytes : Bytes) : Option (Record × Bytes) :=
  match parseName message bytes with
  | some (name, t1 :: t0 :: c1 :: c0 :: l3 :: l2 :: l1 :: l0 :: d1 :: d0 :: rest) =>
      if rest.length < word d1 d0 then none
      else
        some ({ name := name
                rtype := word t1 t0
                rclass := word c1 c0
                ttl := word l3 l2 * 65536 + word l1 l0
                rdata := rest.take (word d1 d0) }, rest.drop (word d1 d0))
  | _ => none

def parseMany {Item : Type} (parser : Bytes → Option (Item × Bytes)) :
    Nat → Bytes → Option (List Item × Bytes)
  | 0, bytes => some ([], bytes)
  | count + 1, bytes =>
      match parser bytes with
      | some (item, rest) =>
          match parseMany parser count rest with
          | some (items, after) => some (item :: items, after)
          | none => none
      | none => none

/-- The four sections with the counts of the header, and what is left behind them. -/
def parseSections (message : Bytes) (id flags qdcount ancount nscount arcount : Nat)
    (bytes : Bytes) : Option (Message × Bytes) :=
  match parseMany (parseQuestion message) qdcount bytes with
  | some (questions, afterQuestions) =>
      match parseMany (parseRecord message) ancount afterQuestions with
      | some (answers, afterAnswers) =>
          match parseMany (parseRecord message) nscount afterAnswers with
          | some (authority, afterAuthority) =>
              match parseMany (parseRecord message) arcount afterAuthority with
              | some (additional, rest) =>
                  some (⟨id, flags, questions, answers, authority, additional⟩, rest)
              | none => none
          | none => none
      | none => none
  | none => none

def parseMessage (message : Bytes) : Option (Message × Bytes) :=
  match message with
  | i1 :: i0 :: f1 :: f0 :: q1 :: q0 :: a1 :: a0 :: n1 :: n0 :: r1 :: r0 :: rest =>
      parseSections message (word i1 i0) (word f1 f0) (word q1 q0) (word a1 a0) (word n1 n0)
        (word r1 r0) rest
  | _ => none

/-- Reading a name looks at no byte behind it. -/
theorem readName_append {fuel : Nat} {bytes rest : Bytes} {raw : RawName}
    (read : readName fuel bytes = some (raw, rest)) (more : Bytes) :
    readName fuel (bytes ++ more) = some (raw, rest ++ more) := by
  induction fuel generalizing bytes raw rest with
  | zero => cases read
  | succ fuel ih =>
      cases bytes with
      | nil => cases read
      | cons length tail =>
          simp only [readName, List.cons_append] at read ⊢
          split at read
          · rename_i zero
            cases read
            rw [if_pos zero]
          · rename_i nonzero
            rw [if_neg nonzero]
            split at read
            · rename_i small
              rw [if_pos small]
              split at read
              · cases read
              · rename_i fits
                have room : ¬ (tail ++ more).length < length.toNat := by
                  rw [List.length_append]
                  omega
                rw [if_neg room, List.drop_append_of_le_length (by omega),
                  List.take_append_of_le_length (by omega)]
                split at read
                · rename_i inner after found
                  cases read
                  rw [ih found]
                · cases read
            · rename_i large
              rw [if_neg large]
              split at read
              · rename_i compressed
                rw [if_pos compressed]
                cases tail with
                | nil => cases read
                | cons low after =>
                    cases read
                    rfl
              · cases read

theorem expandName_pointer {message rest : Bytes} {hops offset target : Nat}
    {labels : List Bytes} {found : RawName} (earlier : target < offset)
    (read : readName (maxLabels + 1) (message.drop target) = some (found, rest)) :
    expandName message (hops + 1) offset ⟨labels, some target⟩ =
      (expandName message hops target found).map (labels ++ ·) := by
  simp only [expandName, if_pos earlier, read]

theorem parseName_raw {message bytes rest : Bytes} {labels : List Bytes}
    (parsed : parseName message bytes = some (labels, rest)) :
    ∃ raw, readName (maxLabels + 1) bytes = some (raw, rest) ∧
      expandName message maxLabels (message.length - bytes.length) raw = some labels ∧
      nameLength labels ≤ maxNameLength := by
  unfold parseName at parsed
  split at parsed
  · rename_i raw after read
    split at parsed
    · rename_i expanded found
      split at parsed
      · rename_i short
        cases parsed
        exact ⟨raw, read, found, short⟩
      · cases parsed
    · cases parsed
  · cases parsed

theorem parseName_uncompressed {bytes rest : Bytes} {labels : List Bytes}
    (read : readName (maxLabels + 1) bytes = some (⟨labels, none⟩, rest))
    (short : nameLength labels ≤ maxNameLength) (message : Bytes) :
    parseName message bytes = some (labels, rest) := by
  simp [parseName, read, expandName, short]

/-- Where a record ends depends on its own bytes only. -/
theorem parseRecord_rest {message other bytes more rest after : Bytes} {record found : Record}
    (parsed : parseRecord message bytes = some (record, rest))
    (reparsed : parseRecord other (bytes ++ more) = some (found, after)) :
    after = rest ++ more := by
  unfold parseRecord at parsed reparsed
  split at parsed
  · rename_i name t1 t0 c1 c0 l3 l2 l1 l0 d1 d0 data named
    split at parsed
    · cases parsed
    · rename_i fits
      cases parsed
      obtain ⟨raw, read, _, _⟩ := parseName_raw named
      split at reparsed
      · rename_i name' t1' t0' c1' c0' l3' l2' l1' l0' d1' d0' data' named'
        obtain ⟨raw', read', _, _⟩ := parseName_raw named'
        rw [readName_append read more] at read'
        simp only [List.cons_append, Option.some.injEq, Prod.mk.injEq, List.cons.injEq] at read'
        obtain ⟨_, rfl, rfl, rfl, rfl, rfl, rfl, rfl, rfl, rfl, rfl, rfl⟩ := read'
        split at reparsed
        · cases reparsed
        · cases reparsed
          rw [List.drop_append_of_le_length (by omega)]
      · cases reparsed
  · cases parsed

theorem parseMany_one {Item : Type} {parser : Bytes → Option (Item × Bytes)} {bytes rest : Bytes}
    {items : List Item} (parsed : parseMany parser 1 bytes = some (items, rest)) :
    ∃ item, items = [item] ∧ parser bytes = some (item, rest) := by
  simp only [parseMany] at parsed
  split at parsed
  · rename_i item after read
    cases parsed
    exact ⟨item, rfl, read⟩
  · cases parsed

theorem parseMany_length {Item : Type} {parser : Bytes → Option (Item × Bytes)} {count : Nat}
    {bytes rest : Bytes} {items : List Item}
    (parsed : parseMany parser count bytes = some (items, rest)) : items.length = count := by
  induction count generalizing bytes items with
  | zero =>
      cases parsed
      rfl
  | succ count ih =>
      simp only [parseMany] at parsed
      split at parsed
      · split at parsed
        · rename_i later after found
          cases parsed
          rw [List.length_cons, ih found]
        · cases parsed
      · cases parsed

/-- The sections of a message, one behind the other. -/
structure Sections (message : Bytes) (parsed : Message) (qdcount ancount nscount arcount : Nat)
    (bytes rest : Bytes) where
  afterQuestions : Bytes
  afterAnswers : Bytes
  afterAuthority : Bytes
  questions : parseMany (parseQuestion message) qdcount bytes =
    some (parsed.questions, afterQuestions)
  answers : parseMany (parseRecord message) ancount afterQuestions =
    some (parsed.answers, afterAnswers)
  authority : parseMany (parseRecord message) nscount afterAnswers =
    some (parsed.authority, afterAuthority)
  additional : parseMany (parseRecord message) arcount afterAuthority =
    some (parsed.additional, rest)

theorem parseSections_sections {message bytes rest : Bytes} {parsed : Message}
    {id flags qdcount ancount nscount arcount : Nat}
    (read : parseSections message id flags qdcount ancount nscount arcount bytes =
      some (parsed, rest)) :
    parsed.id = id ∧ parsed.flags = flags ∧
      Nonempty (Sections message parsed qdcount ancount nscount arcount bytes rest) := by
  unfold parseSections at read
  split at read
  · rename_i questions afterQuestions readQuestions
    split at read
    · rename_i answers afterAnswers readAnswers
      split at read
      · rename_i authority afterAuthority readAuthority
        split at read
        · rename_i additional after readAdditional
          cases read
          exact ⟨rfl, rfl, ⟨⟨afterQuestions, afterAnswers, afterAuthority, readQuestions,
            readAnswers, readAuthority, readAdditional⟩⟩⟩
        · cases read
      · cases read
    · cases read
  · cases read

theorem parseMessage_sections {message rest : Bytes} {parsed : Message}
    (read : parseMessage message = some (parsed, rest)) :
    ∃ i1 i0 f1 f0 q1 q0 a1 a0 n1 n0 r1 r0 body,
      message = i1 :: i0 :: f1 :: f0 :: q1 :: q0 :: a1 :: a0 :: n1 :: n0 :: r1 :: r0 :: body ∧
        parsed.id = word i1 i0 ∧ parsed.flags = word f1 f0 ∧
        Nonempty (Sections message parsed (word q1 q0) (word a1 a0) (word n1 n0) (word r1 r0)
          body rest) := by
  unfold parseMessage at read
  split at read
  · rename_i i1 i0 f1 f0 q1 q0 a1 a0 n1 n0 r1 r0 body
    exact ⟨i1, i0, f1, f0, q1, q0, a1, a0, n1, n0, r1, r0, body, rfl,
      parseSections_sections read⟩
  · cases read

theorem parseQuestion_name {message bytes rest : Bytes} {question : Question}
    (parsed : parseQuestion message bytes = some (question, rest)) :
    ∃ t1 t0 c1 c0, parseName message bytes =
      some (question.name, t1 :: t0 :: c1 :: c0 :: rest) ∧
        question.qtype = word t1 t0 ∧ question.qclass = word c1 c0 := by
  unfold parseQuestion at parsed
  split at parsed
  · rename_i name t1 t0 c1 c0 after named
    cases parsed
    exact ⟨t1, t0, c1, c0, named, rfl, rfl⟩
  · cases parsed

end Firmware.Dns
