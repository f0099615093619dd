import HydroGovernor.DnsServer
import HydroGovernor.Library.DnsMessage

/-! What a resolver reads from the answers of the captive-portal responder. -/

namespace HydroGovernor

open Firmware Dns

def typeA : Nat := 1
def classIn : Nat := 1

/-- A well-formed query for one address: the whole datagram is the message, the only question
has a name without compression, and any additional records follow it. -/
structure AddressQuery (datagram : Bytes) (query : Message) (question : Question) : Prop where
  parsed : parseMessage datagram = some (query, [])
  request : query.flags < 0x8000
  questions : query.questions = [question]
  answers : query.answers = []
  authority : query.authority = []
  qtype : question.qtype = typeA
  qclass : question.qclass = classIn
  uncompressed : ∃ rest, readName (maxLabels + 1) (datagram.drop dnsHdrSize) =
    some (⟨question.name, none⟩, rest)

/-- The datagram handed to sendto is a response to the query, with the address of the portal
as its only answer and nothing behind it. -/
def understood (iteration : DnsIteration) (query : Message) (question : Question) : Prop :=
  ∃ length bytes response answer, iteration.sent = some (length, bytes) ∧
    parseMessage bytes = some (response, []) ∧
    response.id = query.id ∧ response.flags / 0x8000 = 1 ∧ response.flags % 16 = 0 ∧
    response.questions = [question] ∧ response.answers = [answer] ∧
    answer.name = question.name ∧ answer.rtype = typeA ∧ answer.rclass = classIn ∧
    answer.rdata = apIp

theorem word_eq_one {high low : UInt8} (one : word high low = 1) : high = 0 ∧ low = 1 := by
  have lowBound := low.toNat_lt
  unfold word at one
  constructor
  · apply UInt8.toNat_inj.mp
    rw [UInt8.toNat_zero]
    omega
  · apply UInt8.toNat_inj.mp
    rw [UInt8.toNat_one]
    omega

/-- A query of this kind byte by byte: the header, the question, the additional records. -/
structure QueryShape (datagram : Bytes) (query : Message) (question : Question)
    (body additional : Bytes) : Prop where
  header : ∃ i1 i0 f1 f0 a1 a0 n1 n0 r1 r0,
    datagram = i1 :: i0 :: f1 :: f0 :: 0 :: 1 :: a1 :: a0 :: n1 :: n0 :: r1 :: r0 :: body ∧
      query.id = word i1 i0
  named : readName (maxLabels + 1) body =
    some (⟨question.name, none⟩, 0 :: 1 :: 0 :: 1 :: additional)
  records : parseMany (parseRecord datagram) query.additional.length additional =
    some (query.additional, [])
  short : nameLength question.name ≤ maxNameLength

theorem AddressQuery.shape {datagram : Bytes} {query : Message} {question : Question}
    (wellFormed : AddressQuery datagram query question) :
    ∃ body additional, QueryShape datagram query question body additional := by
  obtain ⟨i1, i0, f1, f0, q1, q0, a1, a0, n1, n0, r1, r0, body, rfl, id, _, ⟨sections⟩⟩ :=
    parseMessage_sections wellFormed.parsed
  obtain ⟨afterQuestions, afterAnswers, afterAuthority, questions, answers, authority,
    additional⟩ := sections
  rw [wellFormed.questions] at questions
  rw [wellFormed.answers] at answers
  rw [wellFormed.authority] at authority
  have oneQuestion : word q1 q0 = 1 := (parseMany_length questions).symm
  have noAnswer : word a1 a0 = 0 := (parseMany_length answers).symm
  have noAuthority : word n1 n0 = 0 := (parseMany_length authority).symm
  obtain ⟨rfl, rfl⟩ := word_eq_one oneQuestion
  rw [oneQuestion] at questions
  rw [noAnswer] at answers
  rw [noAuthority] at authority
  cases answers
  cases authority
  obtain ⟨only, same, read⟩ := parseMany_one questions
  cases same
  obtain ⟨t1, t0, c1, c0, named, qtype, qclass⟩ := parseQuestion_name read
  obtain ⟨raw, readRaw, _, short⟩ := parseName_raw named
  obtain ⟨rest, uncompressed⟩ := wellFormed.uncompressed
  have sameName : (raw, t1 :: t0 :: c1 :: c0 :: afterQuestions) =
      ((⟨question.name, none⟩ : RawName), rest) :=
    Option.some.inj (readRaw.symm.trans uncompressed)
  cases sameName
  obtain ⟨rfl, rfl⟩ := word_eq_one (qtype.symm.trans wellFormed.qtype)
  obtain ⟨rfl, rfl⟩ := word_eq_one (qclass.symm.trans wellFormed.qclass)
  refine ⟨body, afterQuestions, ⟨i1, i0, f1, f0, a1, a0, n1, n0, r1, r0, rfl, id⟩, readRaw, ?_,
    short⟩
  rw [parseMany_length additional]
  exact additional

def answerRecord : Bytes := answerFixed ++ apIp

section Reply

variable {datagram body additional : Bytes} {query : Message} {question : Question}

theorem QueryShape.reply (shape : QueryShape datagram query question body additional) :
    ∃ i1 i0, query.id = word i1 i0 ∧ replyTo datagram =
      i1 :: i0 :: 0x81 :: 0x80 :: 0 :: 1 :: 0 :: 1 :: 0 :: 0 :: 0 :: 0 ::
        (body ++ answerRecord) := by
  obtain ⟨i1, i0, f1, f0, a1, a0, n1, n0, r1, r0, rfl, id⟩ := shape.header
  exact ⟨i1, i0, id, by simp [replyTo, dnsHdrSize, answerRecord]⟩

theorem QueryShape.reply_sections (shape : QueryShape datagram query question body additional) :
    parseMessage (replyTo datagram) =
      parseSections (replyTo datagram) query.id 0x8180 1 1 0 0 (body ++ answerRecord) := by
  obtain ⟨i1, i0, id, reply⟩ := shape.reply
  rw [reply, id]
  rfl

theorem QueryShape.reply_question (shape : QueryShape datagram query question body additional)
    (qtype : question.qtype = typeA) (qclass : question.qclass = classIn) :
    parseMany (parseQuestion (replyTo datagram)) 1 (body ++ answerRecord) =
      some ([question], additional ++ answerRecord) := by
  have read := readName_append shape.named answerRecord
  have named := parseName_uncompressed read shape.short (replyTo datagram)
  have same : question = ⟨question.name, word 0 1, word 0 1⟩ := by
    cases question
    cases qtype
    cases qclass
    rfl
  simp only [parseMany, parseQuestion, named, List.cons_append]
  rw [← same]

/-- With nothing between the question and the answer, the pointer of the answer leads back to
the name of the question. -/
theorem QueryShape.reply_answer (shape : QueryShape datagram query question body [])
    (message : Bytes) (reply : message = replyTo datagram) :
    parseRecord message answerRecord =
      some (⟨question.name, typeA, classIn, 60, apIp⟩, []) := by
  obtain ⟨i1, i0, id, layout⟩ := shape.reply
  rw [← reply] at layout
  have behind : message.drop 12 = body ++ answerRecord := by
    rw [layout]
    rfl
  have later : 12 < message.length - answerRecord.length := by
    have size : message.length = 12 + (body ++ answerRecord).length := by
      rw [layout]
      simp only [List.length_cons]
      omega
    have nonempty : body ≠ [] := by
      intro empty
      have read := shape.named
      rw [empty] at read
      cases read
    have positive := List.length_pos_iff.mpr nonempty
    rw [size, List.length_append]
    omega
  have pointer : readName (maxLabels + 1) answerRecord =
      some (⟨[], some 12⟩, answerRecord.drop 2) := rfl
  have target : readName (maxLabels + 1) (message.drop 12) =
      some (⟨question.name, none⟩, [0, 1, 0, 1] ++ answerRecord) := by
    rw [behind]
    exact readName_append shape.named answerRecord
  have expanded : expandName message maxLabels (message.length - answerRecord.length)
      ⟨[], some 12⟩ = some question.name := by
    rw [show maxLabels = 126 + 1 from rfl, expandName_pointer later target]
    simp [expandName]
  have name : parseName message answerRecord = some (question.name, answerRecord.drop 2) := by
    simp only [parseName, pointer, expanded, if_pos shape.short]
  rw [parseRecord, name]
  simp [answerRecord, answerFixed, apIp, word, typeA, classIn]

theorem understood_of_plain (buffers : DnsBuffers)
    (wellFormed : AddressQuery datagram query question) (short : datagram.length ≤ 496)
    (plain : query.additional = []) :
    understood (dnsIteration buffers (some datagram)) query question := by
  obtain ⟨body, additional, shape⟩ := wellFormed.shape
  have nothing : additional = [] := by
    have records := shape.records
    rw [plain] at records
    simp only [List.length_nil, parseMany, Option.some.injEq, Prod.mk.injEq] at records
    exact records.2
  subst nothing
  have header : dnsHdrSize ≤ datagram.length := by
    obtain ⟨i1, i0, f1, f0, a1, a0, n1, n0, r1, r0, rfl, id⟩ := shape.header
    simp only [List.length_cons, dnsHdrSize]
    omega
  have questions := shape.reply_question wellFormed.qtype wellFormed.qclass
  have answers : parseMany (parseRecord (replyTo datagram)) 1 ([] ++ answerRecord) =
      some ([⟨question.name, typeA, classIn, 60, apIp⟩], []) := by
    rw [List.nil_append, parseMany, shape.reply_answer (replyTo datagram) rfl]
    rfl
  have response : 0x8180 / 0x8000 = 1 := by decide
  have noError : 0x8180 % 16 = 0 := by decide
  refine ⟨_, _, ⟨query.id, 0x8180, [question], [⟨question.name, typeA, classIn, 60, apIp⟩], [],
    []⟩, ⟨question.name, typeA, classIn, 60, apIp⟩, iteration_sent buffers header short, ?_, rfl,
    response, noError, rfl, rfl, rfl, rfl, rfl, rfl⟩
  rw [shape.reply_sections, parseSections, questions]
  simp only [answers]
  rfl

/-- The reply keeps the additional records, so the only record that the reader takes for the
answer ends before the end of the datagram. -/
theorem plain_of_understood (buffers : DnsBuffers)
    (wellFormed : AddressQuery datagram query question) (short : datagram.length ≤ 496)
    (read : understood (dnsIteration buffers (some datagram)) query question) :
    query.additional = [] := by
  obtain ⟨body, additional, shape⟩ := wellFormed.shape
  have header : dnsHdrSize ≤ datagram.length := by
    obtain ⟨i1, i0, f1, f0, a1, a0, n1, n0, r1, r0, rfl, id⟩ := shape.header
    simp only [List.length_cons, dnsHdrSize]
    omega
  obtain ⟨length, bytes, response, answer, sent, parsed, _⟩ := read
  rw [iteration_sent buffers header short] at sent
  cases sent
  rw [shape.reply_sections] at parsed
  obtain ⟨_, _, ⟨sections⟩⟩ := parseSections_sections parsed
  obtain ⟨afterQuestions, afterAnswers, afterAuthority, questions, answers, authority,
    behind⟩ := sections
  rw [shape.reply_question wellFormed.qtype wellFormed.qclass] at questions
  simp only [parseMany, Option.some.injEq, Prod.mk.injEq] at authority behind
  obtain ⟨_, rfl⟩ := authority
  obtain ⟨_, rfl⟩ := behind
  simp only [Option.some.injEq, Prod.mk.injEq] at questions
  obtain ⟨_, rfl⟩ := questions
  obtain ⟨first, _, readFirst⟩ := parseMany_one answers
  cases records : query.additional with
  | nil => rfl
  | cons record more =>
      have announced := shape.records
      rw [records, List.length_cons, parseMany] at announced
      split at announced
      · rename_i item rest readItem
        have ends := parseRecord_rest readItem readFirst
        have tail : answerRecord = [] := (List.append_eq_nil_iff.mp ends.symm).2
        cases tail
      · cases announced

end Reply

/-- The answer is understood exactly when the query carries no additional records. -/
theorem answer_understood_iff (buffers : DnsBuffers) (datagram : Bytes) (query : Message)
    (question : Question) (wellFormed : AddressQuery datagram query question)
    (short : datagram.length ≤ 496) :
    understood (dnsIteration buffers (some datagram)) query question ↔ query.additional = [] :=
  ⟨plain_of_understood buffers wellFormed short, understood_of_plain buffers wellFormed short⟩

def queryFor (arcount : UInt8) (additional : Bytes) : Bytes :=
  [0x12, 0x34, 0x01, 0x00, 0, 1, 0, 0, 0, 0, 0, arcount, 1, 0x61, 0, 0, 1, 0, 1] ++ additional

def questionA : Question := ⟨[[0x61]], 1, 1⟩

theorem plain_query_understood :
    understood (dnsIteration zeroBuffers (some (queryFor 0 [])))
      ⟨0x1234, 0x0100, [questionA], [], [], []⟩ questionA := by
  have wellFormed : AddressQuery (queryFor 0 []) ⟨0x1234, 0x0100, [questionA], [], [], []⟩
      questionA :=
    ⟨by decide, by decide, rfl, rfl, rfl, rfl, rfl, _, rfl⟩
  exact (answer_understood_iff zeroBuffers _ _ _ wellFormed (by decide)).mpr rfl

/-- An EDNS OPT record: the root name, type 41, a payload size of 1232. -/
def optRecord : Bytes := [0, 0, 41, 0x04, 0xD0, 0, 0, 0, 0, 0, 0]

theorem edns_query_not_understood :
    ¬ ∀ buffers datagram query question, AddressQuery datagram query question →
      datagram.length ≤ 496 → understood (dnsIteration buffers (some datagram)) query question := by
  intro answers
  have wellFormed : AddressQuery (queryFor 1 optRecord)
      ⟨0x1234, 0x0100, [questionA], [], [], [⟨[], 41, 1232, 0, []⟩]⟩ questionA :=
    ⟨by decide, by decide, rfl, rfl, rfl, rfl, rfl, _, rfl⟩
  have short : (queryFor 1 optRecord).length ≤ 496 := by decide
  have plain := plain_of_understood zeroBuffers wellFormed short
    (answers zeroBuffers _ _ _ wellFormed short)
  cases plain

end HydroGovernor
