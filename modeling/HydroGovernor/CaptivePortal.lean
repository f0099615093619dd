import HydroGovernor.DnsAnswers
import HydroGovernor.EmbeddedPages

/-! How the captive portal catches a phone: dns_task answers for every name, and the URI table of
web_server_start sends every path that it does not know to the setup page. -/

namespace HydroGovernor

open Firmware
open Firmware.Utf8 (Text)
open Firmware.CHeader (readHeader Definition PairedReturns)
open Dns (Message Question Record parseMessage)

/-! The URI table -/

/-- The handlers of web_server.c, without their suffix. -/
inductive UriHandler where
  | root
  | scan
  | scanresults
  | scanstatus
  | keepalive
  | favicon
  | save
  | status
  | apShutdown
  | reboot
  | dashready
  | data
  | ota
  | captiveAndroid
  | captiveWindows
  | captiveApple
  | ws
  deriving DecidableEq, Repr

inductive HttpMethod where
  | get
  | post
  deriving DecidableEq, Repr

/-- `httpd_uri_t` -/
structure HttpdUri where
  uri : Text
  method : HttpMethod
  handler : UriHandler
  isWebsocket : Bool
  deriving DecidableEq, Repr

def uris : List HttpdUri :=
  [⟨"/".toList, .get, .root, false⟩,
    ⟨"/scan".toList, .get, .scan, false⟩,
    ⟨"/scanresults".toList, .get, .scanresults, false⟩,
    ⟨"/scanstatus".toList, .get, .scanstatus, false⟩,
    ⟨"/keepalive".toList, .get, .keepalive, false⟩,
    ⟨"/favicon.ico".toList, .get, .favicon, false⟩,
    ⟨"/save".toList, .post, .save, false⟩,
    ⟨"/status".toList, .get, .status, false⟩,
    ⟨"/ap_shutdown".toList, .post, .apShutdown, false⟩,
    ⟨"/reboot".toList, .post, .reboot, false⟩,
    ⟨"/dashready".toList, .get, .dashready, false⟩,
    ⟨"/data".toList, .get, .data, false⟩,
    ⟨"/ota".toList, .post, .ota, false⟩,
    ⟨"/generate_204".toList, .get, .captiveAndroid, false⟩,
    ⟨"/connecttest.txt".toList, .get, .captiveWindows, false⟩,
    ⟨"/fwlink".toList, .get, .captiveWindows, false⟩,
    ⟨"/ncsi.txt".toList, .get, .captiveWindows, false⟩,
    ⟨"/hotspot-detect.html".toList, .get, .captiveApple, false⟩,
    ⟨"/success.txt".toList, .get, .captiveApple, false⟩,
    ⟨"/ws".toList, .get, .ws, true⟩]

/-- `cfg.max_uri_handlers` -/
def maxUriHandlers : Nat := 24

/-- CONFIG_HTTPD_MAX_URI_LEN -/
def maxUriLen : Nat := 512

inductive HttpdErr where
  | notFound
  | methodNotAllowed
  | uriTooLong
  deriving DecidableEq, Repr

/-- Where esp_http_server takes a request to. -/
inductive Dispatch where
  | handler (entry : HttpdUri)
  | error (code : HttpdErr)
  deriving DecidableEq, Repr

/-- What esp_http_server does with URI handlers. `start` is httpd_start with max_uri_handlers,
`register` httpd_register_uri_handler. -/
structure HttpServer where
  Table : Type
  slots : Table → Nat
  entries : Table → List HttpdUri
  start : Nat → Table
  register : Table → HttpdUri → Table × EspErr
  dispatch : Table → HttpMethod → Text → Dispatch

def HttpdUri.apart (entry other : HttpdUri) : Prop :=
  entry.uri ≠ other.uri ∨ entry.method ≠ other.method

instance : Std.Symm HttpdUri.apart where
  symm _ _ apart := apart.imp Ne.symm Ne.symm

instance (entry other : HttpdUri) : Decidable (entry.apart other) :=
  inferInstanceAs (Decidable (_ ∨ _))

/-- The documented behaviour: a handler is taken in where a slot is free and no other one has its
path and method, and a path that has no handler at all, asked for without a query, is not found. -/
structure HttpServer.Lawful (server : HttpServer) : Prop where
  started : ∀ slots, server.slots (server.start slots) = slots ∧
    server.entries (server.start slots) = []
  registered : ∀ table entry, (server.entries table).length < server.slots table →
    (∀ other ∈ server.entries table, other.apart entry) →
    (server.register table entry).2 = .ok ∧
      server.slots (server.register table entry).1 = server.slots table ∧
      server.entries (server.register table entry).1 = server.entries table ++ [entry]
  found : ∀ table entry, entry ∈ server.entries table → entry.uri.length ≤ maxUriLen →
    server.dispatch table entry.method entry.uri = .handler entry
  missing : ∀ table method path, (∀ entry ∈ server.entries table, entry.uri ≠ path) →
    '?' ∉ path → path.length ≤ maxUriLen → server.dispatch table method path = .error .notFound

/-- The loop of web_server_start. It goes on when a registration fails. -/
def registerAll (server : HttpServer) (table : server.Table) : List HttpdUri → server.Table
  | [] => table
  | entry :: rest => registerAll server (server.register table entry).1 rest

def webServerStart (server : HttpServer) : server.Table :=
  registerAll server (server.start maxUriHandlers) uris

/-! The answers -/

/-- `page`: the body, where the firmware has it. `own`: the answer of a handler that does not look
after strangers. -/
inductive HttpAnswer where
  | page (body : Option Bytes)
  | redirect (location : Text)
  | own (handler : UriHandler)
  | error (code : HttpdErr)
  deriving DecidableEq, Repr

/-- `AP_IP_ADDR` -/
def apIpAddr : Text := "192.168.4.1".toList

def captivePortalRedirect : HttpAnswer :=
  .redirect ("http://".toList ++ apIpAddr ++ "/".toList)

def notFoundHandler (state : MgrState) : HttpAnswer :=
  if state ≠ .connected then captivePortalRedirect else .error .notFound

def uriAnswer (state : MgrState) (definitions : List Definition) : UriHandler → HttpAnswer
  | .root => .page (rootPage state definitions)
  | .captiveAndroid => captivePortalRedirect
  | .captiveWindows => captivePortalRedirect
  | .captiveApple => captivePortalRedirect
  | handler => .own handler

/-! A phone on the setup network -/

structure Url where
  host : Text
  path : Text
  deriving DecidableEq, Repr

/-- The two parts of an address that begins with `http://`. -/
def readUrl (text : Text) : Option Url :=
  (CHeader.skip "http://".toList text).map (fun rest =>
    ⟨rest.takeWhile (· ≠ '/'), rest.dropWhile (· ≠ '/')⟩)

def octet (digits : Text) : Option UInt8 :=
  let value := digits.foldl (fun value digit => value * 10 + (digit.toNat - '0'.toNat)) 0
  if digits ≠ [] ∧ digits.all Char.isDigit ∧ value < 256 then some (UInt8.ofNat value) else none

def addressOf (host : Text) : Option Bytes :=
  match (host.splitOn '.').map octet with
  | [some a, some b, some c, some d] => some [a, b, c, d]
  | _ => none

/-- The address that a resolver takes from what dns_task sends for its question. -/
def resolved (request : Bytes) (sent : Option (Nat × Bytes)) : Option Bytes :=
  match parseMessage request, sent.bind (fun sent => parseMessage sent.2) with
  | some (query, _), some (response, _) =>
      if response.id = query.id ∧ response.flags / 0x8000 = 1 ∧ response.flags % 16 = 0 ∧
          response.questions = query.questions then
        (response.answers.find? (fun answer =>
          decide (answer.rtype = typeA ∧ answer.rclass = classIn) &&
            query.questions.any (fun question => question.name = answer.name))).map Record.rdata
      else none
  | _, _ => none

/-- What a phone meets: the headers that the firmware was built with, the state at each of its
requests and the arrays of dns_task at each of its questions. `request` is the datagram in which
its resolver asks for a name. -/
structure Visit where
  definitions : List Definition
  state : Nat → MgrState
  buffers : Nat → DnsBuffers
  request : Text → Bytes

inductive Loaded where
  | answered (answer : HttpAnswer)
  | elsewhere (address : Bytes)
  | unresolved
  | malformed
  | tooManyRedirects
  deriving DecidableEq, Repr

namespace Visit

def lookUp (visit : Visit) (turn : Nat) (host : Text) : Option Bytes :=
  (addressOf host).or
    (resolved (visit.request host)
      (dnsIteration (visit.buffers turn) (some (visit.request host))).sent)

/-- The answer of the device to a GET. -/
def get (visit : Visit) (server : HttpServer) (turn : Nat) (path : Text) : HttpAnswer :=
  match server.dispatch (webServerStart server) .get path with
  | .handler entry => uriAnswer (visit.state turn) visit.definitions entry.handler
  | .error .notFound => notFoundHandler (visit.state turn)
  | .error code => .error code

/-- The browser opens an address and follows at most so many redirects. -/
def load (visit : Visit) (server : HttpServer) : Nat → Nat → Url → Loaded
  | 0, _, _ => .tooManyRedirects
  | hops + 1, turn, url =>
      match visit.lookUp turn url.host with
      | none => .unresolved
      | some address =>
          if address ≠ apIp then .elsewhere address
          else
            match visit.get server turn url.path with
            | .redirect location =>
                match readUrl location with
                | none => .malformed
                | some next => visit.load server hops (turn + 1) next
            | answer => .answered answer

end Visit

/-! Every handler is registered -/

theorem registerAll_entries {server : HttpServer} (lawful : server.Lawful) {table : server.Table}
    {rest : List HttpdUri} (distinct : (server.entries table ++ rest).Pairwise HttpdUri.apart)
    (room : (server.entries table ++ rest).length ≤ server.slots table) :
    server.entries (registerAll server table rest) = server.entries table ++ rest := by
  induction rest generalizing table with
  | nil => exact (List.append_nil _).symm
  | cons entry rest ih =>
      have free : (server.entries table).length < server.slots table := by
        rw [List.length_append, List.length_cons] at room
        omega
      obtain ⟨_, slots, entries⟩ := lawful.registered table entry free (fun other member =>
        (List.pairwise_append.mp distinct).2.2 other member entry List.mem_cons_self)
      have front : server.entries (server.register table entry).1 ++ rest =
          server.entries table ++ entry :: rest := by
        rw [entries, List.append_assoc]
        rfl
      rw [← front] at distinct room
      rw [registerAll, ih distinct (slots ▸ room), front]

theorem uris_registered {server : HttpServer} (lawful : server.Lawful) :
    server.entries (webServerStart server) = uris := by
  obtain ⟨slots, empty⟩ := lawful.started maxUriHandlers
  have distinct : uris.Pairwise HttpdUri.apart := by decide +kernel
  have room : uris.length ≤ maxUriHandlers := by decide
  have registered : server.entries (webServerStart server) =
      server.entries (server.start maxUriHandlers) ++ uris :=
    registerAll_entries lawful (by rw [empty]; exact distinct) (by rw [empty, slots]; exact room)
  rw [registered, empty, List.nil_append]

section Visits

variable {server : HttpServer} (visit : Visit) (turn : Nat)

theorem get_registered (lawful : server.Lawful) {entry : HttpdUri} (member : entry ∈ uris)
    (get : entry.method = .get) :
    visit.get server turn entry.uri =
      uriAnswer (visit.state turn) visit.definitions entry.handler := by
  have fits : ∀ entry ∈ uris, entry.uri.length ≤ maxUriLen := by decide
  have found := lawful.found (webServerStart server) entry
    (by rw [uris_registered lawful]; exact member) (fits entry member)
  rw [get] at found
  rw [Visit.get, found]

theorem get_unknown (lawful : server.Lawful) {path : Text} (noQuery : '?' ∉ path)
    (fits : path.length ≤ maxUriLen) (unknown : ∀ entry ∈ uris, entry.uri ≠ path) :
    visit.get server turn path = notFoundHandler (visit.state turn) := by
  rw [Visit.get,
    lawful.missing _ _ _ (by rw [uris_registered lawful]; exact unknown) noQuery fits]

theorem resolved_understood {request : Bytes} {iteration : DnsIteration} {query : Message}
    {question : Question} (asks : AddressQuery request query question)
    (read : understood iteration query question) : resolved request iteration.sent = some apIp := by
  obtain ⟨length, bytes, response, answer, sent, parsed, id, isResponse, noError, questions,
    answers, name, rtype, rclass, rdata⟩ := read
  have asked : response.questions = query.questions := questions.trans asks.questions.symm
  simp only [resolved, asks.parsed, sent, Option.bind_some, parsed]
  rw [if_pos ⟨id, isResponse, noError, asked⟩, answers, asks.questions]
  simp [name, rtype, rclass, rdata]

theorem lookUp_asked {host : Text} {query : Message} {question : Question}
    (named : addressOf host = none) (asks : AddressQuery (visit.request host) query question)
    (plain : query.additional = []) (short : (visit.request host).length ≤ 496) :
    visit.lookUp turn host = some apIp := by
  rw [Visit.lookUp, named, Option.none_or]
  exact resolved_understood asks (understood_of_plain _ asks short plain)

theorem lookUp_portal : visit.lookUp turn apIpAddr = some apIp := by
  have address : addressOf apIpAddr = some apIp := by decide
  rw [Visit.lookUp, address, Option.some_or]

theorem load_portal {url : Url} (reached : visit.lookUp turn url.host = some apIp) (hops : Nat) :
    visit.load server (hops + 1) turn url =
      match visit.get server turn url.path with
      | .redirect location =>
          match readUrl location with
          | none => .malformed
          | some next => visit.load server hops (turn + 1) next
      | answer => .answered answer := by
  rw [Visit.load, reached]
  exact if_neg (not_not.mpr rfl)

theorem load_root (lawful : server.Lawful) {host : Text}
    (reached : visit.lookUp turn host = some apIp) (hops : Nat) :
    visit.load server (hops + 1) turn ⟨host, "/".toList⟩ =
      .answered (.page (rootPage (visit.state turn) visit.definitions)) := by
  have registered : ⟨"/".toList, .get, .root, false⟩ ∈ uris := List.mem_cons_self
  have root := get_registered visit turn lawful registered rfl
  rw [load_portal visit turn reached, root]
  rfl

theorem load_redirected (lawful : server.Lawful) {host path : Text}
    (reached : visit.lookUp turn host = some apIp)
    (caught : visit.get server turn path = captivePortalRedirect) (hops : Nat) :
    visit.load server (hops + 2) turn ⟨host, path⟩ =
      .answered (.page (rootPage (visit.state (turn + 1)) visit.definitions)) := by
  have location : readUrl ("http://".toList ++ apIpAddr ++ "/".toList) =
      some ⟨apIpAddr, "/".toList⟩ := by
    decide
  rw [load_portal visit turn reached, caught, captivePortalRedirect]
  dsimp only
  rw [location]
  exact load_root visit (turn + 1) lawful (lookUp_portal visit (turn + 1)) hops

end Visits

def UriHandler.catches (handler : UriHandler) : Bool :=
  handler ∈ [.root, .captiveAndroid, .captiveWindows, .captiveApple]

/-- The request that ends a visit: the first one for GET / itself, else the one that follows. -/
def lastTurn (path : Text) : Nat :=
  if path = "/".toList then 0 else 1

theorem load_caught {server : HttpServer} (lawful : server.Lawful) (visit : Visit)
    {host path : Text} (reached : visit.lookUp 0 host = some apIp) (noQuery : '?' ∉ path)
    (fits : path.length ≤ maxUriLen)
    (strange : ∀ entry ∈ uris, entry.uri = path → entry.handler.catches = true)
    (online : visit.state 0 = .connected → ∃ entry ∈ uris, entry.uri = path) (hops : Nat) :
    visit.load server (hops + 2) 0 ⟨host, path⟩ =
      .answered (.page (rootPage (visit.state (lastTurn path)) visit.definitions)) := by
  have catching : ∀ entry ∈ uris, entry.handler.catches = true → entry.method = .get ∧
      (entry.uri = "/".toList ∧ entry.handler = .root ∨
        entry.uri ≠ "/".toList ∧ entry.handler ≠ .root) := by
    decide +kernel
  by_cases known : ∃ entry ∈ uris, entry.uri = path
  · obtain ⟨entry, member, rfl⟩ := known
    have catches := strange entry member rfl
    obtain ⟨get, ⟨isRoot, _⟩ | ⟨other, notRoot⟩⟩ := catching entry member catches
    · rw [lastTurn, if_pos isRoot, isRoot]
      exact load_root visit 0 lawful reached (hops + 1)
    · have caught : visit.get server 0 entry.uri = captivePortalRedirect := by
        rw [get_registered visit 0 lawful member get]
        generalize entry.handler = handler at catches notRoot
        cases handler <;> first | rfl | contradiction
      rw [lastTurn, if_neg other]
      exact load_redirected visit 0 lawful reached caught hops
  · have unknown : ∀ entry ∈ uris, entry.uri ≠ path :=
      fun entry member same => known ⟨entry, member, same⟩
    have other : path ≠ "/".toList :=
      fun same => unknown ⟨"/".toList, .get, .root, false⟩ (by decide) same.symm
    have caught : visit.get server 0 path = captivePortalRedirect := by
      rw [get_unknown visit 0 lawful noQuery fits unknown]
      exact if_pos (fun connected => known (online connected))
    rw [lastTurn, if_neg other]
    exact load_redirected visit 0 lawful reached caught hops

theorem load_missing {server : HttpServer} (lawful : server.Lawful) (visit : Visit)
    {host path : Text} (reached : visit.lookUp 0 host = some apIp) (noQuery : '?' ∉ path)
    (fits : path.length ≤ maxUriLen) (unknown : ∀ entry ∈ uris, entry.uri ≠ path)
    (connected : visit.state 0 = .connected) (hops : Nat) :
    visit.load server (hops + 1) 0 ⟨host, path⟩ = .answered (.error .notFound) := by
  have missing : visit.get server 0 path = .error .notFound := by
    rw [get_unknown visit 0 lawful noQuery fits unknown]
    exact if_neg (not_not.mpr connected)
  rw [load_portal visit 0 reached, missing]

/-- Whatever name a phone asks for and whatever path it wants there, as long as the device has no
resource of its own under the path, its browser ends after at most one redirect at the text of the
setup page, or at the dashboard if the device has connected in between. Only a path without a
handler is not found where the device has connected before. -/
theorem portal_opens (server : HttpServer) (lawful : server.Lawful) (visit : Visit)
    (host path setup dash : Text) (windows : Bool) (oldSetup oldDash : Option Text)
    (setupPaired : ∀ old ∈ oldSetup, PairedReturns old)
    (dashPaired : ∀ old ∈ oldDash, PairedReturns old)
    (built : visit.definitions = readHeader (generated windows oldSetup setupFile setup) ++
      readHeader (generated windows oldDash dashFile dash))
    (named : addressOf host = none) (query : Message) (question : Question)
    (asks : AddressQuery (visit.request host) query question) (plain : query.additional = [])
    (short : (visit.request host).length ≤ 496) (noQuery : '?' ∉ path)
    (fits : path.length ≤ maxUriLen)
    (strange : ∀ entry ∈ uris, entry.uri = path → entry.handler.catches = true) (hops : Nat) :
    ((visit.state 0 = .connected → ∃ entry ∈ uris, entry.uri = path) →
      ∃ body, visit.load server (hops + 2) 0 ⟨host, path⟩ = .answered (.page (some body)) ∧
        Utf8.decode body =
          universalNewlines (if visit.state (lastTurn path) = .connected then dash else setup)) ∧
    (visit.state 0 = .connected → (∀ entry ∈ uris, entry.uri ≠ path) →
      visit.load server (hops + 2) 0 ⟨host, path⟩ = .answered (.error .notFound)) := by
  have reached := lookUp_asked visit 0 named asks plain short
  constructor
  · intro online
    refine ⟨_, ?_, Utf8.decode_encode _⟩
    rw [load_caught lawful visit reached noQuery fits strange online hops, built,
      rootPage_generated _ windows setupPaired dashPaired]
  · intro connected unknown
    exact load_missing lawful visit reached noQuery fits unknown connected (hops + 1)

/-! A server that keeps its handlers in a list -/

structure ListTable where
  slots : Nat
  entries : List HttpdUri
  distinct : entries.Pairwise HttpdUri.apart

def listServer : HttpServer where
  Table := ListTable
  slots := ListTable.slots
  entries := ListTable.entries
  start slots := ⟨slots, [], List.Pairwise.nil⟩
  register table entry :=
    if free : table.entries.length < table.slots ∧ ∀ other ∈ table.entries, other.apart entry then
      (⟨table.slots, table.entries ++ [entry], List.pairwise_append.mpr
        ⟨table.distinct, List.pairwise_singleton _ _, fun other member _ single =>
          List.mem_singleton.mp single ▸ free.2 other member⟩⟩, .ok)
    else (table, .fail)
  dispatch table method path :=
    if maxUriLen < path.length then .error .uriTooLong
    else if table.entries.any (fun entry => entry.uri = path) then
      match table.entries.find? (fun entry => entry.uri = path ∧ entry.method = method) with
      | some entry => .handler entry
      | none => .error .methodNotAllowed
    else .error .notFound

theorem listServer_lawful : listServer.Lawful where
  started slots := ⟨rfl, rfl⟩
  registered table entry room others := by
    have free : table.entries.length < table.slots ∧
        ∀ other ∈ table.entries, other.apart entry := ⟨room, others⟩
    simp only [listServer, dif_pos free, and_self]
  found table entry member fits := by
    have any : table.entries.any (fun other => other.uri = entry.uri) = true :=
      List.any_eq_true.mpr ⟨entry, member, by simp⟩
    have found : table.entries.find? (fun other => other.uri = entry.uri ∧
        other.method = entry.method) = some entry := by
      cases search : table.entries.find? (fun other => other.uri = entry.uri ∧
          other.method = entry.method) with
      | none => simpa using List.find?_eq_none.mp search entry member
      | some other =>
          have same := List.find?_some search
          rw [decide_eq_true_eq] at same
          have among := List.mem_of_find?_eq_some search
          by_contra differs
          have different : other ≠ entry := fun is => differs (congrArg some is)
          rcases table.distinct.forall among member different with path | method
          · exact path same.1
          · exact method same.2
    show (if maxUriLen < entry.uri.length then _ else _) = _
    rw [if_neg (Nat.not_lt.mpr fits), if_pos any, found]
  missing table method path unknown _ fits := by
    have none : ¬ table.entries.any (fun entry => entry.uri = path) = true := by
      intro any
      obtain ⟨entry, member, same⟩ := List.any_eq_true.mp any
      exact unknown entry member (of_decide_eq_true same)
    show (if maxUriLen < path.length then _ else _) = _
    rw [if_neg (Nat.not_lt.mpr fits), if_neg none]

def androidVisit (setup dash : Text) : Visit where
  definitions := readHeader (generated false none setupFile setup) ++
    readHeader (generated false none dashFile dash)
  state _ := .apOnly
  buffers _ := zeroBuffers
  request _ := queryFor 0 []

theorem android_portal_opens :
    ∃ body, (androidVisit "setup".toList "dash".toList).load listServer 2 0
        ⟨"a".toList, "/generate_204".toList⟩ = .answered (.page (some body)) ∧
      Utf8.decode body = "setup".toList := by
  have asks : AddressQuery (queryFor 0 []) ⟨0x1234, 0x0100, [questionA], [], [], []⟩ questionA :=
    ⟨by decide, by decide, rfl, rfl, rfl, rfl, rfl, _, rfl⟩
  have opens := portal_opens listServer listServer_lawful
    (androidVisit "setup".toList "dash".toList) "a".toList "/generate_204".toList
    "setup".toList "dash".toList false none none nofun nofun rfl (by decide) _ _ asks rfl
    (by decide) (by decide) (by decide) (by decide +kernel) 0
  exact opens.1 (fun connected => by cases connected)

end HydroGovernor
