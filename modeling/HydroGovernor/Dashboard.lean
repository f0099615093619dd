import HydroGovernor.SensorView
import HydroGovernor.WsBroadcast

/-! From the sensors to the dashboard: the tasks of PushTask, the walk of push_task over the
sessions with the text of sensor_get_json, and the page that reads the frames. -/

namespace HydroGovernor

open Firmware
open Firmware.Utf8 (Text)
open Firmware.Transition (Run filterMap_snoc exec execTrace run_of_exec)

/-! ws.onmessage of page_dash.html -/

/-- The texts of the three values, and whether the class of a dot is `ok`. -/
structure DashPage where
  temp : Text
  hum : Text
  flow : Text
  dht : Bool
  flowDot : Bool
  deriving DecidableEq, Repr

/-- `if(d.name !== undefined) element.textContent = d.name.toFixed(digits)`. Nothing but a number
has a toFixed, and calling it on anything else throws. -/
def showNumber (toFixed : Int → Int → Nat → Text) (digits : Nat) (shown : Text) :
    Option Json → Option Text
  | none => some shown
  | some (.number mantissa exponent) => some (toFixed mantissa exponent digits)
  | some _ => none

/-- `(d.sensors.name ? 'ok' : '')` -/
def dotOk (sensors : Option Json) (name : String) : Bool :=
  Json.truthy (sensors.bind (Json.member name.toList))

/-- Where toFixed throws, the lines before it have had their effect. -/
def onMessage (toFixed : Int → Int → Nat → Text) (page : DashPage) (data : Text) : DashPage :=
  match Json.read data with
  | none => page
  | some .null => page
  | some d =>
      match showNumber toFixed 1 page.temp (d.member "temp".toList) with
      | none => page
      | some temp =>
          match showNumber toFixed 1 page.hum (d.member "hum".toList) with
          | none => { page with temp := temp }
          | some hum =>
              match showNumber toFixed 2 page.flow (d.member "flow".toList) with
              | none => { page with temp := temp, hum := hum }
              | some flow =>
                  let sensors := d.member "sensors".toList
                  if Json.truthy sensors then
                    ⟨temp, hum, flow, dotOk sensors "dht", dotOk sensors "flow"⟩
                  else { page with temp := temp, hum := hum, flow := flow }

/-- A page that was shown these frames, each as the text that the browser takes it for. -/
def DashPage.after (toFixed : Int → Int → Nat → Text) (read : Bytes → Text) (page : DashPage)
    (frames : List Bytes) : DashPage :=
  frames.foldl (fun page data => onMessage toFixed page (read data)) page

/-! The whole line -/

/-- How printf writes a tray: the texts, and the numbers that they are the texts of. -/
structure TrayFormat where
  texts : Tray → TrayTexts
  temp : Tray → Int × Int
  hum : Tray → Int × Int
  flow : Tray → Int × Int
  isTemp : ∀ tray, NumberText (texts tray).temp (.number (temp tray).1 (temp tray).2)
  isHum : ∀ tray, NumberText (texts tray).hum (.number (hum tray).1 (hum tray).2)
  isFlow : ∀ tray, NumberText (texts tray).flow (.number (flow tray).1 (flow tray).2)
  short : ∀ tray,
    (texts tray).temp.length + (texts tray).hum.length + (texts tray).flow.length ≤ 40

structure Dashboard where
  sensors : PushSystem
  server : Broadcast
  deriving DecidableEq, Repr

/-- `wake`, `build` and `yield` are the pieces of push_task: the notification, sensor_get_json into
`buf`, and the way round after web_server_push_sensor_update. -/
inductive DashboardAction where
  | sensors (action : PushAction)
  | wake
  | build (entry buf : Bytes)
  | yield
  | server (action : BroadcastAction)
  deriving DecidableEq, Repr

def Dashboard.start : Dashboard := ⟨PushSystem.boot twoSensors, Broadcast.start⟩

variable (format : TrayFormat)

/-- The call of sensor_get_json, on arrays with these contents. -/
def Dashboard.getJson (system : Dashboard) (entry buf : Bytes) : SensorText :=
  sensorGetText system.sensors.registry (format.texts system.sensors.tray) (.ofCells entry)
    (.ofCells buf) wsJsonBufSize

def dashboardStep (system : Dashboard) : DashboardAction → Option Dashboard
  | .sensors (.push _) => none
  | .sensors action =>
      (pushStep system.sensors action).map (fun sensors => { system with sensors := sensors })
  | .wake =>
      if system.sensors.push = .blocked then
        (pushStep system.sensors (.push true)).map
          (fun sensors => { system with sensors := sensors })
      else none
  | .build entry buf =>
      if system.sensors.push = .building ∧ entry.length = entrySize ∧
          buf.length = wsJsonBufSize then
        let text := system.getJson format entry buf
        (pushStep system.sensors (.push (text.ret == .ok))).bind (fun sensors =>
          if text.ret = .ok then
            (broadcastStep system.server (.push (CString.ofBuffer text.buf.cells))).map
              (fun server => ⟨sensors, server⟩)
          else some { system with sensors := sensors })
      else none
  | .yield =>
      -- the walk over the sessions is over
      if system.sensors.push = .sending ∧ system.server.push = .idle then
        (pushStep system.sensors (.push true)).map
          (fun sensors => { system with sensors := sensors })
      else none
  | .server (.push _) => none
  | .server action =>
      (broadcastStep system.server action).map (fun server => { system with server := server })

abbrev DashboardHistory (trace : List (Dashboard × DashboardAction)) (final : Dashboard) : Prop :=
  Run (dashboardStep format) Dashboard.start trace final

/-- Everything that a step can do. -/
inductive Turn (system : Dashboard) : DashboardAction → Dashboard → Prop where
  | sensed (action : PushAction) (sensors : PushSystem) (other : ∀ fits, action ≠ .push fits)
      (taken : pushStep system.sensors action = some sensors) :
      Turn system (.sensors action) { system with sensors := sensors }
  | woken (sensors : PushSystem) (blocked : system.sensors.push = .blocked)
      (taken : pushStep system.sensors (.push true) = some sensors) :
      Turn system .wake { system with sensors := sensors }
  | built (entry buf : Bytes) (sensors : PushSystem) (server : Broadcast)
      (building : system.sensors.push = .building) (entrySized : entry.length = entrySize)
      (bufSized : buf.length = wsJsonBufSize) (ok : (system.getJson format entry buf).ret = .ok)
      (taken : pushStep system.sensors (.push true) = some sensors)
      (pushed : broadcastStep system.server
        (.push (CString.ofBuffer (system.getJson format entry buf).buf.cells)) = some server) :
      Turn system (.build entry buf) ⟨sensors, server⟩
  | unbuilt (entry buf : Bytes) (sensors : PushSystem)
      (entrySized : entry.length = entrySize) (bufSized : buf.length = wsJsonBufSize)
      (failed : (system.getJson format entry buf).ret ≠ .ok)
      (taken : pushStep system.sensors (.push false) = some sensors) :
      Turn system (.build entry buf) { system with sensors := sensors }
  | yielded (sensors : PushSystem) (sending : system.sensors.push = .sending)
      (idle : system.server.push = .idle)
      (taken : pushStep system.sensors (.push true) = some sensors) :
      Turn system .yield { system with sensors := sensors }
  | served (action : BroadcastAction) (server : Broadcast) (other : ∀ json, action ≠ .push json)
      (taken : broadcastStep system.server action = some server) :
      Turn system (.server action) { system with server := server }

theorem dashboard_turn {system next : Dashboard} {action : DashboardAction}
    (taken : dashboardStep format system action = some next) : Turn format system action next := by
  cases action with
  | sensors action =>
      cases action with
      | push fits => cases taken
      | _ =>
          simp only [dashboardStep] at taken
          obtain ⟨sensors, moved, rfl⟩ := Option.map_eq_some_iff.mp taken
          exact .sensed _ sensors (by simp) moved
  | wake =>
      simp only [dashboardStep] at taken
      split at taken
      case isFalse => cases taken
      rename_i blocked
      obtain ⟨sensors, moved, rfl⟩ := Option.map_eq_some_iff.mp taken
      exact .woken sensors blocked moved
  | build entry buf =>
      simp only [dashboardStep] at taken
      split at taken
      case isFalse => cases taken
      rename_i ready
      obtain ⟨building, entrySized, bufSized⟩ := ready
      obtain ⟨sensors, moved, rest⟩ := Option.bind_eq_some_iff.mp taken
      split at rest
      · rename_i ok
        rw [ok] at moved
        obtain ⟨server, pushed, rfl⟩ := Option.map_eq_some_iff.mp rest
        exact .built entry buf sensors server building entrySized bufSized ok moved pushed
      · rename_i failed
        cases rest
        rw [beq_false_of_ne failed] at moved
        exact .unbuilt entry buf sensors entrySized bufSized failed moved
  | yield =>
      simp only [dashboardStep] at taken
      split at taken
      case isFalse => cases taken
      rename_i ended
      obtain ⟨sensors, moved, rfl⟩ := Option.map_eq_some_iff.mp taken
      exact .yielded sensors ended.1 ended.2 moved
  | server action =>
      cases action with
      | push json => cases taken
      | _ =>
          simp only [dashboardStep] at taken
          obtain ⟨server, moved, rfl⟩ := Option.map_eq_some_iff.mp taken
          exact .served _ server (by simp) moved

/-! What push_task hands over -/

def TwoNames (registry : Registry) : Prop :=
  registry.sensors.map SensorMeta.name = [dht, flowSensor]

theorem TwoNames.all {registry : Registry} (names : TwoNames registry) (property : CString → Prop)
    (first : property dht) (second : property flowSensor) :
    ∀ s ∈ registry.sensors, property s.name := by
  intro s member
  have named : s.name ∈ [dht, flowSensor] := names ▸ List.mem_map_of_mem member
  rcases List.mem_cons.mp named with is | later
  · rw [is]
    exact first
  · rw [List.mem_singleton.mp later]
    exact second

theorem TwoNames.flags {registry : Registry} (names : TwoNames registry) :
    registry.flags =
      [(dht, registry.anyAlive dht), (flowSensor, registry.anyAlive flowSensor)] := by
  obtain ⟨first, rest, sensors, named, others⟩ := List.map_eq_cons_iff.mp names
  obtain ⟨second, none, sensors', named', others'⟩ := List.map_eq_cons_iff.mp others
  rw [List.map_eq_nil_iff] at others'
  have apart : dht ≠ flowSensor := by decide
  have flags : registry.flags = [(dht, first.alive), (flowSensor, second.alive)] := by
    rw [Registry.flags, sensors, sensors', others', ← named, ← named']
    rfl
  have dhtFlag : registry.anyAlive dht = first.alive := by
    simp [Registry.anyAlive, flags, apart.symm]
  have flowFlag : registry.anyAlive flowSensor = second.alive := by
    simp [Registry.anyAlive, flags, apart]
  rw [dhtFlag, flowFlag, flags]

theorem getJson_whole {system : Dashboard} (names : TwoNames system.sensors.registry)
    {entry buf : Bytes} (entrySized : entry.length = entrySize)
    (bufSized : buf.length = wsJsonBufSize) :
    (system.getJson format entry buf).ret = .ok ∧
      (CString.ofBuffer (system.getJson format entry buf).buf.cells).bytes =
        fullText system.sensors.registry (format.texts system.sensors.tray) := by
  have short := names.all (fun name => name.length ≤ 15) (by decide) (by decide)
  have plain := names.all PlainName (by unfold PlainName; decide +kernel)
    (by unfold PlainName; decide +kernel)
  have serves := served_of_names short plain (format.isTemp system.sensors.tray)
    (format.isHum system.sensors.tray) (format.isFlow system.sensors.tray)
    (format.short system.sensors.tray) entrySized (Nat.le_refl wsJsonBufSize)
    (Nat.le_of_eq bufSized.symm)
  have ok := serves.fits rfl
  exact ⟨ok, serves.text ok⟩

def sensorAction (system : Dashboard) : DashboardAction → Option PushAction
  | .sensors action => some action
  | .wake => some (.push true)
  | .build entry buf => some (.push ((system.getJson format entry buf).ret == .ok))
  | .yield => some (.push true)
  | .server _ => none

def sensorTrace (trace : List (Dashboard × DashboardAction)) : List (PushSystem × PushAction) :=
  trace.filterMap (fun taken =>
    (sensorAction format taken.1 taken.2).map (fun action => (taken.1.sensors, action)))

theorem sensors_run {trace : List (Dashboard × DashboardAction)} {final : Dashboard}
    (history : DashboardHistory format trace final) :
    PushHistory twoSensors (sensorTrace format trace) final.sensors := by
  refine history.project Dashboard.sensors (sensorAction format) ?_ ?_
  · intro state action next other taken is
    cases dashboard_turn format taken with
    | sensed _ _ _ moved | woken _ _ moved | yielded _ _ _ moved =>
        cases is
        exact moved
    | built entry buf sensors server building entrySized bufSized ok moved pushed =>
        cases is
        rw [ok]
        exact moved
    | unbuilt entry buf sensors entrySized bufSized failed moved =>
        cases is
        rw [beq_false_of_ne failed]
        exact moved
    | served => cases is
  · intro state action next taken is
    cases dashboard_turn format taken with
    | sensed | woken | built | unbuilt | yielded => cases is
    | served => rfl

theorem dashboard_names {trace : List (Dashboard × DashboardAction)} {final : Dashboard}
    (history : DashboardHistory format trace final) : TwoNames final.sensors.registry := by
  exact (names_of_history (sensors_run format history)).trans (by decide)

theorem dashboard_pushInv {trace : List (Dashboard × DashboardAction)} {final : Dashboard}
    (history : DashboardHistory format trace final) : PushInv final.sensors := by
  induction history with
  | nil => exact pushInv_boot twoSensors
  | snoc earlier taken ih =>
      cases dashboard_turn format taken with
      | sensed action sensors other moved => exact pushInv_step ih (other false) moved
      | woken sensors blocked moved | yielded sensors sending idle moved =>
          exact pushInv_step ih (by simp) moved
      | built entry buf sensors server building entrySized bufSized ok moved pushed =>
          exact pushInv_step ih (by simp) moved
      | unbuilt entry buf sensors entrySized bufSized failed moved =>
          exact absurd (getJson_whole format (dashboard_names format earlier) entrySized bufSized).1
            failed
      | served => exact ih

def serverAction (system : Dashboard) : DashboardAction → Option BroadcastAction
  | .server action => some action
  | .build entry buf =>
      let text := system.getJson format entry buf
      if text.ret = .ok then some (.push (CString.ofBuffer text.buf.cells)) else none
  | _ => none

def serverTrace (trace : List (Dashboard × DashboardAction)) : List (Broadcast × BroadcastAction) :=
  trace.filterMap (fun taken =>
    (serverAction format taken.1 taken.2).map (fun action => (taken.1.server, action)))

theorem serverTrace_snoc (trace : List (Dashboard × DashboardAction)) (system : Dashboard)
    (action : DashboardAction) :
    serverTrace format (trace ++ [(system, action)]) = serverTrace format trace ++
      ((serverAction format system action).map (fun action => (system.server, action))).toList :=
  filterMap_snoc _ trace _

theorem server_run {start final : Dashboard} {trace : List (Dashboard × DashboardAction)}
    (run : Run (dashboardStep format) start trace final) :
    Run broadcastStep start.server (serverTrace format trace) final.server := by
  refine run.project Dashboard.server (serverAction format) ?_ ?_
  · intro state action next other taken is
    cases dashboard_turn format taken with
    | sensed | woken | yielded => cases is
    | built entry buf sensors server building entrySized bufSized ok moved pushed =>
        rw [serverAction, if_pos ok] at is
        cases is
        exact pushed
    | unbuilt entry buf sensors entrySized bufSized failed moved =>
        rw [serverAction, if_neg failed] at is
        cases is
    | served action server not_push moved =>
        cases is
        exact moved
  · intro state action next taken is
    cases dashboard_turn format taken with
    | sensed | woken | yielded | unbuilt => rfl
    | built entry buf sensors server building entrySized bufSized ok moved pushed =>
        rw [serverAction, if_pos ok] at is
        cases is
    | served => cases is

def textAfter (text : Option Bytes) (taken : Dashboard × DashboardAction) : Option Bytes :=
  match serverAction format taken.1 taken.2 with
  | some (.push json) => some json.bytes
  | _ => text

def lastText (trace : List (Dashboard × DashboardAction)) : Option Bytes :=
  trace.foldl (textAfter format) none

theorem lastText_snoc (trace : List (Dashboard × DashboardAction))
    (taken : Dashboard × DashboardAction) :
    lastText format (trace ++ [taken]) = textAfter format (lastText format trace) taken := by
  rw [lastText, List.foldl_append]
  rfl

theorem textAfter_server (text : Option Bytes) (system : Dashboard) {action : BroadcastAction}
    (other : ∀ json, action ≠ .push json) :
    textAfter format text (system, .server action) = text := by
  rw [textAfter, serverAction]
  split
  · rename_i json is
    cases is
    exact absurd rfl (other json)
  · rfl

/-- The walk has the last text, which shows the last JSON, and push_task waits for it. -/
structure Fed (text : Option Bytes) (system : Dashboard) : Prop where
  walking : system.server.push ≠ .idle → system.sensors.push = .sending
  listing : ∀ data, system.server.push = .listing data → text = some data
  built : ∀ json, system.sensors.built = some json →
    ∃ registry, TwoNames registry ∧ json.sensors = registry.flags ∧
      text = some (fullText registry (format.texts json.tray))

/-- The other tasks leave push_task alone. -/
theorem pushStep_frame {system next : PushSystem} {action : PushAction}
    (other : ∀ fits, action ≠ .push fits) (taken : pushStep system action = some next) :
    next.push = system.push ∧ next.built = system.built := by
  have notified (system : PushSystem) :
      system.notify.push = system.push ∧ system.notify.built = system.built := by
    unfold PushSystem.notify
    split <;> exact ⟨rfl, rfl⟩
  cases action with
  | createPush | dhtRead | flowRead =>
      simp only [pushStep] at taken
      split at taken <;> cases taken
      exact ⟨rfl, rfl⟩
  | dht now =>
      simp only [pushStep, dhtStep] at taken
      split at taken <;> cases taken
      · exact ⟨rfl, rfl⟩
      · exact ⟨rfl, rfl⟩
      · exact ⟨rfl, rfl⟩
      · exact notified system
  | flow now =>
      simp only [pushStep, flowStep] at taken
      split at taken <;> cases taken
      · exact ⟨rfl, rfl⟩
      · exact ⟨rfl, rfl⟩
      · exact notified system
  | health now =>
      cases taken
      rw [healthPieceStep]
      split
      · exact ⟨rfl, rfl⟩
      · split
        · exact notified system
        · exact ⟨rfl, rfl⟩
  | push fits => exact absurd rfl (other fits)

theorem broadcast_idle {server next : Broadcast} {action : BroadcastAction}
    (other : ∀ json, action ≠ .push json) (idle : server.push = .idle)
    (taken : broadcastStep server action = some next) : next.push = .idle := by
  cases broadcast_moves taken with
  | accept | upgrade | close | ran => exact idle
  | push json => exact absurd rfl (other json)
  | unlisted | walked => rfl
  | listed data pc | found data fd fds pc websocket | skipped data fd fds pc plain
  | allocated data fd fds pc | refused data fd fds pc | queued arg fds pc
  | dropped ret arg fds failed pc =>
      rw [idle] at pc
      cases pc

theorem broadcast_listing {server next : Broadcast} {action : BroadcastAction} {data : Bytes}
    (other : ∀ json, action ≠ .push json) (listing : next.push = .listing data)
    (taken : broadcastStep server action = some next) : server.push = .listing data := by
  cases broadcast_moves taken with
  | accept | upgrade | close | ran => exact listing
  | push json => exact absurd rfl (other json)
  | _ => cases listing

theorem fed_step {text : Option Bytes} {system next : Dashboard} {action : DashboardAction}
    (names : TwoNames system.sensors.registry) (fed : Fed format text system)
    (taken : dashboardStep format system action = some next) :
    Fed format (textAfter format text (system, action)) next := by
  cases dashboard_turn format taken with
  | sensed action sensors other moved =>
      obtain ⟨push, built⟩ := pushStep_frame other moved
      exact ⟨fun busy => push.trans (fed.walking busy), fed.listing,
        fun json is => fed.built json (built ▸ is)⟩
  | woken sensors blocked moved =>
      simp only [pushStep, pushPieceStep, blocked] at moved
      split at moved <;> cases moved
      refine ⟨fun busy => ?_, fed.listing, fed.built⟩
      have sending := fed.walking busy
      rw [blocked] at sending
      cases sending
  | built entry buf sensors server building entrySized bufSized ok moved pushed =>
      have whole := (getJson_whole format names entrySized bufSized).2
      have short := fullText_length
        (names.all (fun name => name.length ≤ 15) (by decide) (by decide))
        (format.short system.sensors.tray)
      have after : textAfter format text (system, .build entry buf) =
          some (fullText system.sensors.registry (format.texts system.sensors.tray)) := by
        rw [textAfter, serverAction, if_pos ok]
        exact congrArg some whole
      simp only [pushStep, pushPieceStep, building, if_true] at moved
      cases moved
      rw [after]
      cases broadcast_moves pushed with
      | push json idle =>
          refine ⟨fun _ => rfl, fun data is => ?_, fun json is => ?_⟩
          · cases is
            rw [whole, List.take_of_length_le (by omega)]
          · cases is
            have stored : ∀ flag ∈ system.sensors.registry.flags, flag.1.length ≤ 15 := by
              intro flag member
              rw [names.flags, List.mem_cons, List.mem_singleton] at member
              rcases member with rfl | rfl
              · exact Nat.le_of_ble_eq_true rfl
              · exact Nat.le_of_ble_eq_true rfl
            rw [sensorGetJson_all system.sensors.tray stored]
            exact ⟨system.sensors.registry, names, rfl, rfl⟩
  | unbuilt entry buf sensors entrySized bufSized failed moved =>
      exact absurd (getJson_whole format names entrySized bufSized).1 failed
  | yielded sensors sending idle moved =>
      simp only [pushStep, pushPieceStep, sending] at moved
      cases moved
      exact ⟨fun busy => absurd idle busy, fed.listing, fed.built⟩
  | served action server other moved =>
      rw [textAfter_server format text system other]
      refine ⟨fun busy => fed.walking (fun idle => busy ?_), fun data is => ?_, fed.built⟩
      · exact broadcast_idle other idle moved
      · exact fed.listing data (broadcast_listing other is moved)

theorem dashboard_fed {trace : List (Dashboard × DashboardAction)} {final : Dashboard}
    (history : DashboardHistory format trace final) :
    Fed format (lastText format trace) final := by
  induction history with
  | nil => exact ⟨fun busy => absurd rfl busy, nofun, nofun⟩
  | snoc earlier taken ih =>
      rw [lastText_snoc]
      exact fed_step format (dashboard_names format earlier) ih taken

/-! What the page shows -/

/-- The browser stays, and no piece of memory, queue place, client list or send is refused. -/
def DashboardAction.works (fd : Nat) : DashboardAction → Bool
  | .server (.close other) => other != fd
  | .server (.list ret) => ret == .ok
  | .server action => action.succeeds
  | _ => true

theorem listedBy_cases {server next : Broadcast} {action : BroadcastAction} {fd : Nat}
    (other : ∀ json, action ≠ .push json)
    (works : (DashboardAction.server action).works fd = true)
    (served : ∀ data, next.push ≠ .listing data)
    (taken : broadcastStep server action = some next) :
    (∃ data, server.push = .listing data ∧ listedBy server action = some data) ∨
      ((∀ data, server.push ≠ .listing data) ∧ listedBy server action = none) := by
  cases broadcast_moves taken with
  | accept | upgrade | close | ran => exact .inr ⟨served, rfl⟩
  | push json => exact absurd rfl (other json)
  | listed data pc => exact .inl ⟨data, pc, by rw [listedBy, pc]⟩
  | unlisted ret data failed pc => exact absurd (beq_iff_eq.mp works) failed
  | walked data pc | found data fd fds pc websocket | skipped data fd fds pc plain
  | allocated data fd fds pc | refused data fd fds pc | queued arg fds pc
  | dropped ret arg fds failed pc =>
      refine .inr ⟨fun data is => ?_, rfl⟩
      rw [pc] at is
      cases is

/-- The last payload whose client list was taken is the last text, unless that one still waits
for its list. -/
theorem last_listed {front back : List (Dashboard × DashboardAction)} {middle final : Dashboard}
    {fd : Nat} (before : DashboardHistory format front middle)
    (run : Run (dashboardStep format) middle back final)
    (works : ∀ taken ∈ back, taken.2.works fd = true)
    (some : listed (serverTrace format back) ≠ [])
    (served : ∀ data, final.server.push ≠ .listing data) :
    (listed (serverTrace format back)).getLast? = lastText format (front ++ back) := by
  induction run with
  | nil => exact absurd rfl some
  | @snoc trace state next action earlier taken ih =>
      have ih := ih (fun pair member => works pair (List.mem_append_left _ member))
      have fed := dashboard_fed format (before.append earlier)
      have last := works _ (List.mem_append_right _ (List.mem_singleton_self _))
      rw [← List.append_assoc, lastText_snoc]
      rw [serverTrace_snoc] at some ⊢
      cases dashboard_turn format taken with
      | sensed | woken | yielded =>
          simp only [serverAction, Option.map_none, Option.toList_none, List.append_nil] at some ⊢
          exact ih some served
      | built entry buf sensors server building entrySized bufSized ok moved pushed =>
          cases broadcast_moves pushed with
          | push json idle => exact absurd rfl (served _)
      | unbuilt entry buf sensors entrySized bufSized failed moved =>
          exact absurd (getJson_whole format (dashboard_names format (before.append earlier))
            entrySized bufSized).1 failed
      | served action server other moved =>
          rw [textAfter_server format _ state other]
          simp only [serverAction, Option.map_some, Option.toList_some] at some ⊢
          rw [listed, filterMap_snoc, ← listed] at some ⊢
          rcases listedBy_cases other last served moved with ⟨data, waits, is⟩ | ⟨none, is⟩
          · rw [is, Option.toList_some, List.getLast?_concat]
            exact (fed.listing data waits).symm
          · rw [is, Option.toList_none, List.append_nil] at some ⊢
            exact ih some none

/-- The page shows the tray, which has the last DHT reading, and no live sensor as dead. -/
structure Shows (toFixed : Int → Int → Nat → Text) (trace : List (PushSystem × PushAction))
    (sensors : PushSystem) (page : DashPage) : Prop where
  temp : page.temp = toFixed (format.temp sensors.tray).1 (format.temp sensors.tray).2 1
  hum : page.hum = toFixed (format.hum sensors.tray).1 (format.hum sensors.tray).2 1
  flow : page.flow = toFixed (format.flow sensors.tray).1 (format.flow sensors.tray).2 2
  read : Reported trace sensors.dht sensors.tray
  dht : sensors.registry.anyAlive dht = true → page.dht = true
  flowDot : sensors.registry.anyAlive flowSensor = true → page.flowDot = true

theorem onMessage_fullText (toFixed : Int → Int → Nat → Text) (reading : Reading)
    (page : DashPage) {registry : Registry} (names : TwoNames registry) (tray : Tray) :
    onMessage toFixed page (reading.text (fullText registry (format.texts tray))) =
      ⟨toFixed (format.temp tray).1 (format.temp tray).2 1,
        toFixed (format.hum tray).1 (format.hum tray).2 1,
        toFixed (format.flow tray).1 (format.flow tray).2 2,
        registry.anyAlive dht, registry.anyAlive flowSensor⟩ := by
  have plain := names.all PlainName (by unfold PlainName; decide +kernel)
    (by unfold PlainName; decide +kernel)
  have label (name : CString) (isAscii : ∀ byte ∈ name.bytes, byte.toNat < 0x80) :
      reading.text name.bytes = name.bytes.map byteChar := by
    have read := reading.asciiBytes isAscii []
    rwa [List.append_nil, reading.empty, List.append_nil] at read
  have read := reading.read_fullText plain (format.isTemp tray) (format.isHum tray)
    (format.isFlow tray)
  have sensors : reading.sensors registry =
      [("dht".toList, .bool (registry.anyAlive dht)),
        ("flow".toList, .bool (registry.anyAlive flowSensor))] := by
    rw [Reading.sensors, names.flags, List.map_cons, List.map_cons,
      label dht (by decide +kernel), label flowSensor (by decide +kernel)]
    rfl
  rw [onMessage, read, Reading.served, sensors]
  rfl

theorem works_server {system : Dashboard} {action : DashboardAction} {other : BroadcastAction}
    {fd : Nat} (works : action.works fd = true)
    (is : serverAction format system action = some other) :
    other ≠ .close fd ∧ other.succeeds = true := by
  cases action with
  | sensors | wake | yield => cases is
  | build entry buf =>
      simp only [serverAction] at is
      split at is <;> cases is
      exact ⟨nofun, rfl⟩
  | server action =>
      cases is
      cases other with
      | close closed =>
          refine ⟨fun same => ?_, rfl⟩
          cases same
          exact absurd rfl (bne_iff_ne.mp works)
      | list => exact ⟨nofun, rfl⟩
      | _ => exact ⟨nofun, works⟩

theorem listed_of_mem {start final : Dashboard} {trace : List (Dashboard × DashboardAction)}
    (run : Run (dashboardStep format) start trace final)
    (some : ∃ taken ∈ trace, taken.2 = .server (.list .ok)) :
    listed (serverTrace format trace) ≠ [] := by
  obtain ⟨⟨system, action⟩, member, is⟩ := some
  subst is
  obtain ⟨front, back, split⟩ := List.append_of_mem member
  obtain ⟨next, _, taken, _⟩ := run.before split
  cases dashboard_turn format taken with
  | served action server other moved =>
      cases broadcast_moves moved with
      | listed data listing =>
          have served : (system.server, BroadcastAction.list .ok) ∈ serverTrace format trace :=
            List.mem_filterMap.mpr ⟨_, member, rfl⟩
          have payload : data ∈ listed (serverTrace format trace) :=
            List.mem_filterMap.mpr ⟨_, served, by rw [listedBy, listing]⟩
          exact List.ne_nil_of_mem payload
      | unlisted ret data failed => exact absurd rfl failed

theorem ShowsAlive.anyAlive {shown registry : Registry}
    (shows : ShowsAlive shown.flags registry.flags) (shownNames : TwoNames shown)
    (names : TwoNames registry) :
    (registry.anyAlive dht = true → shown.anyAlive dht = true) ∧
      (registry.anyAlive flowSensor = true → shown.anyAlive flowSensor = true) := by
  rw [shownNames.flags, names.flags] at shows
  refine ⟨fun alive => ?_, fun alive => ?_⟩
  · have first := shows 0 dht (by rw [alive]; rfl)
    simpa using first
  · have second := shows 1 flowSensor (by rw [alive]; rfl)
    simpa using second

/-- Once the tasks are quiet and nothing is on the way to a browser, its page shows the sensors as
they are, provided that a client list was taken since its upgrade and nothing failed. -/
theorem dashboard_current (toFixed : Int → Int → Nat → Text) (reading : Reading)
    (page : DashPage) {front back : List (Dashboard × DashboardAction)} {state final : Dashboard}
    {fd connection : Nat}
    (history : DashboardHistory format (front ++ (state, .server (.upgrade fd)) :: back) final)
    (session : state.server.holder fd = some connection)
    (works : ∀ taken ∈ back, taken.2.works fd = true)
    (reached : ∃ taken ∈ back, taken.2 = .server (.list .ok))
    (settled : Settled final.sensors) (arrived : final.server.outstanding fd = []) :
    ∃ got, final.server.receivedBy connection = state.server.receivedBy connection ++ got ∧
      Shows format toFixed
        (sensorTrace format (front ++ (state, .server (.upgrade fd)) :: back)) final.sensors
        (page.after toFixed reading.text got) := by
  obtain ⟨next, before, upgraded, after⟩ := history.before rfl
  have started := before.snoc upgraded
  have inv := dashboard_pushInv format history
  have fed := dashboard_fed format history
  have idle : final.server.push = .idle := by
    by_contra busy
    cases settled.blocked.symm.trans (fed.walking busy)
  -- the last frame of the browser is the last text
  obtain ⟨json, built, tray, shows⟩ := settled.shown inv
  obtain ⟨registry, shownNames, flags, text⟩ := fed.built json built
  have some := listed_of_mem format after reached
  have last := last_listed format started after works some (by rw [idle]; simp)
  rw [List.append_assoc, List.singleton_append, text, List.getLast?_eq_some_iff] at last
  obtain ⟨earlier, last⟩ := last
  have conveyed : Conveyed state.server final.server fd connection
      (listed (serverTrace format back))
      (∀ taken ∈ serverTrace format back, taken.2.succeeds = true) := by
    cases dashboard_turn format upgraded with
    | served action server other moved =>
        obtain ⟨distinct, is⟩ := open_of_upgrade (server_run format before) session moved
        cases moved
        refine (conveyed_run (server_run format after) distinct is ?_).2.2
        intro taken member
        obtain ⟨pair, among, seen⟩ := List.mem_filterMap.mp member
        obtain ⟨action, acted, rfl⟩ := Option.map_eq_some_iff.mp seen
        exact (works_server format (works pair among) acted).1
  obtain ⟨got, received, _, all⟩ := conveyed
  have whole := all (by
    intro taken member
    obtain ⟨pair, among, seen⟩ := List.mem_filterMap.mp member
    obtain ⟨action, acted, rfl⟩ := Option.map_eq_some_iff.mp seen
    exact (works_server format (works pair among) acted).2)
  rw [arrived, List.append_nil, last, ← List.append_assoc] at whole
  refine ⟨got, received, ?_⟩
  have alive := ShowsAlive.anyAlive (flags ▸ shows) shownNames (dashboard_names format history)
  rw [whole, DashPage.after, List.foldl_append, List.foldl_cons, List.foldl_nil,
    onMessage_fullText format toFixed reading _ shownNames, tray]
  exact ⟨rfl, rfl, rfl, reported_of_history (sensors_run format history) settled.dht, alive.1,
    alive.2⟩

def firstFormat : TrayFormat where
  texts _ := ⟨⟨ascii "24.0", by decide⟩, ⟨ascii "61.0", by decide⟩, ⟨ascii "0.00", by decide⟩⟩
  temp _ := (240, -1)
  hum _ := (610, -1)
  flow _ := (0, -2)
  isTemp _ := ⟨by decide +kernel, by rfl⟩
  isHum _ := ⟨by decide +kernel, by rfl⟩
  isFlow _ := ⟨by decide +kernel, by rfl⟩
  short _ := by decide

def padded (mantissa _exponent : Int) (digits : Nat) : Text :=
  let all := (Nat.toDigits 10 mantissa.toNat).leftpad (digits + 1) '0'
  all.take (all.length - digits) ++ '.' :: all.drop (all.length - digits)

def browserOpens : List DashboardAction := [.sensors .createPush, .server (.accept 5)]

def browserState : Dashboard :=
  (exec (dashboardStep firstFormat) Dashboard.start browserOpens).getD Dashboard.start

def upgradedState : Dashboard :=
  { browserState with server := { browserState.server with sessions := [⟨5, 0, true⟩] } }

def firstReading : List DashboardAction :=
  .sensors (.dhtRead 24 61) :: List.replicate 4 (.sensors (.dht 2000)) ++
    List.replicate 2 (.sensors (.health 2100)) ++
    [.wake, .build (List.replicate 32 0) (List.replicate 384 0), .server (.list .ok),
      .server .check, .server (.malloc true), .server (.queueWork .ok), .server .check,
      .server (.sendFrame true), .yield]

def firstReadingTrace : List (Dashboard × DashboardAction) :=
  execTrace (dashboardStep firstFormat) Dashboard.start
    (browserOpens ++ .server (.upgrade 5) :: firstReading)

theorem first_reading_shown :
    ∃ final got, DashboardHistory firstFormat firstReadingTrace final ∧
      final.server.receivedBy 0 = browserState.server.receivedBy 0 ++ got ∧
      Shows firstFormat padded (sensorTrace firstFormat firstReadingTrace) final.sensors
        (DashPage.after padded utf8Reading.text ⟨[], [], [], false, false⟩ got) := by
  obtain ⟨final, run, quiet⟩ := Transition.exists_run_of_exec
    (browserOpens ++ .server (.upgrade 5) :: firstReading)
    (fun (system : Dashboard) =>
      system.sensors.isSettled && decide (system.server.outstanding 5 = []))
    (show (exec (dashboardStep firstFormat) Dashboard.start _).any _ = true by decide +kernel)
  simp only [Bool.and_eq_true, decide_eq_true_eq] at quiet
  obtain ⟨settled, arrived⟩ := quiet
  have history : DashboardHistory firstFormat firstReadingTrace final := run
  have split : firstReadingTrace = execTrace (dashboardStep firstFormat) Dashboard.start
      browserOpens ++ (browserState, .server (.upgrade 5)) ::
        execTrace (dashboardStep firstFormat) upgradedState firstReading := by
    decide +kernel
  have session : browserState.server.holder 5 = some 0 := by decide +kernel
  obtain ⟨got, received, shows⟩ := dashboard_current firstFormat padded utf8Reading
    ⟨[], [], [], false, false⟩ (split ▸ history) session (by decide +kernel) (by decide +kernel)
    (settled_of_isSettled settled) arrived
  exact ⟨final, got, history, received, split ▸ shows⟩

end HydroGovernor
