import HydroGovernor.AttemptOverlap
import HydroGovernor.Attempts

/-! Whose credentials the GOT_IP handler saves. -/

namespace HydroGovernor

open Firmware

/-- What is about to be written to NVS belongs to the call that handed its configuration to
the driver last. -/
def savesHanded (log : CallLog) (device : Device) : Prop :=
  ∃ ssid pass, log.handed = some ⟨.connect, log.stagings, ssid, pass⟩ ∧
    device.pendingSsid = ssid.take 63 ∧ device.pendingPass = pass.take 63

/-- A GOT_IP that saves does not arrive while a call is between its staging and its
esp_wifi_set_config, and wifi_manager_reconnect hands over only with nothing pending. -/
def savesUnmixed (system : System) : Action → Prop
  | .gotIp _ => system.device.pendingSsid.bytes ≠ [] → system.httpd.window = none
  | .main _ _ =>
      (∃ now config, system.main = .reconnectConfigure now config) →
        system.device.pendingSsid.bytes = []
  | _ => True

theorem savesUnmixed_clean {system : System} {action : Action}
    (unmixed : savesUnmixed system action) : reconnectsClean system action := by
  cases action <;> first | exact unmixed | trivial

def MainPc.configures : MainPc → Bool
  | .reconnectConfigure _ _ => true
  | _ => false

theorem MainPc.configures_iff (pc : MainPc) :
    pc.configures = true ↔ ∃ now config, pc = .reconnectConfigure now config := by
  cases pc <;> simp [MainPc.configures]

instance (system : System) : (action : Action) → Decidable (savesUnmixed system action)
  | .gotIp _ => inferInstanceAs (Decidable (_ → _ = none))
  | .main _ _ =>
      decidable_of_iff (system.main.configures = true → system.device.pendingSsid.bytes = [])
        (imp_congr_left system.main.configures_iff)
  | .tick _ | .staStart | .staConnected | .disconnected .. | .scanDone | .scanPublish _ | .getRoot
  | .postApShutdown | .postSave .. | .getScan | .httpd _ | .init _ | .boot .. | .delayed _
  | .restart => isTrue trivial

theorem exists_gotIp_after (nvs : Nvs) (actions : List Action) (property : System → Bool)
    (executed : (Transition.exec step (System.powerOn nvs) actions).any
      (fun system => decide (system.event = .idle) && property system) = true) :
    ∃ system final, History nvs (Transition.execTrace step (System.powerOn nvs) actions ++
      [(system, .gotIp .success)]) final ∧ property system = true := by
  obtain ⟨system, run, ready⟩ := exists_history nvs actions _ executed
  simp only [Bool.and_eq_true, decide_eq_true_eq] at ready
  have saved : step system (.gotIp .success) =
      some { system with device := system.device.onGotIp .success } := by simp [step, ready.1]
  exact ⟨system, _, run.snoc saved, ready.2⟩

def plaza : CString := CString.ofBuffer (ascii "plaza")
def plazaPass : CString := CString.ofBuffer (ascii "fountain22")

/-- The stored network drops, an attempt on another one is submitted, and its
esp_wifi_connect fails synchronously: the credentials stay pending. The main loop then
reconnects to the stored network, once the AP is down. -/
def staleSave : List Action :=
  provision ++ [Action.tick 31000000, Action.disconnected 200 .success] ++
    .postSave plaza plazaPass false :: List.replicate 6 (Action.httpd .ok) ++
    [Action.httpd .fail] ++ .postApShutdown :: List.replicate 4 (Action.httpd .ok) ++
    [Action.delayed 0, Action.delayed 0] ++ mainReconnects

end HydroGovernor
