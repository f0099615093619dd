import HydroGovernor.ConnectTimeout

/-! The main loop's reconnect after a runtime drop. -/

namespace HydroGovernor

open Firmware

def testsActive (system : System) (action : Action) : Bool :=
  action.isMain &&
    match system.main with
    | .testActive _ => true
    | _ => false

def callsReconnect (system : System) (action : Action) : Bool :=
  action.isMain &&
    match system.main with
    | .reconnectRead _ => true
    | _ => false

def acceptsAttempt (system : System) : Action → Bool
  | .httpd _ =>
      match system.httpd with
      | .saveAccepted _ _ _ =>
          decide (system.device.state = .apOnly ∨ system.device.state = .failed)
      | _ => false
  | _ => false

/-- FAILED was entered from CONNECTED, with no attempt accepted since, and NVS is readable. -/
structure DropPending (trace : List (System × Action)) (system : System) : Prop where
  failed : system.device.state = .failed
  readable : (nvsRead .ok system.device.nvs).isSome = true
  dropped : ∃ front before reason outcome since,
    trace = front ++ (before, .disconnected reason outcome) :: since ∧
    before.device.state = .connected ∧
    ∀ taken ∈ since, taken.1.device.state = .failed ∧ acceptsAttempt taken.1 taken.2 = false

/-- The steps of all tasks in one iteration of the main loop, from its reading of the clock
to its end. -/
structure Iteration (begun : System) (body : List (System × Action)) (final : System) : Prop where
  run : Transition.Run step begun body final
  atLoop : begun.main = .loop
  shape : ∃ action rest, body = (begun, action) :: rest ∧ action.isMain = true ∧
    ∀ taken ∈ rest, taken.1.main.now.isSome = true
  ended : final.main = .loop

/-- Up to the call of wifi_manager_reconnect, if it comes, the drop stays what the device
is in. -/
def staysPending : List (System × Action) → Prop
  | [] => True
  | (system, action) :: rest =>
      callsReconnect system action = true ∨
        (system.device.state = .failed ∧ acceptsAttempt system action = false ∧ staysPending rest)

def decidableStaysPending : (body : List (System × Action)) → Decidable (staysPending body)
  | [] => isTrue trivial
  | (_, _) :: rest =>
      have := decidableStaysPending rest
      inferInstanceAs (Decidable (_ = true ∨ (_ = _ ∧ _ = false ∧ _)))

instance (body : List (System × Action)) : Decidable (staysPending body) :=
  decidableStaysPending body

theorem staysPending_back {front back : List (System × Action)}
    (pending : staysPending (front ++ back))
    (uncalled : ∀ taken ∈ front, callsReconnect taken.1 taken.2 = false) : staysPending back := by
  induction front with
  | nil => exact pending
  | cons head front ih =>
      rcases pending with called | ⟨-, -, rest⟩
      · rw [uncalled head (List.mem_cons_self ..)] at called
        cases called
      · exact ih rest (fun taken member => uncalled taken (List.mem_cons_of_mem _ member))

theorem httpdStep_loop {system next : System} {ret : EspErr}
    (taken : httpdStep system ret = some next) :
    next.main = .init ∨
      (next.main = system.main ∧ next.lastReconnectUs = system.lastReconnectUs) := by
  unfold httpdStep at taken
  cases pc : system.httpd with
  | connectConfigure config =>
      simp only [pc] at taken
      split at taken <;> cases taken
      · exact Or.inr ⟨rfl, rfl⟩
      · exact Or.inl rfl
  | _ =>
      simp only [pc] at taken
      (try split at taken) <;> cases taken <;> exact Or.inr ⟨rfl, rfl⟩

/-- Inside an iteration the other tasks leave the main task where it is, or restart the
device. -/
theorem other_step {system next : System} {action : Action}
    (taken : step system action = some next) (other : action.isMain = false)
    (inside : system.main.now.isSome = true) :
    next.main = .init ∨
      (next.main = system.main ∧ next.lastReconnectUs = system.lastReconnectUs) := by
  cases action with
  | main ret outcome => cases other
  | httpd ret => exact httpdStep_loop taken
  | restart =>
      cases taken
      exact Or.inl rfl
  | init flash =>
      rw [(init_cases taken).1] at inside
      cases inside
  | boot opens driver =>
      rw [(boot_cases taken).1] at inside
      cases inside
  | delayed index =>
      obtain ⟨_, _, _, _, rfl⟩ := delayedStep_writes taken
      exact Or.inr ⟨rfl, rfl⟩
  | _ =>
      simp only [step] at taken
      repeat' (split at taken)
      all_goals
        cases taken
        try exact Or.inr ⟨rfl, rfl⟩

theorem others_keep {start final : System} {body : List (System × Action)}
    (run : Transition.Run step start body final)
    (others : ∀ taken ∈ body, taken.2.isMain = false ∧ taken.1.main.now.isSome = true)
    (up : final.main ≠ .init) :
    final.main = start.main ∧ final.lastReconnectUs = start.lastReconnectUs := by
  have kept := run.invariant
    (fun _ system => system.main = .init ∨
      (system.main = start.main ∧ system.lastReconnectUs = start.lastReconnectUs))
    (fun system action => action.isMain = false ∧ system.main.now.isSome = true)
    (Or.inr ⟨rfl, rfl⟩)
    (fun _ system _ _ _ kept allowed taken => by
      rcases other_step taken allowed.1 allowed.2 with restarted | ⟨main, last⟩
      · exact Or.inl restarted
      · rcases kept with atInit | ⟨same, since⟩
        · rw [atInit] at allowed
          cases allowed.2
        · exact Or.inr ⟨main.trans same, last.trans since⟩)
    others
  exact kept.resolve_left up

theorem main_moves {start final : System} {body : List (System × Action)}
    (run : Transition.Run step start body final)
    (inside : ∀ taken ∈ body, taken.1.main.now.isSome = true) (up : final.main ≠ .init)
    (moved : final.main ≠ start.main) :
    ∃ front system ret outcome back next, body = front ++ (system, .main ret outcome) :: back ∧
      (∀ taken ∈ front, taken.2.isMain = false) ∧ system.main = start.main ∧
      system.lastReconnectUs = start.lastReconnectUs ∧
      mainStep system ret outcome = some next ∧ Transition.Run step next back final := by
  rcases run.first (fun _ action => action.isMain) with
    none | ⟨front, system, action, back, next, split, none, is, reached, taken, rest⟩
  · exact absurd (others_keep run (fun taken member => ⟨none taken member, inside taken member⟩)
      up).1 moved
  · have within : ∀ taken ∈ front, taken.1.main.now.isSome = true := by
      intro taken member
      exact inside taken (by rw [split]; exact List.mem_append_left _ member)
    have here : system.main.now.isSome = true := by
      exact inside (system, action) (by simp [split])
    have still := others_keep reached
      (fun taken member => ⟨none taken member, within taken member⟩)
      (fun atInit => by rw [atInit] at here; cases here)
    cases action with
    | main ret outcome =>
        exact ⟨front, system, ret, outcome, back, next, split, none, still.1, still.2, taken, rest⟩
    | _ => cases is

theorem ended_of_inside {start final : System} {body : List (System × Action)}
    (run : Transition.Run step start body final) (atLoop : start.main = .loop)
    (inside : ∀ taken ∈ body, taken.1.main.now.isSome = true) : body = [] := by
  cases body with
  | nil => rfl
  | cons head rest =>
      have here := inside head (List.mem_cons_self ..)
      rw [run.cons_inv.1, atLoop] at here
      cases here

theorem quiet_of_other {system : System} {action : Action} (other : action.isMain = false) :
    testsActive system action = false ∧ callsReconnect system action = false := by
  simp [testsActive, callsReconnect, other]

theorem mainStep_enabled {system : System} (ret : EspErr) (outcome : NvsOutcome)
    (turning : system.main = .loop ∨ system.main.now.isSome = true) :
    (mainStep system ret outcome).isSome = true := by
  unfold mainStep
  cases pc : system.main with
  | init | boot | bootWait | bootEnded | restarting => simp [pc, MainPc.now] at turning
  | _ =>
      simp only
      (try split) <;> rfl

/-- The first part of an iteration: the clock is read, and the AP state is tested. -/
structure ActiveTested (begun final : System) (front : List (System × Action))
    (tested : System) (back : List (System × Action)) : Prop where
  testing : tested.main = .testActive begun.device.clock
  since : tested.lastReconnectUs = begun.lastReconnectUs
  before : ∀ taken ∈ front, testsActive taken.1 taken.2 = false ∧
    callsReconnect taken.1 taken.2 = false
  active : tested.device.apActive = true → back = []
  inactive : tested.device.apActive = false →
    Transition.Run step { tested with main := .testFailed begun.device.clock } back final
  inside : ∀ taken ∈ back, taken.1.main.now.isSome = true

theorem Iteration.activeTested {begun final : System} {body : List (System × Action)}
    (iteration : Iteration begun body final) :
    ∃ front tested ret outcome back, body = front ++ (tested, .main ret outcome) :: back ∧
      ActiveTested begun final front tested back := by
  obtain ⟨run, atLoop, ⟨action, rest, rfl, isMain, inside⟩, ended⟩ := iteration
  obtain ⟨-, first, taken, run⟩ := run.cons_inv
  cases action with
  | main ret outcome =>
      simp only [step, mainStep, atLoop, Option.some.injEq] at taken
      subst taken
      obtain ⟨front, tested, testRet, testOutcome, back, next, rfl, others, testing, since, taken,
        run⟩ := main_moves run inside (by simp [ended]) (by simp [ended])
      have within : ∀ taken ∈ back, taken.1.main.now.isSome = true :=
        fun taken member => inside taken (by simp [member])
      simp only [mainStep, testing] at taken
      refine ⟨(begun, .main ret outcome) :: front, tested, testRet, testOutcome, back, rfl, testing,
        since, ?_, ?_, ?_, within⟩
      · intro pair member
        rcases List.mem_cons.mp member with rfl | later
        · simp [testsActive, callsReconnect, atLoop]
        · exact quiet_of_other (others pair later)
      · intro active
        simp only [active, if_true, Option.some.injEq] at taken
        subst taken
        exact ended_of_inside run rfl within
      · intro inactive
        simp only [inactive, Bool.false_eq_true, if_false, Option.some.injEq] at taken
        subst taken
        exact run
  | _ => cases isMain

theorem called_of_failed {tested final : System} {now : Nat} {back : List (System × Action)}
    (run : Transition.Run step tested back final) (testing : tested.main = .testFailed now)
    (inside : ∀ taken ∈ back, taken.1.main.now.isSome = true) (ended : final.main = .loop)
    (due : tested.lastReconnectUs + reconnectIntervalUs ≤ now) (pending : staysPending back) :
    ∃ taken ∈ back, callsReconnect taken.1 taken.2 = true := by
  obtain ⟨front, deciding, ret, outcome, later, next, rfl, others, still, since, taken, run⟩ :=
    main_moves run inside (by simp [ended]) (by simp [ended, testing])
  rw [testing] at still
  have remains := staysPending_back pending
    (fun taken member => (quiet_of_other (others taken member)).2)
  have failed : deciding.device.state = .failed := by
    rcases remains with called | ⟨failed, -⟩
    · simp [callsReconnect, still] at called
    · exact failed
  simp only [mainStep, still] at taken
  rw [if_pos ⟨failed, by rw [since]; exact due⟩] at taken
  cases taken
  obtain ⟨_, calling, callRet, callOutcome, _, _, rfl, -, reading, -⟩ :=
    main_moves run (fun taken member => inside taken (by simp [member])) (by simp [ended])
      (by simp [ended])
  refine ⟨(calling, .main callRet callOutcome), by simp, ?_⟩
  simp [callsReconnect, Action.isMain, reading]

/-- In an iteration that is due after a pending drop, wifi_manager_reconnect is called exactly
when the iteration finds the AP inactive. -/
theorem dropPickedUp_iff (nvs : Nvs) (trace body : List (System × Action)) (begun final : System)
    (_reached : History nvs trace begun) (_dropped : DropPending trace begun)
    (iteration : Iteration begun body final)
    (due : begun.lastReconnectUs + reconnectIntervalUs ≤ begun.device.clock)
    (pending : staysPending body) :
    (∃ taken ∈ body, callsReconnect taken.1 taken.2 = true) ↔
      ∃ taken ∈ body, testsActive taken.1 taken.2 = true ∧ taken.1.device.apActive = false := by
  have ended := iteration.ended
  obtain ⟨front, tested, ret, outcome, back, rfl, cut⟩ := iteration.activeTested
  have isTest : testsActive tested (.main ret outcome) = true := by
    simp [testsActive, Action.isMain, cut.testing]
  have notCall : callsReconnect tested (.main ret outcome) = false := by
    simp [callsReconnect, cut.testing]
  cases active : tested.device.apActive with
  | true =>
      rw [cut.active active]
      constructor
      · rintro ⟨taken, member, called⟩
        rcases List.mem_append.mp member with before | last
        · rw [(cut.before taken before).2] at called
          cases called
        · rw [List.mem_singleton.mp last, notCall] at called
          cases called
      · rintro ⟨taken, member, tests, inactive⟩
        rcases List.mem_append.mp member with before | last
        · rw [(cut.before taken before).1] at tests
          cases tests
        · rw [List.mem_singleton.mp last, active] at inactive
          cases inactive
  | false =>
      have remains := staysPending_back pending (fun taken member => (cut.before taken member).2)
      rcases remains with called | ⟨-, -, remains⟩
      · rw [notCall] at called
        cases called
      · obtain ⟨taken, member, called⟩ := called_of_failed (cut.inactive active) rfl cut.inside
          ended (by rw [cut.since]; exact due) remains
        exact iff_of_true ⟨taken, by simp [member], called⟩
          ⟨(tested, .main ret outcome), by simp, isTest, active⟩

def System.dropped (system : System) : System :=
  { system with device := { system.device with state := .failed } }

theorem dropPending_of_drop {nvs : Nvs} {trace : List (System × Action)} {system : System}
    (run : History nvs trace system) (connected : system.device.state = .connected)
    (idle : system.event = .idle)
    (readable : (nvsRead .ok system.device.nvs).isSome = true) (us : Nat) :
    ∃ trace, History nvs trace (system.dropped.later us) ∧
      DropPending trace (system.dropped.later us) := by
  have falls (reason : Reason) : step system (.disconnected reason .success) =
      some system.dropped := by
    simp only [step, Device.onDisconnected_connected connected]
    exact if_pos idle
  have waits : step system.dropped (.tick us) = some (system.dropped.later us) := rfl
  refine ⟨_, (run.snoc (falls 200)).snoc waits, rfl, readable, trace, system, 200,
    .success, [(system.dropped, .tick us)], ?_, connected, ?_⟩
  · rw [List.append_assoc]
    rfl
  · intro taken member
    rw [List.mem_singleton.mp member]
    exact ⟨rfl, rfl⟩

/-- The schedule is one iteration of the main loop. -/
def iterates (begun : System) : List Action → Bool
  | [] => false
  | action :: rest =>
      decide (begun.main = .loop) && action.isMain &&
        match step begun action with
        | none => false
        | some next =>
            (Transition.execTrace step next rest).all
                (fun (taken : System × Action) => taken.1.main.now.isSome) &&
              (Transition.exec step next rest).any
                (fun (final : System) => decide (final.main = .loop))

theorem iteration_of_iterates {begun : System} {actions : List Action}
    (turned : iterates begun actions = true) :
    ∃ final, Iteration begun (Transition.execTrace step begun actions) final := by
  cases actions with
  | nil => cases turned
  | cons action rest =>
      simp only [iterates, Bool.and_eq_true, decide_eq_true_eq] at turned
      obtain ⟨⟨atLoop, isMain⟩, turned⟩ := turned
      cases taken : step begun action with
      | none => simp [taken] at turned
      | some next =>
          simp only [taken, Bool.and_eq_true, List.all_eq_true] at turned
          obtain ⟨final, run, ended⟩ := Transition.exists_run_of_exec rest _ turned.2
          simp only [Transition.execTrace, taken]
          exact ⟨final, run.cons taken, atLoop, ⟨action, _, rfl, isMain, turned.1⟩,
            of_decide_eq_true ended⟩

def dropThenIteration (connected : System) (iteration : List Action) : Bool :=
  let begun := connected.dropped.later 31000000
  decide (connected.device.state = .connected) && decide (connected.event = .idle) &&
    (nvsRead .ok connected.device.nvs).isSome && iterates begun iteration &&
    decide (staysPending (Transition.execTrace step begun iteration)) &&
    decide (begun.lastReconnectUs + reconnectIntervalUs ≤ begun.device.clock)

theorem drop_then_iteration {nvs : Nvs} {trace : List (System × Action)} {connected : System}
    {iteration : List Action} (run : History nvs trace connected)
    (possible : dropThenIteration connected iteration = true) :
    ∃ trace final, History nvs trace (connected.dropped.later 31000000) ∧
      DropPending trace (connected.dropped.later 31000000) ∧
      Iteration (connected.dropped.later 31000000)
        (Transition.execTrace step (connected.dropped.later 31000000) iteration) final ∧
      (connected.dropped.later 31000000).lastReconnectUs + reconnectIntervalUs ≤
        (connected.dropped.later 31000000).device.clock ∧
      staysPending
        (Transition.execTrace step (connected.dropped.later 31000000) iteration) := by
  simp only [dropThenIteration, Bool.and_eq_true, decide_eq_true_eq] at possible
  obtain ⟨⟨⟨⟨⟨state, idle⟩, readable⟩, turned⟩, pending⟩, due⟩ := possible
  obtain ⟨trace, reached, dropped⟩ := dropPending_of_drop run state idle readable 31000000
  obtain ⟨final, turns⟩ := iteration_of_iterates turned
  exact ⟨trace, final, reached, dropped, turns, due, pending⟩

/-- Provisioned through the AP, which stays up, and then dropped: the iteration ends at its
first test. -/
theorem drop_under_ap_not_picked_up :
    ¬ ∀ nvs trace body begun final, History nvs trace begun → DropPending trace begun →
      Iteration begun body final →
      begun.lastReconnectUs + reconnectIntervalUs ≤ begun.device.clock → staysPending body →
      ∃ taken ∈ body, callsReconnect taken.1 taken.2 = true := by
  intro every
  obtain ⟨connected, run, ready⟩ := exists_history Nvs.erased
    (.init .ready :: .boot .ok noScan :: serveSave cafe cafeRecord.pass false ++ [.gotIp .success])
    (fun connected => dropThenIteration connected [.main .ok .success, .main .ok .success] &&
      (Transition.execTrace step (connected.dropped.later 31000000)
        [.main .ok .success, .main .ok .success]).all
          (fun (taken : System × Action) => !callsReconnect taken.1 taken.2)) (by decide)
  rw [Bool.and_eq_true, List.all_eq_true] at ready
  obtain ⟨trace, final, reached, dropped, turns, due, pending⟩ := drop_then_iteration run ready.1
  obtain ⟨taken, member, called⟩ := every _ trace _ _ final reached dropped turns due pending
  have uncalled := ready.2 taken member
  rw [called] at uncalled
  cases uncalled

theorem drop_after_sta_boot_picked_up :
    ∃ trace body begun final, History homeNvs trace begun ∧ DropPending trace begun ∧
      Iteration begun body final ∧
      ∃ taken ∈ body, callsReconnect taken.1 taken.2 = true := by
  obtain ⟨connected, run, ready⟩ := exists_history homeNvs bootStored
    (fun connected => dropThenIteration connected mainReconnects &&
      (Transition.execTrace step (connected.dropped.later 31000000) mainReconnects).any
        (fun (taken : System × Action) =>
          testsActive taken.1 taken.2 && !taken.1.device.apActive)) (by decide)
  rw [Bool.and_eq_true, List.any_eq_true] at ready
  obtain ⟨possible, taken, member, down⟩ := ready
  rw [Bool.and_eq_true, Bool.not_eq_true'] at down
  obtain ⟨trace, final, reached, dropped, turns, due, pending⟩ := drop_then_iteration run possible
  exact ⟨trace, _, _, final, reached, dropped, turns,
    (dropPickedUp_iff _ _ _ _ _ reached dropped turns due pending).mpr ⟨taken, member, down⟩⟩

end HydroGovernor
