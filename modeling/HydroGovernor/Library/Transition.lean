import Mathlib

/-! Finite runs of a partial step function and the rules that lift one step to a run. -/

namespace Firmware.Transition

variable {State Action : Type*} {step : State → Action → Option State} {start : State}

/-- A run from `start`. The trace keeps every action with the state it was taken in. -/
inductive Run (step : State → Action → Option State) (start : State) :
    List (State × Action) → State → Prop where
  | nil : Run step start [] start
  | snoc {trace : List (State × Action)} {state next : State} {action : Action} :
      Run step start trace state → step state action = some next →
      Run step start (trace ++ [(state, action)]) next

theorem Run.cons {first next : State} {action : Action} {trace : List (State × Action)}
    {state : State} (head : step first action = some next) (tail : Run step next trace state) :
    Run step first ((first, action) :: trace) state := by
  induction tail with
  | nil => exact Run.snoc Run.nil head
  | snoc _ taken ih => exact Run.snoc ih taken

theorem Run.append {front back : List (State × Action)} {middle final : State}
    (first : Run step start front middle) (second : Run step middle back final) :
    Run step start (front ++ back) final := by
  induction second with
  | nil => simpa using first
  | snoc _ taken ih =>
      rw [← List.append_assoc]
      exact Run.snoc ih taken

/-- The run up to a step of the trace, and the step itself. -/
theorem Run.before {trace : List (State × Action)} {final : State}
    (run : Run step start trace final) {front back : List (State × Action)}
    {state : State} {action : Action} (split : trace = front ++ (state, action) :: back) :
    ∃ next, Run step start front state ∧ step state action = some next ∧
      Run step next back final := by
  induction run generalizing back with
  | nil => simp at split
  | snoc earlier taken ih =>
      rcases List.eq_nil_or_concat back with rfl | ⟨init, last, rfl⟩
      · obtain ⟨rfl, same⟩ := List.append_inj' split rfl
        cases same
        exact ⟨_, earlier, taken, Run.nil⟩
      · rw [List.concat_eq_append, ← List.cons_append, ← List.append_assoc] at split
        obtain ⟨shorter, same⟩ := List.append_inj' split rfl
        cases same
        obtain ⟨next, reached, stepped, rest⟩ := ih shorter
        rw [List.concat_eq_append]
        exact ⟨next, reached, stepped, Run.snoc rest taken⟩

theorem Run.nil_inv {final : State} (run : Run step start [] final) : final = start := by
  generalize empty : ([] : List (State × Action)) = trace at run
  cases run with
  | nil => rfl
  | snoc => simp at empty

theorem Run.cons_inv {state final : State} {action : Action} {rest : List (State × Action)}
    (run : Run step start ((state, action) :: rest) final) :
    state = start ∧ ∃ next, step state action = some next ∧ Run step next rest final := by
  obtain ⟨next, reached, taken, tail⟩ := run.before (List.nil_append _).symm
  exact ⟨reached.nil_inv, next, taken, tail⟩

theorem Run.invariant (Inv : List (State × Action) → State → Prop)
    (allowed : State → Action → Prop) (initial : Inv [] start)
    (preserved : ∀ trace state action next, Run step start trace state → Inv trace state →
      allowed state action → step state action = some next →
      Inv (trace ++ [(state, action)]) next)
    {trace : List (State × Action)} {final : State} (run : Run step start trace final)
    (permitted : ∀ taken ∈ trace, allowed taken.1 taken.2) : Inv trace final := by
  induction run with
  | nil => exact initial
  | snoc earlier taken ih =>
      have holds := ih (fun pair member => permitted pair (List.mem_append_left _ member))
      exact preserved _ _ _ _ earlier holds
        (permitted _ (List.mem_append_right _ (List.mem_singleton_self _))) taken

theorem Run.invariant_before (Inv : List (State × Action) → State → Prop)
    (allowed : State → Action → Prop) (initial : Inv [] start)
    (preserved : ∀ trace state action next, Run step start trace state → Inv trace state →
      allowed state action → step state action = some next →
      Inv (trace ++ [(state, action)]) next)
    {trace : List (State × Action)} {final : State} (run : Run step start trace final)
    (permitted : ∀ taken ∈ trace, allowed taken.1 taken.2)
    {front back : List (State × Action)} {state : State} {action : Action}
    (split : trace = front ++ (state, action) :: back) : Inv front state := by
  obtain ⟨_, reached, _, _⟩ := run.before split
  refine reached.invariant Inv allowed initial preserved (fun taken member => permitted taken ?_)
  rw [split]
  exact List.mem_append_left _ member

theorem Run.invariant_state (Inv : State → Prop) (initial : Inv start)
    (preserved : ∀ state action next, Inv state → step state action = some next → Inv next)
    {trace : List (State × Action)} {final : State} (run : Run step start trace final) :
    Inv final := by
  induction run with
  | nil => exact initial
  | snoc _ taken ih => exact preserved _ _ _ ih taken

theorem Run.safe_iff {Safe : State → Prop} {guard : State → Action → Prop}
    (initial : Safe start)
    (exact_step : ∀ trace state action next, Run step start trace state → Safe state →
      step state action = some next → (Safe next ↔ guard state action))
    {trace : List (State × Action)} {final : State} (run : Run step start trace final) :
    ((∀ taken ∈ trace, Safe taken.1) ∧ Safe final) ↔
      ∀ taken ∈ trace, guard taken.1 taken.2 := by
  induction run with
  | nil => simpa using initial
  | snoc earlier taken ih =>
      simp only [List.mem_append, List.mem_singleton, or_imp, forall_and, forall_eq]
      rw [← ih]
      constructor
      · rintro ⟨⟨before, now⟩, after⟩
        exact ⟨⟨before, now⟩, (exact_step _ _ _ _ earlier now taken).mp after⟩
      · rintro ⟨⟨before, now⟩, held⟩
        exact ⟨⟨before, now⟩, (exact_step _ _ _ _ earlier now taken).mpr held⟩

/-- A run up to the first of its steps that is `chosen`, if one is. -/
theorem Run.first (chosen : State → Action → Bool) {trace : List (State × Action)} {final : State}
    (run : Run step start trace final) :
    (∀ taken ∈ trace, chosen taken.1 taken.2 = false) ∨
      ∃ front state action back next, trace = front ++ (state, action) :: back ∧
        (∀ taken ∈ front, chosen taken.1 taken.2 = false) ∧ chosen state action = true ∧
        Run step start front state ∧ step state action = some next ∧ Run step next back final := by
  induction run with
  | nil => exact Or.inl (by simp)
  | @snoc trace state next action earlier taken ih =>
      rcases ih with none | ⟨front, first, act, back, after, split, none, is, reached, stepped,
        rest⟩
      · cases is : chosen state action with
        | true =>
            exact Or.inr ⟨trace, state, action, [], next, rfl, none, is, earlier, taken, .nil⟩
        | false =>
            refine Or.inl (fun pair member => ?_)
            rcases List.mem_append.mp member with before | last
            · exact none pair before
            · rw [List.mem_singleton.mp last, is]
      · refine Or.inr ⟨front, first, act, back ++ [(state, action)], after, ?_, none, is, reached,
          stepped, rest.snoc taken⟩
        rw [split, List.append_assoc, List.cons_append]

theorem Run.map {Other : Type*} {otherStep : Other → Action → Option Other} (view : State → Other)
    (simulates : ∀ state action next, step state action = some next →
      otherStep (view state) action = some (view next))
    {trace : List (State × Action)} {final : State} (run : Run step start trace final) :
    Run otherStep (view start) (trace.map (fun taken => (view taken.1, taken.2))) (view final) := by
  induction run with
  | nil => exact Run.nil
  | snoc _ taken ih =>
      rw [List.map_append]
      exact Run.snoc ih (simulates _ _ _ taken)

theorem filterMap_snoc {Item Seen : Type*} (see : Item → Option Seen) (items : List Item)
    (item : Item) : (items ++ [item]).filterMap see = items.filterMap see ++ (see item).toList := by
  rw [List.filterMap_append]
  cases is : see item <;> simp [is]

/-- A view under which every step is a step of another system, or no step of it, takes runs
to runs. -/
theorem Run.project {Other OtherAction : Type*} {otherStep : Other → OtherAction → Option Other}
    (view : State → Other) (act : State → Action → Option OtherAction)
    (acts : ∀ state action next other, step state action = some next →
      act state action = some other → otherStep (view state) other = some (view next))
    (stutters : ∀ state action next, step state action = some next →
      act state action = none → view next = view state)
    {trace : List (State × Action)} {final : State} (run : Run step start trace final) :
    Run otherStep (view start)
      (trace.filterMap (fun taken =>
        (act taken.1 taken.2).map (fun other => (view taken.1, other))))
      (view final) := by
  induction run with
  | nil => exact Run.nil
  | @snoc trace state next action _ taken ih =>
      rw [List.filterMap_append]
      cases is : act state action with
      | none =>
          rw [stutters state action next taken is]
          simpa [is] using ih
      | some other =>
          have moved := acts state action next other taken is
          simpa [is] using Run.snoc ih moved

theorem Run.ranked (Inv : State → Prop) (own : State → Action → Bool) (rank : State → Nat)
    (initial : Inv start)
    (falls : ∀ state action next, Inv state → step state action = some next →
      Inv next ∧ rank next + (if own state action then 1 else 0) ≤ rank state)
    {trace : List (State × Action)} {final : State} (run : Run step start trace final) :
    Inv final ∧ rank final + trace.countP (fun taken => own taken.1 taken.2) ≤ rank start := by
  induction run with
  | nil => exact ⟨initial, Nat.le_refl _⟩
  | @snoc trace state next action _ taken ih =>
      obtain ⟨holds, bound⟩ := ih
      obtain ⟨after, fallen⟩ := falls state action next holds taken
      refine ⟨after, ?_⟩
      rw [List.countP_append, List.countP_singleton]
      dsimp only
      omega

def exec (step : State → Action → Option State) : State → List Action → Option State
  | state, [] => some state
  | state, action :: rest =>
      match step state action with
      | none => none
      | some next => exec step next rest

def execTrace (step : State → Action → Option State) :
    State → List Action → List (State × Action)
  | _, [] => []
  | state, action :: rest =>
      match step state action with
      | none => []
      | some next => (state, action) :: execTrace step next rest

theorem run_of_exec {actions : List Action} {final : State}
    (executed : exec step start actions = some final) :
    Run step start (execTrace step start actions) final := by
  induction actions generalizing start with
  | nil =>
      simp only [exec, Option.some.injEq] at executed
      subst executed
      exact Run.nil
  | cons action rest ih =>
      simp only [exec, execTrace] at executed ⊢
      cases stepped : step start action with
      | none => simp [stepped] at executed
      | some next =>
          simp only [stepped] at executed ⊢
          exact Run.cons stepped (ih executed)

theorem exists_run_of_exec (actions : List Action) (property : State → Bool)
    (executed : (exec step start actions).any property = true) :
    ∃ final, Run step start (execTrace step start actions) final ∧ property final = true := by
  cases reached : exec step start actions with
  | none => simp [reached] at executed
  | some final => exact ⟨final, run_of_exec reached, by simpa [reached] using executed⟩

end Firmware.Transition
