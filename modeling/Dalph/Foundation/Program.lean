import Dalph.Foundation.Machine

/-!
# Interleaved programs

A program takes one indivisible transaction at a time on a shared state.  Calls run programs
concurrently; what the transactions of a program keep is kept along every interleaving.
-/

/-- A sequential program over a shared state.  Every transaction is one step. -/
inductive Program (State Result : Type) : Type 1 where
  | done (result : Result)
  | transact {Answer : Type} (transaction : State → Answer × State)
      (proceed : Answer → Program State Result)

namespace Program

variable {State Result Final Answer : Type}

def bind : Program State Result → (Result → Program State Final) → Program State Final
  | .done result, proceed => proceed result
  | .transact transaction rest, proceed =>
      .transact transaction fun answer => (rest answer).bind proceed

instance : Monad (Program State) where
  pure := .done
  bind := bind

def modify (transaction : State → Answer × State) : Program State Answer :=
  .transact transaction .done

def read (view : State → Answer) : Program State Answer :=
  modify fun state => (view state, state)

def Within (Allowed : State → State → Prop) : Program State Result → Prop
  | .done _ => True
  | .transact transaction proceed =>
      (∀ state, Allowed state (transaction state).2) ∧
        ∀ answer, (proceed answer).Within Allowed

variable {Allowed : State → State → Prop}

@[simp]
theorem within_pure (result : Result) : (pure result : Program State Result).Within Allowed :=
  trivial

theorem within_modify {transaction : State → Answer × State}
    (allowed : ∀ state, Allowed state (transaction state).2) : (modify transaction).Within Allowed :=
  ⟨allowed, fun _ => trivial⟩

theorem within_read (view : State → Answer) (reflexive : ∀ state, Allowed state state) :
    (read view).Within Allowed :=
  within_modify reflexive

variable {program : Program State Result}

theorem Within.bind {proceed : Result → Program State Final} (first : program.Within Allowed)
    (rest : ∀ result, (proceed result).Within Allowed) : (program >>= proceed).Within Allowed := by
  induction program with
  | done result => exact rest result
  | transact transaction next induction =>
      exact ⟨first.1, fun answer => induction answer (first.2 answer)⟩

def Finishes (Post : State → State → Result → Prop) : Program State Result → Prop
  | .done _ => True
  | .transact transaction proceed =>
      (∀ state result, proceed (transaction state).1 = .done result →
        Post state (transaction state).2 result) ∧
        ∀ answer, (proceed answer).Finishes Post

/-- What is left of a program after some answers. -/
inductive Leaves : Program State Result → Program State Result → Prop where
  | refl (program : Program State Result) : Leaves program program
  | answered {Answer : Type} {transaction : State → Answer × State}
      {proceed : Answer → Program State Result} {program : Program State Result}
      (leaves : Leaves program (.transact transaction proceed)) (answer : Answer) :
      Leaves program (proceed answer)

theorem Leaves.within {rest : Program State Result} (leaves : Leaves program rest)
    (within : program.Within Allowed) : rest.Within Allowed := by
  induction leaves with
  | refl => exact within
  | answered _ answer induction => exact (induction within).2 answer

theorem Leaves.finishes {Post : State → State → Result → Prop} {rest : Program State Result}
    (leaves : Leaves program rest) (finishes : program.Finishes Post) : rest.Finishes Post := by
  induction leaves with
  | refl => exact finishes
  | answered _ answer induction => exact (induction finishes).2 answer

/-- The program runs to its end; others may disturb the state before each transaction. -/
inductive Executes (Disturbs : State → State → Prop) :
    Program State Result → State → Result → State → Prop where
  | done (result : Result) (state : State) : Executes Disturbs (.done result) state result state
  | transact {Answer : Type} {transaction : State → Answer × State}
      {proceed : Answer → Program State Result} {state disturbed : State} {result : Result}
      {final : State} (disturbs : Disturbs state disturbed)
      (rest : Executes Disturbs (proceed (transaction disturbed).1) (transaction disturbed).2
        result final) :
      Executes Disturbs (.transact transaction proceed) state result final

section Executes

variable {Disturbs : State → State → Prop} {state final : State} {result : Result}

theorem executes_pure_iff {value : Result} :
    Executes Disturbs (pure value) state result final ↔ result = value ∧ final = state := by
  constructor
  · intro executes
    cases executes with
    | done => exact ⟨rfl, rfl⟩
  · rintro ⟨rfl, rfl⟩
    exact .done result final

theorem executes_modify_iff {transaction : State → Answer × State} {answer : Answer} :
    Executes Disturbs (modify transaction) state answer final ↔
      ∃ disturbed, Disturbs state disturbed ∧ transaction disturbed = (answer, final) := by
  constructor
  · intro executes
    cases executes with
    | transact disturbs rest =>
        cases rest with
        | done => exact ⟨_, disturbs, rfl⟩
  · rintro ⟨disturbed, disturbs, answered⟩
    refine .transact disturbs ?_
    rw [answered]
    exact .done answer final

theorem executes_bind_iff {program : Program State Answer} {proceed : Answer → Program State Result} :
    Executes Disturbs (program >>= proceed) state result final ↔
      ∃ answer middle, Executes Disturbs program state answer middle ∧
        Executes Disturbs (proceed answer) middle result final := by
  constructor
  · intro executes
    induction program generalizing state with
    | done answer => exact ⟨answer, state, .done answer state, executes⟩
    | transact transaction next induction =>
        cases executes with
        | transact disturbs rest =>
            obtain ⟨answer, middle, first, second⟩ := induction _ rest
            exact ⟨answer, middle, .transact disturbs first, second⟩
  · rintro ⟨answer, middle, first, second⟩
    induction first with
    | done answer state => exact second
    | transact disturbs rest induction => exact .transact disturbs (induction second)

theorem exists_executes (undisturbed : ∀ state, Disturbs state state)
    (program : Program State Result) (state : State) :
    ∃ result final, Executes Disturbs program state result final := by
  induction program generalizing state with
  | done result => exact ⟨result, state, .done result state⟩
  | transact transaction proceed induction =>
      obtain ⟨result, final, rest⟩ := induction (transaction state).1 (transaction state).2
      exact ⟨result, final, .transact (undisturbed state) rest⟩

end Executes

/-- The shared state and every call so far with what is left of its program. -/
structure Pool (State Call Result : Type) where
  state : State
  nextCall : Nat
  calls : Nat → Option (Call × Program State Result)

/-- A new call, the next transaction of one, or a step of somebody else. -/
inductive PoolAction (Call Foreign : Type) where
  | begin (call : Call)
  | advance (id : Nat)
  | foreign (action : Foreign)

section Pool

variable {Call Foreign : Type} (body : Call → Program State Result)
  (disturb : Foreign → State → State)

/-- One step of an interleaving. -/
def Pool.step (action : PoolAction Call Foreign) (pool : Pool State Call Result) :
    Unit × Pool State Call Result :=
  match action with
  | .begin call =>
      ((), { pool with
        nextCall := pool.nextCall + 1
        calls := Function.update pool.calls pool.nextCall (some (call, body call)) })
  | .advance id =>
      match pool.calls id with
      | some (call, .transact transaction proceed) =>
          ((), { pool with
            state := (transaction pool.state).2
            calls := Function.update pool.calls id
              (some (call, proceed (transaction pool.state).1)) })
      | _ => ((), pool)
  | .foreign action => ((), { pool with state := disturb action pool.state })

def Pool.after (initial : State) (actions : List (PoolAction Call Foreign)) :
    Pool State Call Result :=
  (Machine.run (Pool.step body disturb) ⟨initial, 0, fun _ => none⟩ actions).2

variable {body disturb}

theorem Pool.after_leaves (initial : State) (actions : List (PoolAction Call Foreign)) :
    ∀ {id call rest}, (Pool.after body disturb initial actions).calls id = some (call, rest) →
      Leaves (body call) rest := by
  refine @Machine.run_preserves _ _ _ (Pool.step body disturb) (fun pool =>
    ∀ {id call rest}, pool.calls id = some (call, rest) → Leaves (body call) rest) ?_ _ ?_ actions
  · intro action pool holds id call rest found
    unfold Pool.step at found
    split at found
    · next began =>
        simp only [Function.update_apply] at found
        split at found
        · cases found
          exact .refl _
        · exact holds found
    · next advanced =>
        split at found
        · next running =>
            simp only [Function.update_apply] at found
            split at found
            · cases found
              exact .answered (holds running) _
            · exact holds found
        · exact holds found
    · exact holds found
  · intro id call rest found
    cases found

theorem Pool.after_concat (initial : State) (actions : List (PoolAction Call Foreign))
    (action : PoolAction Call Foreign) :
    Pool.after body disturb initial (actions ++ [action]) =
      (Pool.step body disturb action (Pool.after body disturb initial actions)).2 :=
  Machine.run_concat _ actions action

variable {rest : Program State Result}

theorem Pool.step_advance_within {pool : Pool State Call Result} {id : Nat} {call : Call}
    (running : pool.calls id = some (call, rest)) (within : rest.Within Allowed)
    (reflexive : ∀ state, Allowed state state) :
    Allowed pool.state (Pool.step body disturb (.advance id) pool).2.state := by
  simp only [Pool.step, running]
  cases rest with
  | done result => exact reflexive pool.state
  | transact transaction proceed => exact within.1 pool.state

theorem Pool.step_advance_idle {pool : Pool State Call Result} {id : Nat}
    (idle : pool.calls id = none) : (Pool.step body disturb (.advance id) pool).2 = pool := by
  simp only [Pool.step, idle]

theorem Pool.advance_within {initial : State} {actions : List (PoolAction Call Foreign)} {id : Nat}
    {call : Call} (within : (body call).Within Allowed) (reflexive : ∀ state, Allowed state state)
    (running : (Pool.after body disturb initial actions).calls id = some (call, rest)) :
    Allowed (Pool.after body disturb initial actions).state
      (Pool.after body disturb initial (actions ++ [.advance id])).state := by
  rw [Pool.after_concat]
  exact Pool.step_advance_within running
    ((Pool.after_leaves initial actions running).within within) reflexive

theorem Pool.advance_finishes {Post : State → State → Result → Prop} {initial : State}
    {actions : List (PoolAction Call Foreign)} {id : Nat} {call : Call} {result : Result}
    (finishes : (body call).Finishes Post)
    (running : (Pool.after body disturb initial actions).calls id = some (call, rest))
    (unfinished : ∀ earlier, rest ≠ .done earlier)
    (finished : (Pool.after body disturb initial (actions ++ [.advance id])).calls id =
      some (call, .done result)) :
    Post (Pool.after body disturb initial actions).state
      (Pool.after body disturb initial (actions ++ [.advance id])).state result := by
  have left := (Pool.after_leaves initial actions running).finishes finishes
  rw [Pool.after_concat] at finished ⊢
  cases rest with
  | done earlier => exact absurd rfl (unfinished earlier)
  | transact transaction proceed =>
      simp only [Pool.step, running, Function.update_self, Option.some.injEq, Prod.mk.injEq,
        true_and] at finished ⊢
      exact left.1 _ result finished

theorem Pool.after_preserves {Invariant : State → Prop}
    (within : ∀ call, (body call).Within fun before after => Invariant before → Invariant after)
    (disturbed : ∀ action state, Invariant state → Invariant (disturb action state))
    {initial : State} (holds : Invariant initial) (actions : List (PoolAction Call Foreign)) :
    Invariant (Pool.after body disturb initial actions).state := by
  induction actions using List.reverseRecOn with
  | nil => exact holds
  | append_singleton actions action induction =>
      cases action with
      | begin call =>
          rw [Pool.after_concat]
          exact induction
      | advance id =>
          cases running : (Pool.after body disturb initial actions).calls id with
          | none =>
              rw [Pool.after_concat, Pool.step_advance_idle running]
              exact induction
          | some entry =>
              obtain ⟨call, rest⟩ := entry
              exact Pool.advance_within (within call) (fun _ holds => holds) running induction
      | foreign action =>
          rw [Pool.after_concat]
          exact disturbed action _ induction

end Pool

end Program
