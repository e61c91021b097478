import Mathlib

/-!
# Bounded loops and caches

A loop repeats a body that continues with a next state or ends with a result.  It is given a number
of rounds: a measure tells how many rounds are enough, and an invariant carries what holds of the
result.  A computation with a cache mirrors one without when only the cache tells them apart.
-/

variable {State Result Failure Cache α β : Type}

theorem Except.bind_eq_ok_iff {first : Except Failure α} {proceed : α → Except Failure β} {result : β} :
    (first >>= proceed) = .ok result ↔ ∃ value, first = .ok value ∧ proceed value = .ok result := by
  cases first with
  | error failure => simp [bind, Except.bind]
  | ok value => simp [bind, Except.bind]

theorem Except.map_eq_ok_iff {first : Except Failure α} {read : α → β} {result : β} :
    first.map read = .ok result ↔ ∃ value, first = .ok value ∧ read value = result := by
  cases first with
  | error failure => simp [Except.map]
  | ok value => simp [Except.map]

theorem Except.throw_ne_ok {failure : Failure} {value : α} :
    (throw failure : Except Failure α) ≠ .ok value := by
  rintro ⟨⟩

theorem Except.pure_eq_ok_iff {value result : α} :
    (pure value : Except Failure α) = .ok result ↔ value = result := by
  simp [pure, Except.pure]

namespace Loop

def run {m : Type → Type} [Monad m] (body : State → m (State ⊕ Result)) : Nat → State → m (Option Result)
  | 0, _ => pure none
  | rounds + 1, state => do
      match ← body state with
      | .inl next => run body rounds next
      | .inr result => pure (some result)

section Rules

variable {body : State → Except Failure (State ⊕ Result)} {state : State} {rounds : Nat}

theorem run_succ_of_inl {next : State} (continues : body state = .ok (.inl next)) :
    run body (rounds + 1) state = run body rounds next := by
  rw [run, continues]
  rfl

theorem run_succ_of_inr {result : Result} (ends : body state = .ok (.inr result)) :
    run body (rounds + 1) state = .ok (some result) := by
  rw [run, ends]
  rfl

theorem run_succ_eq_ok_iff {outcome : Option Result} :
    run body (rounds + 1) state = .ok outcome ↔
      (∃ next, body state = .ok (.inl next) ∧ run body rounds next = .ok outcome) ∨
        ∃ result, body state = .ok (.inr result) ∧ some result = outcome := by
  rw [run, Except.bind_eq_ok_iff]
  constructor
  · rintro ⟨next | result, answered, rest⟩
    · exact Or.inl ⟨next, answered, rest⟩
    · exact Or.inr ⟨result, answered, Except.pure_eq_ok_iff.mp rest⟩
  · rintro (⟨next, continues, rest⟩ | ⟨result, ends, rfl⟩)
    · exact ⟨.inl next, continues, rest⟩
    · exact ⟨.inr result, ends, rfl⟩

variable (Inv : State → Prop)
  (keeps : ∀ {state next}, Inv state → body state = .ok (.inl next) → Inv next)

include keeps

theorem run_post (Post : Result → Prop) {result : Result}
    (ends : ∀ {state result}, Inv state → body state = .ok (.inr result) → Post result)
    (invariant : Inv state) (ran : run body rounds state = .ok (some result)) : Post result := by
  induction rounds generalizing state with
  | zero => cases ran
  | succ rounds induction =>
      rcases run_succ_eq_ok_iff.mp ran with ⟨next, continues, rest⟩ | ⟨ended, answered, same⟩
      · exact induction (keeps invariant continues) rest
      · exact Option.some.inj same ▸ ends invariant answered

variable (measure : State → Nat)
  (decreases : ∀ {state next}, Inv state → body state = .ok (.inl next) →
    measure next < measure state)

include decreases

theorem run_ne_none (invariant : Inv state) (enough : measure state < rounds) :
    run body rounds state ≠ .ok none := by
  induction rounds generalizing state with
  | zero => omega
  | succ rounds induction =>
      intro ran
      rcases run_succ_eq_ok_iff.mp ran with ⟨next, continues, rest⟩ | ⟨ended, answered, same⟩
      · have less := decreases invariant continues
        exact induction (keeps invariant continues) (by omega) rest
      · cases same

theorem run_succeeds (progress : ∀ {state}, Inv state → ∃ outcome, body state = .ok outcome)
    (invariant : Inv state) (enough : measure state < rounds) :
    ∃ result, run body rounds state = .ok (some result) := by
  induction rounds generalizing state with
  | zero => omega
  | succ rounds induction =>
      obtain ⟨next | result, answered⟩ := progress invariant
      · have less := decreases invariant answered
        rw [run_succ_of_inl answered]
        exact induction (keeps invariant answered) (by omega)
      · exact ⟨result, run_succ_of_inr answered⟩

end Rules

end Loop

/-- The value that the cache holds, or the fetched one, which the cache then keeps. -/
def memoize (lookup : Cache → Option α) (store : α → Cache → Cache)
    (fetch : StateT Cache (Except Failure) α) : StateT Cache (Except Failure) α := do
  match lookup (← get) with
  | some existing => pure existing
  | none => do
      let value ← fetch
      modify (store value)
      pure value

def Mirrors (Coherent : Cache → Prop) (cached : StateT Cache (Except Failure) α)
    (plain : Except Failure α) : Prop :=
  ∀ cache, Coherent cache →
    ∃ after, Coherent after ∧ cached.run cache = (fun value => (value, after)) <$> plain

namespace Mirrors

variable {Coherent : Cache → Prop} {cached : StateT Cache (Except Failure) α}
  {plain : Except Failure α}

theorem pure (value : α) : Mirrors Coherent (Pure.pure value) (Pure.pure value : Except Failure α) :=
  fun cache coherent => ⟨cache, coherent, rfl⟩

theorem throw (failure : Failure) :
    Mirrors Coherent (MonadExcept.throw failure : StateT Cache (Except Failure) α)
      (MonadExcept.throw failure) :=
  fun cache coherent => ⟨cache, coherent, rfl⟩

theorem bind {cachedNext : α → StateT Cache (Except Failure) β} {plainNext : α → Except Failure β}
    (first : Mirrors Coherent cached plain)
    (rest : ∀ value, Mirrors Coherent (cachedNext value) (plainNext value)) :
    Mirrors Coherent (cached >>= cachedNext) (plain >>= plainNext) := by
  intro cache coherent
  obtain ⟨after, kept, ran⟩ := first cache coherent
  rw [StateT.run_bind, ran]
  cases plain with
  | error failure => exact ⟨after, kept, rfl⟩
  | ok value => exact rest value after kept

theorem eq_ok {cache after : Cache} {value : α} (mirrors : Mirrors Coherent cached plain)
    (coherent : Coherent cache) (ran : cached.run cache = .ok (value, after)) :
    plain = .ok value ∧ Coherent after := by
  obtain ⟨left, kept, same⟩ := mirrors cache coherent
  rw [same] at ran
  cases plain with
  | error failure => cases ran
  | ok answered =>
      cases ran
      exact ⟨rfl, kept⟩

theorem run_eq_ok {cache : Cache} {value : α} (mirrors : Mirrors Coherent cached plain)
    (coherent : Coherent cache) (answered : plain = .ok value) :
    ∃ after, Coherent after ∧ cached.run cache = .ok (value, after) := by
  obtain ⟨after, kept, same⟩ := mirrors cache coherent
  rw [answered] at same
  exact ⟨after, kept, same⟩

theorem foldlM {cachedStep : β → α → StateT Cache (Except Failure) β}
    {plainStep : β → α → Except Failure β}
    (step : ∀ state value, Mirrors Coherent (cachedStep state value) (plainStep state value))
    (values : List α) (state : β) :
    Mirrors Coherent (values.foldlM cachedStep state) (values.foldlM plainStep state) := by
  induction values generalizing state with
  | nil => exact .pure state
  | cons value values induction =>
      rw [List.foldlM_cons, List.foldlM_cons]
      exact (step state value).bind induction

theorem forM {cachedStep : α → StateT Cache (Except Failure) Unit}
    {plainStep : α → Except Failure Unit}
    (step : ∀ value, Mirrors Coherent (cachedStep value) (plainStep value)) (values : List α) :
    Mirrors Coherent (values.forM cachedStep) (values.forM plainStep) := by
  induction values with
  | nil => exact .pure ()
  | cons value values induction => exact (step value).bind fun _ => induction

theorem discard (mirrors : Mirrors Coherent cached plain) :
    Mirrors Coherent (Functor.discard cached) (Functor.discard plain) := by
  intro cache coherent
  obtain ⟨after, kept, ran⟩ := mirrors cache coherent
  refine ⟨after, kept, ?_⟩
  change (cached.run cache >>= fun answered => Pure.pure ((), answered.2)) = _
  rw [ran]
  cases plain with
  | error failure => rfl
  | ok value => rfl

theorem memoized {lookup : Cache → Option α} {store : α → Cache → Cache}
    (fetches : ∀ cache, Mirrors (· = cache) cached plain)
    (hit : ∀ {cache value}, Coherent cache → lookup cache = some value → plain = .ok value)
    (kept : ∀ {cache value}, Coherent cache → plain = .ok value → Coherent (store value cache)) :
    Mirrors Coherent (memoize lookup store cached) plain := by
  intro cache coherent
  unfold memoize
  rw [StateT.run_bind, StateT.run_get, pure_bind]
  cases found : lookup cache with
  | some value =>
      refine ⟨cache, coherent, ?_⟩
      rw [hit coherent found]
      rfl
  | none =>
      obtain ⟨after, rfl, ran⟩ := fetches cache cache rfl
      cases answered : plain with
      | error failure =>
          refine ⟨after, coherent, ?_⟩
          rw [StateT.run_bind, ran, answered]
          rfl
      | ok value =>
          refine ⟨store value after, kept coherent answered, ?_⟩
          rw [StateT.run_bind, ran, answered]
          rfl

end Mirrors

theorem Loop.mirrors_run {Coherent : Cache → Prop}
    {cached : State → StateT Cache (Except Failure) (State ⊕ Result)}
    {plain : State → Except Failure (State ⊕ Result)}
    (body : ∀ state, Mirrors Coherent (cached state) (plain state)) (rounds : Nat) (state : State) :
    Mirrors Coherent (Loop.run cached rounds state) (Loop.run plain rounds state) := by
  induction rounds generalizing state with
  | zero => exact .pure none
  | succ rounds induction =>
      refine (body state).bind fun outcome => ?_
      cases outcome with
      | inl next => exact induction next
      | inr result => exact .pure (some result)
