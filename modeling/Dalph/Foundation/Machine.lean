import Mathlib

/-!
# Deterministic machines

A machine answers every request and moves to a next state.  Invariants and simulations are proved
for one step and hold along every run.
-/

namespace Machine

variable {Request Answer State : Type*}

def run (step : Request → State → Answer × State) : State → List Request → List Answer × State
  | state, [] => ([], state)
  | state, request :: requests =>
      let (answer, next) := step request state
      let (answers, final) := run step next requests
      (answer :: answers, final)

variable {step : Request → State → Answer × State}

@[simp]
theorem run_nil (state : State) : run step state [] = ([], state) := rfl

@[simp]
theorem run_cons (state : State) (request : Request) (requests : List Request) :
    run step state (request :: requests) =
      ((step request state).1 :: (run step (step request state).2 requests).1,
        (run step (step request state).2 requests).2) := rfl

theorem run_append (state : State) (first second : List Request) :
    run step state (first ++ second) =
      ((run step state first).1 ++ (run step (run step state first).2 second).1,
        (run step (run step state first).2 second).2) := by
  induction first generalizing state with
  | nil => simp
  | cons request requests induction => simp [induction]

theorem run_preserves {Invariant : State → Prop}
    (preserved : ∀ request state, Invariant state → Invariant (step request state).2)
    {state : State} (holds : Invariant state) (requests : List Request) :
    Invariant (run step state requests).2 := by
  induction requests generalizing state with
  | nil => exact holds
  | cons request requests induction => exact induction (preserved request state holds)

variable {Invariant : State → Prop} {state : State} {requests : List Request}

theorem run_preserves_of_mem {Admissible : Request → Prop}
    (preserved : ∀ request state, Admissible request → Invariant state →
      Invariant (step request state).2) (holds : Invariant state)
    (admissible : ∀ request ∈ requests, Admissible request) :
    Invariant (run step state requests).2 := by
  induction requests generalizing state with
  | nil => exact holds
  | cons request requests induction =>
      rw [List.forall_mem_cons] at admissible
      exact induction (preserved request state admissible.1 holds) admissible.2

def Meets (step : Request → State → Answer × State) (Condition : Request → State → Prop) :
    State → List Request → Prop
  | _, [] => True
  | state, request :: requests =>
      Condition request state ∧ Meets step Condition (step request state).2 requests

instance decidableMeets {Condition : Request → State → Prop}
    [decidable : ∀ request state, Decidable (Condition request state)] :
    (state : State) → (requests : List Request) → Decidable (Meets step Condition state requests)
  | _, [] => isTrue trivial
  | state, request :: requests =>
      @instDecidableAnd _ _ (decidable request state)
        (decidableMeets (step request state).2 requests)

theorem meets_append {Condition : Request → State → Prop} (state : State)
    (first second : List Request) :
    Meets step Condition state (first ++ second) ↔
      Meets step Condition state first ∧
        Meets step Condition (run step state first).2 second := by
  induction first generalizing state with
  | nil => simp [Meets]
  | cons request first induction =>
      rw [List.cons_append, Meets, Meets, induction, and_assoc]
      rfl

theorem run_preserves_of_meets {Condition : Request → State → Prop}
    (preserved : ∀ request state, Condition request state → Invariant state →
      Invariant (step request state).2) (holds : Invariant state)
    (meets : Meets step Condition state requests) : Invariant (run step state requests).2 := by
  induction requests generalizing state with
  | nil => exact holds
  | cons request requests induction =>
      exact induction (preserved request state meets.1 holds) meets.2

theorem run_concat (state : State) (requests : List Request) (request : Request) :
    (run step state (requests ++ [request])).2 = (step request (run step state requests).2).2 := by
  rw [run_append]
  rfl

theorem run_answers {Invariant : State → Prop} {Allowed : Answer → Prop}
    (preserved : ∀ request state, Invariant state → Invariant (step request state).2)
    (allowed : ∀ request state, Invariant state → Allowed (step request state).1)
    {state : State} (holds : Invariant state) (requests : List Request) :
    ∀ answer ∈ (run step state requests).1, Allowed answer := by
  induction requests generalizing state with
  | nil => simp
  | cons request requests induction =>
      rw [run_cons, List.forall_mem_cons]
      exact ⟨allowed request state holds, induction (preserved request state holds)⟩

theorem run_basis_or_lost {Invariant Claim Basis : State → Prop}
    (preserved : ∀ request state, Invariant state → Invariant (step request state).2)
    (based : ∀ request state, Invariant state → Claim (step request state).2 →
      Claim state ∨ Basis (step request state).2)
    {state : State} (holds : Invariant state) (unclaimed : ¬ Claim state)
    (requests : List Request) (claim : Claim (run step state requests).2) :
    Basis (run step state requests).2 ∨
      ∃ before request after, requests = before ++ request :: after ∧
        Claim (run step state before).2 ∧ Basis (run step state before).2 ∧
          ¬ Basis (step request (run step state before).2).2 := by
  induction requests using List.reverseRecOn with
  | nil => exact absurd claim unclaimed
  | append_singleton requests request induction =>
      rw [run_concat] at claim ⊢
      by_cases basis : Basis (step request (run step state requests).2).2
      · exact Or.inl basis
      · right
        have earlier := (based request _ (run_preserves preserved holds requests) claim).resolve_right
          basis
        obtain kept | ⟨before, lost, after, split, found⟩ := induction earlier
        · exact ⟨requests, request, [], rfl, earlier, kept, basis⟩
        · exact ⟨before, lost, after ++ [request], by simp [split], found⟩

theorem run_holds_or_lost {Basis : State → Prop} {state : State} (holds : Basis state)
    (requests : List Request) :
    Basis (run step state requests).2 ∨
      ∃ before request after, requests = before ++ request :: after ∧
        Basis (run step state before).2 ∧ ¬ Basis (step request (run step state before).2).2 := by
  induction requests using List.reverseRecOn with
  | nil => exact Or.inl holds
  | append_singleton requests request induction =>
      rw [run_concat]
      by_cases basis : Basis (step request (run step state requests).2).2
      · exact Or.inl basis
      · right
        obtain kept | ⟨before, lost, after, split, found⟩ := induction
        · exact ⟨requests, request, [], rfl, kept, basis⟩
        · exact ⟨before, lost, after ++ [request], by simp [split], found⟩

def Guarded (step : Request → State → Answer × State) (Guard : Request → State → Prop) :
    State → List Request → Prop
  | _, [] => True
  | state, request :: requests =>
      Guard request state ∧ Guarded step Guard (step request state).2 requests

def Occurs (step : Request → State → Answer × State) (Event : Request → State → Prop) :
    State → List Request → Prop
  | _, [] => False
  | state, request :: requests =>
      Event request state ∨ Occurs step Event (step request state).2 requests

instance Guarded.decidable {Guard : Request → State → Prop}
    [∀ request state, Decidable (Guard request state)] :
    ∀ (state : State) (requests : List Request), Decidable (Guarded step Guard state requests)
  | _, [] => .isTrue trivial
  | state, request :: requests =>
      @instDecidableAnd _ _ _ (Guarded.decidable (step request state).2 requests)

instance Occurs.decidable {Event : Request → State → Prop}
    [∀ request state, Decidable (Event request state)] :
    ∀ (state : State) (requests : List Request), Decidable (Occurs step Event state requests)
  | _, [] => .isFalse nofun
  | state, request :: requests =>
      @instDecidableOr _ _ _ (Occurs.decidable (step request state).2 requests)

variable {Guard : Request → State → Prop}

theorem guarded_append {first second : List Request} :
    Guarded step Guard state (first ++ second) ↔
      Guarded step Guard state first ∧ Guarded step Guard (run step state first).2 second := by
  induction first generalizing state with
  | nil => simp [Guarded]
  | cons request requests induction => simp [Guarded, induction, and_assoc]

theorem Guarded.preserves
    (preserved : ∀ request state, Guard request state → Invariant state →
      Invariant (step request state).2) (holds : Invariant state)
    (guarded : Guarded step Guard state requests) : Invariant (run step state requests).2 := by
  induction requests generalizing state with
  | nil => exact holds
  | cons request requests induction =>
      exact induction (preserved request state guarded.1 holds) guarded.2

theorem Guarded.weaken {Guard' : Request → State → Prop}
    (weaker : ∀ request state, Guard request state → Invariant state → Guard' request state)
    (preserved : ∀ request state, Guard request state → Invariant state →
      Invariant (step request state).2) (holds : Invariant state)
    (guarded : Guarded step Guard state requests) : Guarded step Guard' state requests := by
  induction requests generalizing state with
  | nil => exact guarded
  | cons request requests induction =>
      exact ⟨weaker request state guarded.1 holds,
        induction (preserved request state guarded.1 holds) guarded.2⟩

theorem guarded_congr {Guard Guard' : Request → State → Prop} {Invariant : State → Prop}
    (agree : ∀ request state, Invariant state → (Guard request state ↔ Guard' request state))
    (preserved : ∀ request state, Guard' request state → Invariant state →
      Invariant (step request state).2)
    {state : State} (holds : Invariant state) (requests : List Request) :
    Guarded step Guard state requests ↔ Guarded step Guard' state requests := by
  induction requests generalizing state with
  | nil => exact Iff.rfl
  | cons request requests induction =>
      constructor
      · rintro ⟨guard, rest⟩
        have guard' := (agree request state holds).mp guard
        exact ⟨guard', (induction (preserved request state guard' holds)).mp rest⟩
      · rintro ⟨guard', rest⟩
        refine ⟨(agree request state holds).mpr guard', ?_⟩
        exact (induction (preserved request state guard' holds)).mpr rest

theorem Guarded.holds_or_occurs {Basis : State → Prop} {Event : Request → State → Prop}
    (preserved : ∀ request state, Guard request state → Invariant state →
      Invariant (step request state).2)
    (lost : ∀ request state, Invariant state → Basis state →
      Basis (step request state).2 ∨ Event request state) (holds : Invariant state)
    (based : Basis state) (guarded : Guarded step Guard state requests) :
    Basis (run step state requests).2 ∨ Occurs step Event state requests := by
  induction requests generalizing state with
  | nil => exact .inl based
  | cons request requests induction =>
      rcases lost request state holds based with kept | event
      · rcases induction (preserved request state guarded.1 holds) kept guarded.2 with final | later
        · exact .inl final
        · exact .inr (.inr later)
      · exact .inr (.inl event)

theorem run_simulates {Answer' State' : Type*} {step' : Request → State' → Answer' × State'}
    {Related : State → State' → Prop} {Alike : Answer → Answer' → Prop}
    {Admissible : Request → Prop}
    (simulates : ∀ request state state', Admissible request → Related state state' →
      Alike (step request state).1 (step' request state').1 ∧
        Related (step request state).2 (step' request state').2) {state' : State'}
    (related : Related state state') (admissible : ∀ request ∈ requests, Admissible request) :
    List.Forall₂ Alike (run step state requests).1 (run step' state' requests).1 ∧
      Related (run step state requests).2 (run step' state' requests).2 := by
  induction requests generalizing state state' with
  | nil => exact ⟨.nil, related⟩
  | cons request requests induction =>
      rw [List.forall_mem_cons] at admissible
      obtain ⟨alike, next⟩ := simulates request state state' admissible.1 related
      obtain ⟨answers, final⟩ := induction next admissible.2
      exact ⟨.cons alike answers, final⟩

end Machine
