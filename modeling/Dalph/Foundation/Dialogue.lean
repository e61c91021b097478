import Mathlib.Data.List.Count
import Mathlib.Data.List.Infix

/-!
# Dialogues

A dialogue asks one question after the other and ends with a result.  What it asks depends on the
answers it got.  What it is answered depends on everything said before, so the answering side may
change its mind between any two questions.
-/

namespace Dalph

/-- A dialogue ends with a result or asks a question and goes on from the answer. -/
inductive Dialogue (Question : Type) (Answer : Question → Type) (Result : Type) where
  | conclude (result : Result)
  | ask (question : Question) (next : Answer question → Dialogue Question Answer Result)

namespace Dialogue

variable {Question : Type} {Answer : Question → Type} {Result Final Failure State : Type}

abbrev Exchange (Answer : Question → Type) : Type :=
  (question : Question) × Answer question

/-- An answering side. -/
abbrev Respondent (Answer : Question → Type) : Type :=
  List (Exchange Answer) → (question : Question) → Answer question

def converse (respondent : Respondent Answer) (said : List (Exchange Answer)) :
    Dialogue Question Answer Result → List (Exchange Answer) × Result
  | conclude result => (said, result)
  | ask question next =>
      let answer := respondent said question
      (next answer).converse respondent (said ++ [⟨question, answer⟩])

def andThen (next : Result → Dialogue Question Answer Final) :
    Dialogue Question Answer Result → Dialogue Question Answer Final
  | conclude result => next result
  | ask question rest => .ask question fun answer => (rest answer).andThen next

/-- Attempts again while recurrences are left and the failure asks for it; what to do with any other
failure is left to `orElse`. -/
def retryOrElse (repeats : Failure → Bool)
    (attempt : State → Dialogue Question Answer (Except Failure Result × State))
    (orElse : State → Failure → Dialogue Question Answer (Except Final Result)) :
    Nat → State → Dialogue Question Answer (Except Final Result)
  | 0, state => (attempt state).andThen fun
      | (.ok result, _) => .conclude (.ok result)
      | (.error failure, state) => orElse state failure
  | recurrences + 1, state => (attempt state).andThen fun
      | (.ok result, _) => .conclude (.ok result)
      | (.error failure, state) =>
          if repeats failure then retryOrElse repeats attempt orElse recurrences state
          else orElse state failure

/-- Whatever is answered, the dialogue ends with this relation between what was said and its
result. -/
def Establishes (Post : List (Exchange Answer) → Result → Prop) (said : List (Exchange Answer)) :
    Dialogue Question Answer Result → Prop
  | conclude result => Post said result
  | ask question next => ∀ answer, (next answer).Establishes Post (said ++ [⟨question, answer⟩])

variable {Post : List (Exchange Answer) → Result → Prop} {said : List (Exchange Answer)}

variable {dialogue : Dialogue Question Answer Result}

theorem Establishes.converse (establishes : dialogue.Establishes Post said)
    (respondent : Respondent Answer) :
    Post (dialogue.converse respondent said).1 (dialogue.converse respondent said).2 := by
  induction dialogue generalizing said with
  | conclude result => exact establishes
  | ask question next induction => exact induction _ (establishes _)

theorem Establishes.mono {Weaker : List (Exchange Answer) → Result → Prop}
    (establishes : dialogue.Establishes Post said)
    (weaker : ∀ {said result}, Post said result → Weaker said result) :
    dialogue.Establishes Weaker said := by
  induction dialogue generalizing said with
  | conclude result => exact weaker establishes
  | ask question next induction => exact fun answer => induction answer (establishes answer)

theorem Establishes.andThen {Middle : List (Exchange Answer) → Result → Prop}
    {Post : List (Exchange Answer) → Final → Prop} {next : Result → Dialogue Question Answer Final}
    (first : dialogue.Establishes Middle said)
    (rest : ∀ {said result}, Middle said result → (next result).Establishes Post said) :
    (dialogue.andThen next).Establishes Post said := by
  induction dialogue generalizing said with
  | conclude result => exact rest first
  | ask question next induction => exact fun answer => induction answer (first answer)

theorem retryOrElse_establishes {repeats : Failure → Bool}
    {attempt : State → Dialogue Question Answer (Except Failure Result × State)}
    {orElse : State → Failure → Dialogue Question Answer (Except Final Result)}
    {Post : List (Exchange Answer) → Except Final Result → Prop}
    (Begins : Nat → State → List (Exchange Answer) → Prop)
    (Attempted : Nat → List (Exchange Answer) → Except Failure Result × State → Prop)
    (attempts : ∀ {left state said}, Begins left state said →
      (attempt state).Establishes (Attempted left) said)
    (succeeds : ∀ {left said result state}, Attempted left said (.ok result, state) →
      Post said (.ok result))
    (again : ∀ {left said failure state}, Attempted (left + 1) said (.error failure, state) →
      repeats failure = true → Begins left state said)
    (ends : ∀ {left said failure state}, Attempted left said (.error failure, state) →
      (repeats failure = true → left = 0) → (orElse state failure).Establishes Post said)
    {recurrences : Nat} {state : State} (begins : Begins recurrences state said) :
    (retryOrElse repeats attempt orElse recurrences state).Establishes Post said := by
  induction recurrences generalizing state said with
  | zero =>
      refine (attempts begins).andThen fun {said outcome} attempted => ?_
      obtain ⟨failure | result, after⟩ := outcome
      · exact ends attempted fun _ => rfl
      · exact succeeds attempted
  | succ left induction =>
      refine (attempts begins).andThen fun {said outcome} attempted => ?_
      obtain ⟨failure | result, after⟩ := outcome
      · dsimp only
        split
        next asks => exact induction (again attempted asks)
        next refuses => exact ends attempted fun asks => absurd asks refuses
      · exact succeeds attempted

/-- A side that acts at most `bound` times, each time directly after an exchange that allows it, and
says little else and nothing at all once an answer forbids it. -/
structure Careful (Acts : Exchange Answer → Bool) (Allows : Exchange Answer → Exchange Answer → Prop)
    (Forbids : Exchange Answer → Prop) (bound : Nat) (said : List (Exchange Answer)) : Prop where
  bounded : said.countP Acts ≤ bound
  brief : said.length ≤ 2 * bound + 1
  allowed : ∀ before act after, said = before ++ act :: after → Acts act = true →
    ∃ last ∈ before.getLast?, Allows last act
  respectful : ∀ before forbidding after, said = before ++ forbidding :: after →
    Forbids forbidding → after = []

/-- Nothing has forbidden to act so far. -/
structure Undecided (Acts : Exchange Answer → Bool)
    (Allows : Exchange Answer → Exchange Answer → Prop) (Forbids : Exchange Answer → Prop)
    (bound : Nat) (said : List (Exchange Answer)) : Prop
    extends Careful Acts Allows Forbids bound said where
  unforbidden : ∀ exchange ∈ said, ¬ Forbids exchange

/-- So many rounds of an exchange that allows to act and the act. -/
structure Rounds (Acts : Exchange Answer → Bool) (Allows : Exchange Answer → Exchange Answer → Prop)
    (Forbids : Exchange Answer → Prop) (bound : Nat) (said : List (Exchange Answer)) : Prop
    extends Undecided Acts Allows Forbids bound said where
  length : said.length = 2 * bound

section Careful

variable {Acts : Exchange Answer → Bool} {Allows : Exchange Answer → Exchange Answer → Prop}
  {Forbids : Exchange Answer → Prop} {bound : Nat} {exchange last : Exchange Answer}

theorem rounds_nil : Rounds Acts Allows Forbids 0 [] where
  bounded := le_refl _
  brief := Nat.zero_le _
  allowed := fun before act after split => absurd split (by simp)
  respectful := fun before forbidding after split => absurd split (by simp)
  unforbidden := fun exchange member => absurd member List.not_mem_nil
  length := rfl

theorem Careful.mono {less : Nat} (careful : Careful Acts Allows Forbids less said)
    (le : less ≤ bound) : Careful Acts Allows Forbids bound said where
  bounded := careful.bounded.trans le
  brief := careful.brief.trans (by omega)
  allowed := careful.allowed
  respectful := careful.respectful

private theorem split_said {before after : List (Exchange Answer)} {added : Exchange Answer}
    (split : said ++ [added] = before ++ exchange :: after) :
    (after = [] ∧ exchange = added ∧ before = said) ∨
      ∃ rest, after = rest ++ [added] ∧ said = before ++ exchange :: rest := by
  obtain rfl | ⟨rest, final, rfl⟩ := List.eq_nil_or_concat after
  · obtain ⟨same, ends⟩ := List.append_inj' split rfl
    exact Or.inl ⟨rfl, (List.singleton_inj.mp ends).symm, same.symm⟩
  · refine Or.inr ⟨rest, ?_, ?_⟩
    all_goals
      have regrouped : said ++ [added] = (before ++ exchange :: rest) ++ [final] := by
        simpa using split
      obtain ⟨same, ends⟩ := List.append_inj' regrouped rfl
    · rw [List.singleton_inj.mp ends, List.concat_eq_append]
    · exact same

theorem Rounds.listen (rounds : Rounds Acts Allows Forbids bound said)
    (passive : Acts exchange = false) : Careful Acts Allows Forbids bound (said ++ [exchange]) where
  bounded := by
    simpa [List.countP_append, passive] using rounds.bounded
  brief := by
    simp [rounds.length]
  allowed := fun before act after split acts => by
    obtain ⟨-, rfl, -⟩ | ⟨rest, -, within⟩ := split_said split
    · exact absurd acts (by simp [passive])
    · exact rounds.allowed before act rest within acts
  respectful := fun before forbidding after split forbids => by
    obtain ⟨nothing, -, -⟩ | ⟨rest, -, within⟩ := split_said split
    · exact nothing
    · exact absurd forbids (rounds.unforbidden forbidding (by simp [within]))

theorem Undecided.act (undecided : Undecided Acts Allows Forbids bound said)
    (latest : said.getLast? = some last) (allows : Allows last exchange) :
    Careful Acts Allows Forbids (bound + 1) (said ++ [exchange]) where
  bounded := by
    rw [List.countP_append]
    exact Nat.add_le_add undecided.bounded List.countP_le_length
  brief := by
    have brief := undecided.brief
    simp only [List.length_append, List.length_singleton]
    omega
  allowed := fun before act after split acts => by
    obtain ⟨-, rfl, rfl⟩ | ⟨rest, -, within⟩ := split_said split
    · exact ⟨last, latest, allows⟩
    · exact undecided.allowed before act rest within acts
  respectful := fun before forbidding after split forbids => by
    obtain ⟨nothing, -, -⟩ | ⟨rest, -, within⟩ := split_said split
    · exact nothing
    · exact absurd forbids (undecided.unforbidden forbidding (by simp [within]))

theorem Undecided.extend (undecided : Undecided Acts Allows Forbids bound said) {more : Nat}
    (careful : Careful Acts Allows Forbids more (said ++ [exchange]))
    (unforbidding : ¬ Forbids exchange) :
    Undecided Acts Allows Forbids more (said ++ [exchange]) where
  toCareful := careful
  unforbidden := fun other member => by
    obtain before | here := List.mem_append.mp member
    · exact undecided.unforbidden other before
    · obtain rfl := List.mem_singleton.mp here
      exact unforbidding

variable {request : Exchange Answer}

section

variable (rounds : Rounds Acts Allows Forbids bound said) (passive : Acts exchange = false)
  (unforbidding : ¬ Forbids exchange) (allows : Allows exchange request)
include rounds passive unforbidding allows

theorem Rounds.act : Careful Acts Allows Forbids (bound + 1) (said ++ [exchange] ++ [request]) :=
  (rounds.extend (rounds.listen passive) unforbidding).act (by simp) allows

theorem Rounds.another (silent : ¬ Forbids request) :
    Rounds Acts Allows Forbids (bound + 1) (said ++ [exchange] ++ [request]) where
  toUndecided := (rounds.extend (rounds.listen passive) unforbidding).extend
    (rounds.act passive unforbidding allows) silent
  length := by
    simp only [List.length_append, List.length_singleton, rounds.length]
    omega

end

end Careful

end Dialogue

end Dalph
