import Dalph.Coordination.RunReactivation

/-!
# No wake-up is lost

The queue, the trailing obligation and the worker hold every wake-up between them.  The invariant
says which of them holds the one trailing marker; it is kept as long as no producer records or
retracts an obligation while the worker stands between taking a message and admitting it.
-/

namespace Dalph

namespace ReactivationWorker

def processing : ReactivationWorker → Bool
  | admitted _ | unstopped _ | woken _ _ | active _ | stopRequested | failing _ | coolingDown
  | finalizing => true
  | _ => false

def carriesWake : ReactivationWorker → Bool
  | taken _ | admitted _ | unstopped _ | woken _ _ => true
  | _ => false

def holdsMessage : ReactivationWorker → Bool
  | taken _ => true
  | _ => false

/-- The worker gives its wake-up up: the owner is stopped, or the Run is paused and nothing was
cancelled. -/
def givesUp (stopped : Bool) (control : RunReactivationControlState) : ReactivationWorker → Bool
  | admitted _ => stopped
  | woken _ cancellationWake => control = .runPaused && !cancellationWake
  | _ => false

def inFlight : ReactivationWorker → Nat
  | active _ => 1
  | _ => 0

end ReactivationWorker

/-- The trailing marker and the trailing obligation belong together. -/
structure MarkersOwned (messages : Option RunReactivationMessage)
    (obligation : Option TrailingActivationObligation) (worker : ReactivationWorker) : Prop where
  /-- A queued marker names the recorded obligation. -/
  queued : ∀ generation, messages = some (.trailingActivation generation) →
    obligation.any (·.generation = generation)
  /-- The marker of an obligation is queued or taken. -/
  owed : ∀ pending, obligation = some pending →
    messages = some (.trailingActivation pending.generation) ∨
      messages = none ∧ worker = .taken (.trailingActivation pending.generation)
  /-- A taken marker names the recorded obligation. -/
  taken : ∀ generation, worker = .taken (.trailingActivation generation) →
    obligation.any (·.generation = generation) ∧ messages = none
  /-- No obligation waits behind a taken hint. -/
  plain : ∀ hint, worker = .taken (.hint hint) → obligation = none

namespace RunReactivationOwner

def WakePending (owner : RunReactivationOwner) : Prop :=
  owner.messages.isSome ∨ owner.trailingActivationObligation.isSome ∨ owner.worker.carriesWake

/-- What every step keeps. -/
structure Sound (owner : RunReactivationOwner) : Prop where
  alive : ∀ defect, owner.worker ≠ .defect defect
  running : owner.activationPhase.stage = .running ↔ owner.worker.processing
  owned : MarkersOwned owner.messages owner.trailingActivationObligation owner.worker
  inFlight : owner.activations = owner.worker.inFlight
  /-- The worker of a terminated Run returns before it takes a message. -/
  terminated : owner.controlState = .runTerminated →
    owner.worker = .starting ∨ owner.worker = .ended

end RunReactivationOwner

open RunReactivationOwner

/-- While the worker holds a message that is not admitted, nobody else records or retracts the
trailing obligation. -/
def Undisturbed (action : ReactivationAction) (owner : RunReactivationOwner) : Prop :=
  owner.worker.holdsMessage = true → action ≠ .work →
    (reactivationStep action owner).2.trailingActivationObligation.isSome =
      owner.trailingActivationObligation.isSome

instance (action : ReactivationAction) (owner : RunReactivationOwner) :
    Decidable (Undisturbed action owner) :=
  inferInstanceAs (Decidable (_ → _ → _))

theorem Undisturbed.calm {action : ReactivationAction} {owner : RunReactivationOwner}
    (undisturbed : Undisturbed action owner) (other : action ≠ .work) :
    ∀ message, owner.worker = .taken message →
      (reactivationStep action owner).2.trailingActivationObligation.isSome =
        owner.trailingActivationObligation.isSome := by
  intro message held
  exact undisturbed (by rw [held]; rfl) other

/-! ## Markers -/

section Markers

variable {messages : Option RunReactivationMessage}
  {obligation : Option TrailingActivationObligation} {worker next : ReactivationWorker}

theorem MarkersOwned.move (owned : MarkersOwned messages obligation worker)
    (before : ∀ message, worker ≠ .taken message) (after : ∀ message, next ≠ .taken message) :
    MarkersOwned messages obligation next where
  queued := owned.queued
  owed pending found := .inl ((owned.owed pending found).resolve_right
    fun taken => before _ taken.2)
  taken _ held := absurd held (after _)
  plain _ held := absurd held (after _)

theorem MarkersOwned.empty (untaken : ∀ message, next ≠ .taken message) :
    MarkersOwned none none next where
  queued := nofun
  owed := nofun
  taken _ held := absurd held (untaken _)
  plain _ _ := rfl

theorem MarkersOwned.hint (hint : RunReactivationHint)
    (untaken : ∀ generation, next ≠ .taken (.trailingActivation generation)) :
    MarkersOwned (some (.hint hint)) none next where
  queued := nofun
  owed := nofun
  taken _ held := absurd held (untaken _)
  plain _ _ := rfl

theorem MarkersOwned.recorded (pending : TrailingActivationObligation)
    (untaken : ∀ message, next ≠ .taken message) :
    MarkersOwned (some (.trailingActivation pending.generation)) (some pending) next where
  queued generation same := by
    cases same
    simp
  owed other found := by
    cases found
    exact .inl rfl
  taken _ held := absurd held (untaken _)
  plain _ held := absurd held (untaken _)

theorem MarkersOwned.rekind {pending : TrailingActivationObligation}
    (owned : MarkersOwned messages (some pending) worker) (kind : TrailingActivationKind) :
    MarkersOwned messages (some { pending with kind }) worker where
  queued generation same := by simpa using owned.queued generation same
  owed other found := by
    cases found
    exact owned.owed pending rfl
  taken generation held := by simpa using owned.taken generation held
  plain hint held := absurd (owned.plain hint held) (by simp)

end Markers

/-! ## Producers -/

section Producers

variable {owner : RunReactivationOwner}

/-- What a producer may do to queue, obligation and worker. -/
inductive ProducerEffect (owner next : RunReactivationOwner) : Prop where
  | unchanged (messages : next.messages = owner.messages)
      (obligation : next.trailingActivationObligation = owner.trailingActivationObligation)
  | queued (hint : RunReactivationHint) (idle : owner.trailingActivationObligation = none)
      (messages : next.messages = some (.hint hint))
      (obligation : next.trailingActivationObligation = none)
  | recorded (pending : TrailingActivationObligation)
      (idle : owner.trailingActivationObligation = none)
      (messages : next.messages = some (.trailingActivation pending.generation))
      (obligation : next.trailingActivationObligation = some pending)
  | strengthened (pending : TrailingActivationObligation) (kind : TrailingActivationKind)
      (present : owner.trailingActivationObligation = some pending)
      (messages : next.messages = owner.messages)
      (obligation : next.trailingActivationObligation = some { pending with kind })
  | retracted (pending : TrailingActivationObligation)
      (present : owner.trailingActivationObligation = some pending)
      (publication : pending.kind = .acceptedFactPublication)
      (messages : next.messages = none) (obligation : next.trailingActivationObligation = none)
      (retained : next.retainedWaitGeneration.isSome)

/-- Producers leave phase, worker and activations alone. -/
structure ProducerFrame (owner next : RunReactivationOwner) : Prop where
  phase : next.activationPhase = owner.activationPhase
  worker : next.worker = owner.worker
  activations : next.activations = owner.activations
  control : next.controlState = .runTerminated → owner.controlState = .runTerminated
  effect : ProducerEffect owner next

theorem offerHintInsideGate_frame (hint : RunReactivationHint)
    (arrivalPhase : Option ActivationPhase) (owner : RunReactivationOwner) :
    ProducerFrame owner (owner.offerHintInsideGate hint arrivalPhase) := by
  unfold offerHintInsideGate
  dsimp only
  split_ifs with isStopped withheld handoff
  · exact ⟨rfl, rfl, rfl, id, .unchanged rfl rfl⟩
  · exact ⟨rfl, rfl, rfl, id, .unchanged rfl rfl⟩
  · unfold recordTrailingActivationInsideGate
    dsimp only
    split
    next pending present =>
      split_ifs
      · exact ⟨rfl, rfl, rfl, id, .strengthened pending _ present rfl rfl⟩
      · exact ⟨rfl, rfl, rfl, id, .unchanged rfl rfl⟩
    next absent => exact ⟨rfl, rfl, rfl, id, .recorded ⟨_, _⟩ absent rfl rfl⟩
  · have absent : owner.trailingActivationObligation = none := by
      rw [← Option.not_isSome_iff_eq_none]
      exact fun present => handoff (.inl present)
    exact ⟨rfl, rfl, rfl, id, .queued hint absent rfl absent⟩

theorem ProducerFrame.of_eq {earlier next : RunReactivationOwner}
    (frame : ProducerFrame owner next) (phase : owner.activationPhase = earlier.activationPhase)
    (worker : owner.worker = earlier.worker) (activations : owner.activations = earlier.activations)
    (messages : owner.messages = earlier.messages)
    (obligation : owner.trailingActivationObligation = earlier.trailingActivationObligation)
    (control : owner.controlState = .runTerminated → earlier.controlState = .runTerminated) :
    ProducerFrame earlier next := by
  refine ⟨frame.phase.trans phase, frame.worker.trans worker, frame.activations.trans activations,
    control ∘ frame.control, ?_⟩
  cases frame.effect with
  | unchanged sameMessages sameObligation =>
      exact .unchanged (sameMessages.trans messages) (sameObligation.trans obligation)
  | queued hint idle queued none => exact .queued hint (obligation ▸ idle) queued none
  | recorded pending idle queued some => exact .recorded pending (obligation ▸ idle) queued some
  | strengthened pending kind present same some =>
      exact .strengthened pending kind (obligation ▸ present) (same.trans messages) some
  | retracted pending present publication none gone retained =>
      exact .retracted pending (obligation ▸ present) publication none gone retained

theorem retainWait_frame (arrivalPhase : ActivationPhase) (owner : RunReactivationOwner) :
    ProducerFrame owner (owner.retainWait arrivalPhase) := by
  unfold retainWait
  dsimp only
  split_ifs with read publication
  · exact ⟨rfl, rfl, rfl, id, .unchanged rfl rfl⟩
  · obtain ⟨pending, present, kind⟩ := (Option.any_eq_true _ _).mp publication
    exact ⟨rfl, rfl, rfl, id, .retracted pending present (by simpa using kind) rfl rfl rfl⟩
  · exact ⟨rfl, rfl, rfl, id, .unchanged rfl rfl⟩

theorem enterGate_frame (arrival : ReactivationArrival) (owner : RunReactivationOwner) :
    ProducerFrame owner (owner.enterGate arrival) := by
  cases arrival with
  | hint hint phase => exact offerHintInsideGate_frame hint (some phase) owner
  | publication publication phase publicationGeneration =>
      unfold enterGate
      dsimp only
      split_ifs
      · exact (offerHintInsideGate_frame _ _ _).of_eq rfl rfl rfl rfl rfl id
      · exact retainWait_frame phase owner

theorem acceptedControl_frame (direction : AcceptedRunControlDirection)
    (owner : RunReactivationOwner) : ProducerFrame owner (owner.acceptedControl direction) := by
  unfold acceptedControl
  split_ifs
  · exact ⟨rfl, rfl, rfl, id, .unchanged rfl rfl⟩
  · dsimp only
    split
    · exact ⟨rfl, rfl, rfl, nofun, .unchanged rfl rfl⟩
    · exact (offerHintInsideGate_frame _ _ _).of_eq rfl rfl rfl rfl rfl nofun
    · exact ⟨rfl, rfl, rfl, id, .unchanged rfl rfl⟩

theorem ProducerFrame.sound {next : RunReactivationOwner} (frame : ProducerFrame owner next)
    (sound : owner.Sound)
    (calm : ∀ message, owner.worker = .taken message →
      next.trailingActivationObligation.isSome = owner.trailingActivationObligation.isSome) :
    next.Sound := by
  have owned := sound.owned
  refine ⟨fun defect => frame.worker ▸ sound.alive defect, ?_, ?_, ?_,
    fun control => frame.worker ▸ sound.terminated (frame.control control)⟩
  · rw [frame.phase, frame.worker]
    exact sound.running
  · rw [frame.worker]
    cases frame.effect with
    | unchanged messages obligation => rwa [messages, obligation]
    | queued hint idle messages obligation =>
        rw [messages, obligation]
        refine .hint hint ?_
        intro generation held
        have recorded := (owned.taken generation held).1
        rw [idle] at recorded
        cases recorded
    | recorded pending idle messages obligation =>
        rw [messages, obligation]
        refine .recorded pending ?_
        intro message held
        have same := calm message held
        rw [idle, obligation] at same
        cases same
    | strengthened pending kind present messages obligation =>
        rw [messages, obligation]
        rw [present] at owned
        exact owned.rekind kind
    | retracted pending present publication messages obligation retained =>
        rw [messages, obligation]
        refine .empty ?_
        intro message held
        have same := calm message held
        rw [present, obligation] at same
        cases same
  · rw [frame.activations, frame.worker]
    exact sound.inFlight

end Producers

/-! ## Worker -/

section Worker

variable {owner : RunReactivationOwner}

theorem RunReactivationOwner.Sound.move {next : RunReactivationOwner} (sound : owner.Sound)
    (before : ∀ message, owner.worker ≠ .taken message)
    (after : ∀ message, next.worker ≠ .taken message)
    (alive : ∀ defect, next.worker ≠ .defect defect)
    (running : next.activationPhase.stage = .running ↔ next.worker.processing)
    (messages : next.messages = owner.messages)
    (obligation : next.trailingActivationObligation = owner.trailingActivationObligation)
    (inFlight : next.activations = next.worker.inFlight)
    (terminated : next.controlState = .runTerminated →
      next.worker = .starting ∨ next.worker = .ended) : next.Sound := by
  refine ⟨alive, running, ?_, inFlight, terminated⟩
  rw [messages, obligation]
  exact sound.owned.move before after

theorem RunReactivationOwner.Sound.unterminated (sound : owner.Sound) {worker : ReactivationWorker}
    (stands : owner.worker = worker) (started : worker ≠ .starting) (present : worker ≠ .ended) :
    owner.controlState ≠ .runTerminated := by
  intro terminated
  rcases sound.terminated terminated with same | same
  · exact started (stands.symm.trans same)
  · exact present (stands.symm.trans same)

theorem RunReactivationOwner.Sound.pass {next : RunReactivationOwner} {worker : ReactivationWorker}
    (sound : owner.Sound) (stands : owner.worker = worker)
    (before : ∀ message, worker ≠ .taken message)
    (after : ∀ message, next.worker ≠ .taken message)
    (alive : ∀ defect, next.worker ≠ .defect defect)
    (phase : next.activationPhase = owner.activationPhase)
    (processing : next.worker.processing = worker.processing)
    (messages : next.messages = owner.messages)
    (obligation : next.trailingActivationObligation = owner.trailingActivationObligation)
    (activations : next.activations = owner.activations)
    (inFlight : next.worker.inFlight = worker.inFlight)
    (terminated : next.controlState = .runTerminated →
      next.worker = .starting ∨ next.worker = .ended) : next.Sound := by
  refine sound.move (fun message => stands ▸ before message) after alive ?_ messages obligation ?_
    terminated
  · rw [phase, processing, ← stands]
    exact sound.running
  · rw [activations, inFlight, ← stands]
    exact sound.inFlight

theorem startWorker_sound (sound : owner.Sound) (starting : owner.worker = .starting) :
    owner.startWorker.Sound := by
  have notRunning : owner.activationPhase.stage ≠ .running := by
    rw [Ne, sound.running, starting]
    decide
  have idle : owner.activations = 0 := by rw [sound.inFlight, starting]; rfl
  have untaken : ∀ message, owner.worker ≠ .taken message := by simp [starting]
  unfold startWorker
  split
  · exact sound.move untaken nofun nofun (by simpa [ReactivationWorker.processing]) rfl rfl idle
      fun _ => .inr rfl
  next paused =>
    exact sound.move untaken nofun nofun (by simpa [ReactivationWorker.processing]) rfl rfl idle
      (by simp [paused])
  next unpaused =>
    split_ifs with filled
    · exact sound.move untaken nofun nofun (by simpa [ReactivationWorker.processing]) rfl rfl idle
        (by simp [unpaused])
    · refine ⟨nofun, by simpa [ReactivationWorker.processing], ?_, idle, by simp [unpaused]⟩
      have empty : owner.messages = none := by
        rw [← Option.not_isSome_iff_eq_none]
        exact fun full => filled (.inr full)
      have unowed : owner.trailingActivationObligation = none := by
        cases present : owner.trailingActivationObligation with
        | none => rfl
        | some pending =>
            rcases sound.owned.owed pending present with queued | ⟨-, held⟩
            · rw [empty] at queued
              cases queued
            · exact absurd held (untaken _)
      dsimp only
      rw [unowed]
      exact .hint .startup nofun

theorem enterIdle_sound (sound : owner.Sound) (entering : owner.worker = .entering) :
    owner.enterIdle.Sound := by
  have notRunning : owner.activationPhase.stage ≠ .running := by
    rw [Ne, sound.running, entering]
    decide
  have idle : owner.activations = 0 := by rw [sound.inFlight, entering]; rfl
  have untaken : ∀ message, owner.worker ≠ .taken message := by simp [entering]
  have unterminated := sound.unterminated entering nofun nofun
  unfold enterIdle
  dsimp only
  split_ifs
  · exact sound.move untaken nofun nofun (by simp [ReactivationWorker.processing]) rfl rfl idle
      fun terminated => absurd terminated unterminated
  · exact sound.move untaken nofun nofun (by simpa [ReactivationWorker.processing]) rfl rfl idle
      fun terminated => absurd terminated unterminated

variable {message : RunReactivationMessage}

theorem take_sound (sound : owner.Sound) (waiting : owner.worker = .waiting)
    (queued : owner.messages = some message) :
    Sound { owner with messages := none, worker := .taken message } := by
  have notRunning : owner.activationPhase.stage ≠ .running := by
    rw [Ne, sound.running, waiting]
    decide
  refine ⟨nofun, by simpa [ReactivationWorker.processing], ?_, ?_,
    fun terminated => absurd terminated (sound.unterminated waiting nofun nofun)⟩
  · constructor
    · nofun
    · intro pending present
      rcases sound.owned.owed pending present with same | ⟨-, held⟩
      · rw [queued] at same
        cases same
        exact .inr ⟨rfl, rfl⟩
      · rw [waiting] at held
        cases held
    · intro generation held
      cases held
      exact ⟨sound.owned.queued generation queued, rfl⟩
    · intro hint held
      cases held
      cases present : owner.trailingActivationObligation with
      | none => rfl
      | some pending =>
          rcases sound.owned.owed pending present with same | ⟨-, other⟩
          · rw [queued] at same
            cases same
          · rw [waiting] at other
            cases other
  · exact sound.inFlight.trans (by rw [waiting]; rfl)

theorem taken_cases (sound : owner.Sound) (held : owner.worker = .taken message) :
    (∃ hint, message = .hint hint ∧ owner.trailingActivationObligation = none) ∨
      ∃ pending, message = .trailingActivation pending.generation ∧
        owner.trailingActivationObligation = some pending ∧ owner.messages = none := by
  cases message with
  | hint hint => exact .inl ⟨hint, rfl, sound.owned.plain hint held⟩
  | trailingActivation generation =>
      obtain ⟨recorded, empty⟩ := sound.owned.taken generation held
      obtain ⟨pending, present, same⟩ := (Option.any_eq_true _ _).mp recorded
      rw [decide_eq_true_eq] at same
      exact .inr ⟨pending, by rw [same], present, empty⟩

theorem notRunning_of_taken (sound : owner.Sound) (held : owner.worker = .taken message) :
    owner.activationPhase.stage ≠ .running := by
  rw [Ne, sound.running, held]
  simp [ReactivationWorker.processing]

theorem admitMessage_hint (sound : owner.Sound) {hint : RunReactivationHint}
    (held : owner.worker = .taken (.hint hint))
    (absent : owner.trailingActivationObligation = none) :
    owner.admitMessage (.hint hint) =
      owner.beginRunning (some hint) (hint = .acceptedFactPublication) := by
  unfold admitMessage
  rw [if_neg (notRunning_of_taken sound held), absent]

theorem admitMessage_trailing (sound : owner.Sound) {pending : TrailingActivationObligation}
    (held : owner.worker = .taken (.trailingActivation pending.generation))
    (present : owner.trailingActivationObligation = some pending) :
    owner.admitMessage (.trailingActivation pending.generation) =
      let cleared := { owner with
        trailingActivationObligation := none, completedReadWakeGeneration := none }
      if pending.kind = .acceptedFactPublication ∧
          owner.retainedWaitGeneration = some pending.generation then
        { cleared with worker := .entering }
      else cleared.beginRunning pending.kind.hint? (pending.kind = .acceptedFactPublication) := by
  unfold admitMessage
  rw [if_neg (notRunning_of_taken sound held), present]
  simp [RunReactivationMessage.generation?]

variable {hint : Option RunReactivationHint}

theorem beginRunning_sound {publicationOwned : Bool}
    (owned : MarkersOwned owner.messages owner.trailingActivationObligation (.admitted hint))
    (idle : owner.activations = 0) (unterminated : owner.controlState ≠ .runTerminated) :
    (owner.beginRunning hint publicationOwned).Sound :=
  ⟨nofun, by simp [beginRunning, ReactivationWorker.processing], owned, idle,
    fun terminated => absurd terminated unterminated⟩

section

variable (sound : owner.Sound)
include sound

theorem admitMessage_sound (held : owner.worker = .taken message) :
    (owner.admitMessage message).Sound := by
  have idle : owner.activations = 0 := by rw [sound.inFlight, held]; rfl
  have unterminated := sound.unterminated held nofun nofun
  rcases taken_cases sound held with ⟨hint, rfl, absent⟩ | ⟨pending, rfl, present, empty⟩
  · rw [admitMessage_hint sound held absent]
    refine beginRunning_sound ?_ idle unterminated
    have owned := sound.owned
    rw [absent] at owned ⊢
    exact ⟨owned.queued, nofun, nofun, nofun⟩
  · rw [admitMessage_trailing sound held present]
    dsimp only
    split_ifs
    · refine ⟨nofun, ?_, ?_, idle, fun terminated => absurd terminated unterminated⟩
      · simpa [ReactivationWorker.processing] using notRunning_of_taken sound held
      · dsimp only
        rw [empty]
        exact .empty nofun
    · refine beginRunning_sound ?_ idle unterminated
      dsimp only
      rw [empty]
      exact .empty nofun

theorem finalizeActivation_sound (finalizing : owner.worker = .finalizing) :
    owner.finalizeActivation.Sound := by
  have running : owner.activationPhase.stage = .running := by
    rw [sound.running, finalizing]
    rfl
  have idle : owner.activations = 0 := by rw [sound.inFlight, finalizing]; rfl
  have untaken : ∀ message, owner.worker ≠ .taken message := by simp [finalizing]
  have unterminated := sound.unterminated finalizing nofun nofun
  unfold finalizeActivation
  rw [if_neg (not_not.mpr running)]
  dsimp only
  split
  next hint absent queued =>
    have recorded : ∀ pending : TrailingActivationObligation,
        Sound { owner with
          activationPhase := ⟨.finalizing, owner.activationPhase.generation⟩
          worker := .entering
          trailingActivationObligation := some pending
          messages := some (.trailingActivation pending.generation) } := fun pending =>
      ⟨nofun, by simp [ReactivationWorker.processing], .recorded pending nofun, idle,
        fun terminated => absurd terminated unterminated⟩
    simpa [recordTrailingActivationInsideGate, absent] using recorded ⟨_, _⟩
  next generation absent queued =>
    have recorded := sound.owned.queued generation queued
    rw [absent] at recorded
    cases recorded
  next =>
    exact sound.move untaken nofun nofun (by simp [ReactivationWorker.processing]) rfl rfl idle
      fun terminated => absurd terminated unterminated

theorem settleFailure_sound (failing : owner.worker = .failing hint) :
    (owner.settleFailure hint).Sound := by
  have running : owner.activationPhase.stage = .running := by
    rw [sound.running, failing]
    rfl
  have idle : owner.activations = 0 := by rw [sound.inFlight, failing]; rfl
  have moved : Sound { owner with worker := .coolingDown } :=
    sound.move (by simp [failing]) nofun nofun (by simpa [ReactivationWorker.processing]) rfl rfl
      idle fun terminated => absurd terminated (sound.unterminated failing nofun nofun)
  unfold settleFailure
  dsimp only
  split_ifs
  · cases present : owner.trailingActivationObligation with
    | none => simpa [present] using moved
    | some pending =>
        refine ⟨moved.alive, moved.running, ?_, moved.inFlight, moved.terminated⟩
        have owned := moved.owned
        dsimp only at owned ⊢
        rw [present] at owned
        exact owned.rekind .ordinary
  · exact moved

theorem decideActivation_sound {cancellationWake : Bool}
    (woken : owner.worker = .woken hint cancellationWake) :
    (owner.decideActivation hint cancellationWake).Sound := by
  have running : owner.activationPhase.stage = .running := by
    rw [sound.running, woken]
    rfl
  have idle : owner.activations = 0 := by rw [sound.inFlight, woken]; rfl
  have untaken : ∀ message, owner.worker ≠ .taken message := by simp [woken]
  have unterminated := sound.unterminated woken nofun nofun
  have begun : Sound { owner with worker := .active hint, activations := owner.activations + 1 } :=
    sound.move untaken nofun nofun (by simpa [ReactivationWorker.processing]) rfl rfl
      (by simp [idle, ReactivationWorker.inFlight])
      fun terminated => absurd terminated unterminated
  unfold decideActivation
  split
  · split_ifs
    · exact begun
    · exact sound.pass woken nofun nofun nofun rfl rfl rfl rfl rfl rfl
        fun terminated => absurd terminated unterminated
  next terminated => exact absurd terminated unterminated
  · exact begun

theorem work_sound : owner.work.Sound := by
  unfold work
  split
  next starting => exact startWorker_sound sound starting
  next entering => exact enterIdle_sound sound entering
  next waiting =>
    split
    next message queued => exact take_sound sound waiting queued
    next => exact sound
  next message held => exact admitMessage_sound sound held
  next hint held =>
    split_ifs
    all_goals
      exact sound.pass held nofun nofun nofun rfl rfl rfl rfl rfl rfl
        fun terminated => absurd terminated (sound.unterminated held nofun nofun)
  next hint held =>
    exact sound.pass held nofun nofun nofun rfl rfl rfl rfl rfl rfl
      fun terminated => absurd terminated (sound.unterminated held nofun nofun)
  next hint cancellationWake held => exact decideActivation_sound sound held
  next held =>
    exact sound.pass held nofun nofun nofun rfl rfl rfl rfl rfl rfl
      fun terminated => absurd terminated (sound.unterminated held nofun nofun)
  next hint failing => exact settleFailure_sound sound failing
  next held =>
    exact sound.pass held nofun nofun nofun rfl rfl rfl rfl rfl rfl
      fun terminated => absurd terminated (sound.unterminated held nofun nofun)
  next finalizing => exact finalizeActivation_sound sound finalizing
  all_goals exact sound

theorem complete_sound (result : ActivationResult) : (owner.complete result).Sound := by
  unfold complete
  split
  next hint held =>
    have running := sound.running
    have idle := sound.inFlight
    rw [held] at running idle
    have ended : owner.activations - 1 = 0 := by rw [idle]; rfl
    have unterminated := sound.unterminated held nofun nofun
    cases result <;> exact sound.move (by simp [held]) nofun nofun running rfl rfl ended
      fun terminated => absurd terminated unterminated
  next => exact sound

end

end Worker

/-! ## Steps -/

theorem reactivationStep_sound {owner : RunReactivationOwner} (action : ReactivationAction)
    (undisturbed : Undisturbed action owner) (sound : owner.Sound) :
    (reactivationStep action owner).2.Sound := by
  cases action with
  | hint hint => exact ⟨sound.alive, sound.running, sound.owned, sound.inFlight, sound.terminated⟩
  | publish publication =>
      cases publication <;> exact ⟨sound.alive, sound.running, sound.owned, sound.inFlight, sound.terminated⟩
  | enter index =>
      have calm := undisturbed.calm nofun
      simp only [reactivationStep] at calm ⊢
      split
      · exact sound
      next arrival waiting =>
        simp only [waiting] at calm
        have frame : ProducerFrame owner _ :=
          (enterGate_frame arrival { owner with arrivals := owner.arrivals.eraseIdx index }).of_eq
            rfl rfl rfl rfl rfl id
        exact frame.sound sound calm
  | attachTracker =>
      exact (offerHintInsideGate_frame _ _ owner).sound sound (undisturbed.calm nofun)
  | control direction =>
      exact (acceptedControl_frame direction owner).sound sound (undisturbed.calm nofun)
  | requestStop => exact ⟨sound.alive, sound.running, sound.owned, sound.inFlight, sound.terminated⟩
  | readControl control =>
      simp only [reactivationStep, readControl]
      split
      next installing =>
        exact sound.pass installing nofun nofun nofun rfl rfl rfl rfl rfl rfl fun _ => .inl rfl
      · exact sound
  | work => exact work_sound sound
  | complete result => exact complete_sound sound result
  | leave =>
      simp only [reactivationStep, leave]
      split_ifs with ending
      · exact sound.pass ending.1 nofun nofun nofun rfl rfl rfl rfl rfl rfl fun _ => .inr rfl
      · exact sound

theorem initialRunReactivationOwner_sound : initialRunReactivationOwner.Sound :=
  ⟨nofun, by decide, .empty nofun, rfl, nofun⟩

/-! ## Wake-ups -/

def StartsActivation (action : ReactivationAction) (owner : RunReactivationOwner) : Prop :=
  (reactivationStep action owner).2.activations = owner.activations + 1

def RetractsTrailing (action : ReactivationAction) (owner : RunReactivationOwner) : Prop :=
  let next := (reactivationStep action owner).2
  owner.trailingActivationObligation.any (·.kind = .acceptedFactPublication) ∧
    next.trailingActivationObligation = none ∧ next.retainedWaitGeneration.isSome ∧
    (next.worker = owner.worker ∨ next.worker = .entering)

/-- The worker consumes its wake-up without an activation while the Run is paused or stopped. -/
def WithholdsActivation (action : ReactivationAction) (owner : RunReactivationOwner) : Prop :=
  action = .work ∧ owner.worker.givesUp owner.stopped owner.controlState

instance (action : ReactivationAction) (owner : RunReactivationOwner) :
    Decidable (StartsActivation action owner) :=
  inferInstanceAs (Decidable (_ = _))

instance (action : ReactivationAction) (owner : RunReactivationOwner) :
    Decidable (RetractsTrailing action owner) :=
  inferInstanceAs (Decidable (_ ∧ _))

instance (action : ReactivationAction) (owner : RunReactivationOwner) :
    Decidable (WithholdsActivation action owner) :=
  inferInstanceAs (Decidable (_ ∧ _))

instance (owner : RunReactivationOwner) : Decidable owner.WakePending :=
  inferInstanceAs (Decidable (_ ∨ _))

def offeredHint? (action : ReactivationAction) (owner : RunReactivationOwner) :
    Option RunReactivationHint :=
  match action with
  | .enter index =>
      match owner.arrivals[index]? with
      | some (.hint hint _) => some hint
      | some (.publication publication phase publicationGeneration) =>
          if publicationOffersHint publication phase publicationGeneration then
            some .acceptedFactPublication
          else none
      | none => none
  | .attachTracker => some .trackerNotification
  | .control .unpause => if owner.controlState = .runPaused then some .operatorWake else none
  | .work =>
      if owner.worker = .starting ∧ owner.messages = none then some .startup else none
  | _ => none

def AcceptsHint (action : ReactivationAction) (owner : RunReactivationOwner) : Prop :=
  (offeredHint? action owner).isSome ∧ owner.stopped = false ∧
    (reactivationStep action owner).2.controlState = .runUnpaused

instance (action : ReactivationAction) (owner : RunReactivationOwner) :
    Decidable (AcceptsHint action owner) :=
  inferInstanceAs (Decidable (_ ∧ _))

section Wakes

variable {owner next : RunReactivationOwner} {action : ReactivationAction}

theorem RunReactivationOwner.WakePending.of_eq (pending : owner.WakePending)
    (messages : next.messages = owner.messages)
    (obligation : next.trailingActivationObligation.isSome =
      owner.trailingActivationObligation.isSome)
    (carries : owner.worker.carriesWake → next.worker.carriesWake) : next.WakePending := by
  unfold WakePending at *
  rw [messages, obligation]
  exact pending.imp_right (Or.imp_right carries)

theorem ProducerFrame.wakePending (frame : ProducerFrame owner next) (pending : owner.WakePending) :
    next.WakePending ∨
      owner.trailingActivationObligation.any (·.kind = .acceptedFactPublication) ∧
        next.trailingActivationObligation = none ∧ next.retainedWaitGeneration.isSome ∧
        (next.worker = owner.worker ∨ next.worker = .entering) := by
  cases frame.effect with
  | unchanged messages obligation =>
      exact .inl (pending.of_eq messages (by rw [obligation]) (by rw [frame.worker]; exact id))
  | queued hint idle messages obligation => exact .inl (.inl (by rw [messages]; rfl))
  | recorded recorded idle messages obligation => exact .inl (.inl (by rw [messages]; rfl))
  | strengthened recorded kind present messages obligation =>
      exact .inl (.inr (.inl (by rw [obligation]; rfl)))
  | retracted recorded present publication messages obligation retained =>
      exact .inr ⟨by simp [present, publication], obligation, retained, .inl frame.worker⟩

theorem work_wakePending (sound : owner.Sound) (pending : owner.WakePending) :
    owner.work.WakePending ∨ StartsActivation .work owner ∨ RetractsTrailing .work owner ∨
      WithholdsActivation .work owner := by
  unfold StartsActivation RetractsTrailing WithholdsActivation reactivationStep work
  split
  next starting =>
    left
    unfold startWorker
    split
    · exact pending.of_eq rfl rfl (by rw [starting]; exact id)
    · exact pending.of_eq rfl rfl (by rw [starting]; exact id)
    · split_ifs
      · exact pending.of_eq rfl rfl (by rw [starting]; exact id)
      · exact .inl rfl
  next entering =>
    left
    unfold enterIdle
    dsimp only
    split_ifs
    · exact pending.of_eq rfl rfl (by rw [entering]; exact id)
    · exact pending.of_eq rfl rfl (by rw [entering]; exact id)
  next waiting =>
    left
    split
    · exact .inr (.inr rfl)
    · exact pending
  next message held =>
    rcases taken_cases sound held with ⟨hint, rfl, absent⟩ | ⟨obligation, rfl, present, -⟩
    · rw [admitMessage_hint sound held absent]
      exact .inl (.inr (.inr rfl))
    · rw [admitMessage_trailing sound held present]
      dsimp only
      split_ifs with retained
      · exact .inr (.inr (.inl ⟨by simp [present, retained.1], rfl, by simp [retained.2],
          .inr rfl⟩))
      · exact .inl (.inr (.inr rfl))
  next hint held =>
    split_ifs with stopped
    · exact .inr (.inr (.inr ⟨rfl, by simp [held, ReactivationWorker.givesUp, stopped]⟩))
    · exact .inl (.inr (.inr rfl))
  next hint held => exact .inl (.inr (.inr rfl))
  next hint cancellationWake held =>
    unfold decideActivation
    split
    next paused =>
      split_ifs with wake
      · exact .inr (.inl rfl)
      · exact .inr (.inr (.inr ⟨rfl, by simp [held, ReactivationWorker.givesUp, paused, wake]⟩))
    next terminated => exact absurd terminated (sound.unterminated held nofun nofun)
    next => exact .inr (.inl rfl)
  next held => exact .inl (pending.of_eq rfl rfl (by rw [held]; exact id))
  next hint held =>
    left
    unfold settleFailure
    dsimp only
    split_ifs
    · exact pending.of_eq rfl (by simp) (by rw [held]; exact id)
    · exact pending.of_eq rfl rfl (by rw [held]; exact id)
  next held => exact .inl (pending.of_eq rfl rfl (by rw [held]; exact id))
  next finalizing =>
    left
    have running : owner.activationPhase.stage = .running := by
      rw [sound.running, finalizing]
      rfl
    unfold finalizeActivation
    rw [if_neg (not_not.mpr running)]
    dsimp only
    split
    next absent queued =>
      simp only [recordTrailingActivationInsideGate, absent]
      exact .inl rfl
    next generation absent queued =>
      exact .inl (by simp [die, queued])
    next => exact pending.of_eq rfl rfl (by rw [finalizing]; exact id)
  all_goals exact .inl pending

/-- A wake-up stays pending until an activation starts, a retained wait retracts it, or the worker
consumes it while the Run is paused or stopped. -/
theorem reactivationStep_wakePending (action : ReactivationAction) (owner : RunReactivationOwner)
    (sound : owner.Sound) (pending : owner.WakePending) :
    (reactivationStep action owner).2.WakePending ∨ StartsActivation action owner ∨
      RetractsTrailing action owner ∨ WithholdsActivation action owner := by
  cases action with
  | hint hint => exact .inl pending
  | publish publication => cases publication <;> exact .inl pending
  | enter index =>
      cases waiting : owner.arrivals[index]? with
      | none => exact .inl (by simpa only [reactivationStep, waiting] using pending)
      | some arrival =>
          have frame : ProducerFrame owner (reactivationStep (.enter index) owner).2 := by
            simp only [reactivationStep, waiting]
            exact (enterGate_frame arrival _).of_eq rfl rfl rfl rfl rfl id
          exact (frame.wakePending pending).imp_right fun retracted => .inr (.inl retracted)
  | attachTracker =>
      exact ((offerHintInsideGate_frame _ _ owner).wakePending pending).imp_right
        fun retracted => .inr (.inl retracted)
  | control direction =>
      exact ((acceptedControl_frame direction owner).wakePending pending).imp_right
        fun retracted => .inr (.inl retracted)
  | requestStop => exact .inl pending
  | readControl control =>
      left
      simp only [reactivationStep, readControl]
      split
      next installing => exact pending.of_eq rfl rfl (by rw [installing]; exact id)
      · exact pending
  | work => exact work_wakePending sound pending
  | complete result =>
      left
      simp only [reactivationStep, complete]
      split
      next held => exact pending.of_eq rfl rfl (by rw [held]; nofun)
      · exact pending
  | leave =>
      left
      simp only [reactivationStep, leave]
      split_ifs with ending
      · exact pending.of_eq rfl rfl (by rw [ending.1]; exact id)
      · exact pending

theorem offerHintInsideGate_wakePending (hint : RunReactivationHint)
    (arrivalPhase : Option ActivationPhase) (running : owner.stopped = false)
    (unpaused : owner.controlState = .runUnpaused) :
    (owner.offerHintInsideGate hint arrivalPhase).WakePending := by
  unfold offerHintInsideGate
  rw [running]
  dsimp only
  simp only [Bool.false_eq_true, if_false, unpaused, ne_eq, not_true_eq_false, false_and]
  split_ifs
  · unfold recordTrailingActivationInsideGate
    dsimp only
    split
    next present =>
      split_ifs
      · exact .inr (.inl rfl)
      · exact .inr (.inl (by simp [present]))
    next => exact .inl rfl
  · exact .inl rfl

@[simp]
theorem offerHintInsideGate_controlState (hint : RunReactivationHint)
    (arrivalPhase : Option ActivationPhase) (owner : RunReactivationOwner) :
    (owner.offerHintInsideGate hint arrivalPhase).controlState = owner.controlState := by
  unfold offerHintInsideGate recordTrailingActivationInsideGate
  dsimp only
  split_ifs
  · rfl
  · rfl
  · split
    · split_ifs <;> rfl
    · rfl
  · rfl

theorem AcceptsHint.wakePending (accepted : AcceptsHint action owner) :
    (reactivationStep action owner).2.WakePending := by
  obtain ⟨offered, running, unpaused⟩ := accepted
  cases action with
  | enter index =>
      simp only [offeredHint?, reactivationStep] at offered unpaused ⊢
      cases waiting : owner.arrivals[index]? with
      | none => simp [waiting] at offered
      | some arrival =>
          simp only [waiting] at offered unpaused ⊢
          cases arrival with
          | hint hint phase =>
              simp only [enterGate, offerHintInsideGate_controlState] at unpaused
              exact offerHintInsideGate_wakePending hint (some phase) running unpaused
          | publication publication phase publicationGeneration =>
              dsimp only at offered
              split_ifs at offered with offers
              · simp only [enterGate, offers, if_true, publishProgress,
                  offerHintInsideGate_controlState] at unpaused ⊢
                exact offerHintInsideGate_wakePending _ (some phase) running unpaused
              · cases offered
  | attachTracker =>
      simp only [reactivationStep, offerHintInsideGate_controlState] at unpaused
      exact offerHintInsideGate_wakePending .trackerNotification none running unpaused
  | control direction =>
      cases direction with
      | pause => cases offered
      | unpause =>
          simp only [offeredHint?] at offered
          split_ifs at offered with paused
          · simp only [reactivationStep, acceptedControl, running, Bool.false_eq_true, if_false,
              paused]
            exact offerHintInsideGate_wakePending .operatorWake none rfl rfl
          · cases offered
  | work =>
      simp only [offeredHint?] at offered
      split_ifs at offered with starting
      · obtain ⟨stands, empty⟩ := starting
        simp only [reactivationStep, work, stands, startWorker] at unpaused ⊢
        split at unpaused
        · next terminated =>
            rw [show owner.controlState = .runTerminated from terminated] at unpaused
            cases unpaused
        · next paused =>
            rw [show owner.controlState = .runPaused from paused] at unpaused
            cases unpaused
        · next started =>
            simp only [started, running, empty, Option.isSome_none, Bool.false_eq_true, or_self,
              if_false]
            exact .inl rfl
      · cases offered
  | hint hint => cases offered
  | publish publication => cases offered
  | requestStop => cases offered
  | readControl control => cases offered
  | complete result => cases offered
  | leave => cases offered

end Wakes

/-! ## Every run -/

/-- In every run in which nobody records or retracts the trailing obligation between the worker's
take and its admission, the worker never dies, at most one activation is in flight, and every hint
accepted while the Run is neither paused nor stopped is still pending, or was followed by the start
of an activation, by its retraction, or by a pause or stop under which the worker consumed it. -/
theorem reactivation_keeps_wakes {actions : List ReactivationAction}
    (calm : Machine.Guarded reactivationStep Undisturbed initialRunReactivationOwner actions) :
    (∀ defect, (reactivationAfter actions).worker ≠ .defect defect) ∧
      (reactivationAfter actions).activations ≤ 1 ∧
      ∀ before action later, actions = before ++ action :: later →
        AcceptsHint action (reactivationAfter before) →
        (reactivationAfter actions).WakePending ∨
          Machine.Occurs reactivationStep
            (fun action owner => StartsActivation action owner ∨ RetractsTrailing action owner ∨
              WithholdsActivation action owner)
            (reactivationAfter (before ++ [action])) later := by
  have preserved : ∀ action owner, Undisturbed action owner → owner.Sound →
      (reactivationStep action owner).2.Sound := fun action _ => reactivationStep_sound action
  have sound : (reactivationAfter actions).Sound :=
    Machine.Guarded.preserves preserved initialRunReactivationOwner_sound calm
  refine ⟨sound.alive, ?_, ?_⟩
  · rw [sound.inFlight]
    cases (reactivationAfter actions).worker <;> simp [ReactivationWorker.inFlight]
  · rintro before action later rfl accepted
    rw [← List.singleton_append, ← List.append_assoc] at calm ⊢
    obtain ⟨first, second⟩ := Machine.guarded_append.mp calm
    have accepting : (reactivationAfter (before ++ [action])).Sound :=
      Machine.Guarded.preserves preserved initialRunReactivationOwner_sound first
    have pending : (reactivationAfter (before ++ [action])).WakePending := by
      unfold reactivationAfter
      rw [Machine.run_concat]
      exact accepted.wakePending
    have followed := Machine.Guarded.holds_or_occurs preserved reactivationStep_wakePending
      accepting pending second
    unfold reactivationAfter at followed ⊢
    rwa [Machine.run_append]

-- A retained wait that retracts the obligation whose marker the worker has just taken kills it.
example : (reactivationAfter [.readControl .runUnpaused, .work, .work, .work, .work, .work, .work,
    .work, .publish .workflowProgress, .enter 0, .complete .runContinues, .work, .work,
    .publish .retainedWait, .work, .enter 0, .work]).worker =
      .defect .unrecordedTrailingObligation := by
  decide

namespace PausedReactivation

def notified : List ReactivationAction :=
  [.readControl .runUnpaused, .hint .trackerNotification]

def paused : List ReactivationAction :=
  [.control .pause, .work, .work, .work, .work, .work, .work, .work, .work, .work]

def served : List ReactivationAction :=
  [.work, .work, .work, .work, .work, .work, .work, .complete .runContinues, .work, .work]

/-- A notification that the worker takes at once is followed by an activation. -/
theorem notification_is_served :
    Machine.Occurs reactivationStep
      (fun action owner => StartsActivation action owner ∨ RetractsTrailing action owner ∨
        WithholdsActivation action owner)
      (reactivationAfter (notified ++ [.enter 0])) served := by
  have calm : Machine.Guarded reactivationStep Undisturbed initialRunReactivationOwner
      (notified ++ .enter 0 :: served) := by decide
  have kept := (reactivation_keeps_wakes calm).2.2 notified (.enter 0) served rfl (by decide)
  exact kept.resolve_left (by decide)

/-- A hint accepted before a pause is consumed without an activation and is not retracted. -/
theorem paused_notification_is_dropped :
    ¬ ∀ actions before action later, actions = before ++ action :: later →
      AcceptsHint action (reactivationAfter before) →
      (reactivationAfter actions).WakePending ∨
        Machine.Occurs reactivationStep
          (fun action owner => StartsActivation action owner ∨ RetractsTrailing action owner)
          (reactivationAfter (before ++ [action])) later := by
  intro keeps
  have kept := keeps _ notified (.enter 0) paused rfl (by decide)
  revert kept
  decide

end PausedReactivation

end Dalph
