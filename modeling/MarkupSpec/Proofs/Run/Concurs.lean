import MarkupSpec.Proofs.Run.Ensures

/-!
# Two runs that end alike

`Concurs first second start start' done` compares a run of one step with a run of another
one: either both end well, and their results and states are related by `done`, or both fail
with failures of one kind (`FailureKind`).  It is what `Ensures` is for a single run.

What is ensured of one of the two runs may be added to what is known of both.
-/

namespace MarkupSpec

/-! ## Kinds of failures -/

/-- The kinds of failures that a caller can tell apart. -/
inductive FailureKind where
  | spec (kind : CauseKind)
  | hierarchy
  | notFound
  | notSupported
  | badNamespace
  | noOperation
  | badValue
  | wrongType
  | uncountable
  | noRoom
  | unbound
  | exhausted
deriving DecidableEq, Repr

/-- The kind of an edit that fails. -/
def EditError.kind : EditError → FailureKind
  | .cannotBeChild .. | .cannotHaveChildren _ | .secondElement => .hierarchy
  | .notAChild | .badAttribute .unkeyed => .notFound
  | .documentNotCopied | .doctypeNotCopied => .notSupported
  | .badAttribute .reservedQualifier => .badNamespace
  | .nameless => .wrongType
  | .noSuchOperation => .noOperation

/-- The kind of a failure. -/
def Failure.kind : Failure → FailureKind
  | .spec error => .spec error.cause.kind
  | .edit cause => cause.kind
  | .badValue _ => .badValue
  | .wrongType => .wrongType
  | .uncountable => .uncountable
  | .noRoom => .noRoom
  | .unbound _ => .unbound
  | .exhausted => .exhausted

/-- Failures that have a kind. -/
class Kinded (ε : Type) where
  kind : ε → FailureKind

instance : Kinded EditError := ⟨EditError.kind⟩

instance : Kinded Failure := ⟨Failure.kind⟩

/-! ## Two runs -/

/-- Nothing is said of a result. -/
abbrev Anything {α : Type} : α → Prop := fun _ => True

section Rules

variable {ε σ α α' β β' : Type} [Kinded ε]

/-- Both runs end well, and `done` holds, or both fail with failures of one kind. -/
def Concurs (first : EStateM ε σ α) (second : EStateM ε σ α') (start start' : σ)
    (done : α → σ → α' → σ → Prop) : Prop :=
  match first start, second start' with
  | .ok result state, .ok result' state' => done result state result' state'
  | .error cause _, .error cause' _ => Kinded.kind cause = Kinded.kind cause'
  | _, _ => False

variable {first : EStateM ε σ α} {second : EStateM ε σ α'} {start start' : σ}
  {done done' : α → σ → α' → σ → Prop}

/-- What is concluded may depend on how the runs end. -/
theorem Concurs.mono (concurs : Concurs first second start start' done)
    (onDone : ∀ result state result' state', first start = .ok result state →
      second start' = .ok result' state' → done result state result' state' →
      done' result state result' state') : Concurs first second start start' done' := by
  unfold Concurs at concurs ⊢
  cases run : first start with
  | ok result state =>
      cases run' : second start' with
      | ok result' state' =>
          rw [run, run'] at concurs
          exact onDone result state result' state' run run' concurs
      | error => simp [run, run'] at concurs
  | error cause state =>
      cases run' : second start' with
      | ok => simp [run, run'] at concurs
      | error cause' state' =>
          rw [run, run'] at concurs
          exact concurs

/-- What is concluded of two runs that end well. -/
theorem Concurs.of_ok (concurs : Concurs first second start start' done) {result : α} {state : σ}
    {result' : α'} {state' : σ} (run : first start = .ok result state)
    (run' : second start' = .ok result' state') : done result state result' state' := by
  rw [Concurs, run, run'] at concurs
  exact concurs

/-- Two runs that both end well concur. -/
theorem Concurs.of_ensures {onFirst : α → σ → Prop} {onSecond : α' → σ → Prop}
    (ensured : Ensures first start onFirst fun _ _ => False)
    (ensured' : Ensures second start' onSecond fun _ _ => False) :
    Concurs first second start start' fun result state result' state' =>
      onFirst result state ∧ onSecond result' state' := by
  unfold Ensures at ensured ensured'
  unfold Concurs
  cases run : first start with
  | ok result state =>
      cases run' : second start' with
      | ok result' state' =>
          rw [run] at ensured
          rw [run'] at ensured'
          exact ⟨ensured, ensured'⟩
      | error => simp [run'] at ensured'
  | error => simp [run] at ensured

/-- Two runs that both fail for causes of one kind concur. -/
theorem Concurs.of_failures {kind : FailureKind}
    (ensured : Ensures first start (fun _ _ => False) fun cause _ => Kinded.kind cause = kind)
    (ensured' : Ensures second start' (fun _ _ => False) fun cause _ => Kinded.kind cause = kind) :
    Concurs first second start start' done := by
  unfold Ensures at ensured ensured'
  unfold Concurs
  cases run : first start with
  | ok => simp [run] at ensured
  | error cause state =>
      cases run' : second start' with
      | ok => simp [run'] at ensured'
      | error cause' state' =>
          rw [run] at ensured
          rw [run'] at ensured'
          exact ensured.trans ensured'.symm

theorem Concurs.bind {next : α → EStateM ε σ β} {next' : α' → EStateM ε σ β'}
    {last : β → σ → β' → σ → Prop} (concurs : Concurs first second start start' done)
    (onNext : ∀ result state result' state', first start = .ok result state →
      second start' = .ok result' state' → done result state result' state' →
      Concurs (next result) (next' result') state state' last) :
    Concurs (first >>= next) (second >>= next') start start' last := by
  unfold Concurs at concurs
  unfold Concurs
  simp only [Bind.bind, EStateM.bind]
  cases run : first start with
  | ok result state =>
      cases run' : second start' with
      | ok result' state' =>
          rw [run, run'] at concurs
          exact onNext result state result' state' run run' concurs
      | error => simp [run, run'] at concurs
  | error cause state =>
      cases run' : second start' with
      | ok => simp [run, run'] at concurs
      | error cause' state' =>
          rw [run, run'] at concurs
          exact concurs

theorem concurs_pure {result : α} {result' : α'} (holds : done result start result' start') :
    Concurs (pure result : EStateM ε σ α) (pure result' : EStateM ε σ α') start start' done := holds

theorem concurs_throw {cause cause' : ε} (same : Kinded.kind cause = Kinded.kind cause') :
    Concurs (throw cause : EStateM ε σ α) (throw cause' : EStateM ε σ α') start start' done := same

end Rules

/-- Edits of two worlds concur as they do on their forests. -/
theorem Concurs.edit {α α' : Type} {step : Edit α} {step' : Edit α'} {world world' : World}
    {done : α → World → α' → World → Prop}
    (concurs : Concurs step step' world.forest world'.forest fun result forest result' forest' =>
      done result { world with forest } result' { world' with forest := forest' }) :
    Concurs (Build.edit step) (Build.edit step') world world' done := by
  unfold Concurs at concurs
  unfold Concurs Build.edit
  cases run : step world.forest with
  | ok result forest =>
      cases run' : step' world'.forest with
      | ok result' forest' =>
          rw [run, run'] at concurs
          exact concurs
      | error => simp [run, run'] at concurs
  | error cause forest =>
      cases run' : step' world'.forest with
      | ok => simp [run, run'] at concurs
      | error cause' forest' =>
          rw [run, run'] at concurs
          exact concurs

end MarkupSpec
